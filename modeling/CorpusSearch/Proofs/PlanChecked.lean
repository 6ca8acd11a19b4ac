import CorpusSearch.Proofs.CallArguments
import CorpusSearch.Proofs.IndexFields
import CorpusSearch.Proofs.PlanLookups

/-!
What planning has made sure of when it succeeds. Index field names split, and expressions for relation types and
attributes compile; expressions for tokens compile in the form in which they are written, before case and
diacritics are taken off, and the names of markup are not looked at. Main statement: the hits of a plan can be
found in a document exactly if the expressions of the last two kinds compile as they stand in the plan.
-/

set_option autoImplicit false

namespace CorpusSearch

open Result (Succeeds)
open Planning (Yields)

/-- What planning makes sure of about a look-up. -/
def PlanLookup.Checked : PlanLookup → Prop
  | field name => Succeeds (Document.readIndexField name)
  | tokenExpression text => ∃ written s,
    Succeeds (compileExpression written) ∧ text = Text.desensitizeExpression written s
  | tagType text => ∃ name, text = FieldName.fullType FieldName.tagClass name
  | attributeExpression text | relationType text => Succeeds (compileExpression text)

def Plan.Checked (plan : Plan) : Prop := ∀ l ∈ plan.lookups, l.Checked

def Argument.Checked (a : Argument Plan) : Prop := ∀ plan, a.pattern? = some plan → plan.Checked

/-! ### Expressions -/

private theorem Regex.compileWhole_of_check {depth size : Nat} {expression : String}
    (hsize : size ≤ defaultSizeLimit) (h : check depth size expression = .ok ()) :
    ∃ core, compileWhole expression = .ok core := by
  have hcompile : ∃ core, compileWithin size expression = .ok core := by
    rw [check] at h
    cases hread : Expr.readWithin depth expression with
    | error e => rw [hread] at h; cases h
    | ok core =>
        cases hcompile : compileWithin size expression with
        | error e => rw [hread, hcompile] at h; cases h
        | ok core => exact ⟨core, rfl⟩
  obtain ⟨core, hcore⟩ := hcompile
  refine ⟨core, ?_⟩
  rw [compileWithin] at hcore
  rw [compileWhole, compileWithin]
  cases hread : Expr.readWithin compileNestLimit (Text.wholeMatch expression) with
  | error e => rw [hread] at hcore; cases hcore
  | ok read =>
      rw [hread] at hcore
      dsimp only at hcore ⊢
      split at hcore
      · cases hcore
      · rename_i hle
        rw [if_neg (by omega), hcore]

theorem compileExpression_eq_ok {expression : String} {core : Regex.Core} :
    compileExpression expression = .ok core ↔ Regex.compileWhole expression = .ok core := by
  rw [compileExpression]
  cases Regex.compileWhole expression <;> simp

theorem succeeds_compileExpression_iff {expression : String} :
    Succeeds (compileExpression expression) ↔ ∃ core, Regex.compileWhole expression = .ok core :=
  exists_congr fun _ => compileExpression_eq_ok

namespace Planner

variable {p : Planner} {c : Context}

private theorem succeeds_of_checkExpression (hsize : p.limits.expressionSize ≤ Regex.defaultSizeLimit)
    {expression : String} (h : p.checkExpression expression = .ok ()) :
    Succeeds (compileExpression expression) := by
  rw [succeeds_compileExpression_iff]
  unfold checkExpression at h
  split at h
  · rename_i hcheck
    exact Regex.compileWhole_of_check hsize hcheck
  · simp at h
  · simp at h
  · simp at h

end Planner

theorem succeeds_of_checkRelationType {type : String} (h : checkRelationType type = .ok ()) :
    Succeeds (compileExpression type) := by
  unfold checkRelationType at h
  split at h
  · rename_i core hcore
    exact ⟨core, hcore⟩
  · simp at h

theorem Context.usable_relationsField {c : Context} {name : String} (h : c.relationsField = .ok name) :
    Succeeds (Document.readIndexField name) := by
  obtain ⟨_, _, h⟩ := Result.bind_eq_ok.1 h
  exact usable_indexField h

/-! ### Parts of plans -/

namespace Plan

private theorem checked_of_subset {plan : Plan} {plans : List Plan} (h : ∀ q ∈ plans, q.Checked)
    (hsub : ∀ l ∈ plan.lookups, ∃ q ∈ plans, l ∈ q.lookups) : plan.Checked := by
  intro l hl
  obtain ⟨q, hq, hlq⟩ := hsub l hl
  exact h q hq l hlq

private theorem mem_lookupsOf {l : PlanLookup} {plans : List Plan} :
    l ∈ lookupsOf plans ↔ ∃ q ∈ plans, l ∈ q.lookups := by
  induction plans with
  | nil => simp [lookupsOf]
  | cons plan plans ih => simp [lookupsOf, ih]

private theorem mem_targetLookups {l : PlanLookup} {targets : List (AlignmentHead × Plan)} :
    l ∈ targetLookups targets ↔ ∃ t ∈ targets,
      l = .field t.1.field ∨ l = .relationType t.1.type ∨ l ∈ t.2.lookups := by
  induction targets with
  | nil => simp [targetLookups]
  | cons t targets ih => simp [targetLookups, ih, or_assoc]

private theorem checked_join {connective : PlanConnective} {clauses : List Plan}
    (h : ∀ q ∈ clauses, q.Checked) : (join connective clauses).Checked :=
  checked_of_subset h fun _ hl => mem_lookupsOf.1 hl

private theorem checked_modify {modifier : PlanModifier} {clause : Plan} (hm : modifier.lookups = [])
    (h : clause.Checked) : (modify modifier clause).Checked := by
  rw [Checked, lookups, hm]
  exact h

private theorem checked_positionFilter {test : PositionTest} {producer filter : Plan}
    (hproducer : producer.Checked) (hfilter : filter.Checked) :
    (positionFilter test producer filter).Checked :=
  List.forall_mem_append.2 ⟨hproducer, hfilter⟩

private theorem checked_anyNGram (field : String) : (anyNGram field).Checked := by
  simp [Checked, anyNGram, lookups]

private theorem checked_relations {query : RelationQuery} (hfield : Succeeds (Document.readIndexField query.field))
    (htype : Succeeds (compileExpression query.type)) : (relations query).Checked := by
  simp [Checked, lookups, PlanLookup.Checked, hfield, htype]

private theorem checked_withoutRelation {parent relation : Plan} (hparent : parent.Checked)
    (hrelation : relation.Checked) : (withoutRelation parent relation).Checked :=
  checked_positionFilter hparent hrelation

private theorem checked_foldl_withoutRelation {relations : List Plan} :
    ∀ {parent : Plan}, parent.Checked → (∀ q ∈ relations, q.Checked) →
      (relations.foldl withoutRelation parent).Checked := by
  induction relations with
  | nil => exact fun hparent _ => hparent
  | cons relation relations ih =>
      intro parent hparent hrelations
      obtain ⟨hrelation, hrest⟩ := List.forall_mem_cons.1 hrelations
      exact ih (checked_withoutRelation hparent hrelation) hrest

private theorem checked_of_restrictingPlan? {plan q : Plan} (h : plan.Checked) (hq : restrictingPlan? plan = some q) :
    q.Checked := by
  unfold restrictingPlan? at hq
  split at hq
  · simp at hq
  · obtain rfl := Option.some.inj hq
    exact h

private theorem checked_relationMatchPlan {field : String} {clauses : List Plan} (h : ∀ q ∈ clauses, q.Checked) :
    (relationMatchPlan field clauses).Checked := by
  have hkept : ∀ q ∈ clauses.filterMap restrictingPlan?, q.Checked := by
    intro q hq
    obtain ⟨clause, hclause, hq⟩ := List.mem_filterMap.1 hq
    exact checked_of_restrictingPlan? (h clause hclause) hq
  unfold relationMatchPlan
  split
  · exact checked_anyNGram field
  · rename_i clause hclauses
    exact hkept clause (by simp [hclauses])
  · exact checked_join hkept

end Plan

/-! ### Relations and functions -/

private theorem yields_relationPlan (c : Context) (fullType : String) {target : Option Plan}
    (htarget : ∀ plan, target = some plan → plan.Checked) (direction : RelationDirection)
    (mode : SpanMode) (capture : Option String) :
    Yields (relationPlan c fullType target direction mode capture) Plan.Checked := by
  unfold relationPlan
  refine (Yields.liftM _).bind fun _ htype => ?_
  refine (Yields.liftM _).bind fun field hfield => ?_
  refine (Yields.trivial _).bind fun name _ => ?_
  have hrelations : ∀ mode, (Plan.relations ⟨field, fullType, direction, mode, name⟩).Checked := fun _ =>
    Plan.checked_relations (Context.usable_relationsField hfield) (succeeds_of_checkRelationType htype)
  dsimp only
  split
  · exact .pure (hrelations mode)
  · rename_i plan
    have hjoin : (Plan.join .relationAnd
        [.relations ⟨field, fullType, direction, .target, name⟩, plan]).Checked := by
      refine Plan.checked_join fun q hq => ?_
      rcases List.mem_pair.1 hq with rfl | rfl
      · exact hrelations .target
      · exact htarget _ rfl
    split
    · exact .pure hjoin
    · exact .pure (Plan.checked_modify rfl hjoin)

/-- A function builds a plan whose look-ups are checked from arguments whose look-ups are. -/
def QueryFunction.KeepsChecks (f : QueryFunction) : Prop :=
  ∀ c arguments, (∀ a ∈ arguments, a.Checked) → Yields (f.build c arguments) Plan.Checked

namespace RelationFunction

variable {arguments : List (Argument Plan)}

private theorem yields_planAt (h : ∀ a ∈ arguments, a.Checked) (index : Nat) :
    Yields (planAt arguments index) Plan.Checked := by
  unfold planAt
  split
  · rename_i plan hplan
    exact .pure (h _ (List.mem_of_getElem? hplan) plan rfl)
  · exact .fail _

private theorem keepsChecks_rel : rel.KeepsChecks := by
  intro c arguments h
  refine (Yields.trivial _).bind fun type _ => ?_
  refine (yields_planAt h 1).bind fun target htarget => ?_
  refine (Yields.trivial _).bind fun modeCode _ => ?_
  refine (Yields.trivial _).bind fun mode _ => ?_
  refine (Yields.trivial _).bind fun capture _ => ?_
  refine (Yields.trivial _).bind fun directionCode _ => ?_
  refine (Yields.trivial _).bind fun direction _ => ?_
  exact yields_relationPlan _ _ (fun _ hplan => Plan.checked_of_restrictingPlan? htarget hplan) _ _ _

private theorem keepsChecks_rmatch : rmatch.KeepsChecks := by
  intro c arguments h
  refine (Yields.mapM fun index _ => yields_planAt h index).bind fun clauses hclauses => ?_
  exact .pure (Plan.checked_relationMatchPlan hclauses)

private theorem keepsChecks_rspan : rspan.KeepsChecks := by
  intro c arguments h
  refine (yields_planAt h 0).bind fun clause hclause => ?_
  refine (Yields.trivial _).bind fun code _ => ?_
  refine (Yields.trivial _).bind fun mode _ => ?_
  exact .pure (Plan.checked_modify rfl hclause)

private theorem yields_captureWithin (c : Context) {clause : Plan} (h : clause.Checked) (within : Option String)
    (capture relationType : String) :
    Yields (captureWithin c clause within capture relationType) Plan.Checked := by
  refine (Yields.liftM _).bind fun _ htype => ?_
  refine (Yields.liftM _).bind fun field hfield => ?_
  refine (Yields.trivial _).bind fun name _ => ?_
  refine .pure ?_
  have hquery : Succeeds (Document.readIndexField field) := Context.usable_relationsField hfield
  simp only [Plan.Checked, Plan.lookups, PlanModifier.lookups, List.forall_mem_append,
    List.forall_mem_cons, PlanLookup.Checked]
  exact ⟨⟨hquery, succeeds_of_checkRelationType htype, by simp⟩, h⟩

private theorem keepsChecks_rcapture : rcapture.KeepsChecks := by
  intro c arguments h
  refine (yields_planAt h 0).bind fun clause hclause => ?_
  refine (Yields.trivial _).bind fun capture _ => ?_
  refine (Yields.trivial _).bind fun type _ => ?_
  exact yields_captureWithin c hclause _ _ _

private theorem keepsChecks_rcapture2 : rcapture2.KeepsChecks := by
  intro c arguments h
  refine (yields_planAt h 0).bind fun clause hclause => ?_
  refine (Yields.trivial _).bind fun within _ => ?_
  refine (Yields.trivial _).bind fun capture _ => ?_
  refine (Yields.trivial _).bind fun type _ => ?_
  exact yields_captureWithin c hclause _ _ _

end RelationFunction

private theorem Extensions.keepsChecks_standard {name : String} {f : QueryFunction}
    (h : standard.functions.get? name = some f) : f.KeepsChecks :=
  standard_cases RelationFunction.keepsChecks_rel RelationFunction.keepsChecks_rmatch
    RelationFunction.keepsChecks_rspan RelationFunction.keepsChecks_rcapture RelationFunction.keepsChecks_rcapture2 h

private theorem SearchScope.succeeds_hits_iff_of_checked {scope : SearchScope} {plan : Plan} (h : plan.Checked) :
    Succeeds (scope.hits plan) ↔
      (∀ text, .tokenExpression text ∈ plan.lookups → Succeeds (compileExpression text)) ∧
        ∀ text, .tagType text ∈ plan.lookups → Succeeds (compileExpression text) := by
  have hattributes : AttributesUsable plan.lookups := fun _ ht => h _ ht
  rw [succeeds_hits_iff plan hattributes]
  constructor
  · intro husable
    exact ⟨fun _ ht => husable _ ht, fun _ ht => husable _ ht⟩
  · rintro ⟨htokens, htypes⟩ l hl
    cases l with
    | tokenExpression text => exact htokens text hl
    | tagType text => exact htypes text hl
    | field name => exact h _ hl
    | attributeExpression text => exact h _ hl
    | relationType text => exact h _ hl

/-! ### Nodes -/

namespace QueryFunction

variable {f : QueryFunction} {c : Context}

private theorem checked_of_defaultAt {index : Nat} {a : Argument Plan} (h : f.defaultAt c index = .ok a) :
    a.Checked := by
  unfold defaultAt at h
  split at h
  · rename_i d _
    obtain rfl := Except.ok.inj h
    cases d with
    | anyNGram =>
        intro plan hplan
        obtain rfl := Option.some.inj hplan
        exact Plan.checked_anyNGram c.fieldName
    | text value => exact fun plan hplan => nomatch hplan
    | number value => exact fun plan hplan => nomatch hplan
  · simp at h

private theorem checked_of_completeArguments {given : List (Option (Argument Plan))}
    {complete : List (Argument Plan)} (hgiven : ∀ a, some a ∈ given → a.Checked)
    (h : f.completeArguments c given = .ok complete) : ∀ a ∈ complete, a.Checked := by
  intro a ha
  rcases given_or_default_of_completeArguments h ha with ha | ⟨i, hdefault⟩
  · exact hgiven a ha
  · exact checked_of_defaultAt hdefault

end QueryFunction

theorem ArgumentsGiven.checked {f : QueryFunction} {index : Nat} {arguments : List (Argument Pattern)}
    {given : List (Option (Argument Plan))} (h : ArgumentsGiven f (fun _ q => q.Checked) index arguments given)
    {a : Argument Plan} (ha : some a ∈ given) : a.Checked := by
  induction h with
  | nil index => cases ha
  | cons _ hfirst _ ih =>
      rcases List.mem_cons.1 ha with rfl | ha
      · intro q hq
        cases hfirst with
        | pattern hx hchecked =>
            obtain rfl := Option.some.inj hq
            exact hchecked
        | _ => cases hq
      · exact ih ha

namespace Planner

variable {p : Planner} {c : Context}

private theorem checked_of_planTerm {test : TokenTest} {plan : Plan} (h : planTerm c test = .ok plan) :
    plan.Checked := by
  obtain ⟨d, _, h⟩ := Result.bind_eq_ok.1 h
  obtain ⟨field, hfield, h⟩ := Result.bind_eq_ok.1 h
  obtain ⟨value, _, h⟩ := Result.bind_eq_ok.1 h
  obtain rfl := Except.ok.inj h
  simpa [Plan.Checked, Plan.lookups, PlanLookup.Checked] using Context.usable_indexField hfield

private theorem checked_of_planConstrained {clause plan : Plan} {filter : Filter}
    (h : p.planConstrained c clause filter = .ok plan) (hclause : clause.Checked) : plan.Checked := by
  rw [planConstrained] at h
  split at h
  · simp at h
  · obtain ⟨reading, _, h⟩ := Result.bind_eq_ok.1 h
    obtain rfl := Except.ok.inj h
    exact Plan.checked_modify rfl hclause

section Limits

variable (hsize : p.limits.expressionSize ≤ Regex.defaultSizeLimit)

include hsize

private theorem checked_of_planRegex {test : TokenTest} {plan : Plan} (h : p.planRegex c test = .ok plan) :
    plan.Checked := by
  obtain ⟨d, _, h⟩ := Result.bind_eq_ok.1 h
  obtain ⟨e, _, h⟩ := Result.bind_eq_ok.1 h
  obtain ⟨_, hcheck, h⟩ := Result.bind_eq_ok.1 h
  obtain ⟨field, hfield, h⟩ := Result.bind_eq_ok.1 h
  obtain ⟨s, _, h⟩ := Result.bind_eq_ok.1 h
  obtain rfl := Except.ok.inj h
  have hwritten := succeeds_of_checkExpression hsize hcheck
  refine List.forall_mem_cons.2 ⟨Context.usable_indexField hfield, ?_⟩
  exact List.forall_mem_singleton.2 ⟨_, s, hwritten, rfl⟩

private theorem checked_of_checkAttribute {query : TagQuery}
    (h : ∀ e ∈ query.attributes.entries, p.checkAttribute e.2 = .ok ()) :
    ∀ l ∈ query.attributeLookups, l.Checked := by
  intro l hl
  obtain ⟨e, he, hlookup⟩ := List.mem_filterMap.1 hl
  split at hlookup
  · rename_i text htext
    obtain rfl := Option.some.inj hlookup
    have hcheck := h e he
    rw [htext] at hcheck
    exact succeeds_of_checkExpression hsize hcheck
  · simp at hlookup

private theorem yields_planTags (tag : TagPattern) : Yields (p.planTags c tag) Plan.Checked := by
  have hattributes : Yields (tag.attributes.entries.forM fun e => liftM (p.checkAttribute e.2))
      fun _ => ∀ e ∈ tag.attributes.entries, p.checkAttribute e.2 = .ok () :=
    Yields.forM fun e _ => Yields.liftM _
  have hplan : ∀ {field capture : String}, (∀ e ∈ tag.attributes.entries, p.checkAttribute e.2 = .ok ()) →
      c.relationsField = .ok field →
        (Plan.tags ⟨field, FieldName.fullType FieldName.tagClass tag.name, tag.attributes, tag.adjust,
          capture⟩).Checked := by
    intro field capture hchecked hfield
    refine List.forall_mem_cons.2 ⟨Context.usable_relationsField hfield, ?_⟩
    exact List.forall_mem_cons.2 ⟨⟨tag.name, rfl⟩, checked_of_checkAttribute hsize hchecked⟩
  refine hattributes.bind fun _ hchecked => ?_
  refine (Yields.liftM _).bind fun field hfield => ?_
  dsimp only
  split
  · exact .pure (hplan hchecked hfield)
  · exact (Yields.trivial _).bind fun capture _ => .pure (hplan hchecked hfield)

end Limits

section Below

variable {below : PlansBelow} (hbelow : ∀ c q, Yields (below c q) Plan.Checked)

include hbelow

private theorem yields_planTarget (source : Context) (head : RelationHead) (target : Pattern) :
    Yields (planTarget below source head target) fun r => r.2.Checked := by
  refine (Yields.trivial _).bind fun d _ => ?_
  refine (hbelow d _).bind fun plan hplan => ?_
  exact .pure hplan

private theorem yields_planRelation (head : RelationHead) (target : Pattern) :
    Yields (planRelation below c head target) Plan.Checked := by
  refine (Yields.trivial _).bind fun source _ => ?_
  refine (yields_planTarget hbelow source head target).bind fun r hr => ?_
  exact yields_relationPlan _ _ (fun _ hplan => Plan.checked_of_restrictingPlan? hr hplan) _ _ _

def AlignmentChecked (t : AlignmentHead × Plan) : Prop :=
  Succeeds (Document.readIndexField t.1.field) ∧ Succeeds (compileExpression t.1.type) ∧ t.2.Checked

private theorem yields_planAlignment (head : RelationHead) (target : Pattern) :
    Yields (planAlignment below c head target) AlignmentChecked := by
  refine (Yields.trivial _).bind fun source _ => ?_
  refine (yields_planTarget hbelow source head target).bind fun r hr => ?_
  refine (Yields.liftM _).bind fun _ htype => ?_
  refine (Yields.trivial _).bind fun capture _ => ?_
  refine (Yields.liftM _).bind fun field hfield => ?_
  exact .pure ⟨Context.usable_relationsField hfield, succeeds_of_checkRelationType htype, hr⟩

structure PartsChecked (parts : RelationParts) : Prop where
  required : ∀ q ∈ parts.required, q.Checked
  excluded : ∀ q ∈ parts.excluded, q.Checked
  aligned : ∀ t ∈ parts.aligned, AlignmentChecked t

private theorem yields_planParts (targets : List (RelationHead × Pattern)) :
    Yields (planParts below c targets) PartsChecked := by
  induction targets with
  | nil => exact .pure ⟨by simp, by simp, by simp⟩
  | cons t rest ih =>
      rw [planParts]
      split
      · refine (yields_planAlignment hbelow t.1 t.2).bind fun first hfirst => ?_
        refine ih.bind fun parts hparts => ?_
        exact .pure { hparts with aligned := List.forall_mem_cons.2 ⟨hfirst, hparts.aligned⟩ }
      · refine (yields_planRelation hbelow t.1 t.2).bind fun first hfirst => ?_
        refine ih.bind fun parts hparts => ?_
        split
        · exact .pure { hparts with excluded := List.forall_mem_cons.2 ⟨hfirst, hparts.excluded⟩ }
        · exact .pure { hparts with required := List.forall_mem_cons.2 ⟨hfirst, hparts.required⟩ }

private theorem yields_planRelations {parent : Plan} (hparent : parent.Checked)
    (targets : List (RelationHead × Pattern)) :
    Yields (planRelations below c parent targets) Plan.Checked := by
  refine (yields_planParts hbelow targets).bind fun parts hparts => ?_
  have hmatched : (relationMatchPlan c.fieldName (parent :: parts.required)).Checked :=
    Plan.checked_relationMatchPlan (List.forall_mem_cons.2 ⟨hparent, hparts.required⟩)
  have hremaining := Plan.checked_foldl_withoutRelation hmatched hparts.excluded
  dsimp only
  split
  · exact .pure hremaining
  · refine .pure (List.forall_mem_append.2 ⟨hremaining, ?_⟩)
    intro l hl
    obtain ⟨t, ht, rfl | rfl | hl⟩ := Plan.mem_targetLookups.1 hl
    · exact (hparts.aligned t ht).1
    · exact (hparts.aligned t ht).2.1
    · exact (hparts.aligned t ht).2.2 l hl

private theorem yields_planSingleRelation (head : RelationHead) (target : Pattern) :
    Yields (planSingleRelation below c head target) Plan.Checked := by
  have hrelation : Yields (do
      let relation ← planRelation below c head target
      if head.operator.negated then return withoutRelation (.anyToken c.fieldName 1 1) relation
      return relation) Plan.Checked := by
    refine (yields_planRelation hbelow head target).bind fun relation hrelation => ?_
    split
    · exact .pure (Plan.checked_withoutRelation (by simp [Plan.Checked, Plan.lookups]) hrelation)
    · exact .pure hrelation
  unfold planSingleRelation
  dsimp only
  by_cases halignment : head.operator.alignment = true
  · rw [if_pos halignment]
    exact (Yields.trivial _).bind fun _ _ => hrelation
  · rw [if_neg halignment]
    exact hrelation

private theorem yields_planCall (hfunctions : ∀ name f, p.extensions.functions.get? name = some f → f.KeepsChecks)
    (name : String) (arguments : List (Argument Pattern)) :
    Yields (p.planCall below c name arguments) Plan.Checked := by
  unfold planCall
  split
  · exact .fail _
  · rename_i f hf
    refine (given_planArguments (hbelow c) f name arguments 0).bind fun given hgiven => ?_
    refine (Yields.liftM _).bind fun complete hcomplete => ?_
    have hchecked := QueryFunction.checked_of_completeArguments (fun _ => hgiven.checked) hcomplete
    exact hfunctions name f hf c complete hchecked

private theorem yields_planModifier (modifier : Modifier) (clause : Pattern) :
    Yields (p.planModifier below c clause modifier) Plan.Checked := by
  cases modifier with
  | constrained filter =>
      refine (hbelow c clause).bind fun plan hplan => ?_
      exact (Yields.liftM _).imp fun _ h => checked_of_planConstrained h hplan
  | version name =>
      refine (Yields.trivial _).bind fun d _ => ?_
      exact hbelow d clause
  | settings values => exact hbelow c clause
  | _ => exact (hbelow c clause).bind fun plan hplan => .pure (Plan.checked_modify rfl hplan)

end Below

private theorem yields_planNode (hsize : p.limits.expressionSize ≤ Regex.defaultSizeLimit)
    (hfunctions : ∀ name f, p.extensions.functions.get? name = some f → f.KeepsChecks)
    {below : PlansBelow} (hbelow : ∀ c q, Yields (below c q) Plan.Checked) (pattern : Pattern) :
    Yields (p.planNode below c pattern) Plan.Checked := by
  cases pattern with
  | term test => exact (Yields.liftM _).imp fun _ h => checked_of_planTerm h
  | regex test => exact (Yields.liftM _).imp fun _ h => checked_of_planRegex hsize h
  | anyToken low high => exact .pure (by simp [Plan.Checked, Plan.lookups])
  | fixedSpan span => exact .pure (by simp [Plan.Checked, Plan.lookups])
  | tags tag => exact yields_planTags hsize tag
  | defaultValue => exact .fail _
  | join connective clauses =>
      refine (Yields.mapM fun q _ => hbelow c q).bind fun plans hplans => ?_
      exact .pure (Plan.checked_join hplans)
  | modify modifier clause => exact yields_planModifier hbelow modifier clause
  | positionFilter test producer filter =>
      refine (hbelow c producer).bind fun producer hproducer => ?_
      refine (hbelow c filter).bind fun filter hfilter => ?_
      exact .pure (Plan.checked_positionFilter hproducer hfilter)
  | relationTarget head target => exact yields_planSingleRelation hbelow head target
  | relationMatch parent targets =>
      refine (hbelow c parent).bind fun parent hparent => ?_
      exact yields_planRelations hbelow hparent targets
  | rootRelations targets =>
      exact yields_planRelations hbelow (Plan.checked_anyNGram c.fieldName) targets
  | call name arguments => exact yields_planCall hbelow hfunctions name arguments

private theorem yields_planWithin (hsize : p.limits.expressionSize ≤ Regex.defaultSizeLimit)
    (hfunctions : ∀ name f, p.extensions.functions.get? name = some f → f.KeepsChecks) (depth : Nat) :
    ∀ c pattern, Yields (p.planWithin depth c pattern) Plan.Checked := by
  induction depth with
  | zero => exact fun c pattern => .throw _
  | succ depth ih => exact fun c pattern => yields_planNode hsize hfunctions ih _

private theorem checked_of_plan (hsize : p.limits.expressionSize ≤ Regex.defaultSizeLimit)
    (hfunctions : ∀ name f, p.extensions.functions.get? name = some f → f.KeepsChecks)
    {pattern : Pattern} {plan : Plan} (h : p.plan c pattern = .ok plan) : plan.Checked := by
  obtain ⟨r, hr, h⟩ := Result.bind_eq_ok.1 h
  obtain rfl := Except.ok.inj h
  exact yields_planWithin hsize hfunctions _ c pattern _ r hr

/-- The hits of a plan are found exactly if the expressions for tokens compile in the form of the indexed values
and the types of markup compile too. What the plan looks up beside these can always be looked up, and the
expressions for tokens come from expressions that compile. -/
theorem search_succeeds_iff {p : Planner} {c : Context} {pattern : Pattern} {plan : Plan}
    (hfunctions : p.extensions.functions = Extensions.standard.functions)
    (hsize : p.limits.expressionSize ≤ Regex.defaultSizeLimit) (h : p.plan c pattern = .ok plan) :
    (∀ (index : Index) (field : String), ∀ found ∈ index.search plan field,
      (Succeeds found.hits ↔
        (∀ text, .tokenExpression text ∈ plan.lookups → Succeeds (compileExpression text)) ∧
          ∀ text, .tagType text ∈ plan.lookups → Succeeds (compileExpression text))) ∧
    (∀ text, .tokenExpression text ∈ plan.lookups → ∃ written s,
      Succeeds (compileExpression written) ∧ text = Text.desensitizeExpression written s) ∧
    (∀ text, .tagType text ∈ plan.lookups →
      ∃ name, text = FieldName.fullType FieldName.tagClass name) ∧
    (∀ text, .attributeExpression text ∈ plan.lookups → Succeeds (compileExpression text)) ∧
    (∀ text, .relationType text ∈ plan.lookups → Succeeds (compileExpression text)) ∧
    ∀ name, .field name ∈ plan.lookups → Succeeds (Document.readIndexField name) := by
  have hchecked : plan.Checked :=
    checked_of_plan hsize (fun _ _ hf => Extensions.keepsChecks_standard (hfunctions ▸ hf)) h
  refine ⟨?_, fun _ ht => hchecked _ ht, fun _ ht => hchecked _ ht, fun _ ht => hchecked _ ht,
    fun _ ht => hchecked _ ht, fun _ ht => hchecked _ ht⟩
  intro index field found hfound
  obtain ⟨scope, hscope⟩ := Index.exists_scope_of_mem_search hfound
  rw [hscope, SearchScope.succeeds_hits_iff_of_checked hchecked]

/-- The name of a markup span becomes an expression that nothing has looked at: with a parenthesis in it, the
query is planned but cannot be searched. -/
theorem search_succeeds_iff_unbalanced_tag :
    (Planner.mk Extensions.standard Limits.standard true).plan
        ⟨⟨NameMap.empty.insert "contents" ⟨true, NameMap.empty⟩⟩, "contents", none, "word", .insensitive,
          false, FieldName.anyClass⟩
        (.tags ⟨"s(", NameMap.empty, .fullTag, none⟩) =
      .ok (.tags ⟨"contents%_relation@s", "(__tag)::(s()", NameMap.empty, .fullTag, "s("⟩) ∧
    ¬Succeeds (SearchScope.hits ⟨NameMap.empty.insert "contents" FieldContent.empty, NameMap.empty⟩
      (.tags ⟨"contents%_relation@s", "(__tag)::(s()", NameMap.empty, .fullTag, "s("⟩)) := by
  have hplan : (Planner.mk Extensions.standard Limits.standard true).plan
      ⟨⟨NameMap.empty.insert "contents" ⟨true, NameMap.empty⟩⟩, "contents", none, "word", .insensitive,
        false, FieldName.anyClass⟩
      (.tags ⟨"s(", NameMap.empty, .fullTag, none⟩) =
    .ok (.tags ⟨"contents%_relation@s", "(__tag)::(s()", NameMap.empty, .fullTag, "s("⟩) := by rfl
  have hmalformed : (compileExpression "(__tag)::(s()").isOk = false := by decide +kernel
  refine ⟨hplan, fun hsucceeds => ?_⟩
  have hiff := (search_succeeds_iff rfl (by decide) hplan).1
    ⟨[NameMap.empty.insert "contents" FieldContent.empty], NameMap.empty⟩ "contents"
    ⟨0, SearchScope.hits ⟨NameMap.empty.insert "contents" FieldContent.empty, NameMap.empty⟩
      (.tags ⟨"contents%_relation@s", "(__tag)::(s()", NameMap.empty, .fullTag, "s("⟩)⟩
    List.mem_cons_self
  obtain ⟨core, hcore⟩ := (hiff.1 hsucceeds).2 "(__tag)::(s()"
    (List.mem_cons_of_mem _ List.mem_cons_self)
  rw [hcore] at hmalformed
  cases hmalformed

end Planner

end CorpusSearch
