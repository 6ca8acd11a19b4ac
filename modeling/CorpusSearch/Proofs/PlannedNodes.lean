import CorpusSearch.Proofs.HarmlessRules

/-!
What a node is planned as. Planning hands capture names from step to step and can fail; here it is a relation between
a pattern in its context and its plan, with one rule for each kind of node, that leaves capture names open. Main
statement: what every rule hands on from the parts of a node to the node holds of all that is planned.
-/

set_option autoImplicit false

namespace CorpusSearch

open Planning (Yields)

/-- Each item on the right stands for one on the left. -/
theorem exists_of_forall₂ {α β : Type} {R : α → β → Prop} {as : List α} {bs : List β}
    (h : List.Forall₂ R as bs) {b : β} (hb : b ∈ bs) : ∃ a ∈ as, R a b := by
  induction h with
  | nil => cases hb
  | @cons a b as bs hab _ ih =>
      rcases List.mem_cons.1 hb with rfl | hb
      · exact ⟨a, List.mem_cons_self, hab⟩
      · obtain ⟨a, ha, hab⟩ := ih hb
        exact ⟨a, List.mem_cons_of_mem _ ha, hab⟩

abbrev PlanRelation := Context → Pattern → Plan → Prop

/-- What a plan does to the clause of a modifier, for modifiers that ask for nothing else. -/
def Modifier.inPlan? (field : String) : Modifier → Option PlanModifier
  | .not => some (.not field)
  | .repeated min max => some (.repeated field min max)
  | .expanded direction min max => some (.expanded field direction min max)
  | .filteredNGrams operation min max => some (.filteredNGrams field operation min max)
  | .capture name => some (.capture name)
  | .edge trailing => some (.edge trailing)
  | .constrained _ | .version _ | .settings _ => none

/-- What relations that are excluded or aligned leave of spans that are matched. -/
def RelationParts.leave (parts : RelationParts) (matched : Plan) : Plan :=
  let remaining := parts.excluded.foldl withoutRelation matched
  if parts.aligned.isEmpty then remaining else .align remaining parts.aligned

/-- The spans of a parent that its relations leave. -/
def RelationParts.plan (parts : RelationParts) (field : String) (parent : Plan) : Plan :=
  parts.leave (relationMatchPlan field (parent :: parts.required))

namespace Planner

/-! ### Rules -/

inductive RelationPlanned (below : PlanRelation) (c : Context) (head : RelationHead) (target : Pattern) :
    Plan → Prop
  | mk {source d : Context} {q : Plan} {field capture : String}
      (hcontexts : RelationContexts c head source d) (hq : below d target.fillDefault q)
      (htype : checkRelationType (head.operator.fullType source.relationClass) = .ok ())
      (hfield : source.relationsField = .ok field) :
      RelationPlanned below c head target
        (restrictedRelations (relationQuery source head field capture) (restrictingPlan? q))

inductive AlignmentPlanned (below : PlanRelation) (c : Context) (head : RelationHead) (target : Pattern) :
    AlignmentHead × Plan → Prop
  | mk {source d : Context} {q : Plan} {field capture : String}
      (hcontexts : RelationContexts c head source d) (hq : below d target.fillDefault q)
      (htype : checkRelationType (head.operator.fullType source.relationClass) = .ok ())
      (hfield : source.relationsField = .ok field) :
      AlignmentPlanned below c head target
        (⟨field, head.operator.fullType source.relationClass, d.fieldName, capture, head.operator.optional⟩, q)

/-- Relations below a parent, told apart by what they are for. -/
inductive PartsPlanned (below : PlanRelation) (c : Context) :
    List (RelationHead × Pattern) → RelationParts → Prop
  | nil : PartsPlanned below c [] ⟨[], [], []⟩
  | aligned {head : RelationHead} {target : Pattern} {rest : List (RelationHead × Pattern)}
      {parts : RelationParts} {a : AlignmentHead × Plan} (halignment : head.operator.alignment = true)
      (ha : AlignmentPlanned below c head target a) (hrest : PartsPlanned below c rest parts) :
      PartsPlanned below c ((head, target) :: rest) { parts with aligned := a :: parts.aligned }
  | excluded {head : RelationHead} {target : Pattern} {rest : List (RelationHead × Pattern)}
      {parts : RelationParts} {q : Plan} (halignment : head.operator.alignment = false)
      (hnegated : head.operator.negated = true) (hq : RelationPlanned below c head target q)
      (hrest : PartsPlanned below c rest parts) :
      PartsPlanned below c ((head, target) :: rest) { parts with excluded := q :: parts.excluded }
  | required {head : RelationHead} {target : Pattern} {rest : List (RelationHead × Pattern)}
      {parts : RelationParts} {q : Plan} (halignment : head.operator.alignment = false)
      (hnegated : head.operator.negated = false) (hq : RelationPlanned below c head target q)
      (hrest : PartsPlanned below c rest parts) :
      PartsPlanned below c ((head, target) :: rest) { parts with required := q :: parts.required }

inductive ArgumentPlanned (below : PlanRelation) (c : Context) :
    Argument Pattern → Option (Argument Plan) → Prop
  | placeholder : ArgumentPlanned below c (.pattern .defaultValue) none
  | pattern {x : Pattern} {q : Plan} (hx : x ≠ .defaultValue) (hq : below c x q) :
      ArgumentPlanned below c (.pattern x) (some (.pattern q))
  | value {a : Argument Pattern} {b : Argument Plan} (ha : a.pattern? = none) (hb : b.pattern? = none) :
      ArgumentPlanned below c a (some b)

/-- What a node is planned as, from what is planned below it. -/
inductive NodePlan (p : Planner) (below : PlanRelation) (c : Context) : Pattern → Plan → Prop
  | term {test : TokenTest} {plan : Plan} (h : planTerm c test = .ok plan) :
      NodePlan p below c (.term test) plan
  | regex {test : TokenTest} {plan : Plan} (h : p.planRegex c test = .ok plan) :
      NodePlan p below c (.regex test) plan
  | anyToken (min max : UInt32) : NodePlan p below c (.anyToken min max) (.anyToken c.fieldName min max)
  | fixedSpan (span : Span) : NodePlan p below c (.fixedSpan span) (.fixedSpan c.fieldName span)
  | tags {tag : TagPattern} {field capture : String}
      (hattributes : ∀ e ∈ tag.attributes.entries, p.checkAttribute e.2 = .ok ())
      (hfield : c.relationsField = .ok field) :
      NodePlan p below c (.tags tag) (.tags ⟨field, FieldName.fullType FieldName.tagClass tag.name,
        tag.attributes, tag.adjust, capture⟩)
  | join {connective : Connective} {clauses : List Pattern} {plans : List Plan}
      (h : List.Forall₂ (below c) clauses plans) :
      NodePlan p below c (.join connective clauses) (.join (planConnective connective) plans)
  | modify {m : Modifier} {pm : PlanModifier} {clause : Pattern} {q : Plan}
      (hm : m.inPlan? c.fieldName = some pm) (hq : below c clause q) :
      NodePlan p below c (.modify m clause) (.modify pm q)
  | constrained {filter : Filter} {clause : Pattern} {q : Plan} {reading : ReadingConstraint}
      (hq : below c clause q) (hcaptures : ∀ name ∈ filter.captures, q.captureNames.contains name = true)
      (hreading : Constraint.ofFilter c p.extensions.predicates filter = .ok reading) :
      NodePlan p below c (.modify (.constrained filter) clause)
        (.modify (.constrained reading.constraint c.fieldName reading.layers) q)
  | version {name : String} {d : Context} {clause : Pattern} {q : Plan}
      (hd : c.inVersion (some name) = .ok d) (hq : below d clause q) :
      NodePlan p below c (.modify (.version name) clause) q
  | settings {values : NameMap String} {clause : Pattern} {q : Plan} (hq : below c clause q) :
      NodePlan p below c (.modify (.settings values) clause) q
  | positionFilter {test : PositionTest} {producer filter : Pattern} {q r : Plan} (hq : below c producer q)
      (hr : below c filter r) :
      NodePlan p below c (.positionFilter test producer filter) (.positionFilter test q r)
  | relation {head : RelationHead} {target : Pattern} {q : Plan} (halignment : head.operator.alignment = false)
      (hnegated : head.operator.negated = false) (hq : RelationPlanned below c head target q) :
      NodePlan p below c (.relationTarget head target) q
  | negatedRelation {head : RelationHead} {target : Pattern} {q : Plan}
      (halignment : head.operator.alignment = false) (hnegated : head.operator.negated = true)
      (hq : RelationPlanned below c head target q) :
      NodePlan p below c (.relationTarget head target) (withoutRelation (.anyToken c.fieldName 1 1) q)
  | relationMatch {parent : Pattern} {targets : List (RelationHead × Pattern)} {q : Plan}
      {parts : RelationParts} (hq : below c parent q) (hparts : PartsPlanned below c targets parts) :
      NodePlan p below c (.relationMatch parent targets) (parts.plan c.fieldName q)
  | rootRelations {targets : List (RelationHead × Pattern)} {parts : RelationParts}
      (hparts : PartsPlanned below c targets parts) :
      NodePlan p below c (.rootRelations targets) (parts.plan c.fieldName (Plan.anyNGram c.fieldName))
  | call {name : String} {arguments : List (Argument Pattern)} {f : QueryFunction}
      {given : List (Option (Argument Plan))} {complete : List (Argument Plan)} {plan : Plan}
      (hf : p.extensions.functions.get? name = some f)
      (hgiven : List.Forall₂ (ArgumentPlanned below c) arguments given)
      (hcomplete : f.completeArguments c given = .ok complete)
      (hplan : ∃ names r, (f.build c complete).run names = .ok r ∧ r.1 = plan) :
      NodePlan p below c (.call name arguments) plan

section Given

variable {below : PlanRelation} {c : Context}

private theorem argumentPlanned_of_given {type : ArgumentType} {a : Argument Pattern} {b : Option (Argument Plan)}
    (h : ArgumentGiven (below c) type a b) : ArgumentPlanned below c a b := by
  cases h with
  | placeholder type => exact .placeholder
  | pattern hx hq => exact .pattern hx hq
  | _ => exact .value rfl rfl

private theorem forall₂_argumentPlanned_of_given {f : QueryFunction} {index : Nat} {arguments : List (Argument Pattern)}
    {given : List (Option (Argument Plan))} (h : ArgumentsGiven f (below c) index arguments given) :
    List.Forall₂ (ArgumentPlanned below c) arguments given := by
  induction h with
  | nil index => exact .nil
  | cons _ ha _ ih => exact .cons (argumentPlanned_of_given ha) ih

end Given

/-! ### Planning keeps to the rules -/

section Below

variable {p : Planner} {c : Context} {planBelow : PlansBelow} {below : PlanRelation}
  (hbelow : ∀ c x, Yields (planBelow c x) (below c x))

include hbelow

private theorem planTarget_planned (source : Context) (head : RelationHead) (target : Pattern) :
    Yields (planTarget planBelow source head target) fun r =>
      source.inVersion? head.operator.targetVersion = .ok r.1 ∧ below r.1 target.fillDefault r.2 := by
  refine (Yields.liftM _).bind fun d hd => ?_
  refine (hbelow d _).bind fun q hq => ?_
  exact .pure ⟨hd, hq⟩

private theorem planRelation_planned (head : RelationHead) (target : Pattern) :
    Yields (planRelation planBelow c head target) (RelationPlanned below c head target) := by
  refine (Yields.liftM _).bind fun source hsource => ?_
  refine (planTarget_planned hbelow source head target).bind fun r hr => ?_
  dsimp only
  rw [relationPlan_eq]
  refine (Yields.liftM _).bind fun _ htype => ?_
  refine (Yields.liftM _).bind fun field hfield => ?_
  refine (Yields.trivial _).bind fun capture _ => ?_
  exact .pure (.mk ⟨hsource, hr.1⟩ hr.2 htype hfield)

private theorem planAlignment_planned (head : RelationHead) (target : Pattern) :
    Yields (planAlignment planBelow c head target) (AlignmentPlanned below c head target) := by
  refine (Yields.liftM _).bind fun source hsource => ?_
  refine (planTarget_planned hbelow source head target).bind fun r hr => ?_
  refine (Yields.liftM _).bind fun _ htype => ?_
  refine (Yields.trivial _).bind fun capture _ => ?_
  refine (Yields.liftM _).bind fun field hfield => ?_
  exact .pure (.mk ⟨hsource, hr.1⟩ hr.2 htype hfield)

theorem planParts_planned (targets : List (RelationHead × Pattern)) :
    Yields (planParts planBelow c targets) (PartsPlanned below c targets) := by
  induction targets with
  | nil => exact .pure .nil
  | cons t rest ih =>
      rw [planParts]
      split
      · rename_i halignment
        refine (planAlignment_planned hbelow t.1 t.2).bind fun a ha => ?_
        exact ih.bind fun parts hparts => .pure (.aligned halignment ha hparts)
      · rename_i halignment
        rw [Bool.not_eq_true] at halignment
        refine (planRelation_planned hbelow t.1 t.2).bind fun q hq => ?_
        refine ih.bind fun parts hparts => ?_
        split
        · rename_i hnegated
          exact .pure (.excluded halignment hnegated hq hparts)
        · rename_i hnegated
          exact .pure (.required halignment (Bool.not_eq_true _ ▸ hnegated) hq hparts)

private theorem planRelations_planned (parent : Plan) (targets : List (RelationHead × Pattern)) :
    Yields (planRelations planBelow c parent targets) fun plan =>
      ∃ parts, PartsPlanned below c targets parts ∧ plan = parts.plan c.fieldName parent := by
  refine (planParts_planned hbelow targets).bind fun parts hparts => ?_
  dsimp only
  split
  · rename_i hempty
    exact .pure ⟨parts, hparts, by rw [RelationParts.plan, RelationParts.leave, if_pos hempty]⟩
  · rename_i hempty
    exact .pure ⟨parts, hparts, by rw [RelationParts.plan, RelationParts.leave, if_neg hempty]⟩

private theorem planSingleRelation_planned (head : RelationHead) (target : Pattern) :
    Yields (planSingleRelation planBelow c head target) (NodePlan p below c (.relationTarget head target)) := by
  unfold planSingleRelation
  dsimp only
  by_cases halignment : head.operator.alignment = true
  · rw [if_pos halignment]
    exact (Yields.fail (P := fun _ => False) _).bind fun _ h => h.elim
  · rw [if_neg halignment]
    rw [Bool.not_eq_true] at halignment
    refine (planRelation_planned hbelow head target).bind fun q hq => ?_
    split
    · rename_i hnegated
      exact .pure (.negatedRelation halignment hnegated hq)
    · rename_i hnegated
      exact .pure (.relation halignment (Bool.not_eq_true _ ▸ hnegated) hq)

private theorem planCall_planned (name : String) (arguments : List (Argument Pattern)) :
    Yields (p.planCall planBelow c name arguments) (NodePlan p below c (.call name arguments)) := by
  unfold planCall
  split
  · exact .fail _
  · rename_i f hf
    refine (given_planArguments (hbelow c) f name arguments 0).bind fun given hgiven => ?_
    refine (Yields.liftM _).bind fun complete hcomplete => ?_
    intro names r hr
    exact .call hf (forall₂_argumentPlanned_of_given hgiven) hcomplete ⟨names, r, hr, rfl⟩

private theorem planModifier_planned (m : Modifier) (clause : Pattern) :
    Yields (p.planModifier planBelow c clause m) (NodePlan p below c (.modify m clause)) := by
  cases m with
  | constrained filter =>
      refine (hbelow c clause).bind fun q hq => ?_
      refine (Yields.liftM _).imp fun plan h => ?_
      rw [planConstrained] at h
      split at h
      · cases h
      · rename_i hnone
        obtain ⟨reading, hreading, h⟩ := Result.bind_eq_ok.1 h
        obtain rfl := Except.ok.inj h
        refine .constrained hq (fun name hname => ?_) hreading
        have hcontains := List.find?_eq_none.1 hnone name hname
        simpa using hcontains
  | version name =>
      refine (Yields.liftM _).bind fun d hd => ?_
      exact (hbelow d clause).imp fun q hq => .version hd hq
  | settings values => exact (hbelow c clause).imp fun q hq => .settings hq
  | _ => exact (hbelow c clause).bind fun q hq => .pure (.modify rfl hq)

theorem planNode_planned (x : Pattern) : Yields (p.planNode planBelow c x) (NodePlan p below c x) := by
  cases x with
  | term test => exact (Yields.liftM _).imp fun _ h => .term h
  | regex test => exact (Yields.liftM _).imp fun _ h => .regex h
  | anyToken min max => exact .pure (.anyToken min max)
  | fixedSpan span => exact .pure (.fixedSpan span)
  | tags tag =>
      have hattributes : Yields (tag.attributes.entries.forM fun e => liftM (p.checkAttribute e.2))
          fun _ => ∀ e ∈ tag.attributes.entries, p.checkAttribute e.2 = .ok () :=
        Yields.forM fun e _ => Yields.liftM _
      refine hattributes.bind fun _ hchecked => ?_
      refine (Yields.liftM _).bind fun field hfield => ?_
      dsimp only
      split
      · exact .pure (.tags hchecked hfield)
      · exact (Yields.trivial _).bind fun capture _ => .pure (.tags hchecked hfield)
  | defaultValue => exact .fail _
  | join connective clauses =>
      have hclauses : Yields (clauses.mapM (planBelow c)) (List.Forall₂ (below c) clauses) := by
        induction clauses with
        | nil => exact .pure .nil
        | cons x rest ih =>
            rw [List.mapM_cons]
            refine (hbelow c x).bind fun q hq => ?_
            exact ih.bind fun plans hplans => .pure (.cons hq hplans)
      exact hclauses.bind fun plans hplans => .pure (.join hplans)
  | modify m clause => exact planModifier_planned hbelow m clause
  | positionFilter test producer filter =>
      refine (hbelow c producer).bind fun q hq => ?_
      exact (hbelow c filter).bind fun r hr => .pure (.positionFilter hq hr)
  | relationTarget head target => exact planSingleRelation_planned hbelow head target
  | relationMatch parent targets =>
      refine (hbelow c parent).bind fun q hq => ?_
      refine (planRelations_planned hbelow q targets).imp ?_
      rintro _ ⟨parts, hparts, rfl⟩
      exact .relationMatch hq hparts
  | rootRelations targets =>
      refine (planRelations_planned hbelow (Plan.anyNGram c.fieldName) targets).imp ?_
      rintro _ ⟨parts, hparts, rfl⟩
      exact .rootRelations hparts
  | call name arguments => exact planCall_planned hbelow name arguments

end Below

def prepared (p : Planner) (x : Pattern) : Pattern := if p.simplifying then x.simplify else x

variable {p : Planner} {P : PlanRelation}

/-- A node that no rule changes is planned as it is. -/
theorem planWithin_of_simplest {x : Pattern} (h : x.simpler? = none) (depth : Nat) (c : Context) :
    p.planWithin (depth + 1) c x = p.planNode (p.planWithin depth) c x := by
  have hprepared : p.prepared x = x := by rw [prepared, Pattern.simplify_of_none h, ite_self]
  exact congrArg (p.planNode (p.planWithin depth) c) hprepared

private theorem planWithin_induction (step : ∀ c x plan, NodePlan p P c (p.prepared x) plan → P c x plan)
    (depth : Nat) : ∀ c x, Yields (p.planWithin depth c x) (P c x) := by
  induction depth with
  | zero => exact fun c x => .throw _
  | succ depth ih => exact fun c x => (planNode_planned ih _).imp fun plan h => step c x plan h

theorem plan_induction (step : ∀ c x plan, NodePlan p P c (p.prepared x) plan → P c x plan) {c : Context}
    {x : Pattern} {plan : Plan} (h : p.plan c x = .ok plan) : P c x plan := by
  obtain ⟨r, hr, h⟩ := Result.bind_eq_ok.1 h
  obtain rfl := Except.ok.inj h
  exact planWithin_induction step _ c x _ r hr

end Planner

end CorpusSearch
