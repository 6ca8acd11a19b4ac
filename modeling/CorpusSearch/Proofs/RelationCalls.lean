import CorpusSearch.Proofs.NameRequests
import CorpusSearch.Proofs.PatternWalk
import CorpusSearch.Proofs.PlanChecked
import CorpusSearch.Proofs.RelationTypes
import CorpusSearch.Proofs.SimplifiedSearch
import CorpusSearch.Proofs.StandaloneExpressions

/-!
Two ways to ask for relations, a call of `rel` and a relation operator. Both plan the target alike, if no name is
handed out below that the call gives, and lead to plans that differ in the expression for the type only. Main
statement: they find the same wherever both expressions match the same types of relations, which they do if the type
has no class, and if class and type are expressions that stand alone; otherwise a document of two tokens tells them
apart.
-/

set_option autoImplicit false

namespace CorpusSearch

namespace Pattern

/-- A call of `rel` with all its arguments. -/
def relationCall (type : String) (target : Pattern) (mode : SpanMode) (capture : String)
    (direction : RelationDirection) : Pattern :=
  .call RelationFunction.rel.name [.text type, .pattern target, .text (Coded.code mode), .text capture,
    .text (Coded.code direction)]

/-- The relation that such a call stands for. -/
def relation (type : String) (target : Pattern) (mode : SpanMode) (capture : String)
    (direction : RelationDirection) : Pattern :=
  .relationTarget ⟨.plain type direction, mode, RelationOperator.nonEmpty? (some capture)⟩ target

end Pattern

namespace Planner

variable {p : Planner} {c : Context} {below : PlansBelow}

def planTargetArgument (below : PlansBelow) (c : Context) : Pattern → Planning Plan
  | .defaultValue => pure (Plan.anyNGram c.fieldName)
  | q => below c q

private theorem planTargetArgument_of_ne {q : Pattern} (hq : q ≠ .defaultValue) :
    planTargetArgument below c q = below c q := by
  unfold planTargetArgument
  split <;> simp_all

private theorem liftM_ok {α : Type} (a : α) : (liftM (Except.ok a : Result α) : Planning α) = pure a := rfl

theorem decode_code {α : Type} [Coded α] [LawfulCoded α] (a : α) :
    RelationFunction.decode α (Coded.code a) = pure a := by
  rw [RelationFunction.decode, LawfulCoded.ofCode?_code]

open RelationFunction (rel)

private theorem completeArguments_rel (c : Context) (type mode capture direction : String) (target : Option Plan) :
    rel.completeArguments c [some (.text type), target.map .pattern, some (.text mode), some (.text capture),
      some (.text direction)] =
      .ok [.text type, .pattern (target.getD (Plan.anyNGram c.fieldName)), .text mode, .text capture,
        .text direction] := by
  cases target with
  | none => rfl
  | some target => rfl

private theorem build_rel (c : Context) (type : String) (target : Plan) (mode : SpanMode) (capture : String)
    (direction : RelationDirection) :
    rel.build c [.text type, .pattern target, .text (Coded.code mode), .text capture, .text (Coded.code direction)] =
      relationPlan c (FieldName.withDefaultClass type c.relationClass) (restrictingPlan? target) direction mode
        (some capture) := by
  simp [rel, RelationFunction.textAt, RelationFunction.planAt, decode_code]

private theorem planArguments_rel (below : PlansBelow) (c : Context) (type : String) (q : Pattern)
    (mode capture direction : String) :
    ∃ target : Planning (Option Plan), planArguments below c rel rel.name 0 [.text type, .pattern q, .text mode,
        .text capture, .text direction] = (do
          let target ← target
          return [some (.text type), target.map .pattern, some (.text mode), some (.text capture),
            some (.text direction)]) ∧
      planTargetArgument below c q = (do return (← target).getD (Plan.anyNGram c.fieldName)) := by
  have htypes : rel.typeAt? 0 = some .text ∧ rel.typeAt? 1 = some .query ∧ rel.typeAt? 2 = some .text ∧
      rel.typeAt? 3 = some .text ∧ rel.typeAt? 4 = some .text := ⟨rfl, rfl, rfl, rfl, rfl⟩
  obtain ⟨h0, h1, h2, h3, h4⟩ := htypes
  by_cases hq : q = .defaultValue
  · obtain rfl := hq
    refine ⟨pure none, ?_, by simp [planTargetArgument]⟩
    simp [planArguments, h0, h1, h2, h3, h4, planArgument]
  · refine ⟨some <$> below c q, ?_, by simp [planTargetArgument_of_ne hq]⟩
    simp [planArguments, h0, h1, h2, h3, h4, planArgument]

private theorem planNode_relationCall (hfunctions : p.extensions.functions = Extensions.standard.functions)
    (type : String) (q : Pattern) (mode : SpanMode) (capture : String) (direction : RelationDirection) :
    p.planNode below c (.relationCall type q mode capture direction) = (do
      let target ← planTargetArgument below c q
      relationPlan c (FieldName.withDefaultClass type c.relationClass) (restrictingPlan? target) direction mode
        (some capture)) := by
  obtain ⟨target, harguments, htarget⟩ := planArguments_rel below c type q (Coded.code mode) capture
    (Coded.code direction)
  rw [Pattern.relationCall, planNode, planCall, hfunctions, Extensions.get?_standard rel List.mem_cons_self, htarget]
  simp only [harguments, bind_assoc, pure_bind, completeArguments_rel, liftM_ok, build_rel]

private theorem planNode_relation {type : String} (q : Pattern) (mode : SpanMode) (capture : String)
    (direction : RelationDirection) :
    p.planNode below c (.relation type q mode capture direction) = (do
      let target ← below c q.fillDefault
      relationPlan c ((RelationOperator.plain type direction).fullType c.relationClass) (restrictingPlan? target)
        direction mode (RelationOperator.nonEmpty? (some capture))) := by
  have hplain : (RelationOperator.plain type direction).alignment = false ∧
      (RelationOperator.plain type direction).negated = false ∧
      (RelationOperator.plain type direction).sourceVersion = none ∧
      (RelationOperator.plain type direction).targetVersion = none ∧
      (RelationOperator.plain type direction).direction = direction := ⟨rfl, rfl, rfl, rfl, rfl⟩
  obtain ⟨halignment, hnegated, hsource, htarget, hdirection⟩ := hplain
  rw [Pattern.relation, planNode, planSingleRelation]
  simp [halignment, hnegated, hsource, htarget, hdirection, planRelation, planTarget, Context.inVersion?, liftM_ok]

private theorem planWithin_relationCall (hfunctions : p.extensions.functions = Extensions.standard.functions)
    (depth : Nat) (type : String) (q : Pattern) (mode : SpanMode) (capture : String) (direction : RelationDirection) :
    p.planWithin (depth + 1) c (.relationCall type q mode capture direction) = (do
      let target ← planTargetArgument (p.planWithin depth) c q
      relationPlan c (FieldName.withDefaultClass type c.relationClass) (restrictingPlan? target) direction mode
        (some capture)) := by
  rw [planWithin_of_simplest rfl, planNode_relationCall hfunctions]

private theorem planWithin_relation (depth : Nat) (type : String) (q : Pattern) (mode : SpanMode) (capture : String)
    (direction : RelationDirection) :
    p.planWithin (depth + 1) c (.relation type q mode capture direction) = (do
      let target ← p.planWithin depth c q.fillDefault
      relationPlan c ((RelationOperator.plain type direction).fullType c.relationClass) (restrictingPlan? target)
        direction mode (RelationOperator.nonEmpty? (some capture))) := by
  rw [planWithin_of_simplest rfl, planNode_relation]

private theorem planWithin_anyNGram (depth : Nat) :
    p.planWithin (depth + 1) c .anyNGram = pure (Plan.anyNGram c.fieldName) :=
  planWithin_of_simplest rfl depth c

private theorem planWithin_defaultValue (depth : Nat) {names : CaptureNames} {r : Plan × CaptureNames} :
    (p.planWithin depth c .defaultValue).run names ≠ .ok r := by
  cases depth with
  | zero => exact nofun
  | succ depth =>
      rw [planWithin_of_simplest rfl]
      exact nofun

private theorem run_fillDefault {depth : Nat} {q : Pattern} {names : CaptureNames} {r s : Plan × CaptureNames}
    (hcall : (planTargetArgument (p.planWithin depth) c q).run names = .ok r)
    (hfilled : (p.planWithin depth c q.fillDefault).run names = .ok s) : s = r := by
  cases depth with
  | zero => cases hfilled
  | succ depth =>
      unfold Pattern.fillDefault at hfilled
      split at hfilled
      · rw [planWithin_anyNGram] at hfilled
        exact Except.ok.inj (hfilled.symm.trans hcall)
      · rename_i name
        rw [planTargetArgument_of_ne (by simp), planWithin_of_simplest rfl] at hcall
        obtain ⟨t, ht, -⟩ := Planning.run_bind_eq_ok.1 hcall
        exact absurd ht (planWithin_defaultValue depth)
      · rename_i hdefault _
        rw [planTargetArgument_of_ne hdefault] at hcall
        exact Except.ok.inj (hfilled.symm.trans hcall)

private theorem open_of_planTargetArgument {depth : Nat} {q : Pattern} {names : CaptureNames} {r : Plan × CaptureNames}
    (h : (planTargetArgument (p.planWithin depth) c q).run names = .ok r) :
    q = .defaultValue ∨ q = .anyNGram → r.1 = Plan.anyNGram c.fieldName := by
  rintro (rfl | rfl)
  · exact congrArg Prod.fst (Except.ok.inj h).symm
  · rw [planTargetArgument_of_ne (by simp [Pattern.anyNGram])] at h
    cases depth with
    | zero => cases h
    | succ depth =>
        rw [planWithin_anyNGram] at h
        exact congrArg Prod.fst (Except.ok.inj h).symm

private theorem asks_planTargetArgument (hbelow : ∀ c x, Planning.Asks (below c x)) (q : Pattern) :
    Planning.Asks (planTargetArgument below c q) := by
  unfold planTargetArgument
  split
  · exact .pure _
  · exact hbelow c _

end Planner

namespace Pattern

variable {type capture : String} {q : Pattern} {mode : SpanMode} {direction : RelationDirection}

private theorem captureNames_relationCall :
    (relationCall type q mode capture direction).captureNames = q.captureNames := by
  have hchildren : (relationCall type q mode capture direction).children = [q] := rfl
  rw [captureNames_eq, hchildren, List.flatMap_singleton]
  rfl

private theorem captureNames_relation : (relation type q mode capture direction).captureNames =
    (RelationOperator.nonEmpty? (some capture)).toList ++ q.captureNames := by
  have hchildren : (relation type q mode capture direction).children = [q] := rfl
  rw [captureNames_eq, hchildren, List.flatMap_singleton]
  rfl

end Pattern

open RelationOperator (nonEmpty?_eq_self nonEmpty?_ne_some_empty)

private theorem RelationOperator.nonEmpty?_some {capture : String} (h : capture ≠ "") :
    nonEmpty? (some capture) = some capture :=
  nonEmpty?_eq_self fun heq => h (Option.some.inj heq)

open RelationOperator (nonEmpty?_some)

namespace Planner

variable {p : Planner} {c : Context} {type capture : String} {q : Pattern} {mode : SpanMode}
  {direction : RelationDirection} {a b : Plan}

private theorem run_reserved_target (hfunctions : p.extensions.functions = Extensions.standard.functions)
    {names : CaptureNames} {r : Plan × CaptureNames} {depth : Nat}
    (hrun : (planTargetArgument (p.planWithin depth) c q).run names = .ok r)
    (hname : r.2.contains capture = true → names.contains capture = true) :
    (planTargetArgument (p.planWithin depth) c q).run (names.reserve capture) = .ok (r.1, r.2.reserve capture) := by
  have hasks := asks_planTargetArgument (c := c) (asks_planWithin hfunctions depth) q
  by_cases hused : names.contains capture = true
  · have hlater := hasks.contains_mono hrun hused
    rw [CaptureNames.reserve_of_contains hused, CaptureNames.reserve_of_contains hlater]
    exact hrun
  · have hfree : r.2.contains capture = false := Bool.eq_false_iff.2 fun h => hused (hname h)
    exact hasks.run_reserve hrun hfree

private theorem restrictedRelations_of_relationPlan {first second : String} {target : Option Plan}
    {names other : CaptureNames} {r s : Plan × CaptureNames}
    (hnames : capture = "" → names = other ∧ FieldName.captureName first = FieldName.captureName second)
    (hr : (relationPlan c first target direction mode (some capture)).run names = .ok r)
    (hs : (relationPlan c second target direction mode (RelationOperator.nonEmpty? (some capture))).run other =
      .ok s) :
    ∃ field given, c.relationsField = .ok field ∧ checkRelationType first = .ok () ∧
      checkRelationType second = .ok () ∧
      r.1 = restrictedRelations ⟨field, first, direction, mode, given⟩ target ∧
      s.1 = restrictedRelations ⟨field, second, direction, mode, given⟩ target := by
  rw [relationPlan_eq] at hr hs
  rw [nonEmpty?_eq_self (nonEmpty?_ne_some_empty _)] at hs
  obtain ⟨_, hfirst, hr⟩ := Planning.run_liftM_bind_eq_ok.1 hr
  obtain ⟨_, hsecond, hs⟩ := Planning.run_liftM_bind_eq_ok.1 hs
  obtain ⟨field, hfield, hr⟩ := Planning.run_liftM_bind_eq_ok.1 hr
  obtain ⟨field', hfield', hs⟩ := Planning.run_liftM_bind_eq_ok.1 hs
  obtain rfl : field = field' := Except.ok.inj (hfield.symm.trans hfield')
  obtain ⟨⟨given, _⟩, hgiven, hr⟩ := Planning.run_bind_eq_ok.1 hr
  obtain ⟨⟨given', _⟩, hgiven', hs⟩ := Planning.run_bind_eq_ok.1 hs
  obtain rfl := Except.ok.inj hr
  obtain rfl := Except.ok.inj hs
  have hsame : given' = given := by
    by_cases hcapture : capture = ""
    · obtain ⟨rfl, hname⟩ := hnames hcapture
      obtain rfl := hcapture
      have hempty : RelationOperator.nonEmpty? (some "") = none := rfl
      rw [hempty, captureFor] at hgiven hgiven'
      rw [hname] at hgiven
      exact congrArg Prod.fst (Except.ok.inj (hgiven'.symm.trans hgiven))
    · rw [nonEmpty?_some hcapture, captureFor] at hgiven hgiven'
      exact (congrArg Prod.fst (Except.ok.inj hgiven')).symm.trans (congrArg Prod.fst (Except.ok.inj hgiven))
  exact ⟨field, given, hfield, hfirst, hsecond, rfl, by rw [hsame]⟩

private theorem plans_of_relation (hfunctions : p.extensions.functions = Extensions.standard.functions)
    (htype : type ≠ "") (ha : p.plan c (.relationCall type q mode capture direction) = .ok a)
    (hb : p.plan c (.relation type q mode capture direction) = .ok b)
    (hname : capture = "" ∨ a.nodeCaptures.count capture =
      (Pattern.relationCall type q mode capture direction).givenCaptures.count capture) :
    let first := FieldName.withDefaultClass type c.relationClass
    let second := (RelationOperator.plain type direction).fullType c.relationClass
    ∃ field given target, c.relationsField = .ok field ∧ checkRelationType first = .ok () ∧
      checkRelationType second = .ok () ∧
      a = restrictedRelations ⟨field, first, direction, mode, given⟩ (restrictingPlan? target) ∧
      b = restrictedRelations ⟨field, second, direction, mode, given⟩ (restrictingPlan? target) ∧
      (q = .defaultValue ∨ q = .anyNGram → target = Plan.anyNGram c.fieldName) := by
  intro first second
  obtain ⟨⟨_, final⟩, hcall, h⟩ := Result.bind_eq_ok.1 ha
  obtain rfl := Except.ok.inj h
  obtain ⟨⟨_, final'⟩, hrelation, h⟩ := Result.bind_eq_ok.1 hb
  obtain rfl := Except.ok.inj h
  obtain ⟨issued, hissued, hperm⟩ := gives_planWithin hfunctions _ c _ _ _ hcall
  rw [Pattern.captureNames_relationCall] at hcall hissued
  rw [Pattern.captureNames_relation] at hrelation
  obtain ⟨depth, hdepth⟩ : ∃ depth, p.limits.patternDepth = depth + 1 := by
    refine Nat.exists_eq_succ_of_ne_zero fun hzero => ?_
    rw [hzero] at hcall
    cases hcall
  rw [hdepth, planWithin_relationCall hfunctions] at hcall
  rw [hdepth, planWithin_relation] at hrelation
  obtain ⟨target, htarget, hcall⟩ := Planning.run_bind_eq_ok.1 hcall
  obtain ⟨filled, hfilled, hrelation⟩ := Planning.run_bind_eq_ok.1 hrelation
  have hopen := open_of_planTargetArgument htarget
  by_cases hcapture : capture = ""
  · obtain rfl := hcapture
    obtain rfl := run_fillDefault htarget hfilled
    obtain ⟨field, given, hfield, hfirst, hsecond, hr, hs⟩ := restrictedRelations_of_relationPlan
      (fun _ => ⟨rfl, RelationOperator.captureName_fullType_plain htype direction c.relationClass⟩) hcall hrelation
    exact ⟨field, given, filled.1, hfield, hfirst, hsecond, hr, hs, hopen⟩
  · have hunissued : capture ∉ issued := by
      have hcount := List.perm_iff_count.1 hperm capture
      rw [List.count_append, hname.resolve_left hcapture] at hcount
      exact List.count_eq_zero.1 (by omega)
    have hkept : target.2.contains capture = true →
        (q.captureNames.foldl CaptureNames.reserve CaptureNames.empty).contains capture = true := by
      intro hmem
      have hlater := (asks_relationPlan _ _ _ _ _ _).contains_mono hcall hmem
      exact (hissued.contains_iff.1 hlater).resolve_right hunissued
    have hreserved := run_reserved_target hfunctions htarget hkept
    rw [nonEmpty?_some hcapture, Option.toList_some, List.singleton_append, List.foldl_cons,
      CaptureNames.foldl_reserve_reserve] at hfilled
    obtain rfl := run_fillDefault hreserved hfilled
    obtain ⟨field, given, hfield, hfirst, hsecond, hr, hs⟩ :=
      restrictedRelations_of_relationPlan (fun h => absurd h hcapture) hcall hrelation
    exact ⟨field, given, target.1, hfield, hfirst, hsecond, hr, hs, hopen⟩

end Planner

/-! ### Open targets -/

namespace Planner

variable {p : Planner} {c : Context} {type capture field full : String} {mode : SpanMode}
  {direction : RelationDirection}

private theorem restrictingPlan?_anyNGram (field : String) : restrictingPlan? (Plan.anyNGram field) = none := rfl

private theorem run_relationPlan (hfield : c.relationsField = .ok field) (hcapture : capture ≠ "")
    (htype : checkRelationType type = .ok ()) (target : Option Plan) (names : CaptureNames) :
    (relationPlan c type target direction mode (RelationOperator.nonEmpty? (some capture))).run names =
      .ok (restrictedRelations ⟨field, type, direction, mode, capture⟩ target, names) := by
  rw [relationPlan_eq, htype, hfield, nonEmpty?_eq_self (nonEmpty?_ne_some_empty _), nonEmpty?_some hcapture]
  rfl

private theorem plan_relationCall_open (mode : SpanMode) (direction : RelationDirection)
    (hfunctions : p.extensions.functions = Extensions.standard.functions)
    (hdepth : 0 < p.limits.patternDepth) (hfield : c.relationsField = .ok field) (hcapture : capture ≠ "")
    (hfull : FieldName.withDefaultClass type c.relationClass = full) (hchecked : checkRelationType full = .ok ()) :
    p.plan c (.relationCall type .defaultValue mode capture direction) =
      .ok (.relations ⟨field, full, direction, mode, capture⟩) := by
  obtain ⟨depth, hdepth⟩ : ∃ depth, p.limits.patternDepth = depth + 1 := ⟨p.limits.patternDepth - 1, by omega⟩
  rw [plan, hdepth, planWithin_relationCall hfunctions, hfull]
  simp only [planTargetArgument, pure_bind]
  rw [← nonEmpty?_some hcapture, restrictingPlan?_anyNGram,
    run_relationPlan hfield hcapture hchecked]
  rfl

private theorem plan_relation_open (mode : SpanMode) (hdepth : 1 < p.limits.patternDepth)
    (hfield : c.relationsField = .ok field) (hcapture : capture ≠ "")
    (hfull : (RelationOperator.plain type direction).fullType c.relationClass = full)
    (hchecked : checkRelationType full = .ok ()) :
    p.plan c (.relation type .defaultValue mode capture direction) =
      .ok (.relations ⟨field, full, direction, mode, capture⟩) := by
  obtain ⟨depth, hdepth⟩ : ∃ depth, p.limits.patternDepth = depth + 1 + 1 := ⟨p.limits.patternDepth - 2, by omega⟩
  rw [plan, hdepth, planWithin_relation, hfull, Pattern.fillDefault, planWithin_anyNGram]
  simp only [pure_bind]
  rw [restrictingPlan?_anyNGram, run_relationPlan hfield hcapture hchecked]
  rfl

end Planner

/-! ### Searching -/

private theorem exists_core_of_checkRelationType {type : String} (h : checkRelationType type = .ok ()) :
    ∃ core, compileExpression type = .ok core ∧ Regex.compileWhole type = .ok core := by
  obtain ⟨core, hcore⟩ := succeeds_of_checkRelationType h
  exact ⟨core, hcore, compileExpression_eq_ok.1 hcore⟩

/-- Whether class and type can be told apart whatever is put around them: a type has no class, or both stand alone. -/
def FieldName.isSeparable (type : String) : Bool :=
  match splitClass type with
  | (none, _) => true
  | (some cls, proper) => Regex.standsAlone cls.toList && Regex.standsAlone proper.toList

theorem RelationOperator.matchesWhole_fullType {type default : String} {direction : RelationDirection}
    (htype : type ≠ "") (hfirst : checkRelationType (FieldName.withDefaultClass type default) = .ok ())
    (hsecond : checkRelationType ((plain type direction).fullType default) = .ok ())
    (hseparable : FieldName.isSeparable type = true) (value : String) :
    Regex.matchesWhole (FieldName.withDefaultClass type default) value =
      Regex.matchesWhole ((plain type direction).fullType default) value := by
  obtain ⟨class?, proper, hsplit⟩ : ∃ class? proper, FieldName.splitClass type = (class?, proper) := ⟨_, _, rfl⟩
  rw [FieldName.isSeparable, hsplit] at hseparable
  cases class? with
  | none => rw [fullType_plain_of_none htype hsplit]
  | some cls =>
      rw [fullType_plain htype, hsplit, Option.getD_some] at hsecond ⊢
      rw [FieldName.withDefaultClass_of_some hsplit] at hfirst ⊢
      obtain ⟨hcls, hproper⟩ := Bool.and_eq_true_iff.1 hseparable
      obtain ⟨_, -, hwhole⟩ := exists_core_of_checkRelationType hfirst
      obtain ⟨_, -, hwhole'⟩ := exists_core_of_checkRelationType hsecond
      exact Regex.matchesWhole_fullType (FieldName.eq_of_splitClass hsplit) hcls hproper hwhole hwhole' value

section Search

variable {scope : SearchScope} (query : RelationQuery) {second : String}

theorem SearchScope.hits_relations (htype : checkRelationType query.type = .ok ()) :
    scope.hits (.relations query) = (do
      let content ← scope.document.contentAt query.field
      return Hit.sorted ((content.relations.filter fun r =>
        Regex.matchesWhole query.type r.type && r.hasDirection query.direction).map fun r =>
          ⟨r.spanFor query.spanMode, NameMap.empty.insert query.capture (.relation r), [r]⟩)) := by
  obtain ⟨core, hcore, hwhole⟩ := exists_core_of_checkRelationType htype
  have hmatches : ∀ value, Regex.matchesWhole query.type value = core.isMatch value := fun value => by
    rw [Regex.matchesWhole, hwhole]
  rw [SearchScope.hits, Hit.relationHits, hcore]
  simp only [Result.ok_bind, bind_assoc, pure_bind, hmatches]

private theorem SearchScope.hits_relations_congr (htype : checkRelationType query.type = .ok ())
    (hsecond : checkRelationType second = .ok ())
    (halike : ∀ r, scope.document.Stores r →
      Regex.matchesWhole query.type r.type = Regex.matchesWhole second r.type) :
    scope.hits (.relations query) = scope.hits (.relations { query with type := second }) := by
  rw [hits_relations query htype, hits_relations { query with type := second } hsecond]
  cases hcontent : scope.document.contentAt query.field with
  | error e => rw [Result.error_bind, Result.error_bind]
  | ok content =>
      simp only [Result.ok_bind]
      have hfilter : (content.relations.filter fun r =>
          Regex.matchesWhole query.type r.type && r.hasDirection query.direction) =
            content.relations.filter fun r => Regex.matchesWhole second r.type && r.hasDirection query.direction :=
        List.filter_congr fun r hr => by rw [halike r (Document.stores_of_contentAt hcontent hr)]
      rw [hfilter]

private theorem Plan.agree_restrictedRelations (htype : checkRelationType query.type = .ok ())
    (hsecond : checkRelationType second = .ok ())
    (halike : ∀ r, scope.document.Stores r →
      Regex.matchesWhole query.type r.type = Regex.matchesWhole second r.type)
    (target : Option Plan) :
    Plan.Agree scope true (restrictedRelations query target)
      (restrictedRelations { query with type := second } target) := by
  have hrelations : ∀ mode, Plan.Agree scope true (.relations { query with spanMode := mode })
      (.relations { query with spanMode := mode, type := second }) := fun mode =>
    .of_hits_eq (SearchScope.hits_relations_congr { query with spanMode := mode } htype hsecond halike)
  cases target with
  | none => exact hrelations query.spanMode
  | some target =>
      have hjoin : Plan.Agree scope true
          (.join .relationAnd [.relations { query with spanMode := .target }, target])
          (.join .relationAnd [.relations { query with spanMode := .target, type := second }, target]) :=
        .join (fun _ => rfl) (.cons (hrelations .target) (.cons (.refl target) .nil))
      dsimp only [restrictedRelations]
      split
      · exact hjoin
      · exact hjoin.modify

end Search

def Relation.ofDirection (type : String) : RelationDirection → Relation
  | .root => .root type ⟨0, 1⟩
  | .forward | .both => ⟨type, ⟨0, 1⟩, ⟨1, 2⟩⟩
  | .backward => ⟨type, ⟨1, 2⟩, ⟨0, 1⟩⟩

private theorem Relation.hasDirection_ofDirection (type : String) (direction : RelationDirection) :
    (ofDirection type direction).hasDirection direction = true := by
  cases direction <;> rfl

private theorem Relation.type_ofDirection (type : String) (direction : RelationDirection) :
    (ofDirection type direction).type = type := by
  cases direction <;> rfl

def twoTokens (field : String) (r : Relation) : Document :=
  NameMap.empty.insert field ⟨[NameMap.empty, NameMap.empty], [r], []⟩

private theorem hits_twoTokens (query : RelationQuery) (htype : checkRelationType query.type = .ok ())
    {field layer : String}
    {s : Sensitivity} (hfield : Document.readIndexField query.field = .ok (field, layer, s)) (value : String)
    (predicates : NameMap Predicate) :
    ∃ hs, SearchScope.hits ⟨twoTokens field (.ofDirection value query.direction), predicates⟩ (.relations query) =
        .ok hs ∧
      (hs ≠ [] ↔ Regex.matchesWhole query.type value = true) := by
  have hcontent : (twoTokens field (.ofDirection value query.direction)).contentAt query.field =
      .ok ⟨[NameMap.empty, NameMap.empty], [.ofDirection value query.direction], []⟩ := by
    rw [Document.contentAt, hfield, twoTokens]
    simp [NameMap.get?_insert]
  rw [SearchScope.hits_relations query htype, hcontent]
  refine ⟨_, rfl, ?_⟩
  simp only [List.filter_cons, List.filter_nil, Relation.hasDirection_ofDirection, Relation.type_ofDirection,
    Bool.and_true]
  cases Regex.matchesWhole query.type value <;> simp

private theorem Plan.Agree.nonempty_iff {scope : SearchScope} {exact : Bool} {p q : Plan} {hs ks : List Hit}
    (h : Plan.Agree scope exact p q) (hp : scope.hits p = .ok hs) (hq : scope.hits q = .ok ks) :
    hs ≠ [] ↔ ks ≠ [] := by
  rw [Plan.Agree, hp, hq] at h
  refine not_congr ?_
  rw [← List.isEmpty_iff, ← List.isEmpty_iff, h.1.isEmpty]

namespace Planner

variable {p : Planner} {c : Context} {type capture : String} {q : Pattern} {mode : SpanMode}
  {direction : RelationDirection} {a b : Plan}

/-- A call and an operator for the same relations find the same where their expressions for the full type match the
stored types alike. The expressions match the same values if the type has no class, or if class and type stand alone;
and if the target is open, the two find the same everywhere only if the expressions match the same values. -/
theorem calls_and_operators_agree (hfunctions : p.extensions.functions = Extensions.standard.functions)
    (htype : type ≠ "") (ha : p.plan c (.relationCall type q mode capture direction) = .ok a)
    (hb : p.plan c (.relation type q mode capture direction) = .ok b)
    (hname : capture = "" ∨ a.nodeCaptures.count capture =
      (Pattern.relationCall type q mode capture direction).givenCaptures.count capture) :
    let first := FieldName.withDefaultClass type c.relationClass
    let second := (RelationOperator.plain type direction).fullType c.relationClass
    (∀ scope : SearchScope, (∀ r, scope.document.Stores r →
      Regex.matchesWhole first r.type = Regex.matchesWhole second r.type) → Plan.Agree scope true a b) ∧
    (FieldName.isSeparable type = true → ∀ value, Regex.matchesWhole first value = Regex.matchesWhole second value) ∧
    (q = .defaultValue ∨ q = .anyNGram → ((∀ scope, Plan.Agree scope false a b) ↔
      ∀ value, Regex.matchesWhole first value = Regex.matchesWhole second value)) := by
  intro first second
  obtain ⟨field, given, target, hfield, hfirst, hsecond, rfl, rfl, hopen⟩ :=
    plans_of_relation hfunctions htype ha hb hname
  have hagree : ∀ scope : SearchScope, (∀ r, scope.document.Stores r →
      Regex.matchesWhole first r.type = Regex.matchesWhole second r.type) →
        Plan.Agree scope true (restrictedRelations ⟨field, first, direction, mode, given⟩ (restrictingPlan? target))
          (restrictedRelations ⟨field, second, direction, mode, given⟩ (restrictingPlan? target)) :=
    fun scope halike => Plan.agree_restrictedRelations ⟨field, first, direction, mode, given⟩ hfirst hsecond halike
      (restrictingPlan? target)
  refine ⟨hagree, RelationOperator.matchesWhole_fullType htype hfirst hsecond, fun hq => ⟨fun h value => ?_, ?_⟩⟩
  · obtain ⟨⟨name, layer, s⟩, hread⟩ := Context.usable_relationsField hfield
    obtain ⟨hs, hhs, hfound⟩ :=
      hits_twoTokens ⟨field, first, direction, mode, given⟩ hfirst hread value NameMap.empty
    obtain ⟨ks, hks, hfound'⟩ :=
      hits_twoTokens ⟨field, second, direction, mode, given⟩ hsecond hread value NameMap.empty
    have hnone : restrictingPlan? target = none := by
      rw [hopen hq]
      rfl
    specialize h ⟨twoTokens name (.ofDirection value direction), NameMap.empty⟩
    rw [hnone] at h
    exact Bool.eq_iff_iff.2 (hfound.symm.trans ((h.nonempty_iff hhs hks).trans hfound'))
  · exact fun h scope => (hagree scope fun r _ => h r.type).weaken

/-- A class and a type of letters, and a type with an alternation, which in a call goes past the class. -/
theorem calls_and_operators_agree_typed :
    let relations (type : String) : Plan := .relations ⟨"contents%_relation@s", type, .both, .source, "r"⟩
    let call (type : String) := standard.plan wordContext (.relationCall type .defaultValue .source "r" .both)
    let operator (type : String) := standard.plan wordContext (.relation type .defaultValue .source "r" .both)
    (call "dep::nsubj" = .ok (relations "dep::nsubj") ∧ operator "dep::nsubj" = .ok (relations "(dep)::(nsubj)") ∧
      ∀ scope, Plan.Agree scope true (relations "dep::nsubj") (relations "(dep)::(nsubj)")) ∧
    call "dep::nsubj|amod" = .ok (relations "dep::nsubj|amod") ∧
      operator "dep::nsubj|amod" = .ok (relations "(dep)::(nsubj|amod)") ∧
      ¬∀ scope, Plan.Agree scope false (relations "dep::nsubj|amod") (relations "(dep)::(nsubj|amod)") := by
  intro relations call operator
  have hcapture : "r" ≠ "" := by decide
  have hfield : wordContext.relationsField = .ok "contents%_relation@s" := by decide
  have hcall : ∀ {type}, FieldName.withDefaultClass type wordContext.relationClass = type →
      checkRelationType type = .ok () → call type = .ok (relations type) := fun hfull hchecked =>
    plan_relationCall_open (p := standard) .source .both (by rfl) (by decide) hfield hcapture hfull hchecked
  have hoperator : ∀ {type full}, (RelationOperator.plain type .both).fullType wordContext.relationClass = full →
      checkRelationType full = .ok () → operator type = .ok (relations full) := fun hfull hchecked =>
    plan_relation_open (p := standard) .source (by decide) hfield hcapture hfull hchecked
  constructor
  · have hfirst : FieldName.withDefaultClass "dep::nsubj" wordContext.relationClass = "dep::nsubj" := by decide
    have hsecond : (RelationOperator.plain "dep::nsubj" .both).fullType wordContext.relationClass =
        "(dep)::(nsubj)" := by decide
    have ha := hcall hfirst (by decide +kernel)
    have hb := hoperator hsecond (by decide +kernel)
    obtain ⟨hagree, hsame, -⟩ :=
      calls_and_operators_agree (p := standard) (by rfl) (by decide) ha hb (.inr (by decide))
    exact ⟨ha, hb, fun scope => hagree scope fun r _ => hsame (by decide +kernel) r.type⟩
  · have hfirst : FieldName.withDefaultClass "dep::nsubj|amod" wordContext.relationClass = "dep::nsubj|amod" := by
      decide
    have hsecond : (RelationOperator.plain "dep::nsubj|amod" .both).fullType wordContext.relationClass =
        "(dep)::(nsubj|amod)" := by decide
    have ha := hcall hfirst (by decide +kernel)
    have hb := hoperator hsecond (by decide +kernel)
    have hmatches : Regex.matchesWhole "dep::nsubj|amod" "amod" = true ∧
        Regex.matchesWhole "(dep)::(nsubj|amod)" "amod" = false := by decide +kernel
    obtain ⟨-, -, hopen⟩ := calls_and_operators_agree (p := standard) (by rfl) (by decide) ha hb (.inr (by decide))
    refine ⟨ha, hb, fun h => ?_⟩
    have hsame := (hopen (.inl rfl)).1 h "amod"
    rw [hfirst, hsecond, hmatches.1, hmatches.2] at hsame
    cases hsame

end Planner

end CorpusSearch
