import CorpusSearch.Proofs.ExpressionCharacters
import CorpusSearch.Proofs.HarmlessRules
import CorpusSearch.Proofs.LiteralExpression
import CorpusSearch.Proofs.PlanChecked
import CorpusSearch.Proofs.Simplification
import CorpusSearch.Proofs.TokenClauses

/-!
Searching with and without simplifying. A regular expression that is a literal value finds what the value finds, and
every rule leaves the hits of a harmless pattern as they are. Main statement: wherever a pattern is harmless in the
documents of an index, the plan with simplifying and the plan without it find the same spans in each of them.
-/

set_option autoImplicit false

namespace CorpusSearch

/-! ### Expressions that are literal values -/

private theorem Context.withLayerAndSensitivity_none (c : Context) : c.withLayerAndSensitivity none none = .ok c := rfl

private theorem Context.withLayerAndSensitivity_forced (c : Context) (layer : Option String)
    (asked : Option Sensitivity) (s : Sensitivity) :
    (do let d ← c.withLayerAndSensitivity layer asked; d.withLayerAndSensitivity none (some s)) =
      c.withLayerAndSensitivity layer (some s) := by
  unfold Context.withLayerAndSensitivity
  cases c.withLayer layer with
  | error e => rfl
  | ok moved => rfl

namespace TokenTest

/-- The test with its first sensitivity flag taken off its expression. -/
def unflagged (test : TokenTest) : TokenTest :=
  match Text.splitForcedSensitivity test.value with
  | (some s, rest) => { test with value := rest, sensitivity := some s }
  | (none, _) => test

private theorem value_unflagged (test : TokenTest) :
    test.unflagged.value = (Text.splitForcedSensitivity test.value).2 := by
  unfold unflagged
  cases hsplit : Text.splitForcedSensitivity test.value with
  | mk forced rest =>
      cases forced with
      | some s => rfl
      | none => exact (Text.rest_of_splitForcedSensitivity hsplit).symm

private theorem resolved_eq_unflagged {test : TokenTest} (h : test.FlaggedOnce) : test.resolved = test.unflagged := by
  unfold unflagged
  cases hsplit : Text.splitForcedSensitivity test.value with
  | mk forced rest =>
      cases forced with
      | none => exact resolveFlags_of_none hsplit _
      | some s =>
          rw [FlaggedOnce, hsplit] at h
          dsimp only at h
          have hrest : Text.splitForcedSensitivity rest = (none, (Text.splitForcedSensitivity rest).2) :=
            Prod.ext h rfl
          rw [resolved_of_some hsplit]
          exact @resolveFlags_of_none { test with value := rest, sensitivity := some s } _ hrest _

end TokenTest

namespace Planner

variable {p : Planner} {c : Context} {scope : SearchScope} {exact : Bool}

def planExpression (p : Planner) (c : Context) (expression : String) : Result Plan := do
  p.checkExpression expression
  let field ← c.indexField
  return .regex field (Text.desensitizeExpression expression (← c.sensitivity))

private theorem planRegex_eq (test : TokenTest) :
    p.planRegex c test = (do
      let d ← c.withLayerAndSensitivity test.layer test.sensitivity
      let d ← d.withLayerAndSensitivity none (Text.splitForcedSensitivity test.value).1
      p.planExpression d (Text.stripAnchors (Text.splitForcedSensitivity test.value).2)) := rfl

theorem planRegex_of_none {test : TokenTest} (h : (Text.splitForcedSensitivity test.value).1 = none) :
    p.planRegex c test = (do
      let d ← c.withLayerAndSensitivity test.layer test.sensitivity
      p.planExpression d (Text.stripAnchors test.value)) := by
  have hrest := Text.rest_of_splitForcedSensitivity (Prod.ext h rfl)
  rw [planRegex_eq, h]
  simp only [hrest, Context.withLayerAndSensitivity_none, Result.ok_bind]

private theorem flags_unflagged {test : TokenTest} (h : test.FlaggedOnce) :
    (Text.splitForcedSensitivity test.unflagged.value).1 = none := by
  rw [TokenTest.value_unflagged]
  exact h

private theorem planRegex_unflagged {test : TokenTest} (h : test.FlaggedOnce) :
    p.planRegex c test.unflagged = p.planRegex c test := by
  cases hsplit : Text.splitForcedSensitivity test.value with
  | mk forced rest =>
      cases forced with
      | none => rw [TokenTest.unflagged, hsplit]
      | some s =>
          have hflagged : test.unflagged = { test with value := rest, sensitivity := some s } := by
            rw [TokenTest.unflagged, hsplit]
          rw [planRegex_of_none (flags_unflagged h), hflagged, planRegex_eq, hsplit]
          dsimp only
          rw [← Context.withLayerAndSensitivity_forced c test.layer test.sensitivity s, bind_assoc]

private theorem exists_of_planTerm_of_planRegex {test : TokenTest} {a b : Plan}
    (hflag : (Text.splitForcedSensitivity test.value).1 = none)
    (hplain : ∀ d ∈ test.value.toList, Text.IsPlain d)
    (ha : planTerm c test = .ok a) (hb : p.planRegex c test = .ok b) :
    ∃ field text, (∀ d ∈ text.toList, Text.IsPlain d) ∧ a = .term field text ∧ b = .regex field text := by
  rw [planRegex_of_none hflag] at hb
  obtain ⟨d, hd, ha⟩ := Result.bind_eq_ok.1 ha
  obtain ⟨field, hfield, ha⟩ := Result.bind_eq_ok.1 ha
  obtain ⟨text, htext, ha⟩ := Result.bind_eq_ok.1 ha
  obtain ⟨s, hs, htext⟩ := Result.bind_eq_ok.1 htext
  obtain ⟨d', hd', hb⟩ := Result.bind_eq_ok.1 hb
  obtain rfl := Except.ok.inj (hd.symm.trans hd')
  obtain ⟨_, -, hb⟩ := Result.bind_eq_ok.1 hb
  obtain ⟨field', hfield', hb⟩ := Result.bind_eq_ok.1 hb
  obtain rfl := Except.ok.inj (hfield.symm.trans hfield')
  obtain ⟨s', hs', hb⟩ := Result.bind_eq_ok.1 hb
  obtain rfl := Except.ok.inj (hs.symm.trans hs')
  obtain rfl := Except.ok.inj ha
  obtain rfl := Except.ok.inj hb
  obtain rfl := Except.ok.inj htext
  have hexpression : Text.desensitizeExpression (Text.stripAnchors test.value) s =
      s.desensitize test.value := by
    rw [Text.stripAnchors_plain hplain, Text.desensitizeExpression_plain s hplain]
  refine ⟨field, s.desensitize test.value, ?_, rfl, congrArg _ hexpression⟩
  rw [Sensitivity.desensitize, String.toList_ofList]
  exact s.isPlain_desensitizeChars hplain

private theorem hits_regex_of_plain {field text : String} (hplain : ∀ d ∈ text.toList, Text.IsPlain d)
    (hcompiles : Result.Succeeds (compileExpression text)) :
    scope.hits (.regex field text) = scope.hits (.term field text) := by
  obtain ⟨core, hcore⟩ := hcompiles
  have hwhole : Regex.compileWhole text = .ok core := compileExpression_eq_ok.1 hcore
  have htest : core.isMatch = fun value => value == text := by
    funext value
    exact Regex.isMatch_of_plain hplain hwhole value
  simp only [SearchScope.hits, hcore, Result.ok_bind, htest]

private theorem hits_planResolved {test : TokenTest} {a b : Plan} (hflags : test.FlaggedOnce)
    (hsize : p.LiteralCompiles c test) (ha : p.planResolved c test = .ok a) (hb : p.planRegex c test = .ok b) :
    scope.hits a = scope.hits b := by
  have hunflagged := hb
  rw [← planRegex_unflagged hflags] at hunflagged
  rw [planResolved, TokenTest.resolved_eq_unflagged hflags] at ha
  split at ha
  · rename_i hletters
    have hplain : ∀ d ∈ test.unflagged.value.toList, Text.IsPlain d := by
      intro d hd
      rw [Text.isAlphanumeric, Bool.and_eq_true] at hletters
      exact Text.isPlain_of_isAlphanumeric (List.all_eq_true.1 hletters.2 d hd)
    obtain ⟨field, text, htext, rfl, rfl⟩ :=
      exists_of_planTerm_of_planRegex (flags_unflagged hflags) hplain ha hunflagged
    rw [TokenTest.value_unflagged] at hletters
    exact (hits_regex_of_plain htext (hsize hletters field text hb)).symm
  · rw [Except.ok.inj (ha.symm.trans hunflagged)]

/-! ### Nodes -/

private theorem planWithin_congr {x y : Pattern} (h : x.simplify = y.simplify) (depth : Nat) :
    p.simplified.planWithin depth c x = p.simplified.planWithin depth c y := by
  cases depth with
  | zero => rfl
  | succ depth => rw [planWithin_simplified, planWithin_simplified, h]

/-- Agreement of both plans of a pattern, however deep it may be nested. -/
def AgreesOn (p : Planner) (scope : SearchScope) (exact : Bool) (c : Context) (x : Pattern) : Prop :=
  ∀ m n, Planning.Agree (Plan.Agree scope exact) (p.simplified.planWithin m c x) (p.plain.planWithin n c x)

private theorem agreesOn_of_planNode {x : Pattern}
    (h : ∀ m n, Planning.Agree (Plan.Agree scope exact)
      (p.simplified.planNode (p.simplified.planWithin m) c x.simplify)
      (p.plain.planNode (p.plain.planWithin n) c x)) : p.AgreesOn scope exact c x := by
  intro m n
  cases m with
  | zero => exact .throw_left _
  | succ m =>
      cases n with
      | zero => exact .throw_right _
      | succ n => exact h m n

private theorem agreesOn_of_simple {x : Pattern} (hx : x.simpler? = none)
    (h : ∀ m n, Planning.Agree (Plan.Agree scope exact)
      (p.simplified.planNode (p.simplified.planWithin m) c x)
      (p.plain.planNode (p.plain.planWithin n) c x)) : p.AgreesOn scope exact c x := by
  refine agreesOn_of_planNode fun m n => ?_
  rw [Pattern.simplify_of_none hx]
  exact h m n

private theorem agreesOn_regex {test : TokenTest} (hflags : test.FlaggedOnce) (hsize : p.LiteralCompiles c test) :
    p.AgreesOn scope exact c (.regex test) := by
  refine agreesOn_of_planNode fun m n => ?_
  have hresolved : p.simplified.planNode (p.simplified.planWithin m) c (Pattern.regex test).simplify =
      MonadLiftT.monadLift (p.planResolved c test) := by
    rw [Pattern.simplify_regex, planResolved]
    split
    · rw [planNode_term]
    · rw [planNode_regex, planRegex_simplified]
  rw [hresolved, planNode_regex, planRegex_plain]
  exact Planning.Agree.liftM_liftM fun a b ha hb => .of_hits_eq (hits_planResolved hflags hsize ha hb)

private theorem agreesOn_leaf {x : Pattern} (hx : x.simpler? = none)
    (h : ∀ m n, p.simplified.planNode (p.simplified.planWithin m) c x =
      p.plain.planNode (p.plain.planWithin n) c x) : p.AgreesOn scope exact c x := by
  refine agreesOn_of_simple hx fun m n => ?_
  rw [h m n]
  exact (Planning.Agree.refl _).imp fun a b hab => hab ▸ Plan.Agree.refl a

private theorem planConnective_ne (connective : Connective) : planConnective connective ≠ .relationAnd := by
  cases connective <;> decide

private theorem agreesOn_join {connective : Connective} {clauses : List Pattern}
    (h : ∀ x ∈ clauses, p.AgreesOn scope exact c x) : p.AgreesOn scope exact c (.join connective clauses) := by
  have hjoin : ∀ m n, Planning.Agree (Plan.Agree scope exact)
      (p.simplified.planNode (p.simplified.planWithin m) c (.join connective clauses))
      (p.plain.planNode (p.plain.planWithin n) c (.join connective clauses)) := by
    intro m n
    refine (Planning.Agree.mapM fun x hx => h x hx m n).map fun ps qs hclauses => ?_
    exact Plan.Agree.join (fun hrand => absurd hrand (planConnective_ne connective)) hclauses
  match clauses with
  | [] => exact agreesOn_of_simple rfl hjoin
  | x :: y :: rest => exact agreesOn_of_simple rfl hjoin
  | [x] =>
      intro m n
      cases n with
      | zero => exact .throw_right _
      | succ n =>
          have hplain : p.plain.planWithin (n + 1) c (.join connective [x]) = (do
              let q ← p.plain.planWithin n c x
              return .join (planConnective connective) [q]) := by
            rw [planWithin_plain, planNode]
            simp only [List.mapM_cons, List.mapM_nil, pure_bind, bind_assoc]
          rw [planWithin_congr (Pattern.simplify_of_some rfl), hplain]
          refine (h x List.mem_cons_self m n).map_right fun a b hab => ?_
          exact hab.trans (.of_hits_eq (Plan.hits_join_singleton _ b).symm)

private theorem planWithin_notNot (p : Planner) (depth : Nat) (c : Context) (x : Pattern) :
    p.plain.planWithin (depth + 2) c (.modify .not (.modify .not x)) = (do
      let q ← p.plain.planWithin depth c x
      return .modify (.not c.fieldName) (.modify (.not c.fieldName) q)) := by
  rw [planWithin_plain, planNode, planModifier, planWithin_plain, planNode, planModifier]
  simp only [pure_bind, bind_assoc]

private theorem agreesOn_notNot {x : Pattern} (h : p.AgreesOn scope exact c x)
    (htokens : p.FindsTokens scope exact c x) :
    p.AgreesOn scope exact c (.modify .not (.modify .not x)) := by
  intro m n
  match n with
  | 0 => exact .throw_right _
  | 1 => exact .throw_right _
  | n + 2 =>
      rw [planWithin_congr (Pattern.simplify_of_some rfl), planWithin_notNot]
      refine ((h m n).and_yields (Planning.Yields.trivial _) (htokens n)).map_right ?_
      rintro a b ⟨hab, -, hb⟩
      exact hab.trans (Plan.Agree.not_not hb)

private theorem simpler?_not {x : Pattern} (h : ∀ y, x ≠ .modify .not y) : (Pattern.modify .not x).simpler? = none := by
  unfold Pattern.simpler?
  split
  all_goals simp_all

private theorem simpler?_repeated {min max : UInt32} {x : Pattern} (h : x ≠ .anyToken 1 1) :
    (Pattern.modify (.repeated min max) x).simpler? = none := by
  unfold Pattern.simpler?
  split
  all_goals simp_all

private theorem agreesOn_modified {m : Modifier} {planned : PlanModifier} {x : Pattern}
    (hx : (Pattern.modify m x).simpler? = none)
    (hplan : ∀ (q : Planner) (below : PlansBelow),
      q.planModifier below c x m = (do let a ← below c x; return .modify planned a))
    (h : p.AgreesOn scope (Hit.Agree.below exact planned) c x) :
    p.AgreesOn scope exact c (.modify m x) := by
  refine agreesOn_of_simple hx fun m n => ?_
  rw [planNode, planNode, hplan, hplan]
  exact (h m n).map fun a b hab => hab.modify

private theorem agreesOn_repeated {min max : UInt32} {x : Pattern} (h : p.AgreesOn scope exact c x) :
    p.AgreesOn scope exact c (.modify (.repeated min max) x) := by
  by_cases hx : x = .anyToken 1 1
  · subst hx
    refine agreesOn_of_planNode fun m n => ?_
    rw [Pattern.simplify_of_some rfl, Pattern.simplify_of_none rfl]
    cases n with
    | zero => exact .throw_right _
    | succ n => exact .pure (.of_hits_eq (Plan.hits_repeated_anyToken c.fieldName min max).symm)
  · exact agreesOn_modified (simpler?_repeated hx) (fun _ _ => rfl) h

theorem exists_of_planConstrained {clause plan : Plan} {filter : Filter}
    (h : p.planConstrained c clause filter = .ok plan) :
    ∃ reading, Constraint.ofFilter c p.extensions.predicates filter = .ok reading ∧
      plan = .modify (.constrained reading.constraint c.fieldName reading.layers) clause := by
  unfold planConstrained at h
  dsimp only at h
  split at h
  · cases h
  · obtain ⟨reading, hreading, h⟩ := Result.bind_eq_ok.1 h
    exact ⟨reading, hreading, (Except.ok.inj h).symm⟩

private theorem agreesOn_constrained {filter : Filter} {x : Pattern} (h : p.AgreesOn scope true c x) :
    p.AgreesOn scope exact c (.modify (.constrained filter) x) := by
  refine agreesOn_of_simple rfl fun m n => ?_
  refine (h m n).bind fun a b hab => Planning.Agree.liftM_liftM fun a' b' ha hb => ?_
  obtain ⟨reading, hreading, rfl⟩ := exists_of_planConstrained ha
  obtain ⟨reading', hreading', rfl⟩ := exists_of_planConstrained hb
  obtain rfl := Except.ok.inj (hreading.symm.trans hreading')
  refine Plan.Agree.modify ?_
  exact hab

private theorem agreesOn_version {name : String} {x : Pattern}
    (h : ∀ d, c.inVersion (some name) = .ok d → p.AgreesOn scope exact d x) :
    p.AgreesOn scope exact c (.modify (.version name) x) := by
  refine agreesOn_of_simple rfl fun m n => ?_
  refine (Planning.Agree.liftM _).bind ?_
  rintro d _ ⟨rfl, hd⟩
  exact h d hd m n

private theorem agreesOn_modify {m : Modifier} {x : Pattern} (hnot : m ≠ .not) (hversion : ∀ name, m ≠ .version name)
    (h : p.AgreesOn scope (m.below exact) c x) : p.AgreesOn scope exact c (.modify m x) := by
  cases m with
  | not => exact absurd rfl hnot
  | repeated min max => exact agreesOn_repeated h
  | expanded direction min max => exact agreesOn_modified rfl (fun _ _ => rfl) h
  | filteredNGrams operation min max => exact agreesOn_modified rfl (fun _ _ => rfl) h
  | capture name => exact agreesOn_modified rfl (fun _ _ => rfl) h
  | constrained filter => exact agreesOn_constrained h
  | edge trailing => exact agreesOn_modified rfl (fun _ _ => rfl) h
  | version name => exact absurd rfl (hversion name)
  | settings values => exact agreesOn_of_simple rfl fun m n => h m n

private theorem agreesOn_positionFilter {test : PositionTest} {producer filter : Pattern}
    (hproducer : p.AgreesOn scope exact c producer)
    (hfilter : p.AgreesOn scope (exact && !test.inverted) c filter) :
    p.AgreesOn scope exact c (.positionFilter test producer filter) := by
  refine agreesOn_of_simple rfl fun m n => ?_
  refine (hproducer m n).bind fun a b hab => ?_
  exact (hfilter m n).map fun a' b' hab' => hab.positionFilter hab'

/-! ### Relations and calls -/

private theorem AgreesOn.and_leftOut {idle : String → Prop} {x : Pattern} (h : p.AgreesOn scope exact c x)
    (hout : p.LeftOutAlike c x idle) (m n : Nat) :
    Planning.Agree (fun a b => Plan.Agree scope exact a b ∧ Plan.LeftOutAlike idle a b)
      (p.simplified.planWithin m c x) (p.plain.planWithin n c x) := by
  intro names r s hr hs
  obtain ⟨hnames, hagree⟩ := h m n names r s hr hs
  exact ⟨hnames, hagree, hout m n names r s hr hs⟩

private theorem targetsAgree {head : RelationHead} {target : Pattern}
    (h : ∀ source d, RelationContexts c head source d →
      p.AgreesOn scope (exact || !head.operator.alignment) d target.fillDefault)
    (hout : p.TargetLeftOutAlike scope c head target) (m n : Nat) :
    TargetsAgree scope exact (p.simplified.planWithin m) (p.plain.planWithin n) c head target := by
  intro source d hcontexts
  cases halign : head.operator.alignment with
  | true =>
      have hd := h source d hcontexts
      rw [halign] at hd
      exact (hd m n).imp fun a b hab => ⟨hab, nofun⟩
  | false =>
      have hd := h source d hcontexts
      rw [halign] at hd
      exact (hd.and_leftOut (hout halign source d hcontexts) m n).imp fun a b hab => ⟨hab.1, fun _ => hab.2⟩

private theorem agreesOn_relationTarget {head : RelationHead} {target : Pattern}
    (h : ∀ source d, RelationContexts c head source d → p.AgreesOn scope true d target.fillDefault)
    (hout : p.TargetLeftOutAlike scope c head target) :
    p.AgreesOn scope exact c (.relationTarget head target) := by
  refine agreesOn_of_simple rfl fun m n => ?_
  have htarget : TargetsAgree scope true (p.simplified.planWithin m) (p.plain.planWithin n) c head target :=
    targetsAgree h hout m n
  exact (agree_planSingleRelation htarget).imp fun a b hab => hab.weaken

private theorem agreesOn_relationMatch {parent : Pattern} {targets : List (RelationHead × Pattern)}
    (hparent : p.AgreesOn scope true c parent) (hparentOut : p.ParentLeftOutAlike scope c parent targets)
    (h : ∀ t ∈ targets, ∀ source d, RelationContexts c t.1 source d →
      p.AgreesOn scope (exact || !t.1.operator.alignment) d t.2.fillDefault)
    (hout : ∀ t ∈ targets, p.TargetLeftOutAlike scope c t.1 t.2) :
    p.AgreesOn scope exact c (.relationMatch parent targets) := by
  refine agreesOn_of_simple rfl fun m n => ?_
  refine (hparent.and_leftOut hparentOut m n).bind fun a b hab => ?_
  refine agree_planRelations hab.1 ?_ fun t ht => targetsAgree (h t ht) (hout t ht) m n
  rcases hab.2 with halike | ⟨parentField, ha, hidle⟩
  · exact .inl halike
  · exact .inr ⟨parentField, ha, hidle n⟩

private theorem agreesOn_rootRelations {targets : List (RelationHead × Pattern)}
    (h : ∀ t ∈ targets, ∀ source d, RelationContexts c t.1 source d →
      p.AgreesOn scope (exact || !t.1.operator.alignment) d t.2.fillDefault)
    (hout : ∀ t ∈ targets, p.TargetLeftOutAlike scope c t.1 t.2) :
    p.AgreesOn scope exact c (.rootRelations targets) := by
  refine agreesOn_of_simple rfl fun m n => ?_
  exact agree_planRelations (.refl _) (.inl rfl) fun t ht => targetsAgree (h t ht) (hout t ht) m n

private theorem agreesOn_call (hfunctions : p.extensions.Respectful) {name : String}
    {arguments : List (Argument Pattern)} (h : ∀ x, .pattern x ∈ arguments → p.AgreesOn scope true c x)
    (hout : ∀ x, .pattern x ∈ arguments → p.LeftOutAlike c x fun _ => False) :
    p.AgreesOn scope exact c (.call name arguments) := by
  refine agreesOn_of_simple rfl fun m n => ?_
  have hcall : Planning.Agree (Plan.Agree scope true)
      (p.planCall (p.simplified.planWithin m) c name arguments)
      (p.planCall (p.plain.planWithin n) c name arguments) := by
    refine agree_planCall hfunctions fun x hx => ?_
    refine ((h x hx).and_leftOut (hout x hx) m n).imp fun a b hab => ⟨hab.1, ?_⟩
    rcases hab.2 with halike | ⟨-, -, hfalse⟩
    · exact halike
    · exact hfalse.elim
  exact hcall.imp fun a b hab => hab.weaken

private theorem agreesOn_of_harmless (hfunctions : p.extensions.Respectful) {x : Pattern}
    (h : p.Harmless scope exact c x) : p.AgreesOn scope exact c x := by
  induction h with
  | term test => exact agreesOn_leaf rfl fun _ _ => rfl
  | regex hflags hsize => exact agreesOn_regex hflags hsize
  | anyToken min max => exact agreesOn_leaf rfl fun _ _ => rfl
  | fixedSpan span => exact agreesOn_leaf rfl fun _ _ => rfl
  | tags tag => exact agreesOn_leaf rfl fun _ _ => planTags_simplified p _ tag
  | defaultValue => exact agreesOn_leaf rfl fun _ _ => rfl
  | join _ ih => exact agreesOn_join ih
  | notNot _ htokens ih => exact agreesOn_notNot ih htokens
  | not hnot _ ih => exact agreesOn_modified (simpler?_not hnot) (fun _ _ => rfl) ih
  | version _ ih => exact agreesOn_version ih
  | modify hnot hversion _ ih => exact agreesOn_modify hnot hversion ih
  | positionFilter _ _ ihproducer ihfilter => exact agreesOn_positionFilter ihproducer ihfilter
  | relationTarget _ hout ih => exact agreesOn_relationTarget ih hout
  | relationMatch _ hparentOut _ hout ihparent ihtargets =>
      exact agreesOn_relationMatch ihparent hparentOut ihtargets hout
  | rootRelations _ hout ih => exact agreesOn_rootRelations ih hout
  | call _ hout ih => exact agreesOn_call hfunctions ih hout

/-! ### Searching -/

private theorem agree_of_plan {x : Pattern} (h : p.AgreesOn scope exact c x) {a b : Plan}
    (ha : p.simplified.plan c x = .ok a) (hb : p.plain.plan c x = .ok b) : Plan.Agree scope exact a b := by
  obtain ⟨r, hr, ha⟩ := Result.bind_eq_ok.1 ha
  obtain ⟨s, hs, hb⟩ := Result.bind_eq_ok.1 hb
  obtain rfl := Except.ok.inj ha
  obtain rfl := Except.ok.inj hb
  exact (h _ _ _ r s hr hs).2

end Planner

/-- The hits that two plans have in one document: on the same spans, or missing for the same reason. -/
def DocumentHits.Agree (a b : DocumentHits) : Prop :=
  a.document = b.document ∧ Result.Agree Hit.SameSpans a.hits b.hits

private theorem Index.search_agree {index : Index} {field : String} {a b : Plan}
    (h : ∀ d ∈ index.documents, d.contains field = true → Plan.Agree ⟨d, index.predicates⟩ false a b) :
    List.Forall₂ DocumentHits.Agree (index.search a field) (index.search b field) := by
  unfold Index.search
  generalize hstart : (0 : Nat) = start
  clear hstart
  generalize index.documents = documents at h
  induction documents generalizing start with
  | nil => exact .nil
  | cons d documents ih =>
      have hrest := ih (start + 1) fun e he => h e (List.mem_cons_of_mem _ he)
      simp only [List.zipIdx_cons, List.filterMap_cons]
      by_cases hfield : d.contains field = true
      · simp only [if_pos hfield]
        refine .cons ⟨rfl, ?_⟩ hrest
        exact (h d List.mem_cons_self hfield).imp fun _ _ _ _ hab => hab.1
      · simp only [if_neg hfield]
        exact hrest

namespace Planner

/--
Searching with and without simplifying finds the same spans in every document of an index in which the pattern is
harmless, and fails for the same reason where it fails.
-/
theorem search_simplified_agrees {p : Planner} (hfunctions : p.extensions.Respectful) {c : Context} {x : Pattern}
    {a b : Plan} (ha : p.simplified.plan c x = .ok a) (hb : p.plain.plan c x = .ok b) {index : Index}
    {field : String}
    (h : ∀ d ∈ index.documents, d.contains field = true → p.Harmless ⟨d, index.predicates⟩ false c x) :
    List.Forall₂ DocumentHits.Agree (index.search a field) (index.search b field) :=
  Index.search_agree fun d hd hfield => agree_of_plan (agreesOn_of_harmless hfunctions (h d hd hfield)) ha hb

/-- Three words, the first two of them marked up. -/
def quickFox : Document :=
  let content := FieldContent.empty.withValues "word" ["The", "quick", "Fox"]
  NameMap.empty.insert "contents" (content.withTag ⟨"s", ⟨0, 2⟩, NameMap.empty⟩)

private theorem quickFox_fits : quickFox.Fits "contents" := by
  intro content hcontent
  obtain rfl := Option.some.inj hcontent
  decide

def wordContext : Context :=
  ⟨⟨NameMap.empty.insert "contents" ⟨true, NameMap.empty⟩⟩, "contents", none, "word", .insensitive, false,
    FieldName.anyClass⟩

def standard : Planner := ⟨Extensions.standard, Limits.standard, true⟩

/-- A flagged word in a join of its own, negated twice. -/
theorem search_simplified_agrees_quickFox :
    standard.simplified.plan wordContext
        (.join .and [.modify .not (.modify .not (.regex ⟨"(?-i)Fox", none, none⟩))]) =
      .ok (.term "contents%word@s" "Fox") ∧
    standard.plain.plan wordContext
        (.join .and [.modify .not (.modify .not (.regex ⟨"(?-i)Fox", none, none⟩))]) =
      .ok (.join .and
        [.modify (.not "contents") (.modify (.not "contents") (.regex "contents%word@s" "Fox"))]) ∧
    List.Forall₂ DocumentHits.Agree
      (Index.search ⟨[quickFox], NameMap.empty⟩ (.term "contents%word@s" "Fox") "contents")
      (Index.search ⟨[quickFox], NameMap.empty⟩ (.join .and
        [.modify (.not "contents") (.modify (.not "contents") (.regex "contents%word@s" "Fox"))])
        "contents") := by
  have hsimplified : standard.simplified.plan wordContext
      (.join .and [.modify .not (.modify .not (.regex ⟨"(?-i)Fox", none, none⟩))]) =
    .ok (.term "contents%word@s" "Fox") := by rfl
  have hplain : standard.plain.plan wordContext
      (.join .and [.modify .not (.modify .not (.regex ⟨"(?-i)Fox", none, none⟩))]) =
    .ok (.join .and
      [.modify (.not "contents") (.modify (.not "contents") (.regex "contents%word@s" "Fox"))]) := by rfl
  have hregex : standard.planRegex wordContext ⟨"(?-i)Fox", none, none⟩ =
      .ok (.regex "contents%word@s" "Fox") := by rfl
  have hcompiles : (compileExpression "Fox").isOk = true := by decide +kernel
  have hsize : standard.LiteralCompiles wordContext ⟨"(?-i)Fox", none, none⟩ := by
    intro _ field expression h
    rw [hregex] at h
    cases h
    cases hfox : compileExpression "Fox" with
    | error e => rw [hfox] at hcompiles; cases hcompiles
    | ok core => exact ⟨core, rfl⟩
  refine ⟨hsimplified, hplain, search_simplified_agrees Extensions.respectful_standard hsimplified hplain ?_⟩
  rintro d hd -
  rw [List.mem_singleton.1 hd]
  refine .join fun x hx => ?_
  rw [List.mem_singleton.1 hx]
  exact .notNot (.regex rfl hsize) (findsTokens_of_oneToken (.regex _) (by decide) quickFox_fits)

/-- A harmless clause that is negated twice keeps its spans exactly if its hits are tokens. -/
theorem agree_notNot_iff {p : Planner} (hfunctions : p.extensions.Respectful) {scope : SearchScope}
    {c : Context} {x : Pattern} (hx : p.Harmless scope false c x) {a b : Plan}
    (ha : p.simplified.plan c (.modify .not (.modify .not x)) = .ok a)
    (hb : p.plain.plan c (.modify .not (.modify .not x)) = .ok b) :
    ∃ q, b = .modify (.not c.fieldName) (.modify (.not c.fieldName) q) ∧
      (Plan.Agree scope false a b ↔ ∀ hs, scope.hits q = .ok hs →
        ∀ h ∈ hs, Hit.IsToken (scope.document.size c.fieldName) h.span) := by
  obtain ⟨r, hr, ha⟩ := Result.bind_eq_ok.1 ha
  obtain ⟨s, hs, hb⟩ := Result.bind_eq_ok.1 hb
  obtain rfl := Except.ok.inj ha
  obtain rfl := Except.ok.inj hb
  have hlimits : p.plain.limits = p.simplified.limits := rfl
  rw [hlimits] at hs
  match hdepth : p.simplified.limits.patternDepth with
  | 0 => rw [hdepth] at hs; cases hs
  | 1 => rw [hdepth] at hs; cases hs
  | depth + 2 =>
      rw [hdepth, planWithin_notNot] at hs
      obtain ⟨t, ht, hs⟩ := Planning.run_bind_eq_ok.1 hs
      obtain rfl := Except.ok.inj hs
      rw [planWithin_congr (Pattern.simplify_of_some rfl)] at hr
      have hat := (agreesOn_of_harmless hfunctions hx _ _ _ r t hr ht).2
      refine ⟨t.1, rfl, ?_⟩
      rw [← Plan.agree_not_not_iff]
      constructor
      · exact fun h => hat.symm.trans h
      · exact fun h => hat.trans h

theorem not_agree_notNot_quickFox :
    let markup := Plan.tags ⟨"contents%_relation@s", "(__tag)::(s)", NameMap.empty, .fullTag, "s"⟩
    standard.simplified.plan wordContext
        (.modify .not (.modify .not (.tags ⟨"s", NameMap.empty, .fullTag, none⟩))) = .ok markup ∧
    standard.plain.plan wordContext
        (.modify .not (.modify .not (.tags ⟨"s", NameMap.empty, .fullTag, none⟩))) =
      .ok (.modify (.not "contents") (.modify (.not "contents") markup)) ∧
    ¬Plan.Agree ⟨quickFox, NameMap.empty⟩ false markup
      (.modify (.not "contents") (.modify (.not "contents") markup)) := by
  intro markup
  refine ⟨by rfl, by rfl, fun h => ?_⟩
  have hfound : SearchScope.hits ⟨quickFox, NameMap.empty⟩ markup =
      .ok [(Hit.ofSpan ⟨0, 2⟩).withCapture "s" (.span ⟨0, 2⟩)] := by decide +kernel
  obtain ⟨p, hp, hspan⟩ := Plan.agree_not_not_iff.1 h _ hfound _ List.mem_cons_self
  have hsize : Document.size quickFox "contents" = 3 := by decide
  rw [hsize] at hp
  have hp : p = 0 ∨ p = 1 ∨ p = 2 := by omega
  rcases hp with rfl | rfl | rfl
  all_goals cases hspan

end Planner

end CorpusSearch
