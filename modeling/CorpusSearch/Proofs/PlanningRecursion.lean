import CorpusSearch.Proofs.NestingLimit
import CorpusSearch.Proofs.PatternWalk

/-!
The recursion of planning, without what bounds it in its definition. A step of planning asks for the plan of what a rule
makes of its node, or for the plans of the parts of the node one level deeper; neither need be a part of the pattern as
it is written. Main statement: the rules come to an end after at most as many steps as the pattern has nodes, and
planning after at most twice as many steps below each other; so there is just one way to plan a pattern.
-/

set_option autoImplicit false

namespace CorpusSearch

/-! ### Rules -/

namespace TokenTest

/-- The rule for expressions, from itself: one flag is taken off, and what is left is looked at again. -/
def simplerRegexStep (simpler? : TokenTest → Option Pattern) (test : TokenTest) : Option Pattern :=
  match Text.splitForcedSensitivity test.value with
  | (some s, rest) =>
    let unflagged : TokenTest := { test with value := rest, sensitivity := some s }
    some ((simpler? unflagged).getD (.regex unflagged))
  | (none, _) => if Text.isAlphanumeric test.value then some (.term test) else none

private theorem simplerRegexStep_simplerRegex? : simplerRegexStep simplerRegex? = simplerRegex? := by
  funext test
  have hrule : ∀ test : TokenTest, test.simplerRegex? = if Text.isAlphanumeric test.resolved.value then
      some (.term test.resolved) else if test.resolved = test then none else some (.regex test.resolved) := fun _ => rfl
  rw [simplerRegexStep, hrule test]
  split
  · rename_i s rest hsplit
    have hne : test.resolved ≠ test := by
      intro hsame
      have hflags := split_resolveFlags test test.value.length (Nat.le_refl _)
      rw [← resolved, hsame, hsplit] at hflags
      cases hflags
    rw [if_neg hne, resolved_of_some hsplit]
    dsimp only
    rw [hrule]
    split
    · rfl
    · split
      · rename_i hsame
        rw [Option.getD_none, hsame]
      · rfl
  · rename_i rest hsplit
    have hsame : test.resolved = test := resolveFlags_of_none hsplit _
    rw [hsame, if_pos rfl]

private theorem simplerRegexStep_eq_iff {simpler? : TokenTest → Option Pattern} :
    simplerRegexStep simpler? = simpler? ↔ simpler? = simplerRegex? := by
  constructor
  · intro h
    funext test
    induction hlength : test.value.length using Nat.strong_induction_on generalizing test with
    | h length ih =>
        rw [← h, ← simplerRegexStep_simplerRegex?, simplerRegexStep, simplerRegexStep]
        split
        · rename_i s rest hsplit
          have hrest := ih _ (hlength ▸ Text.length_of_splitForcedSensitivity hsplit)
            { test with value := rest, sensitivity := some s } rfl
          dsimp only
          rw [hrest]
        · rfl
  · rintro rfl
    exact simplerRegexStep_simplerRegex?

end TokenTest

namespace Pattern

/-- A pattern that comes out of another one by so many rules, one after the other. -/
inductive SimplifiesIn : Nat → Pattern → Pattern → Prop
  | zero (x : Pattern) : SimplifiesIn 0 x x
  | succ {n : Nat} {x y z : Pattern} (h : x.simpler? = some y) (hy : SimplifiesIn n y z) : SimplifiesIn (n + 1) x z

variable {x y : Pattern} {n : Nat}

private theorem length_walk (x : Pattern) : x.walk.length = x.size := by
  induction x using children_induction with
  | step x ih =>
      have hparts : ∀ {ys : List Pattern}, (∀ y ∈ ys, y.walk.length = y.size) →
          (ys.flatMap walk).length = sizeAll ys := by
        intro ys h
        induction ys with
        | nil => rfl
        | cons y ys ihs =>
            obtain ⟨hy, hys⟩ := List.forall_mem_cons.1 h
            rw [List.flatMap_cons, List.length_append, hy, ihs hys, sizeAll]
      rw [walk_eq, List.length_cons, hparts ih, size_eq]

private theorem size_lt_or_of_simpler? (h : x.simpler? = some y) :
    y.size < x.size ∨ y.size ≤ x.size ∧ y.simpler? = none := by
  rcases leaf_or_lt_of_simpler? h with hleaf | ⟨hlt, -⟩
  · rcases size_of_simpler? h with hlt | hnone
    · exact .inl hlt
    · have hone : y.size = 1 := by rw [size_eq, hleaf, sizeAll]
      exact .inr ⟨hone ▸ x.size_pos, hnone⟩
  · exact .inl hlt

private theorem SimplifiesIn.le_size (h : SimplifiesIn n x y) : n ≤ x.size := by
  induction h with
  | zero x => exact Nat.zero_le _
  | @succ n x y z hsimpler hrest ih =>
      rcases size_lt_or_of_simpler? hsimpler with hlt | ⟨-, hnone⟩
      · omega
      · cases hrest with
        | zero => exact x.size_pos
        | succ hagain _ =>
            rw [hnone] at hagain
            cases hagain

private theorem exists_simplifiesIn_simplify (x : Pattern) :
    (∃ n, SimplifiesIn n x x.simplify) ∧ x.simplify.simpler? = none := by
  induction hsize : x.size using Nat.strong_induction_on generalizing x with
  | h size ih =>
      cases hy : x.simpler? with
      | none =>
          rw [simplify_of_none hy]
          exact ⟨⟨0, .zero x⟩, hy⟩
      | some y =>
          rw [simplify_of_some hy]
          rcases size_lt_or_of_simpler? hy with hlt | ⟨-, hnone⟩
          · obtain ⟨⟨n, hrest⟩, hsimplest⟩ := ih y.size (hsize ▸ hlt) y rfl
            exact ⟨⟨n + 1, .succ hy hrest⟩, hsimplest⟩
          · rw [simplify_of_none hnone]
            exact ⟨⟨1, .succ hy (.zero y)⟩, hnone⟩

end Pattern

namespace Planner

variable {p : Planner} {c : Context} {x y : Pattern}

/-! ### One step -/

/-- What a rule makes of a pattern, where patterns are simplified. -/
def simpler? (p : Planner) (x : Pattern) : Option Pattern := if p.simplifying then x.simpler? else none

/--
One step of planning, from the plans that it asks for. A rule leaves the level at which a node is planned; the level
is only counted, and checked, where no rule applies.
-/
def planStep (p : Planner) (plans : Nat → PlansBelow) (depth : Nat) (c : Context) (x : Pattern) : Planning Plan :=
  match p.simpler? x, depth with
  | some y, depth => plans depth c y
  | none, 0 => throw (.patternTooLarge (.patternDepth p.limits.patternDepth))
  | none, depth + 1 => p.planNode (plans depth) c x

/-- Steps of planning, so many below each other; what is asked for below these is planned in another way. -/
def planSteps (p : Planner) (deeper : Nat → PlansBelow) : Nat → Nat → PlansBelow
  | 0 => deeper
  | n + 1 => p.planStep (p.planSteps deeper n)

/-- The patterns whose plans a step of planning asks for. -/
inductive StepsTo (p : Planner) (x : Pattern) : Pattern → Prop
  | simpler {y : Pattern} (h : p.simpler? x = some y) : StepsTo p x y
  | part {y : Pattern} (h : p.simpler? x = none) (hy : y ∈ x.plannedParts) : StepsTo p x y

def stepBound (p : Planner) (x : Pattern) : Nat :=
  match p.simpler? x with
  | some _ => 2 * x.size
  | none => 2 * x.size - 1

private theorem stepBound_le (p : Planner) (x : Pattern) : p.stepBound x ≤ 2 * x.size := by
  rw [stepBound]
  split
  · exact Nat.le_refl _
  · exact Nat.sub_le _ _

private theorem stepBound_pos (p : Planner) {x : Pattern} : 0 < p.stepBound x := by
  have hx := x.size_pos
  rw [stepBound]
  split
  · omega
  · omega

private theorem stepBound_of_none (h : p.simpler? x = none) : p.stepBound x = 2 * x.size - 1 := by rw [stepBound, h]

private theorem simpler?_of_some (h : p.simpler? x = some y) : p.simplifying = true ∧ x.simpler? = some y := by
  rw [simpler?] at h
  split at h
  · exact ⟨‹_›, h⟩
  · cases h

private theorem simpler?_of_none (h : x.simpler? = none) : p.simpler? x = none := by rw [simpler?, h, ite_self]

private theorem StepsTo.stepBound_lt (h : p.StepsTo x y) : p.stepBound y < p.stepBound x := by
  have hle := p.stepBound_le y
  have hy := y.size_pos
  cases h with
  | simpler h =>
      have hx : p.stepBound x = 2 * x.size := by rw [stepBound, h]
      rcases Pattern.size_lt_or_of_simpler? (simpler?_of_some h).2 with hlt | ⟨hsize, hnone⟩
      · omega
      · have hlast := stepBound_of_none (p := p) (simpler?_of_none hnone)
        omega
  | part h hpart =>
      have hx := stepBound_of_none h
      have hlt := Pattern.size_lt_of_mem_plannedParts hpart
      omega

/-! ### What a step depends on -/

section Below

variable {below below' : PlansBelow}

private theorem planTarget_congr {target : Pattern} (h : ∀ d, below d target.fillDefault = below' d target.fillDefault)
    (source : Context) (head : RelationHead) :
    planTarget below source head target = planTarget below' source head target := by
  simp only [planTarget, h]

private theorem planRelation_congr {target : Pattern}
    (h : ∀ d, below d target.fillDefault = below' d target.fillDefault)
    (head : RelationHead) : planRelation below c head target = planRelation below' c head target := by
  simp only [planRelation, planTarget_congr h]

private theorem planAlignment_congr {target : Pattern}
    (h : ∀ d, below d target.fillDefault = below' d target.fillDefault)
    (head : RelationHead) : planAlignment below c head target = planAlignment below' c head target := by
  simp only [planAlignment, planTarget_congr h]

private theorem planParts_congr {targets : List (RelationHead × Pattern)}
    (h : ∀ t ∈ targets, ∀ d, below d t.2.fillDefault = below' d t.2.fillDefault) :
    planParts below c targets = planParts below' c targets := by
  induction targets with
  | nil => rfl
  | cons t targets ih =>
      obtain ⟨ht, hrest⟩ := List.forall_mem_cons.1 h
      rw [planParts, planParts, planAlignment_congr ht, planRelation_congr ht, ih hrest]

private theorem planRelations_congr {targets : List (RelationHead × Pattern)}
    (h : ∀ t ∈ targets, ∀ d, below d t.2.fillDefault = below' d t.2.fillDefault) (parent : Plan) :
    planRelations below c parent targets = planRelations below' c parent targets := by
  rw [planRelations, planRelations, planParts_congr h]

private theorem planArgument_congr {a : Argument Pattern}
    (h : ∀ y, a = .pattern y → y ≠ .defaultValue → ∀ d, below d y = below' d y) (function : String)
    (number : Nat) (expected : ArgumentType) :
    planArgument below c function number expected a = planArgument below' c function number expected a := by
  unfold planArgument
  split
  · rfl
  · rename_i y hy
    rw [h y rfl hy]
  · rfl
  · rfl
  · rfl
  · rfl
  · rfl

private theorem planArguments_congr {arguments : List (Argument Pattern)}
    (h : ∀ y, .pattern y ∈ arguments → y ≠ .defaultValue → ∀ d, below d y = below' d y) (f : QueryFunction)
    (function : String) (index : Nat) :
    planArguments below c f function index arguments = planArguments below' c f function index arguments := by
  induction arguments generalizing index with
  | nil => rfl
  | cons a arguments ih =>
      have hfirst : ∀ y, a = .pattern y → y ≠ .defaultValue → ∀ d, below d y = below' d y := by
        rintro y rfl
        exact h y List.mem_cons_self
      have hrest := ih fun y hy => h y (List.mem_cons_of_mem _ hy)
      simp only [planArguments, planArgument_congr hfirst, hrest]

private theorem mapM_congr {clauses : List Pattern} (h : ∀ y ∈ clauses, below c y = below' c y) :
    clauses.mapM (below c) = clauses.mapM (below' c) := by
  induction clauses with
  | nil => rfl
  | cons y clauses ih =>
      obtain ⟨hy, hrest⟩ := List.forall_mem_cons.1 h
      rw [List.mapM_cons, List.mapM_cons, hy, ih hrest]

private theorem planNode_congr (h : ∀ y ∈ x.plannedParts, ∀ d, below d y = below' d y) :
    p.planNode below c x = p.planNode below' c x := by
  cases x with
  | join connective clauses =>
      have hclauses : ∀ y ∈ clauses, below c y = below' c y := fun y hy => h y hy c
      rw [planNode, planNode, mapM_congr hclauses]
  | modify m clause =>
      have hclause : ∀ d, below d clause = below' d clause := h clause List.mem_cons_self
      rw [planNode, planNode]
      cases m with
      | _ => simp only [planModifier, hclause]
  | positionFilter test producer filter =>
      have hproducer := h producer List.mem_cons_self c
      have hfilter := h filter (List.mem_cons_of_mem _ List.mem_cons_self) c
      rw [planNode, planNode, hproducer, hfilter]
  | relationTarget head target =>
      have htarget := h _ List.mem_cons_self
      simp only [planNode, planSingleRelation, planRelation_congr htarget]
  | relationMatch parent targets =>
      have hparent := h parent List.mem_cons_self c
      have htargets : ∀ t ∈ targets, ∀ d, below d t.2.fillDefault = below' d t.2.fillDefault := fun t ht =>
        h _ (List.mem_cons_of_mem _ (List.mem_map_of_mem ht))
      simp only [planNode, hparent, planRelations_congr htargets]
  | rootRelations targets =>
      have htargets : ∀ t ∈ targets, ∀ d, below d t.2.fillDefault = below' d t.2.fillDefault := fun t ht =>
        h _ (List.mem_map_of_mem ht)
      simp only [planNode, planRelations_congr htargets]
  | call name arguments =>
      have harguments : ∀ y, .pattern y ∈ arguments → y ≠ .defaultValue → ∀ d, below d y = below' d y :=
        fun y hy hne => h y (List.mem_filterMap.2 ⟨_, hy, Argument.plannedPart?_pattern hne⟩)
      simp only [planNode, planCall, planArguments_congr harguments]
  | _ => rfl

end Below

/-! ### The whole recursion -/

variable {plans plans' : Nat → PlansBelow}

private theorem planStep_congr (h : ∀ y, p.StepsTo x y → ∀ depth d, plans depth d y = plans' depth d y) (depth : Nat)
    (c : Context) : p.planStep plans depth c x = p.planStep plans' depth c x := by
  unfold planStep
  split
  · exact h _ (.simpler ‹_›) _ c
  · rfl
  · exact planNode_congr fun y hy d => h y (.part ‹_› hy) _ d

private theorem planWithin_of_simpler? (h : p.simpler? x = some y) (depth : Nat) (c : Context) :
    p.planWithin depth c x = p.planWithin depth c y := by
  obtain ⟨hsimplifying, hy⟩ := simpler?_of_some h
  cases depth with
  | zero => rfl
  | succ depth =>
      rw [planWithin, planWithin, if_pos hsimplifying, if_pos hsimplifying, Pattern.simplify_of_some hy]

private theorem prepared_of_simpler?_none (h : p.simpler? x = none) : p.prepared x = x := by
  rw [simpler?] at h
  rw [prepared]
  split at h
  · rw [if_pos ‹_›, Pattern.simplify_of_none h]
  · rw [if_neg ‹_›]

private theorem planStep_planWithin (p : Planner) : p.planStep p.planWithin = p.planWithin := by
  funext depth c x
  cases hx : p.simpler? x with
  | some y => simp only [planStep, hx, planWithin_of_simpler? hx]
  | none =>
      cases depth with
      | zero => simp only [planStep, hx, planWithin]
      | succ depth =>
          simp only [planStep, hx]
          exact congrArg (p.planNode (p.planWithin depth) c) (prepared_of_simpler?_none hx).symm

private theorem planSteps_eq_planWithin (deeper : Nat → PlansBelow) {n : Nat} (h : p.stepBound x ≤ n) (depth : Nat)
    (c : Context) : p.planSteps deeper n depth c x = p.planWithin depth c x := by
  induction n generalizing x depth c with
  | zero => exact absurd p.stepBound_pos (Nat.not_lt.2 h)
  | succ n ih =>
      rw [planSteps, ← p.planStep_planWithin]
      exact planStep_congr (fun y hy => ih (Nat.le_of_lt_succ (hy.stepBound_lt.trans_le h))) depth c

private theorem planSteps_of_planStep (h : p.planStep plans = plans) (n : Nat) : p.planSteps plans n = plans := by
  induction n with
  | zero => rfl
  | succ n ih => rw [planSteps, ih, h]

/--
The rules that apply to a pattern come to an end after at most as many steps as it has nodes, in a pattern to which
none applies; the rule for expressions, which goes on with shorter ones, ends too. Planning ends after at most twice as
many steps below each other as there are nodes: what would come below these does not matter. So planning with a number
of levels is the only way to take these steps.
-/
theorem planning_terminates (p : Planner) (x : Pattern) :
    (∀ n y, Pattern.SimplifiesIn n x y → n ≤ x.walk.length) ∧
      ((∃ n, Pattern.SimplifiesIn n x x.simplify) ∧ x.simplify.simpler? = none) ∧
      (∀ simpler?, TokenTest.simplerRegexStep simpler? = simpler? ↔ simpler? = TokenTest.simplerRegex?) ∧
      (∀ deeper n depth c, 2 * x.walk.length ≤ n → p.planSteps deeper n depth c x = p.planWithin depth c x) ∧
      ∀ plans, p.planStep plans = plans ↔ plans = p.planWithin := by
  rw [x.length_walk]
  refine ⟨fun n y h => h.le_size, x.exists_simplifiesIn_simplify, fun _ => TokenTest.simplerRegexStep_eq_iff,
    fun deeper n depth c h => ?_, fun plans => ?_⟩
  · exact planSteps_eq_planWithin deeper ((p.stepBound_le x).trans h) depth c
  · constructor
    · intro h
      funext depth c y
      rw [← planSteps_eq_planWithin plans (p.stepBound_le y) depth c, planSteps_of_planStep h]
    · rintro rfl
      exact p.planStep_planWithin

end Planner

end CorpusSearch
