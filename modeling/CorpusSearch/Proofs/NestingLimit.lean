import CorpusSearch.Proofs.PlanningErrors
import CorpusSearch.Proofs.SimplifiedSearch
import CorpusSearch.Proofs.VisitedNodes

/-!
How deep patterns may be nested. The limit is checked where a node is planned: what a simplification takes away, and
placeholders among the arguments of a call, are never planned and do not count. Main statement: a pattern is planned
only if what counts of it is nested no deeper than the limit, and then it is not refused for its depth; as it is
written it may be nested deeper.
-/

set_option autoImplicit false

namespace CorpusSearch

/-! ### Levels -/

namespace Pattern

/-- How many levels of parts a pattern has, itself the first one; `fuel` bounds what is counted. -/
def levelsWithin (parts : Pattern → List Pattern) : Nat → Pattern → Nat
  | 0, _ => 0
  | fuel + 1, x => ((parts x).map (levelsWithin parts fuel)).foldr max 0 + 1

/-- How many levels of parts a pattern has, where parts are smaller than what they are parts of. -/
def levels (parts : Pattern → List Pattern) (x : Pattern) : Nat := levelsWithin parts x.size x

def nesting (x : Pattern) : Nat := x.levels children

section Levels

variable {parts : Pattern → List Pattern} (hparts : ∀ x, ∀ y ∈ parts x, y.size < x.size) {x y : Pattern} {n : Nat}

theorem foldr_max_le_iff {ns : List Nat} : ns.foldr max 0 ≤ n ↔ ∀ m ∈ ns, m ≤ n := by
  induction ns with
  | nil => simp
  | cons m ns ih => rw [List.foldr_cons, Nat.max_le, ih, List.forall_mem_cons]

include hparts

private theorem levelsWithin_succ {fuel : Nat} (h : x.size ≤ fuel) :
    levelsWithin parts (fuel + 1) x = levelsWithin parts fuel x := by
  induction fuel generalizing x with
  | zero => exact absurd x.size_pos (Nat.not_lt.2 h)
  | succ fuel ih =>
      have hmap : ∀ y ∈ parts x, levelsWithin parts (fuel + 1) y = levelsWithin parts fuel y := fun y hy =>
        ih (Nat.le_of_lt_succ (Nat.lt_of_lt_of_le (hparts x y hy) h))
      rw [levelsWithin, levelsWithin, List.map_congr_left hmap]

private theorem levelsWithin_eq_levels {fuel : Nat} (h : x.size ≤ fuel) :
    levelsWithin parts fuel x = x.levels parts := by
  induction h with
  | refl => rfl
  | step h ih => rw [levelsWithin_succ hparts h, ih]

private theorem levels_eq (x : Pattern) : x.levels parts = ((parts x).map (levels parts)).foldr max 0 + 1 := by
  obtain ⟨size, hsize⟩ : ∃ size, x.size = size + 1 := Nat.exists_eq_succ_of_ne_zero (Nat.ne_of_gt x.size_pos)
  have hmap : ∀ y ∈ parts x, levelsWithin parts size y = y.levels parts := fun y hy =>
    levelsWithin_eq_levels hparts (Nat.le_of_lt_succ ((hparts x y hy).trans_eq hsize))
  rw [levels, hsize, levelsWithin, List.map_congr_left hmap]

private theorem levels_pos (x : Pattern) : 0 < x.levels parts := by
  rw [levels_eq hparts]
  exact Nat.succ_pos _

private theorem levels_le_succ_iff : x.levels parts ≤ n + 1 ↔ ∀ y ∈ parts x, y.levels parts ≤ n := by
  rw [levels_eq hparts, Nat.add_le_add_iff_right, foldr_max_le_iff, List.forall_mem_map]

private theorem levels_lt_of_mem (h : y ∈ parts x) : y.levels parts < x.levels parts := by
  obtain ⟨n, hn⟩ : ∃ n, x.levels parts = n + 1 := Nat.exists_eq_succ_of_ne_zero (Nat.ne_of_gt (levels_pos hparts x))
  have hle := (levels_le_succ_iff hparts).1 (Nat.le_of_eq hn) y h
  omega

end Levels

/-! ### Levels as written -/

variable {x y : Pattern} {n : Nat}

theorem nesting_pos (x : Pattern) : 0 < x.nesting := levels_pos size_lt_of_mem_children x

theorem nesting_le_succ_iff : x.nesting ≤ n + 1 ↔ ∀ y ∈ x.children, y.nesting ≤ n :=
  levels_le_succ_iff size_lt_of_mem_children

private theorem nesting_lt_of_mem (h : y ∈ x.children) :
    y.nesting < x.nesting := levels_lt_of_mem size_lt_of_mem_children h

private theorem nesting_of_leaf (h : x.children = []) : x.nesting = 1 := by
  refine Nat.le_antisymm (nesting_le_succ_iff.2 ?_) x.nesting_pos
  rw [h]
  exact List.forall_mem_nil _

/-! ### Simplification -/

private theorem simplerRegex?_leaf {test : TokenTest} (h : test.simplerRegex? = some y) : y.children = [] := by
  unfold TokenTest.simplerRegex? at h
  dsimp only at h
  split at h
  · cases h
    rfl
  · split at h
    · cases h
    · cases h
      rfl

theorem leaf_or_lt_of_simpler? (h : x.simpler? = some y) :
    y.children = [] ∨ y.size < x.size ∧ y.nesting < x.nesting := by
  unfold simpler? at h
  split at h
  · exact .inl (simplerRegex?_leaf h)
  · obtain rfl := Option.some.inj h
    refine .inr ⟨?_, (nesting_lt_of_mem List.mem_cons_self).trans (nesting_lt_of_mem List.mem_cons_self)⟩
    rw [size, size]
    omega
  · obtain rfl := Option.some.inj h
    exact .inr ⟨size_lt_of_mem_children _ _ List.mem_cons_self, nesting_lt_of_mem List.mem_cons_self⟩
  · obtain rfl := Option.some.inj h
    exact .inl rfl
  · cases h

private theorem simplifyWithin_le (fuel : Nat) (x : Pattern) :
    (x.simplifyWithin fuel).size ≤ x.size ∧ (x.simplifyWithin fuel).nesting ≤ x.nesting := by
  induction fuel generalizing x with
  | zero => exact ⟨Nat.le_refl _, Nat.le_refl _⟩
  | succ fuel ih =>
      rw [simplifyWithin]
      split
      · rename_i y hy
        obtain ⟨hsize, hnesting⟩ := ih y
        rcases leaf_or_lt_of_simpler? hy with hleaf | ⟨hsize', hnesting'⟩
        · have hone : y.size = 1 := by rw [size_eq, hleaf, sizeAll]
          exact ⟨hsize.trans (hone ▸ x.size_pos), hnesting.trans (nesting_of_leaf hleaf ▸ x.nesting_pos)⟩
        · exact ⟨hsize.trans (Nat.le_of_lt hsize'), hnesting.trans (Nat.le_of_lt hnesting')⟩
      · exact ⟨Nat.le_refl _, Nat.le_refl _⟩

private theorem fillDefault_cases (x : Pattern) : x.fillDefault = x ∨ (x = defaultValue ∧ x.fillDefault = anyNGram) ∨
    ∃ name, x = modify (.capture name) defaultValue ∧ x.fillDefault = modify (.capture name) anyNGram := by
  unfold fillDefault
  split
  · exact .inr (.inl ⟨rfl, rfl⟩)
  · exact .inr (.inr ⟨_, rfl, rfl⟩)
  · exact .inl rfl

private theorem levels_fillDefault {parts : Pattern → List Pattern} (hparts : ∀ x, ∀ y ∈ parts x, y.size < x.size)
    (hleaf : parts defaultValue = [] ∧ parts anyNGram = [])
    (hcapture : ∀ name x, parts (modify (.capture name) x) = [x]) (x : Pattern) :
    x.fillDefault.levels parts = x.levels parts := by
  have hsame : anyNGram.levels parts = defaultValue.levels parts := by
    rw [levels_eq hparts, levels_eq hparts defaultValue, hleaf.1, hleaf.2]
  rcases fillDefault_cases x with h | ⟨rfl, h⟩ | ⟨name, rfl, h⟩
  · rw [h]
  · rw [h, hsame]
  · rw [h, levels_eq hparts, levels_eq hparts (modify _ defaultValue), hcapture, hcapture, List.map_singleton,
      List.map_singleton, hsame]

private theorem nesting_fillDefault (x : Pattern) : x.fillDefault.nesting = x.nesting :=
  levels_fillDefault size_lt_of_mem_children ⟨rfl, rfl⟩ (fun _ _ => rfl) x

private theorem size_fillDefault (x : Pattern) : x.fillDefault.size = x.size := by
  rcases fillDefault_cases x with h | ⟨rfl, h⟩ | ⟨name, rfl, h⟩
  · rw [h]
  · rw [h]
    rfl
  · rw [h]
    rfl

private theorem exists_of_mem_plannedParts (h : y ∈ x.plannedParts) : ∃ z ∈ x.children, y = z ∨ y = z.fillDefault := by
  unfold plannedParts at h
  split at h
  · exact ⟨_, List.mem_cons_self, .inr (List.mem_singleton.1 h)⟩
  · rcases List.mem_cons.1 h with rfl | h
    · exact ⟨_, List.mem_cons_self, .inl rfl⟩
    · obtain ⟨t, ht, rfl⟩ := List.mem_map.1 h
      exact ⟨_, List.mem_cons_of_mem _ (List.mem_map_of_mem ht), .inr rfl⟩
  · obtain ⟨t, ht, rfl⟩ := List.mem_map.1 h
    exact ⟨_, List.mem_map_of_mem ht, .inr rfl⟩
  · obtain ⟨a, ha, hy⟩ := List.mem_filterMap.1 h
    refine ⟨y, List.mem_filterMap.2 ⟨a, ha, ?_⟩, .inl rfl⟩
    unfold Argument.plannedPart? at hy
    split at hy
    · cases hy
    · exact hy
  · exact ⟨y, h, .inl rfl⟩

private theorem exists_mem_plannedParts (hplaceholder : ∀ name arguments, x = call name arguments →
      .pattern defaultValue ∉ arguments) (h : y ∈ x.children) :
    ∃ z ∈ x.plannedParts, z = y ∨ z = y.fillDefault := by
  cases x with
  | relationTarget head target =>
      obtain rfl := List.mem_singleton.1 h
      exact ⟨_, List.mem_cons_self, .inr rfl⟩
  | relationMatch parent targets =>
      rcases List.mem_cons.1 h with rfl | h
      · exact ⟨_, List.mem_cons_self, .inl rfl⟩
      · obtain ⟨t, ht, rfl⟩ := List.mem_map.1 h
        exact ⟨_, List.mem_cons_of_mem _ (List.mem_map_of_mem ht), .inr rfl⟩
  | rootRelations targets =>
      obtain ⟨t, ht, rfl⟩ := List.mem_map.1 h
      exact ⟨_, List.mem_map_of_mem ht, .inr rfl⟩
  | call name arguments =>
      obtain ⟨a, ha, hy⟩ := List.mem_filterMap.1 h
      cases a with
      | pattern z =>
          obtain rfl := Option.some.inj hy
          refine ⟨_, List.mem_filterMap.2 ⟨_, ha, Argument.plannedPart?_pattern ?_⟩, .inl rfl⟩
          rintro rfl
          exact hplaceholder name arguments rfl ha
      | text value => cases hy
      | number value => cases hy
  | _ => exact ⟨y, h, .inl rfl⟩

theorem size_lt_of_mem_plannedParts (h : y ∈ x.plannedParts) : y.size < x.size := by
  obtain ⟨z, hz, rfl | rfl⟩ := exists_of_mem_plannedParts h
  · exact size_lt_of_mem_children x _ hz
  · rw [size_fillDefault]
    exact size_lt_of_mem_children x z hz

private theorem nesting_lt_of_mem_plannedParts (h : y ∈ x.plannedParts) : y.nesting < x.nesting := by
  obtain ⟨z, hz, rfl | rfl⟩ := exists_of_mem_plannedParts h
  · exact nesting_lt_of_mem hz
  · rw [nesting_fillDefault]
    exact nesting_lt_of_mem hz

end Pattern

namespace Planner

open Planning (Yields)
open QueryError (OfNode OfContext)

variable {p : Planner} {c : Context} {x y : Pattern} {n : Nat} {plan : Plan}

/-! ### Levels as planned -/

def preparedParts (p : Planner) (x : Pattern) : List Pattern := (p.prepared x).plannedParts

/-- How deep a pattern is nested as it is planned: simplified where it is, and without placeholders of calls. -/
def plannedNesting (p : Planner) (x : Pattern) : Nat := x.levels p.preparedParts

private theorem prepared_le (p : Planner) (x : Pattern) :
    (p.prepared x).size ≤ x.size ∧ (p.prepared x).nesting ≤ x.nesting := by
  rw [prepared]
  split
  · exact x.simplifyWithin_le x.size
  · exact ⟨Nat.le_refl _, Nat.le_refl _⟩

private theorem size_lt_of_mem_preparedParts (p : Planner) (x : Pattern) : ∀ y ∈ p.preparedParts x, y.size < x.size :=
  fun _ hy => (Pattern.size_lt_of_mem_plannedParts hy).trans_le (p.prepared_le x).1

private theorem plannedNesting_pos (p : Planner) (x : Pattern) : 0 < p.plannedNesting x :=
  Pattern.levels_pos p.size_lt_of_mem_preparedParts x

private theorem plannedNesting_le_succ_iff :
    p.plannedNesting x ≤ n + 1 ↔ ∀ y ∈ (p.prepared x).plannedParts, p.plannedNesting y ≤ n :=
  Pattern.levels_le_succ_iff p.size_lt_of_mem_preparedParts

private theorem plannedNesting_fillDefault (p : Planner) (x : Pattern) :
    p.plannedNesting x.fillDefault = p.plannedNesting x := by
  have hsame : ∀ {y : Pattern}, y.simpler? = none → p.preparedParts y = y.plannedParts := by
    intro y hy
    rw [preparedParts, prepared, Pattern.simplify_of_none hy, ite_self]
  exact Pattern.levels_fillDefault p.size_lt_of_mem_preparedParts ⟨hsame rfl, hsame rfl⟩ (fun _ _ => hsame rfl) x

private theorem plannedNesting_le (p : Planner) (x : Pattern) : p.plannedNesting x ≤ x.nesting := by
  induction hsize : x.size using Nat.strong_induction_on generalizing x with
  | h size ih =>
      obtain ⟨n, hn⟩ : ∃ n, x.nesting = n + 1 := Nat.exists_eq_succ_of_ne_zero (Nat.ne_of_gt x.nesting_pos)
      rw [hn, plannedNesting_le_succ_iff]
      intro y hy
      have hsmaller := hsize ▸ p.size_lt_of_mem_preparedParts x y hy
      have hlower := (Pattern.nesting_lt_of_mem_plannedParts hy).trans_le (p.prepared_le x).2
      exact (ih _ hsmaller y rfl).trans (by omega)

/-- A node that is planned as it is written, with all its parts. -/
def PlansWhole (p : Planner) (x : Pattern) : Prop :=
  p.prepared x = x ∧ ∀ name arguments, x = .call name arguments → .pattern .defaultValue ∉ arguments

private theorem plannedNesting_eq (h : ∀ y ∈ x.walk, p.PlansWhole y) : p.plannedNesting x = x.nesting := by
  refine Nat.le_antisymm (p.plannedNesting_le x) ?_
  induction x using Pattern.children_induction with
  | step x ih =>
      rw [Pattern.walk_eq, List.forall_mem_cons] at h
      obtain ⟨n, hn⟩ : ∃ n, p.plannedNesting x = n + 1 :=
        Nat.exists_eq_succ_of_ne_zero (Nat.ne_of_gt (p.plannedNesting_pos x))
      rw [hn, Pattern.nesting_le_succ_iff]
      intro y hy
      have hbelow : ∀ z ∈ y.walk, p.PlansWhole z := fun z hz => h.2 z (List.mem_flatMap.2 ⟨y, hy, hz⟩)
      have hpart := ih y hy hbelow
      obtain ⟨z, hz, hsame⟩ := Pattern.exists_mem_plannedParts h.1.2 hy
      rw [← h.1.1] at hz
      have hle := plannedNesting_le_succ_iff.1 (Nat.le_of_eq hn) z hz
      rcases hsame with rfl | rfl
      · exact hpart.trans hle
      · rw [plannedNesting_fillDefault] at hle
        exact hpart.trans hle

/-! ### What is planned keeps to the limit -/

section Planned

variable {below : PlanRelation}

private theorem PartsPlanned.exists_planned {targets : List (RelationHead × Pattern)} {parts : RelationParts}
    (h : PartsPlanned below c targets parts) {t : RelationHead × Pattern} (ht : t ∈ targets) :
    ∃ d q, below d t.2.fillDefault q := by
  induction h with
  | nil => cases ht
  | aligned _ ha _ ih =>
      rcases List.mem_cons.1 ht with rfl | ht
      · obtain ⟨-, hq, -, -⟩ := ha
        exact ⟨_, _, hq⟩
      · exact ih ht
  | excluded _ _ hq _ ih =>
      rcases List.mem_cons.1 ht with rfl | ht
      · obtain ⟨-, hq, -, -⟩ := hq
        exact ⟨_, _, hq⟩
      · exact ih ht
  | required _ _ hq _ ih =>
      rcases List.mem_cons.1 ht with rfl | ht
      · obtain ⟨-, hq, -, -⟩ := hq
        exact ⟨_, _, hq⟩
      · exact ih ht

private theorem NodePlan.exists_planned (h : NodePlan p below c x plan) (hy : y ∈ x.plannedParts) :
    ∃ d q, below d y q := by
  cases h with
  | term _ => cases hy
  | regex _ => cases hy
  | anyToken _ _ => cases hy
  | fixedSpan _ => cases hy
  | tags _ _ => cases hy
  | join hclauses =>
      obtain ⟨q, _, hq⟩ := exists_of_forall₂ hclauses.flip hy
      exact ⟨c, q, hq⟩
  | modify _ hq => exact ⟨c, _, List.mem_singleton.1 hy ▸ hq⟩
  | constrained hq _ _ => exact ⟨c, _, List.mem_singleton.1 hy ▸ hq⟩
  | version _ hq => exact ⟨_, _, List.mem_singleton.1 hy ▸ hq⟩
  | settings hq => exact ⟨c, _, List.mem_singleton.1 hy ▸ hq⟩
  | positionFilter hq hr =>
      rcases List.mem_pair.1 hy with rfl | rfl
      · exact ⟨c, _, hq⟩
      · exact ⟨c, _, hr⟩
  | relation _ _ hq =>
      obtain ⟨-, hq, -, -⟩ := hq
      exact ⟨_, _, List.mem_singleton.1 hy ▸ hq⟩
  | negatedRelation _ _ hq =>
      obtain ⟨-, hq, -, -⟩ := hq
      exact ⟨_, _, List.mem_singleton.1 hy ▸ hq⟩
  | relationMatch hq hparts =>
      rcases List.mem_cons.1 hy with rfl | hy
      · exact ⟨c, _, hq⟩
      · obtain ⟨t, ht, rfl⟩ := List.mem_map.1 hy
        exact hparts.exists_planned ht
  | rootRelations hparts =>
      obtain ⟨t, ht, rfl⟩ := List.mem_map.1 hy
      exact hparts.exists_planned ht
  | call _ hgiven _ _ =>
      obtain ⟨a, ha, hpart⟩ := List.mem_filterMap.1 hy
      obtain ⟨b, _, hb⟩ := exists_of_forall₂ hgiven.flip ha
      cases hb with
      | placeholder => cases hpart
      | pattern hne hq =>
          obtain rfl := Option.some.inj ((Argument.plannedPart?_pattern hne).symm.trans hpart)
          exact ⟨c, _, hq⟩
      | value hnone _ =>
          cases a with
          | pattern z => cases hnone
          | text value => cases hpart
          | number value => cases hpart

end Planned

private theorem plannedNesting_le_of_planWithin (depth : Nat) (c : Context) (x : Pattern) :
    Yields (p.planWithin depth c x) fun _ => p.plannedNesting x ≤ depth := by
  induction depth generalizing c x with
  | zero => exact .throw _
  | succ depth ih =>
      have hbelow : ∀ d y, Yields (p.planWithin depth d y) fun _ => p.plannedNesting y ≤ depth := ih
      refine (planNode_planned hbelow (p.prepared x)).imp
        fun plan h => ?_
      rw [plannedNesting_le_succ_iff]
      intro y hy
      obtain ⟨_, _, hle⟩ := h.exists_planned hy
      exact hle

/-! ### What is refused for its depth exceeds the limit -/

private theorem planWithin_refuses (hfunctions : ∀ name f, p.extensions.functions.get? name = some f → f.RefusesAsNode)
    {depth : Nat} (c : Context) {x : Pattern} (h : p.plannedNesting x ≤ depth) :
    (p.planWithin depth c x).Refuses OfNode := by
  induction depth generalizing c x with
  | zero => exact absurd (p.plannedNesting_pos x) (Nat.not_lt.2 h)
  | succ depth ih =>
      have hparts := plannedNesting_le_succ_iff.1 h
      exact planNode_refuses (fun _ => OfContext.ofNode) (fun name f hf c values _ => hfunctions name f hf c values)
        fun y hy d => ih d (hparts y hy)

/--
The nesting limit is a limit for what is planned. Within it a node is only refused for faults of its own. What is
planned is nested no deeper than the pattern, and as deep if each node is planned as it is written.
-/
theorem planned_within_nesting_limit (p : Planner) (c : Context) (x : Pattern) :
    (∀ plan, p.plan c x = .ok plan → p.plannedNesting x ≤ p.limits.patternDepth) ∧
      ((∀ name f, p.extensions.functions.get? name = some f → f.RefusesAsNode) →
        p.plannedNesting x ≤ p.limits.patternDepth →
          ∀ limit, p.plan c x ≠ .error (.patternTooLarge (.patternDepth limit))) ∧
      p.plannedNesting x ≤ x.nesting ∧
      ((∀ y ∈ x.walk, p.PlansWhole y) → p.plannedNesting x = x.nesting) := by
  refine ⟨fun plan h => ?_, fun hfunctions hdepth limit h => ?_, p.plannedNesting_le x, plannedNesting_eq⟩
  · obtain ⟨r, hr, -⟩ := Result.bind_eq_ok.1 h
    exact plannedNesting_le_of_planWithin _ c x _ r hr
  · rcases Result.bind_eq_error.1 h with h | ⟨r, -, h⟩
    · cases planWithin_refuses hfunctions c hdepth _ _ h
    · cases h

/-- The only clause of a conjunction is planned in its place: three levels as written, two as planned. -/
theorem planned_within_nesting_limit_single_clause :
    let p : Planner := { standard with limits := { Limits.standard with patternDepth := 2 } }
    let word : Pattern := .modify (.capture "A") (.term ⟨"fox", none, some .sensitive⟩)
    let x : Pattern := .join .and [word]
    x.nesting = 3 ∧ p.plan wordContext x = .ok (.modify (.capture "A") (.term "contents%word@s" "fox")) ∧
      p.plannedNesting x ≤ 2 ∧ (∀ limit, p.plan wordContext x ≠ .error (.patternTooLarge (.patternDepth limit))) ∧
      p.plannedNesting x ≤ x.nesting ∧ p.plannedNesting word = word.nesting := by
  intro p word x
  have hplan : p.plan wordContext x = .ok (.modify (.capture "A") (.term "contents%word@s" "fox")) := by rfl
  have hfunctions : ∀ name f, p.extensions.functions.get? name = some f → f.RefusesAsNode :=
    fun name f => Extensions.refusesAsNode_standard
  have hwhole : ∀ y ∈ word.walk, p.PlansWhole y := by
    refine List.forall_mem_cons.2 ⟨⟨rfl, ?_⟩, List.forall_mem_singleton.2 ⟨rfl, ?_⟩⟩
    · exact nofun
    · exact nofun
  have hdepth : p.plannedNesting x ≤ 2 := (planned_within_nesting_limit p wordContext x).1 _ hplan
  refine ⟨by decide, hplan, hdepth, ?_⟩
  exact ⟨(planned_within_nesting_limit p wordContext x).2.1 hfunctions hdepth,
    (planned_within_nesting_limit p wordContext x).2.2.1,
    (planned_within_nesting_limit p wordContext word).2.2.2 hwhole⟩

/-- The levels of a pattern as it is written are not what is limited. -/
theorem not_nesting_le_of_plan :
    ¬∀ (limits : Limits) (simplifying : Bool) (c : Context) (x : Pattern),
      (∀ plan, (Planner.mk Extensions.standard limits simplifying).plan c x = .ok plan →
        x.nesting ≤ limits.patternDepth) ∧
      (x.nesting ≤ limits.patternDepth → (Planner.mk Extensions.standard limits simplifying).plan c x ≠
        .error (.patternTooLarge (.patternDepth limits.patternDepth))) := by
  intro h
  have hle := (h { Limits.standard with patternDepth := 1 } true wordContext
    (.join .and [.term ⟨"a", none, some .sensitive⟩])).1 (.term "contents%word@s" "a") rfl
  exact absurd hle (by decide)

end Planner

end CorpusSearch
