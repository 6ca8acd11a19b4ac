import CorpusSearch.Proofs.HitRules
import CorpusSearch.Proofs.Result

/-!
What joined hits are made of. A join of clauses takes in one clause after the other; each hit of a join is a hit of
one side, or what a hit of either side hold together. Rows of hits grow by one hit at a time. Main statements: what
each way of joining two hits keeps, all hits of a join have, and so have all rows.
-/

set_option autoImplicit false

namespace CorpusSearch.Hit

variable {xs ys : List Hit} {c : Hit}

theorem mem_intersect {distinct : Bool} :
    c ∈ intersect distinct xs ys ↔ ∃ a ∈ xs, ∃ b ∈ ys, b.span = a.span ∧
      (distinct = true → a.sharesRelation b = false) ∧ a.merge b a.span = c := by
  have htest : ∀ a b : Hit, (decide (b.span = a.span) && !(distinct && a.sharesRelation b)) = true ↔
      b.span = a.span ∧ (distinct = true → a.sharesRelation b = false) := by
    intro a b
    rw [Bool.and_eq_true, decide_eq_true_iff, Bool.not_eq_true', Bool.and_eq_false_imp]
  simp only [intersect, mem_sorted, List.mem_flatMap, List.mem_map, List.mem_filter, htest]
  constructor
  · rintro ⟨a, ha, b, ⟨hb, hspan, hdistinct⟩, hc⟩
    exact ⟨a, ha, b, hb, hspan, hdistinct, hc⟩
  · rintro ⟨a, ha, b, hb, hspan, hdistinct, hc⟩
    exact ⟨a, ha, b, ⟨hb, hspan, hdistinct⟩, hc⟩

theorem mem_concat :
    c ∈ concat xs ys ↔ ∃ a ∈ xs, ∃ b ∈ ys, b.span.start = a.span.stop ∧
      a.merge b ⟨a.span.start, b.span.stop⟩ = c := by
  simp only [concat, mem_sorted, List.mem_flatMap, List.mem_map, List.mem_filter, decide_eq_true_iff]
  constructor
  · rintro ⟨a, ha, b, ⟨hb, hadjacent⟩, hc⟩
    exact ⟨a, ha, b, hb, hadjacent, hc⟩
  · rintro ⟨a, ha, b, hb, hadjacent, hc⟩
    exact ⟨a, ha, b, ⟨hb, hadjacent⟩, hc⟩

/-! ### Two clauses, and more -/

def joinTwo : PlanConnective → List Hit → List Hit → List Hit
  | .and => intersect false
  | .relationAnd => intersect true
  | .or => fun xs ys => xs ++ ys
  | .sequence => concat

/-- The hits that two lists of hits can be joined to. -/
inductive Joined (xs ys : List Hit) : PlanConnective → Hit → Prop
  | both {connective : PlanConnective} {a b : Hit} (hc : connective = .and ∨ connective = .relationAnd)
      (ha : a ∈ xs) (hb : b ∈ ys) (hspan : b.span = a.span) : Joined xs ys connective (a.merge b a.span)
  | left {a : Hit} (ha : a ∈ xs) : Joined xs ys .or a
  | right {b : Hit} (hb : b ∈ ys) : Joined xs ys .or b
  | behind {a b : Hit} (ha : a ∈ xs) (hb : b ∈ ys) (hadjacent : b.span.start = a.span.stop) :
      Joined xs ys .sequence (a.merge b ⟨a.span.start, b.span.stop⟩)

theorem joined_of_mem {connective : PlanConnective} (h : c ∈ joinTwo connective xs ys) :
    Joined xs ys connective c := by
  cases connective with
  | and =>
      obtain ⟨a, ha, b, hb, hspan, -, rfl⟩ := mem_intersect.1 h
      exact .both (.inl rfl) ha hb hspan
  | relationAnd =>
      obtain ⟨a, ha, b, hb, hspan, -, rfl⟩ := mem_intersect.1 h
      exact .both (.inr rfl) ha hb hspan
  | or =>
      rcases List.mem_append.1 h with h | h
      · exact .left h
      · exact .right h
  | sequence =>
      obtain ⟨a, ha, b, hb, hadjacent, rfl⟩ := mem_concat.1 h
      exact .behind ha hb hadjacent

/-- A join takes in one clause after the other. -/
theorem joined_cons (connective : PlanConnective) (xs : List Hit) (xss : List (List Hit)) :
    joined connective (xs :: xss) = xss.foldl (joinTwo connective) xs := by
  cases connective with
  | and => rfl
  | relationAnd => rfl
  | sequence => rfl
  | or =>
      show xs ++ xss.flatten = _
      induction xss generalizing xs with
      | nil => exact List.append_nil xs
      | cons ys xss ih => rw [List.flatten_cons, ← List.append_assoc, ih, List.foldl_cons, joinTwo]

/-- What joining two lists keeps, all hits of a join have. -/
theorem forall_joined {P : Hit → Prop} {connective : PlanConnective}
    (hjoin : ∀ {xs ys c}, (∀ a ∈ xs, P a) → (∀ b ∈ ys, P b) → Joined xs ys connective c → P c)
    {xss : List (List Hit)} (h : ∀ xs ∈ xss, ∀ a ∈ xs, P a) : ∀ a ∈ joined connective xss, P a := by
  cases xss with
  | nil =>
      intro a ha
      cases connective <;> cases ha
  | cons xs xss =>
      rw [joined_cons]
      induction xss generalizing xs with
      | nil => exact h xs List.mem_cons_self
      | cons ys xss ih =>
          obtain ⟨hxs, hrest⟩ := List.forall_mem_cons.1 h
          obtain ⟨hys, hrest⟩ := List.forall_mem_cons.1 hrest
          refine ih (joinTwo connective xs ys) (List.forall_mem_cons.2 ⟨fun a ha => ?_, hrest⟩)
          exact hjoin hxs hys (joined_of_mem ha)

/-! ### Rows -/

inductive IsRow (xs : List Hit) : Nat → Hit → Prop
  | one {a : Hit} (ha : a ∈ xs) : IsRow xs 1 a
  | behind {n : Nat} {a b : Hit} (ha : IsRow xs n a) (hb : b ∈ xs) (hadjacent : b.span.start = a.span.stop) :
      IsRow xs (n + 1) (a.merge b ⟨a.span.start, b.span.stop⟩)

theorem IsRow.pos {n : Nat} (h : IsRow xs n c) : 0 < n := by
  cases h with
  | one _ => exact Nat.one_pos
  | behind _ _ _ => exact Nat.succ_pos _

private theorem isRow_succ {n : Nat} (hn : 0 < n) : IsRow xs (n + 1) c ↔ ∃ a, IsRow xs n a ∧ ∃ b ∈ xs,
    b.span.start = a.span.stop ∧ a.merge b ⟨a.span.start, b.span.stop⟩ = c := by
  constructor
  · intro h
    cases h with
    | one _ => exact absurd hn (Nat.lt_irrefl 0)
    | behind ha hb hadjacent => exact ⟨_, ha, _, hb, hadjacent, rfl⟩
  · rintro ⟨a, ha, b, hb, hadjacent, rfl⟩
    exact .behind ha hb hadjacent

private theorem IsRow.shorter {m n : Nat} (h : IsRow xs m c) (hn : 0 < n) (hle : n ≤ m) : ∃ a, IsRow xs n a := by
  induction h with
  | one ha =>
      obtain rfl : n = 1 := by omega
      exact ⟨_, .one ha⟩
  | @behind m a b ha hb hadjacent ih =>
      rcases Nat.lt_or_ge m n with hlt | hge
      · obtain rfl : n = m + 1 := by omega
        exact ⟨_, .behind ha hb hadjacent⟩
      · exact ih hge

/-- Repeated hits are rows of as many hits as are allowed and tried, or empty spans. -/
theorem mem_rows_iff {size : Nat} {low high : UInt32} : c ∈ rows size low high xs ↔
    (low = 0 ∧ ∃ p ≤ size, ofSpan (emptySpan p) = c) ∨
      ∃ n, low.toNat ≤ n ∧ n ≤ high.toNat ∧ n ≤ size + 1 ∧ IsRow xs n c := by
  have hone : ∀ a, a ∈ xs ↔ IsRow xs 1 a := by
    intro a
    constructor
    · exact .one
    · intro h
      cases h with
      | one ha => exact ha
      | behind ha _ _ => exact absurd ha.pos (Nat.lt_irrefl 0)
  have hempty : c ∈ (if low = 0 then (between 0 size).map fun p => ofSpan (emptySpan p) else []) ↔
      low = 0 ∧ ∃ p ≤ size, ofSpan (emptySpan p) = c := by
    split
    · rename_i hlow
      simp only [List.mem_map, mem_between, Nat.zero_le, true_and, hlow]
    · rename_i hlow
      simp only [List.not_mem_nil, hlow, false_and]
  have hnext : ∀ {n current}, 0 < n → (∀ a, a ∈ current ↔ IsRow xs n a) →
      ∀ a, a ∈ concat current xs ↔ IsRow xs (n + 1) a := by
    intro n current hn hcurrent a
    rw [mem_concat, isRow_succ hn]
    simp only [hcurrent]
  rw [rows, List.mem_append, hempty,
    mem_rowsFrom hnext (fun hn hle hrow => hrow.shorter hn hle) Nat.one_pos hone]
  refine or_congr_right (exists_congr fun n => ?_)
  constructor
  · rintro ⟨hlow, hn, hlt, hrow⟩
    exact ⟨hlow, by omega, by omega, hrow⟩
  · rintro ⟨hlow, hhigh, hsize, hrow⟩
    exact ⟨hlow, hrow.pos, by omega, hrow⟩

/-- What holds of hits and of a row with one more hit, holds of all rows. -/
theorem IsRow.forall {P : Hit → Prop} (h : ∀ a ∈ xs, P a)
    (hbehind : ∀ a b, P a → P b → b.span.start = a.span.stop → P (a.merge b ⟨a.span.start, b.span.stop⟩))
    {n : Nat} (hrow : IsRow xs n c) : P c := by
  induction hrow with
  | one ha => exact h _ ha
  | behind _ hb hadjacent ih => exact hbehind _ _ ih (h _ hb) hadjacent

end CorpusSearch.Hit

namespace CorpusSearch.SearchScope

/-- Several plans have the hits that each of them has. -/
theorem hitLists_eq_ok {scope : SearchScope} {plans : List Plan} {hss : List (List Hit)} :
    scope.hitLists plans = .ok hss ↔ List.Forall₂ (fun q hs => scope.hits q = .ok hs) plans hss := by
  induction plans generalizing hss with
  | nil => simp [hitLists, eq_comm]
  | cons q plans ih =>
      simp only [hitLists, Result.bind_eq_ok, Result.pure_eq_ok, ih, List.forall₂_cons_left_iff, Except.ok.injEq]
      constructor
      · rintro ⟨first, hfirst, rest, hrest, rfl⟩
        exact ⟨first, rest, hfirst, hrest, rfl⟩
      · rintro ⟨first, rest, hfirst, hrest, rfl⟩
        exact ⟨first, hfirst, rest, hrest, rfl⟩

end CorpusSearch.SearchScope
