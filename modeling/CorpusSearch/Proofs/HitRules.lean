import CorpusSearch.Proofs.HitSpans

/-!
Laws of hits that the rules for simpler patterns stand on. Tokens that are no hits, taken twice, are the hits again
exactly if every hit is a single token of the field; rows of single tokens are the spans of as many tokens; the span
that a relation stands for can be asked for before or after the relation is matched.
-/

set_option autoImplicit false

namespace CorpusSearch

theorem Document.size_lt (d : Document) (field : String) : d.size field < 4294967296 := by
  unfold Document.size
  split
  · exact UInt32.toNat_lt _
  · decide

/-- A span of tokens, among `size` tokens. -/
structure Span.FitsIn (s : Span) (size : Nat) : Prop where
  le : s.start.toNat ≤ s.stop.toNat
  stop_le : s.stop.toNat ≤ size

namespace Span

theorem toNat_ofNat_of_lt {n : Nat} (h : n < 4294967296) : (UInt32.ofNat n).toNat = n := UInt32.toNat_ofNat_of_lt' h

theorem fitsIn_ofNat {limit start stop : Nat} (hle : start ≤ stop) (hstop : stop ≤ limit)
    (hlimit : limit < 4294967296) : Span.FitsIn ⟨UInt32.ofNat start, UInt32.ofNat stop⟩ limit := by
  have hfrom : (UInt32.ofNat start).toNat = start := toNat_ofNat_of_lt (by omega)
  have hto : (UInt32.ofNat stop).toNat = stop := toNat_ofNat_of_lt (by omega)
  exact ⟨by rwa [hfrom, hto], by rwa [hto]⟩

end Span

namespace Hit

variable {size : Nat} {xs : List Hit} {s : Span}

/-! ### Tokens that are no hits -/

def IsToken (size : Nat) (s : Span) : Prop := ∃ p < size, token p = s

theorem mem_complement {h : Hit} :
    h ∈ complement size xs ↔ ∃ p < size, ¬HasSpan xs (token p) ∧ ofSpan (token p) = h := by
  have hany : ∀ p, (!xs.any fun h => h.span = token p) = true ↔ ¬HasSpan xs (token p) := by
    intro p
    rw [Bool.not_eq_true', ← Bool.not_eq_true, any_span (p := fun t => decide (t = token p))]
    simp
  rw [complement, List.mem_map]
  constructor
  · rintro ⟨p, hmem, rfl⟩
    obtain ⟨hp, hfree⟩ := List.mem_filter.1 hmem
    exact ⟨p, List.mem_range.1 hp, (hany p).1 hfree, rfl⟩
  · rintro ⟨p, hp, hfree, rfl⟩
    exact ⟨p, List.mem_filter.2 ⟨List.mem_range.2 hp, (hany p).2 hfree⟩, rfl⟩

private theorem hasSpan_complement : HasSpan (complement size xs) s ↔ IsToken size s ∧ ¬HasSpan xs s := by
  constructor
  · rintro ⟨h, hmem, rfl⟩
    obtain ⟨p, hp, hfree, rfl⟩ := mem_complement.1 hmem
    exact ⟨⟨p, hp, rfl⟩, hfree⟩
  · rintro ⟨⟨p, hp, rfl⟩, hfree⟩
    exact hasSpan_of_mem (mem_complement.2 ⟨p, hp, hfree, rfl⟩)

private theorem hasSpan_complement_complement :
    HasSpan (complement size (complement size xs)) s ↔ IsToken size s ∧ HasSpan xs s := by
  rw [hasSpan_complement, hasSpan_complement]
  by_cases htoken : IsToken size s
  · by_cases hspan : HasSpan xs s
    · exact ⟨fun _ => ⟨htoken, hspan⟩, fun _ => ⟨htoken, fun h => h.2 hspan⟩⟩
    · exact ⟨fun h => absurd ⟨htoken, hspan⟩ h.2, fun h => absurd h.2 hspan⟩
  · exact ⟨fun h => absurd h.1 htoken, fun h => absurd h.1 htoken⟩

theorem sameSpans_complement_complement :
    SameSpans (complement size (complement size xs)) xs ↔ ∀ h ∈ xs, IsToken size h.span := by
  constructor
  · intro h a ha
    exact (hasSpan_complement_complement.1 ((h a.span).2 (hasSpan_of_mem ha))).1
  · intro h s
    rw [hasSpan_complement_complement]
    constructor
    · exact And.right
    · rintro ⟨a, ha, rfl⟩
      exact ⟨h a ha, hasSpan_of_mem ha⟩

theorem mem_complement_complement (h : ∀ a ∈ xs, ∃ p < size, ofSpan (token p) = a) {a : Hit} :
    a ∈ complement size (complement size xs) ↔ a ∈ xs := by
  rw [mem_complement]
  constructor
  · rintro ⟨p, hp, hfree, rfl⟩
    have hspan : HasSpan xs (token p) := by
      by_contra hspan
      exact hfree (hasSpan_complement.2 ⟨⟨p, hp, rfl⟩, hspan⟩)
    obtain ⟨b, hb, hbp⟩ := hspan
    obtain ⟨q, -, rfl⟩ := h b hb
    have hqp : token q = token p := hbp
    rwa [hqp] at hb
  · intro ha
    obtain ⟨p, hp, rfl⟩ := h a ha
    refine ⟨p, hp, fun hfree => ?_, rfl⟩
    exact (hasSpan_complement.1 hfree).2 (hasSpan_of_mem ha)

/-! ### Rows of tokens -/

def IsGram (size n : Nat) (h : Hit) : Prop :=
  ∃ start, start + n ≤ size ∧ ofSpan ⟨UInt32.ofNat start, UInt32.ofNat (start + n)⟩ = h

theorem mem_between {n low high : Nat} : n ∈ between low high ↔ low ≤ n ∧ n ≤ high := by
  rw [between, List.mem_range'_1]
  omega

theorem mem_nGrams {low high : UInt32} {h : Hit} :
    h ∈ nGrams size low high ↔ ∃ n, low.toNat ≤ n ∧ n ≤ high.toNat ∧ IsGram size n h := by
  simp only [nGrams, List.mem_flatMap, List.mem_map, mem_between]
  constructor
  · rintro ⟨start, ⟨-, hstart⟩, n, ⟨hlow, hhigh⟩, rfl⟩
    exact ⟨n, hlow, by omega, start, by omega, rfl⟩
  · rintro ⟨n, hlow, hhigh, start, hsize, rfl⟩
    exact ⟨start, ⟨by omega, by omega⟩, n, ⟨hlow, by omega⟩, rfl⟩

/-- Any number of tokens are any span of tokens. -/
theorem mem_anyNGrams (hsize : size < 4294967296) {h : Hit} :
    h ∈ nGrams size 0 Bound.unlimited ↔ ∃ t : Span, t.FitsIn size ∧ ofSpan t = h := by
  rw [mem_nGrams]
  constructor
  · rintro ⟨n, -, -, start, hstart, rfl⟩
    exact ⟨_, Span.fitsIn_ofNat (Nat.le_add_right _ _) hstart hsize, rfl⟩
  · rintro ⟨t, ht, rfl⟩
    have hle := ht.le
    have hstop := ht.stop_le
    refine ⟨t.stop.toNat - t.start.toNat, Nat.zero_le _, ?_, t.start.toNat, by omega, ?_⟩
    · show _ ≤ 4294967295
      omega
    · rw [Nat.add_sub_cancel' hle, UInt32.ofNat_toNat, UInt32.ofNat_toNat]

theorem ofNat_inj {a b : Nat} (ha : a < 4294967296) (hb : b < 4294967296) :
    UInt32.ofNat a = UInt32.ofNat b ↔ a = b := by
  rw [← UInt32.toNat_inj, UInt32.toNat_ofNat', UInt32.toNat_ofNat', Nat.mod_eq_of_lt ha, Nat.mod_eq_of_lt hb]

theorem merge_ofSpan (a b s : Span) : (ofSpan a).merge (ofSpan b) s = ofSpan s := by
  rw [merge, ofSpan, ofSpan, ofSpan, NameMap.union_empty, List.append_nil]

private theorem mem_concat_grams (hsize : size < 4294967296) {n : Nat} {ys : List Hit}
    (hx : ∀ a, a ∈ xs ↔ IsGram size n a) (hy : ∀ a, a ∈ ys ↔ IsGram size 1 a) {h : Hit} :
    h ∈ concat xs ys ↔ IsGram size (n + 1) h := by
  simp only [concat, mem_sorted, List.mem_flatMap, List.mem_map, List.mem_filter, hx, hy,
    decide_eq_true_iff]
  constructor
  · rintro ⟨a, ⟨start, hstart, rfl⟩, b, ⟨⟨next, hnext, rfl⟩, hadjacent⟩, rfl⟩
    have heq : next = start + n := (ofNat_inj (by omega) (by omega)).1 hadjacent
    subst heq
    exact ⟨start, by omega, (merge_ofSpan _ _ _).symm⟩
  · rintro ⟨start, hstart, rfl⟩
    exact ⟨_, ⟨start, by omega, rfl⟩, _, ⟨⟨start + n, by omega, rfl⟩, rfl⟩, merge_ofSpan _ _ _⟩

theorem mem_rowsFrom {Row : Nat → Hit → Prop}
    (hnext : ∀ {n current}, 0 < n → (∀ a, a ∈ current ↔ Row n a) → ∀ a, a ∈ concat current xs ↔ Row (n + 1) a)
    (hshorter : ∀ {n m a}, 0 < n → n ≤ m → Row m a → ∃ b, Row n b) {low count n : Nat} {current : List Hit}
    (hn : 0 < n) (hcurrent : ∀ a, a ∈ current ↔ Row n a) {h : Hit} :
    h ∈ rowsFrom xs low count n current ↔ ∃ m, low ≤ m ∧ n ≤ m ∧ m < n + count ∧ Row m h := by
  induction count generalizing n current with
  | zero =>
      rw [rowsFrom]
      constructor
      · intro hmem
        cases hmem
      · rintro ⟨m, -, hnm, hm, -⟩
        omega
  | succ count ih =>
      rw [rowsFrom]
      by_cases hempty : current.isEmpty = true
      · rw [if_pos hempty]
        rw [List.isEmpty_iff] at hempty
        subst hempty
        constructor
        · intro hmem
          cases hmem
        · rintro ⟨m, -, hnm, -, hrow⟩
          obtain ⟨b, hb⟩ := hshorter hn hnm hrow
          cases (hcurrent b).2 hb
      · rw [if_neg hempty, List.mem_append, ih (Nat.succ_pos n) (hnext hn hcurrent)]
        constructor
        · rintro (hmem | ⟨m, hlow, hnm, hm, hrow⟩)
          · by_cases hlow : low ≤ n
            · rw [if_pos hlow] at hmem
              exact ⟨n, hlow, le_refl n, by omega, (hcurrent h).1 hmem⟩
            · rw [if_neg hlow] at hmem
              cases hmem
          · exact ⟨m, hlow, by omega, by omega, hrow⟩
        · rintro ⟨m, hlow, hnm, hm, hrow⟩
          by_cases heq : m = n
          · subst heq
            rw [if_pos hlow]
            exact .inl ((hcurrent h).2 hrow)
          · exact .inr ⟨m, hlow, by omega, by omega, hrow⟩

theorem mem_rows_nGrams (hsize : size < 4294967296) {low high : UInt32} {h : Hit} :
    h ∈ rows size low high (sorted (nGrams size 1 1)) ↔ h ∈ nGrams size low high := by
  have htokens : ∀ a, a ∈ sorted (nGrams size 1 1) ↔ IsGram size 1 a := by
    intro a
    rw [mem_sorted, mem_nGrams]
    constructor
    · rintro ⟨n, hlow, hhigh, hgram⟩
      have hn : n = 1 := Nat.le_antisymm hhigh hlow
      rwa [hn] at hgram
    · intro hgram
      exact ⟨1, le_refl 1, le_refl 1, hgram⟩
  have hshorter : ∀ {n m a}, 0 < n → n ≤ m → IsGram size m a → ∃ b, IsGram size n b := by
    rintro n m a - hnm ⟨start, hstart, -⟩
    exact ⟨_, start, by omega, rfl⟩
  have hnext : ∀ {n current}, 0 < n → (∀ a, a ∈ current ↔ IsGram size n a) →
      ∀ a, a ∈ concat current (sorted (nGrams size 1 1)) ↔ IsGram size (n + 1) a := by
    intro n current _ hcurrent a
    exact mem_concat_grams hsize hcurrent htokens
  rw [rows, List.mem_append, mem_rowsFrom hnext hshorter Nat.one_pos htokens, mem_nGrams]
  constructor
  · rintro (hmem | ⟨m, hlow, hone, hm, hgram⟩)
    · by_cases hlow : low = 0
      · rw [if_pos hlow] at hmem
        obtain ⟨p, hp, rfl⟩ := List.mem_map.1 hmem
        subst hlow
        exact ⟨0, le_refl 0, Nat.zero_le _, p, (mem_between.1 hp).2, rfl⟩
      · rw [if_neg hlow] at hmem
        cases hmem
    · exact ⟨m, hlow, by omega, hgram⟩
  · rintro ⟨m, hlow, hhigh, hgram⟩
    by_cases hm : m = 0
    · subst hm
      obtain ⟨start, hstart, rfl⟩ := hgram
      have hzero : low = 0 := by
        rw [← UInt32.toNat_inj]
        exact Nat.le_zero.1 hlow
      rw [if_pos hzero]
      exact .inl (List.mem_map.2 ⟨start, mem_between.2 ⟨Nat.zero_le _, hstart⟩, rfl⟩)
    · obtain ⟨start, hstart, -⟩ := id hgram
      exact .inr ⟨m, hlow, by omega, by omega, hgram⟩

/-! ### Spans of relations -/

private theorem min_min_right (a b : UInt32) : min b (min a b) = min a b := by
  show (if b ≤ (if a ≤ b then a else b) then b else if a ≤ b then a else b) = if a ≤ b then a else b
  grind

private theorem max_max_right (a b : UInt32) : max b (max a b) = max a b := by
  show (if b ≤ (if a ≤ b then b else a) then (if a ≤ b then b else a) else b) = if a ≤ b then b else a
  grind

theorem relationSpan_target (r : Relation) (captures : NameMap CaptureValue) (mode : SpanMode) :
    relationSpan mode ⟨r.spanFor .target, captures, [r]⟩ = r.spanFor mode := by
  cases mode with
  | source => rfl
  | target => rfl
  | full => rfl
  | all =>
      show r.target.cover r.fullSpan = r.fullSpan
      rw [Relation.fullSpan, Span.cover, Span.cover, min_min_right, max_max_right]

end Hit

end CorpusSearch
