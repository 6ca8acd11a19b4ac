import CorpusSearch.Proofs.HitPositions
import CorpusSearch.Proofs.SimplifiedSearch

/-!
What a repeated clause finds. A repetition asks for rows of so many adjacent hits, and for empty spans if no hit at
all will do. Only rows of at most one hit more than the field has tokens are built. Among hits that lie in the field
this leaves out no span: a longer row has an empty hit, and can do without it. It does leave out spans where the
least number of hits is itself beyond that limit, and where the hits come from a longer field. Main statement: which
spans a repetition finds, and when these are all that it asks for.
-/

set_option autoImplicit false

namespace CorpusSearch.Hit

variable {xs : List Hit} {size : Nat} {low high : UInt32} {s : Span}

/-- The spans of `n` adjacent hits; no hits at all are the empty span anywhere among `size` tokens. -/
def RowSpan (size : Nat) (xs : List Hit) (n : Nat) (s : Span) : Prop :=
  (n = 0 ∧ ∃ p ≤ size, emptySpan p = s) ∨ ∃ c, IsRow xs n c ∧ c.span = s

def Repeats (size : Nat) (low high : UInt32) (xs : List Hit) (s : Span) : Prop :=
  ∃ n, low.toNat ≤ n ∧ n ≤ high.toNat ∧ RowSpan size xs n s

/-- Hits end where they start, or behind. -/
def InOrder (xs : List Hit) : Prop := ∀ a ∈ xs, a.span.start.toNat ≤ a.span.stop.toNat

/-! ### What is found -/

private theorem hasSpan_rows : HasSpan (rows size low high xs) s ↔
    ∃ n, low.toNat ≤ n ∧ n ≤ high.toNat ∧ n ≤ size + 1 ∧ RowSpan size xs n s := by
  constructor
  · rintro ⟨c, hc, rfl⟩
    rcases mem_rows_iff.1 hc with ⟨rfl, p, hp, rfl⟩ | ⟨n, hlow, hhigh, hsize, hrow⟩
    · exact ⟨0, Nat.le_refl 0, Nat.zero_le _, Nat.zero_le _, .inl ⟨rfl, p, hp, rfl⟩⟩
    · exact ⟨n, hlow, hhigh, hsize, .inr ⟨c, hrow, rfl⟩⟩
  · rintro ⟨n, hlow, hhigh, hsize, ⟨rfl, p, hp, rfl⟩ | ⟨c, hrow, rfl⟩⟩
    · have hzero : low = 0 := UInt32.toNat_inj.1 (Nat.le_zero.1 hlow)
      exact ⟨_, mem_rows_iff.2 (.inl ⟨hzero, p, hp, rfl⟩), rfl⟩
    · exact hasSpan_of_mem (mem_rows_iff.2 (.inr ⟨n, hlow, hhigh, hsize, hrow⟩))

private theorem repeats_of_hasSpan_rows (h : HasSpan (rows size low high xs) s) : Repeats size low high xs s := by
  obtain ⟨n, hlow, hhigh, -, hrow⟩ := hasSpan_rows.1 h
  exact ⟨n, hlow, hhigh, hrow⟩

/-! ### Empty hits -/

/-- A row of more hits than its span has tokens can do without one of them, which is empty. -/
theorem IsRow.drop (hxs : InOrder xs) {n : Nat} {c : Hit} (hrow : IsRow xs n c) : ∀ {k : Nat}, n = k + 1 →
    c.span.stop.toNat < c.span.start.toNat + k → ∃ d, IsRow xs k d ∧ d.span = c.span := by
  induction hrow with
  | @one a ha =>
      intro k hk hshort
      have hle := hxs a ha
      omega
  | @behind n a b ha hb hadjacent ih =>
      intro k hk hshort
      obtain rfl : n = k := by omega
      change b.span.stop.toNat < a.span.start.toNat + n at hshort
      have hle := hxs b hb
      rw [hadjacent] at hle
      rcases Nat.eq_or_lt_of_le hle with hempty | hlt
      · have hstop : a.span.stop = b.span.stop := UInt32.toNat_inj.1 hempty
        refine ⟨a, ha, ?_⟩
        show a.span = ⟨a.span.start, b.span.stop⟩
        rw [← hstop]
      · have hn := ha.pos
        obtain ⟨m, rfl⟩ : ∃ m, n = m + 1 := ⟨n - 1, by omega⟩
        obtain ⟨d, hd, hspan⟩ := ih rfl (by omega)
        refine ⟨d.merge b ⟨d.span.start, b.span.stop⟩, .behind hd hb ?_, ?_⟩
        · rw [hspan, hadjacent]
        · show Span.mk d.span.start b.span.stop = ⟨a.span.start, b.span.stop⟩
          rw [hspan]

private theorem IsRow.reduce (hxs : InOrder xs) {n : Nat} (hn : size + 1 ≤ n) : ∀ {c : Hit}, IsRow xs n c →
    c.span.stop.toNat ≤ c.span.start.toNat + size → ∃ d, IsRow xs (size + 1) d ∧ d.span = c.span := by
  induction n, hn using Nat.le_induction with
  | base => exact fun hrow _ => ⟨_, hrow, rfl⟩
  | succ n hn ih =>
      intro c hrow hshort
      obtain ⟨d, hd, hspan⟩ := hrow.drop hxs rfl (by omega)
      obtain ⟨e, he, hspan'⟩ := ih hd (by rwa [hspan])
      exact ⟨e, he, hspan'.trans hspan⟩

private theorem IsRow.le_stop (hxs : ∀ a ∈ xs, a.span.start.toNat < a.span.stop.toNat) {n : Nat} {c : Hit}
    (hrow : IsRow xs n c) : c.span.start.toNat + n ≤ c.span.stop.toNat := by
  induction hrow with
  | one ha => exact hxs _ ha
  | @behind n a b _ hb hadjacent ih =>
      have hlt := hxs b hb
      rw [hadjacent] at hlt
      show a.span.start.toNat + (n + 1) ≤ b.span.stop.toNat
      omega

private theorem isRow_of_empty {a : Hit} (ha : a ∈ xs) (hempty : a.span.start = a.span.stop) {n : Nat} (hn : 1 ≤ n) :
    ∃ c, IsRow xs n c ∧ c.span = a.span := by
  induction n, hn using Nat.le_induction with
  | base => exact ⟨a, .one ha, rfl⟩
  | succ n hn ih =>
      obtain ⟨c, hc, hspan⟩ := ih
      refine ⟨c.merge a ⟨c.span.start, a.span.stop⟩, .behind hc ha ?_, ?_⟩
      · rw [hspan, hempty]
      · show Span.mk c.span.start a.span.stop = a.span
        rw [hspan]

/-! ### All that is asked for -/

private theorem hasSpan_rows_of_repeats (hxs : InOrder xs) (hlow : low.toNat ≤ size + 1)
    (hshort : s.stop.toNat ≤ s.start.toNat + size) (h : Repeats size low high xs s) :
    HasSpan (rows size low high xs) s := by
  obtain ⟨n, hn, hhigh, hrow⟩ := h
  rw [hasSpan_rows]
  rcases Nat.lt_or_ge (size + 1) n with hsize | hsize
  · rcases hrow with ⟨rfl, -⟩ | ⟨c, hrow, rfl⟩
    · exact absurd hsize (Nat.not_lt_zero _)
    · obtain ⟨d, hd, hspan⟩ := hrow.reduce hxs (Nat.le_of_lt hsize) hshort
      exact ⟨size + 1, hlow, by omega, Nat.le_refl _, .inr ⟨d, hd, hspan⟩⟩
  · exact ⟨n, hn, hhigh, hsize, hrow⟩

theorem RowSpan.fitsIn (hxs : ∀ a ∈ xs, a.span.FitsIn size) {n : Nat} (hn : 0 < n) (h : RowSpan size xs n s) :
    s.FitsIn size := by
  rcases h with ⟨rfl, -⟩ | ⟨c, hrow, rfl⟩
  · exact absurd hn (Nat.lt_irrefl 0)
  · exact hrow.forall (P := fun c => c.span.FitsIn size) hxs fun _ _ ha hb hadjacent => ha.append hb hadjacent

private theorem hasSpan_rows_eq_repeats (hxs : ∀ a ∈ xs, a.span.FitsIn size) (hle : low ≤ high) :
    (∀ s, HasSpan (rows size low high xs) s ↔ Repeats size low high xs s) ↔
      low.toNat ≤ size + 1 ∨ ∀ a ∈ xs, a.span.start ≠ a.span.stop := by
  constructor
  · intro h
    by_contra hcontra
    push Not at hcontra
    obtain ⟨hlow, a, ha, hempty⟩ := hcontra
    obtain ⟨c, hrow, hspan⟩ := isRow_of_empty ha hempty (n := low.toNat) (by omega)
    have hasked : Repeats size low high xs a.span :=
      ⟨low.toNat, Nat.le_refl _, UInt32.le_iff_toNat_le.1 hle, .inr ⟨c, hrow, hspan⟩⟩
    obtain ⟨n, hn, -, hsize, -⟩ := hasSpan_rows.1 ((h a.span).2 hasked)
    omega
  · intro h s
    refine ⟨repeats_of_hasSpan_rows, fun hs => ?_⟩
    rcases h with hlow | hfull
    · obtain ⟨n, hn, hhigh, hrow⟩ := hs
      rcases Nat.eq_zero_or_pos n with rfl | hpos
      · exact hasSpan_rows.2 ⟨0, hn, hhigh, Nat.zero_le _, hrow⟩
      · have hfits := hrow.fitsIn hxs hpos
        have hstop := hfits.stop_le
        exact hasSpan_rows_of_repeats (fun a ha => (hxs a ha).le) hlow (by omega) ⟨n, hn, hhigh, hrow⟩
    · obtain ⟨n, hn, hhigh, hrow⟩ := hs
      refine hasSpan_rows.2 ⟨n, hn, hhigh, ?_, hrow⟩
      rcases id hrow with ⟨rfl, -⟩ | ⟨c, hc, rfl⟩
      · exact Nat.zero_le _
      · have hlonger : ∀ a ∈ xs, a.span.start.toNat < a.span.stop.toNat := by
          intro a ha
          have hne : a.span.start.toNat ≠ a.span.stop.toNat := fun heq => hfull a ha (UInt32.toNat_inj.1 heq)
          exact Nat.lt_of_le_of_ne (hxs a ha).le hne
        have hlength := hc.le_stop hlonger
        have hstop := (hrow.fitsIn hxs hc.pos).stop_le
        omega

end CorpusSearch.Hit

namespace CorpusSearch.SearchScope

open Hit

private theorem hits_repeated {scope : SearchScope} {field : String} {low high : UInt32} {clause : Plan} {xs : List Hit}
    (h : scope.hits clause = .ok xs) : scope.hits (.modify (.repeated field low high) clause) =
      .ok (sorted (rows (scope.document.size field) low high xs)) := by
  rw [hits, h]
  rfl

/-- What is found for a repeated clause: the spans of as many adjacent hits as are asked for, and at most one more than
there are tokens. -/
theorem repeated_finds_bounded_rows (scope : SearchScope) (field : String) (clause : Plan) {low high : UInt32}
    (hle : low ≤ high) :
    let found := scope.hits (.modify (.repeated field low high) clause)
    let size := scope.document.size field
    (∀ e, scope.hits clause = .error e → found = .error e) ∧
    ∀ xs, scope.hits clause = .ok xs → ∃ hs, found = .ok hs ∧
      (∀ s, HasSpan hs s ↔ ∃ n, low.toNat ≤ n ∧ n ≤ high.toNat ∧ n ≤ size + 1 ∧ RowSpan size xs n s) ∧
      (high.toNat ≤ size + 1 → ∀ s, HasSpan hs s ↔ Repeats size low high xs s) ∧
      (InOrder xs → low.toNat ≤ size + 1 → ∀ s, s.stop.toNat ≤ s.start.toNat + size →
        (HasSpan hs s ↔ Repeats size low high xs s)) ∧
      ((∀ a ∈ xs, a.span.FitsIn size) → ((∀ s, HasSpan hs s ↔ Repeats size low high xs s) ↔
        low.toNat ≤ size + 1 ∨ ∀ a ∈ xs, a.span.start ≠ a.span.stop)) := by
  intro found size
  constructor
  · intro e he
    show scope.hits (.modify (.repeated field low high) clause) = .error e
    rw [hits, he]
    rfl
  · intro xs hxs
    refine ⟨sorted (rows size low high xs), hits_repeated hxs, ?_⟩
    simp only [hasSpan_sorted]
    refine ⟨fun s => hasSpan_rows, fun hhigh s => ⟨repeats_of_hasSpan_rows, ?_⟩, fun hxs hlow s hshort => ?_,
      fun hxs => hasSpan_rows_eq_repeats hxs hle⟩
    · rintro ⟨n, hn, hn', hrow⟩
      exact hasSpan_rows.2 ⟨n, hn, hn', Nat.le_trans hn' hhigh, hrow⟩
    · exact ⟨repeats_of_hasSpan_rows, hasSpan_rows_of_repeats hxs hlow hshort⟩

/-! ### Starts of markup, repeated -/

def markupStart : Plan :=
  .modify (.edge false) (.tags ⟨"contents%_relation@s", "(__tag)::(s)", NameMap.empty, .fullTag, "s"⟩)

def startHit : Hit := (ofSpan ⟨0, 0⟩).withCapture "s" (.span ⟨0, 2⟩)

/-- Among three words a row of four or five empty hits is found. -/
theorem repeated_finds_bounded_rows_markupStart :
    let scope : SearchScope := ⟨Planner.quickFox, NameMap.empty⟩
    scope.hits markupStart = .ok [startHit] ∧ (4 : UInt32) ≤ 5 ∧
      ∃ hs, scope.hits (.modify (.repeated "contents" 4 5) markupStart) = .ok hs ∧
        (∀ s, HasSpan hs s ↔ Repeats 3 4 5 [startHit] s) ∧ HasSpan hs ⟨0, 0⟩ := by
  intro scope
  have hstart : scope.hits markupStart = .ok [startHit] := by decide +kernel
  have hsize : scope.document.size "contents" = 3 := by decide
  have hle : (4 : UInt32) ≤ 5 := by decide
  obtain ⟨hs, hfound, -, -, -, hall⟩ :=
    (repeated_finds_bounded_rows scope "contents" markupStart hle).2 [startHit] hstart
  rw [hsize] at hall
  have hfits : ∀ a ∈ [startHit], a.span.FitsIn 3 :=
    List.forall_mem_singleton.2 ⟨by decide, by decide⟩
  have hspans := (hall hfits).2 (.inl (by decide))
  obtain ⟨c, hrow, hspan⟩ := isRow_of_empty (List.mem_singleton_self startHit) rfl (n := 4) (by decide)
  exact ⟨hstart, hle, hs, hfound, hspans, (hspans ⟨0, 0⟩).2 ⟨4, by decide, by decide, .inr ⟨c, hrow, hspan⟩⟩⟩

theorem repeats_markupStart_but_no_hits :
    SearchScope.hits ⟨Planner.quickFox, NameMap.empty⟩ (.modify (.repeated "contents" 5 6) markupStart) = .ok [] ∧
      Repeats 3 5 6 [startHit] ⟨0, 0⟩ := by
  refine ⟨by decide +kernel, 5, by decide, by decide, ?_⟩
  obtain ⟨c, hrow, hspan⟩ := isRow_of_empty (List.mem_singleton_self startHit) rfl (n := 5) (by decide)
  exact .inr ⟨c, hrow, hspan⟩

def yesJaJaJa : Document :=
  (NameMap.empty.insert "contents" (FieldContent.empty.withValues "word" ["yes"])).insert "contents__nl"
    (FieldContent.empty.withValues "word" ["ja", "ja", "ja"])

theorem repeats_longer_version_but_no_hits :
    let scope : SearchScope := ⟨yesJaJaJa, NameMap.empty⟩
    ∃ xs, scope.hits (.term "contents__nl%word@s" "ja") = .ok xs ∧
      scope.hits (.modify (.repeated "contents" 3 4) (.term "contents__nl%word@s" "ja")) = .ok [] ∧
      Repeats 1 3 4 xs ⟨0, 3⟩ := by
  intro scope
  let words := [ofSpan ⟨0, 1⟩, ofSpan ⟨1, 2⟩, ofSpan ⟨2, 3⟩]
  have htokens : tokenHits scope.document "contents__nl%word@s" (fun v => v == "ja") = .ok words := by
    decide +kernel
  have hwords : scope.hits (.term "contents__nl%word@s" "ja") = .ok (sorted words) := by
    rw [hits, htokens]
    rfl
  have hsize : scope.document.size "contents" = 1 := by decide
  have hnone : rows 1 3 4 (sorted words) = [] := by
    refine List.eq_nil_iff_forall_not_mem.2 fun c hc => ?_
    rcases mem_rows_iff.1 hc with ⟨hzero, -⟩ | ⟨n, hlow, -, hn, -⟩
    · cases hzero
    · have hthree : 3 ≤ n := hlow
      omega
  refine ⟨sorted words, hwords, ?_, 3, by decide, by decide, .inr ?_⟩
  · rw [hits_repeated hwords, hsize, hnone, sorted_nil]
  · have hmem : ∀ a ∈ words, a ∈ sorted words := fun a ha => mem_sorted.2 ha
    have hone : IsRow (sorted words) 1 (ofSpan ⟨0, 1⟩) := .one (hmem _ (by decide))
    have htwo := hone.behind (hmem (ofSpan ⟨1, 2⟩) (by decide)) rfl
    exact ⟨_, htwo.behind (hmem (ofSpan ⟨2, 3⟩) (by decide)) rfl, rfl⟩

end CorpusSearch.SearchScope
