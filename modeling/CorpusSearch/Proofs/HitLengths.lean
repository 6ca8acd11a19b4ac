import CorpusSearch.Proofs.SaturatedBounds
import CorpusSearch.Proofs.SimplifiedSearch
import CorpusSearch.Proofs.VisitedNodes

/-!
Lengths of hits. The length range of a pattern is told from the pattern alone, with sums and products that stop
below the largest word; in a document with less than half as many positions these are the true sums and products of
all lengths that occur. Main statement: every hit of a pattern is as long as its length range says.
-/

set_option autoImplicit false

namespace CorpusSearch

/-! ### Bounds -/

namespace Bound

/-- A bound that stands for a number: it is the number, or both are out of reach. -/
def Counts (b : UInt32) (n : Nat) : Prop := b.toNat = n ∨ 4294967294 ≤ b.toNat ∧ 4294967294 ≤ n

private theorem counts_ofCount (n : Nat) : Counts (ofCount n) n := by
  rw [Counts, toNat_ofCount]
  omega

private theorem counts_unlimited {n : Nat} (h : 4294967294 ≤ n) : Counts unlimited n := by
  refine .inr ⟨?_, h⟩
  rw [toNat_unlimited]
  omega

private theorem counts_add (a b : UInt32) : Counts (add a b) (a.toNat + b.toNat) := by
  rw [add]
  split
  · rename_i h
    refine counts_unlimited ?_
    rcases h with rfl | rfl
    · rw [toNat_unlimited]
      omega
    · rw [toNat_unlimited]
      omega
  · exact counts_ofCount _

private theorem counts_mul (a b : UInt32) : Counts (mul a b) (a.toNat * b.toNat) := by
  rw [mul]
  split
  · rename_i h
    rcases h with rfl | rfl
    · exact .inl (Nat.zero_mul _).symm
    · exact .inl (Nat.mul_zero _).symm
  · rename_i hne
    rw [not_or, ← UInt32.toNat_inj, ← UInt32.toNat_inj] at hne
    have ha : 1 ≤ a.toNat := Nat.one_le_iff_ne_zero.2 hne.1
    have hb : 1 ≤ b.toNat := Nat.one_le_iff_ne_zero.2 hne.2
    split
    · rename_i h
      refine counts_unlimited ?_
      rcases h with rfl | rfl
      · have hmul := Nat.mul_le_mul_left unlimited.toNat hb
        rw [toNat_unlimited] at hmul ⊢
        omega
      · have hmul := Nat.mul_le_mul_right unlimited.toNat ha
        rw [toNat_unlimited] at hmul ⊢
        omega
    · exact counts_ofCount _

end Bound

/-! ### Length ranges -/

/-- The number of tokens of a span is one that a range allows. -/
structure LengthRange.Allows (l : LengthRange) (s : Span) : Prop where
  min : s.start.toNat + l.min.toNat ≤ s.stop.toNat
  max : s.stop.toNat ≤ s.start.toNat + l.max.toNat

namespace LengthRange

variable {l m : LengthRange} {s t : Span}

private theorem allows_of_counts {least most : Nat} (hshort : s.Short) (hmin : Bound.Counts l.min least)
    (hmax : Bound.Counts l.max most) (hleast : s.start.toNat + least ≤ s.stop.toNat)
    (hmost : s.stop.toNat ≤ s.start.toNat + most) : l.Allows s := by
  have hlt := hshort.lt
  unfold Bound.Counts at hmin hmax
  exact ⟨by omega, by omega⟩

theorem Allows.both (h : l.Allows s) (h' : m.Allows s) : (l.both m).Allows s := by
  have hmin := h.min
  have hmax := h.max
  have hmin' := h'.min
  have hmax' := h'.max
  constructor
  · rw [LengthRange.both, Span.toNat_max]
    omega
  · rw [LengthRange.both, Span.toNat_min]
    omega

private theorem Allows.either_left (h : l.Allows s) : (l.either m).Allows s := by
  have hmin := h.min
  have hmax := h.max
  constructor
  · rw [LengthRange.either, Span.toNat_min]
    omega
  · rw [LengthRange.either, Span.toNat_max]
    omega

private theorem Allows.either_right (h : m.Allows s) : (l.either m).Allows s := by
  have hmin := h.min
  have hmax := h.max
  constructor
  · rw [LengthRange.either, Span.toNat_min]
    omega
  · rw [LengthRange.either, Span.toNat_max]
    omega

/-- A span behind another one. -/
theorem Allows.append (h : l.Allows s) (h' : m.Allows t) (hs : s.Short) (ht : t.Short)
    (hadjacent : t.start = s.stop) : (l.append m).Allows ⟨s.start, t.stop⟩ := by
  have hmin := h.min
  have hmax := h.max
  have hmin' := h'.min
  have hmax' := h'.max
  rw [hadjacent] at hmin' hmax'
  refine allows_of_counts (hs.append ht hadjacent) (Bound.counts_add _ _) (Bound.counts_add _ _) ?_ ?_
  · show s.start.toNat + (l.min.toNat + m.min.toNat) ≤ t.stop.toNat
    omega
  · show t.stop.toNat ≤ s.start.toNat + (l.max.toNat + m.max.toNat)
    omega

private theorem Allows.joinLength_neutralLength (h : l.Allows s) (hs : s.Short) (connective : Connective) :
    (connective.joinLength connective.neutralLength l).Allows s := by
  have hle := hs.le
  have hlt := hs.lt
  cases connective with
  | and =>
      refine Allows.both ⟨?_, ?_⟩ h
      · exact hle
      · show s.stop.toNat ≤ s.start.toNat + 4294967295
        omega
  | or => exact h.either_right
  | sequence =>
      have hnone : LengthRange.Allows ⟨0, 0⟩ ⟨s.start, s.start⟩ := ⟨Nat.le_refl _, Nat.le_refl _⟩
      exact hnone.append h ⟨Nat.le_refl _, Nat.lt_of_le_of_lt hle hlt⟩ hs rfl

private theorem allows_exactly_one {p : Nat} (hp : p < 2147483647) : (exactly 1).Allows (Hit.token p) := by
  have hstart : (Hit.token p).start.toNat = p := Span.toNat_ofNat_of_short (by omega)
  have hstop : (Hit.token p).stop.toNat = p + 1 := Span.toNat_ofNat_of_short (by omega)
  have hone : (1 : UInt32).toNat = 1 := rfl
  constructor
  · rw [hstart, hstop, exactly, hone]
  · rw [hstart, hstop, exactly, hone]

private theorem allows_exactly_zero (position : UInt32) : (exactly 0).Allows ⟨position, position⟩ :=
  ⟨Nat.le_refl _, Nat.le_refl _⟩

end LengthRange

/-! ### Operations -/

def Hit.Measured (l : LengthRange) (hs : List Hit) : Prop := ∀ a ∈ hs, a.span.Short ∧ l.Allows a.span

namespace Hit

variable {l m : LengthRange} {xs ys hs : List Hit} {size : Nat}

private theorem measured_joinTwo {connective : Connective} (hxs : Measured l xs) (hys : Measured m ys) :
    Measured (connective.joinLength l m) (joinTwo (Planner.planConnective connective) xs ys) := by
  intro c hc
  have hjoined := joined_of_mem hc
  cases connective with
  | and =>
      cases hjoined with
      | both _ ha hb hspan =>
          have hy := (hys _ hb).2
          rw [hspan] at hy
          exact ⟨(hxs _ ha).1, (hxs _ ha).2.both hy⟩
  | or =>
      cases hjoined with
      | both hjoins _ _ _ => rcases hjoins with h | h <;> cases h
      | left ha => exact ⟨(hxs _ ha).1, (hxs _ ha).2.either_left⟩
      | right hb => exact ⟨(hys _ hb).1, (hys _ hb).2.either_right⟩
  | sequence =>
      cases hjoined with
      | both hjoins _ _ _ => rcases hjoins with h | h <;> cases h
      | behind ha hb hadjacent =>
          obtain ⟨hs, hx⟩ := hxs _ ha
          obtain ⟨ht, hy⟩ := hys _ hb
          exact ⟨hs.append ht hadjacent, hx.append hy hs ht hadjacent⟩

/-- What is known of the hits of a clause: they are short, and as long as is known of the clause. -/
def MeasuredAs (x : Pattern) (hs : List Hit) : Prop :=
  (∀ a ∈ hs, a.span.Short) ∧ ∀ l, x.length? = some l → Measured l hs

private theorem measured_foldl {connective : Connective} {clauses : List Pattern} {hss : List (List Hit)}
    (h : List.Forall₂ MeasuredAs clauses hss) {done : LengthRange} (hxs : Measured done xs)
    (hl : Pattern.joinedLength? connective done clauses = some l) :
    Measured l (hss.foldl (joinTwo (Planner.planConnective connective)) xs) := by
  induction h generalizing done xs with
  | nil =>
      obtain rfl := Option.some.inj hl
      exact hxs
  | @cons x ys clauses hss hx _ ih =>
      rw [Pattern.joinedLength?] at hl
      split at hl
      · cases hl
      · rename_i m hm
        exact ih (measured_joinTwo hxs (hx.2 m hm)) hl

private theorem measured_joined {connective : Connective} {clauses : List Pattern} {hss : List (List Hit)}
    (h : List.Forall₂ MeasuredAs clauses hss)
    (hl : Pattern.joinedLength? connective connective.neutralLength clauses = some l) :
    Measured l (joined (Planner.planConnective connective) hss) := by
  cases h with
  | nil =>
      intro a ha
      cases connective <;> cases ha
  | @cons x ys clauses hss hx hrest =>
      rw [joined_cons]
      rw [Pattern.joinedLength?] at hl
      split at hl
      · cases hl
      · rename_i m hm
        refine measured_foldl hrest (fun a ha => ?_) hl
        obtain ⟨hs, ha⟩ := hx.2 m hm a ha
        exact ⟨hs, ha.joinLength_neutralLength hs connective⟩

theorem IsRow.length {n : Nat} {c : Hit} (h : ∀ a ∈ xs, l.Allows a.span) (hrow : IsRow xs n c) :
    c.span.start.toNat + n * l.min.toNat ≤ c.span.stop.toNat ∧
      c.span.stop.toNat ≤ c.span.start.toNat + n * l.max.toNat := by
  induction hrow with
  | one ha =>
      have hlength := h _ ha
      rw [Nat.one_mul, Nat.one_mul]
      exact ⟨hlength.min, hlength.max⟩
  | @behind n a b _ hb hadjacent ih =>
      have hmin := (h _ hb).min
      have hmax := (h _ hb).max
      rw [hadjacent] at hmin hmax
      rw [Nat.succ_mul, Nat.succ_mul]
      constructor
      · show a.span.start.toNat + (n * l.min.toNat + l.min.toNat) ≤ b.span.stop.toNat
        omega
      · show b.span.stop.toNat ≤ a.span.start.toNat + (n * l.max.toNat + l.max.toNat)
        omega

private theorem allows_of_mem_rows {low high : UInt32} (h : ∀ a ∈ xs, l.Allows a.span) {c : Hit} (hc : c.span.Short)
    (hmem : c ∈ rows size low high xs) : (l.times ⟨low, high⟩).Allows c.span := by
  have hrows : ∃ n, low.toNat ≤ n ∧ n ≤ high.toNat ∧
      c.span.start.toNat + n * l.min.toNat ≤ c.span.stop.toNat ∧
        c.span.stop.toNat ≤ c.span.start.toNat + n * l.max.toNat := by
    rcases mem_rows_iff.1 hmem with ⟨rfl, p, _, rfl⟩ | ⟨n, hlow, hhigh, -, hrow⟩
    · refine ⟨0, Nat.le_refl 0, Nat.zero_le _, ?_⟩
      rw [Nat.zero_mul, Nat.zero_mul]
      exact ⟨Nat.le_refl _, Nat.le_refl _⟩
    · exact ⟨n, hlow, hhigh, hrow.length h⟩
  obtain ⟨n, hlow, hhigh, hmin, hmax⟩ := hrows
  have hleast : l.min.toNat * low.toNat ≤ n * l.min.toNat :=
    Nat.mul_comm n _ ▸ Nat.mul_le_mul_left _ hlow
  have hmost : n * l.max.toNat ≤ l.max.toNat * high.toNat :=
    Nat.mul_comm n _ ▸ Nat.mul_le_mul_left _ hhigh
  refine LengthRange.allows_of_counts hc (Bound.counts_mul l.min low) (Bound.counts_mul l.max high) ?_ ?_
  · omega
  · omega

private theorem allows_of_mem_expand {direction : ExpansionDirection} {low high : UInt32} {a c : Hit}
    (ha : l.Allows a.span) (hs : a.span.Short) (hc : c.span.Short) (hsize : size < 2147483648)
    (hmem : c ∈ expand size direction low high a) : (l.append ⟨low, high⟩).Allows c.span := by
  have hmin := ha.min
  have hmax := ha.max
  have hlt := hs.lt
  have hle := hs.le
  have hgrown : ∃ n, low.toNat ≤ n ∧ n ≤ high.toNat ∧
      c.span.stop.toNat + a.span.start.toNat = c.span.start.toNat + a.span.stop.toNat + n := by
    cases direction with
    | left =>
        obtain ⟨n, hn, rfl⟩ := List.mem_map.1 hmem
        obtain ⟨hlow, hhigh⟩ := mem_between.1 hn
        have hstart : (UInt32.ofNat (a.span.start.toNat - n)).toNat = a.span.start.toNat - n :=
          Span.toNat_ofNat_of_short (by omega)
        refine ⟨n, hlow, by omega, ?_⟩
        show a.span.stop.toNat + a.span.start.toNat =
          (UInt32.ofNat (a.span.start.toNat - n)).toNat + a.span.stop.toNat + n
        omega
    | right =>
        obtain ⟨n, hn, rfl⟩ := List.mem_map.1 hmem
        obtain ⟨hlow, hhigh⟩ := mem_between.1 hn
        have hstop : (UInt32.ofNat (a.span.stop.toNat + n)).toNat = a.span.stop.toNat + n :=
          Span.toNat_ofNat_of_short (by omega)
        refine ⟨n, hlow, by omega, ?_⟩
        show (UInt32.ofNat (a.span.stop.toNat + n)).toNat + a.span.start.toNat =
          a.span.start.toNat + a.span.stop.toNat + n
        omega
  obtain ⟨n, hlow, hhigh, hlength⟩ := hgrown
  refine LengthRange.allows_of_counts hc (Bound.counts_add l.min low) (Bound.counts_add l.max high) ?_ ?_
  · omega
  · omega

private theorem allows_of_mem_nGrams {low high : UInt32} {c : Hit} (hsize : size < 2147483648)
    (hmem : c ∈ nGrams size low high) : LengthRange.Allows ⟨low, high⟩ c.span := by
  obtain ⟨n, hlow, hhigh, start, hstart, rfl⟩ := mem_nGrams.1 hmem
  have hfrom : (UInt32.ofNat start).toNat = start := Span.toNat_ofNat_of_short (by omega)
  have hto : (UInt32.ofNat (start + n)).toNat = start + n := Span.toNat_ofNat_of_short (by omega)
  constructor
  · show (UInt32.ofNat start).toNat + low.toNat ≤ (UInt32.ofNat (start + n)).toNat
    omega
  · show (UInt32.ofNat (start + n)).toNat ≤ (UInt32.ofNat start).toNat + high.toNat
    omega

private theorem allows_of_mem_tokenHits {d : Document} (hd : d.Short) {field : String} {test : String → Bool}
    {hs : List Hit}
    (h : tokenHits d field test = .ok hs) {a : Hit} (ha : a ∈ hs) : (LengthRange.exactly 1).Allows a.span := by
  obtain ⟨f, content, p, hget, hp, rfl⟩ := token_of_mem_tokenHits h ha
  have hsize := hd.size hget
  exact LengthRange.allows_exactly_one (by omega)

end Hit

/-! ### Plans -/

namespace Plan

def LengthsIn (scope : SearchScope) (l : LengthRange) (p : Plan) : Prop :=
  ∀ hs, scope.hits p = .ok hs → ∀ a ∈ hs, l.Allows a.span

variable {scope : SearchScope} {l : LengthRange}

private theorem lengthsIn_term (hd : scope.document.Short) (field value : String) :
    (Plan.term field value).LengthsIn scope (.exactly 1) := by
  intro hs h a ha
  rw [SearchScope.hits] at h
  obtain ⟨found, hfound, h⟩ := Result.bind_eq_ok.1 h
  obtain rfl := Except.ok.inj h
  exact Hit.allows_of_mem_tokenHits hd hfound (Hit.mem_sorted.1 ha)

private theorem lengthsIn_regex (hd : scope.document.Short) (field expression : String) :
    (Plan.regex field expression).LengthsIn scope (.exactly 1) := by
  intro hs h a ha
  rw [SearchScope.hits] at h
  obtain ⟨core, _, h⟩ := Result.bind_eq_ok.1 h
  obtain ⟨found, hfound, h⟩ := Result.bind_eq_ok.1 h
  obtain rfl := Except.ok.inj h
  exact Hit.allows_of_mem_tokenHits hd hfound (Hit.mem_sorted.1 ha)

private theorem lengthsIn_anyToken (hd : scope.document.Short) (field : String) (low high : UInt32) :
    (Plan.anyToken field low high).LengthsIn scope ⟨low, high⟩ := by
  intro hs h a ha
  rw [SearchScope.hits] at h
  obtain rfl := Except.ok.inj h
  exact Hit.allows_of_mem_nGrams (hd.size_lt field) (Hit.mem_sorted.1 ha)

private theorem lengthsIn_fixedSpan (field : String) {s : Span} (hs : s.start ≤ s.stop) :
    (Plan.fixedSpan field s).LengthsIn scope (.exactly (s.stop - s.start)) := by
  intro found h a ha
  rw [SearchScope.hits] at h
  obtain rfl := Except.ok.inj h
  split at ha
  · obtain rfl := List.mem_singleton.1 ha
    have hle := UInt32.le_iff_toNat_le.1 hs
    have hlength : (s.stop - s.start).toNat = s.stop.toNat - s.start.toNat :=
      UInt32.toNat_sub_of_le _ _ hs
    constructor
    · show s.start.toNat + (s.stop - s.start).toNat ≤ s.stop.toNat
      omega
    · show s.stop.toNat ≤ s.start.toNat + (s.stop - s.start).toNat
      omega
  · cases ha

private theorem lengthsIn_tags {query : TagQuery} (hedge : query.adjust ≠ .fullTag) :
    (Plan.tags query).LengthsIn scope (.exactly 0) := by
  intro hs h a ha
  rw [SearchScope.hits] at h
  obtain ⟨found, hfound, h⟩ := Result.bind_eq_ok.1 h
  obtain rfl := Except.ok.inj h
  obtain ⟨_, _, t, _, _, rfl⟩ := Hit.exists_of_mem_tagHits hfound (Hit.mem_sorted.1 ha)
  show (LengthRange.exactly 0).Allows (Hit.adjustTag query.adjust t.span)
  cases hadjust : query.adjust with
  | fullTag => exact absurd hadjust hedge
  | leadingEdge => exact LengthRange.allows_exactly_zero _
  | trailingEdge => exact LengthRange.allows_exactly_zero _

private theorem lengthsIn_positionFilter {test : PositionTest} {producer filter : Plan}
    (h : producer.LengthsIn scope l) : (Plan.positionFilter test producer filter).LengthsIn scope l := by
  intro hs hhits a ha
  rw [SearchScope.hits] at hhits
  obtain ⟨partners, _, hhits⟩ := Result.bind_eq_ok.1 hhits
  obtain ⟨found, hfound, hhits⟩ := Result.bind_eq_ok.1 hhits
  obtain rfl := Except.ok.inj hhits
  obtain ⟨b, hb, hsome⟩ := List.mem_filterMap.1 (Hit.mem_sorted.1 ha)
  have hlength := h found hfound b hb
  split at hsome
  · obtain rfl := Option.some.inj hsome
    exact hlength
  · obtain rfl := Option.some.inj hsome
    exact hlength
  · cases hsome
  · cases hsome

private theorem measuredAs_of_hitLists (hd : scope.document.Short) {clauses : List Pattern} {plans : List Plan}
    (h : List.Forall₂ (fun x q => ∀ l, x.length? = some l → q.LengthsIn scope l) clauses plans)
    (hspans : scope.document.FixedSpansIn Span.Short (mentionsOf plans)) {hss : List (List Hit)}
    (hhits : scope.hitLists plans = .ok hss) : List.Forall₂ Hit.MeasuredAs clauses hss := by
  induction h generalizing hss with
  | nil =>
      obtain rfl := Except.ok.inj hhits
      exact .nil
  | @cons x q clauses plans hq _ ih =>
      rw [SearchScope.hitLists] at hhits
      obtain ⟨first, hfirst, hhits⟩ := Result.bind_eq_ok.1 hhits
      obtain ⟨rest, hrest, hhits⟩ := Result.bind_eq_ok.1 hhits
      obtain rfl := Except.ok.inj hhits
      have hplaced := SearchScope.placed_of_hits hd.closedSpans q hspans.left hfirst
      refine .cons ⟨fun a ha => (hplaced a ha).span, fun l hl a ha => ?_⟩ (ih hspans.right hrest)
      exact ⟨(hplaced a ha).span, hq l hl first hfirst a ha⟩

private theorem lengthsIn_join (hd : scope.document.Short) {connective : Connective} {clauses : List Pattern}
    {plans : List Plan}
    (h : List.Forall₂ (fun x q => ∀ l, x.length? = some l → q.LengthsIn scope l) clauses plans)
    (hspans : scope.document.FixedSpansIn Span.Short (mentionsOf plans))
    (hl : Pattern.joinedLength? connective connective.neutralLength clauses = some l) :
    (Plan.join (Planner.planConnective connective) plans).LengthsIn scope l := by
  intro hs hhits a ha
  rw [SearchScope.hits] at hhits
  obtain ⟨hss, hhss, hhits⟩ := Result.bind_eq_ok.1 hhits
  obtain rfl := Except.ok.inj hhits
  have hmeasured := measuredAs_of_hitLists hd h hspans hhss
  exact (Hit.measured_joined hmeasured hl a (Hit.mem_sorted.1 ha)).2

private theorem allows_of_mem_modified (hd : scope.document.Short) {prepared : List Relation} {xs : List Hit}
    {field : String} {m : Modifier} {pm : PlanModifier} (hm : m.inPlan? field = some pm) {clause : Option LengthRange}
    (hxs : ∀ b ∈ xs, b.span.Short) (hclause : ∀ l, clause = some l → ∀ b ∈ xs, l.Allows b.span)
    (hl : m.length? clause = some l) {a : Hit} (hshort : a.span.Short) (ha : a ∈ scope.modified prepared xs pm) :
    l.Allows a.span := by
  have hsize := hd.size_lt field
  cases m with
  | not =>
      obtain rfl := Option.some.inj hm
      obtain rfl := Option.some.inj hl
      obtain ⟨p, hp, -, rfl⟩ := Hit.mem_complement.1 ha
      exact LengthRange.allows_exactly_one (by omega)
  | repeated min max =>
      obtain rfl := Option.some.inj hm
      obtain ⟨k, hk, rfl⟩ := Option.map_eq_some_iff.1 hl
      exact Hit.allows_of_mem_rows (hclause k hk) hshort ha
  | expanded direction min max =>
      obtain rfl := Option.some.inj hm
      obtain ⟨k, hk, rfl⟩ := Option.map_eq_some_iff.1 hl
      obtain ⟨b, hb, ha⟩ := List.mem_flatMap.1 ha
      exact Hit.allows_of_mem_expand (hclause k hk b hb) (hxs b hb) hshort hsize ha
  | filteredNGrams operation min max =>
      obtain rfl := Option.some.inj hm
      obtain rfl := Option.some.inj hl
      exact Hit.allows_of_mem_nGrams hsize (List.mem_of_mem_filter ha)
  | capture name =>
      obtain rfl := Option.some.inj hm
      obtain ⟨b, hb, rfl⟩ := List.mem_map.1 ha
      exact hclause l hl b hb
  | edge trailing =>
      obtain rfl := Option.some.inj hm
      obtain rfl := Option.some.inj hl
      obtain ⟨b, hb, rfl⟩ := List.mem_map.1 ha
      exact LengthRange.allows_exactly_zero _
  | constrained filter => cases hm
  | version name => cases hm
  | settings values => cases hm

private theorem lengthsIn_modify (hd : scope.document.Short) {field : String} {m : Modifier} {pm : PlanModifier}
    (hm : m.inPlan? field = some pm) {clause : Option LengthRange} {q : Plan}
    (hq : ∀ l, clause = some l → q.LengthsIn scope l)
    (hspans : scope.document.FixedSpansIn Span.Short (Plan.modify pm q).mentions) (hl : m.length? clause = some l) :
    (Plan.modify pm q).LengthsIn scope l := by
  intro hs hhits a ha
  have hshort := (SearchScope.placed_of_hits hd.closedSpans _ hspans hhits a ha).span
  rw [SearchScope.hits] at hhits
  obtain ⟨prepared, _, hhits⟩ := Result.bind_eq_ok.1 hhits
  obtain ⟨found, hfound, hhits⟩ := Result.bind_eq_ok.1 hhits
  obtain rfl := Except.ok.inj hhits
  have hplaced := SearchScope.placed_of_hits hd.closedSpans q hspans.right hfound
  exact allows_of_mem_modified hd hm (fun b hb => (hplaced b hb).span) (fun k hk => hq k hk found hfound) hl hshort
    (Hit.mem_sorted.1 ha)

private theorem lengthsIn_constrained {constraint : Constraint} {field : String} {layers : NameSet} {q : Plan}
    (h : q.LengthsIn scope l) : (Plan.modify (.constrained constraint field layers) q).LengthsIn scope l := by
  intro hs hhits a ha
  rw [SearchScope.hits] at hhits
  obtain ⟨_, _, hhits⟩ := Result.bind_eq_ok.1 hhits
  obtain ⟨found, hfound, hhits⟩ := Result.bind_eq_ok.1 hhits
  obtain rfl := Except.ok.inj hhits
  exact h found hfound a (List.mem_of_mem_filter (Hit.mem_sorted.1 ha))

end Plan

/-! ### Patterns -/

/-- A fixed span does not end before it starts. -/
def PlanMention.InOrder : PlanMention → Prop
  | .span s => s.start ≤ s.stop
  | .values _ | .relations _ | .tokens _ | .reading _ _ => True

private theorem Extensions.inOrder_standard : standard.Name fun _ m => m.InOrder := by
  refine name_standard.imp fun c m hm => ?_
  cases hm with
  | tokens => trivial
  | relations _ => trivial

namespace Planner

variable {values given : AttributeValue → Prop} {p : Planner} {c : Context} {x : Pattern} {plan : Plan}
  {scope : SearchScope} {l : LengthRange}

private theorem lengthsIn_of_nodePlan (hd : scope.document.Short)
    (h : NodePlan p (fun _ y q => scope.document.FixedSpansIn Span.Short q.mentions → y.WellFormed values →
      ∀ k, y.length? = some k → q.LengthsIn scope k) c x plan)
    (hspans : scope.document.FixedSpansIn Span.Short plan.mentions) (hx : x.WellFormed values)
    (hl : x.length? = some l) : plan.LengthsIn scope l := by
  cases h with
  | term h =>
      obtain rfl := Option.some.inj hl
      obtain ⟨_, _, h⟩ := Result.bind_eq_ok.1 h
      obtain ⟨field, _, h⟩ := Result.bind_eq_ok.1 h
      obtain ⟨value, _, h⟩ := Result.bind_eq_ok.1 h
      obtain rfl := Except.ok.inj h
      exact Plan.lengthsIn_term hd field value
  | regex h =>
      obtain rfl := Option.some.inj hl
      obtain ⟨_, _, h⟩ := Result.bind_eq_ok.1 h
      obtain ⟨_, _, h⟩ := Result.bind_eq_ok.1 h
      obtain ⟨_, _, h⟩ := Result.bind_eq_ok.1 h
      obtain ⟨field, _, h⟩ := Result.bind_eq_ok.1 h
      obtain ⟨s, _, h⟩ := Result.bind_eq_ok.1 h
      obtain rfl := Except.ok.inj h
      exact Plan.lengthsIn_regex hd field _
  | anyToken min max =>
      obtain rfl := Option.some.inj hl
      exact Plan.lengthsIn_anyToken hd _ min max
  | fixedSpan span =>
      obtain rfl := Option.some.inj hl
      exact Plan.lengthsIn_fixedSpan _ hx.sound
  | @tags tag field capture _ _ =>
      have hedge : tag.adjust ≠ .fullTag ∧ l = .exactly 0 := by
        rw [Pattern.length?] at hl
        cases hadjust : tag.adjust <;> rw [hadjust] at hl
        · cases hl
        · exact ⟨nofun, (Option.some.inj hl).symm⟩
        · exact ⟨nofun, (Option.some.inj hl).symm⟩
      rw [hedge.2]
      exact Plan.lengthsIn_tags hedge.1
  | join hclauses =>
      rw [Plan.mentions] at hspans
      refine Plan.lengthsIn_join hd ?_ hspans hl
      have hwell := fun y hy => hx.child (q := y) hy
      clear hl hx
      induction hclauses with
      | nil => exact .nil
      | cons hy _ ih =>
          refine .cons (hy hspans.left (hwell _ List.mem_cons_self)) (ih hspans.right fun y hy => ?_)
          exact hwell y (List.mem_cons_of_mem _ hy)
  | modify hm hq =>
      exact Plan.lengthsIn_modify hd hm (hq hspans.right (hx.child List.mem_cons_self)) hspans hl
  | constrained hq _ _ =>
      exact Plan.lengthsIn_constrained (hq hspans.right (hx.child List.mem_cons_self) l hl)
  | version _ hq => exact hq hspans (hx.child List.mem_cons_self) l hl
  | settings hq => exact hq hspans (hx.child List.mem_cons_self) l hl
  | positionFilter hq _ =>
      exact Plan.lengthsIn_positionFilter (hq hspans.left (hx.child List.mem_cons_self) l hl)
  | relation _ _ _ => cases hl
  | negatedRelation _ _ _ => cases hl
  | relationMatch _ _ => cases hl
  | rootRelations _ => cases hl
  | call _ _ _ _ => cases hl

private theorem fixedSpansIn_of_plan {d : Document} (hd : d.Short) (hfunctions : p.extensions.Name fun _ m => m.InOrder)
    (hx : x.WellFormed values) (h : p.plan c x = .ok plan) : d.FixedSpansIn Span.Short plan.mentions := by
  intro s field hs hlies
  obtain ⟨e, y, hvisits, hnames⟩ := exists_visits_of_mem_mentions hfunctions h hs
  have hsize := hd.size_lt field
  have hle : s.start ≤ s.stop := by
    have hy := hvisits.wellFormed hx
    cases hnames with
    | span => exact hy.sound
    | context _ hm => cases hm
    | call hm => exact hm
  exact ⟨UInt32.le_iff_toNat_le.1 hle, by omega⟩

private theorem lengthsIn_of_plan (hplain : p.simplifying = false) (hd : scope.document.Short)
    (hspans : scope.document.FixedSpansIn Span.Short plan.mentions) (hx : x.WellFormed values)
    (h : p.plan c x = .ok plan) (hl : x.length? = some l) : plan.LengthsIn scope l := by
  refine plan_induction (P := fun _ y q => scope.document.FixedSpansIn Span.Short q.mentions → y.WellFormed values →
    ∀ k, y.length? = some k → q.LengthsIn scope k) (fun c x plan hnode hspans hx l hl => ?_) h hspans hx l hl
  rw [prepared, hplain, if_neg Bool.false_ne_true] at hnode
  exact lengthsIn_of_nodePlan hd hnode hspans hx hl

/--
In short documents every hit of a pattern that is planned as it stands is as long as the pattern says, if no function
makes a fixed span that ends before it starts. The relation functions make none.
-/
theorem length_of_mem_search (hplain : p.simplifying = false)
    (hfunctions : p.extensions.Name fun _ m => m.InOrder) (hx : x.Made given) (hplan : p.plan c x = .ok plan)
    (hl : x.length? = some l) {index : Index} (hshort : ∀ d ∈ index.documents, d.Short) (field : String) :
    ∀ found ∈ index.search plan field, ∀ hs, found.hits = .ok hs → ∀ a ∈ hs,
      a.span.start.toNat + l.min.toNat ≤ a.span.stop.toNat ∧
        (l.max ≠ Bound.unlimited → a.span.stop.toNat ≤ a.span.start.toNat + l.max.toNat) := by
  intro found hfound hs hhits a ha
  obtain ⟨⟨d, number⟩, hd, hsome⟩ := List.mem_filterMap.1 hfound
  have hd := hshort d (List.fst_mem_of_mem_zipIdx hd)
  dsimp only at hsome
  split at hsome
  · obtain rfl := Option.some.inj hsome
    have hwell := Pattern.wellFormed_of_made hx
    have hspans := fixedSpansIn_of_plan hd hfunctions hwell hplan
    have hlengths : plan.LengthsIn ⟨d, index.predicates⟩ l := lengthsIn_of_plan hplain hd hspans hwell hplan hl
    have hallows := hlengths hs hhits a ha
    exact ⟨hallows.min, fun _ => hallows.max⟩
  · cases hsome

private theorem quickFox_short : quickFox.Short := by
  have hcontent : ∀ {field content}, quickFox.get? field = some content → content =
      (FieldContent.empty.withValues "word" ["The", "quick", "Fox"]).withTag ⟨"s", ⟨0, 2⟩, NameMap.empty⟩ := by
    intro field content h
    rw [quickFox, NameMap.get?_insert] at h
    split at h
    · exact (Option.some.inj h).symm
    · cases h
  constructor
  · intro field content h
    rw [hcontent h]
    decide
  · rintro r ⟨field, content, h, hr⟩
    rw [hcontent h] at hr
    cases hr
  · intro field content tag h htag
    rw [hcontent h] at htag
    obtain rfl := List.mem_singleton.1 htag
    exact ⟨by decide, by decide⟩

/-- One word or two of a kind, and at most one more. -/
theorem length_of_mem_search_repeated :
    let word : Pattern := .term ⟨"quick", none, some .sensitive⟩
    let x : Pattern := .modify (.expanded .right 0 1) (.modify (.repeated 1 2) word)
    let plan : Plan := .modify (.expanded "contents" .right 0 1)
      (.modify (.repeated "contents" 1 2) (.term "contents%word@s" "quick"))
    standard.plain.simplifying = false ∧ x.Made AttributeValue.Ordered ∧ standard.plain.plan wordContext x = .ok plan ∧
      x.length? = some ⟨1, 3⟩ ∧
      ∀ found ∈ Index.search ⟨[quickFox], NameMap.empty⟩ plan "contents", ∀ hs, found.hits = .ok hs → ∀ a ∈ hs,
        a.span.start.toNat + 1 ≤ a.span.stop.toNat ∧
          ((3 : UInt32) ≠ Bound.unlimited → a.span.stop.toNat ≤ a.span.start.toNat + 3) := by
  intro word x plan
  have hword : word.Made AttributeValue.Ordered := .term ⟨"quick", none, some .sensitive⟩
  have hrepeats : Build.repetition word 1 2 = .ok (.modify (.repeated 1 2) word) := rfl
  have hexpands : Build.expansion (.modify (.repeated 1 2) word) .right 0 1 = .ok x := rfl
  have hx : x.Made AttributeValue.Ordered := .expansion (.repetition hword hrepeats) hexpands
  have hplan : standard.plain.plan wordContext x = .ok plan := by rfl
  have hlength : x.length? = some ⟨1, 3⟩ := by decide
  refine ⟨rfl, hx, hplan, hlength, ?_⟩
  exact length_of_mem_search rfl Extensions.inOrder_standard hx hplan hlength
    (List.forall_mem_singleton.2 quickFox_short) "contents"

def reversedSpan : QueryFunction :=
  ⟨"reversed", [], [], false, fun c _ => pure (.fixedSpan c.fieldName ⟨4294967295, 0⟩)⟩

/-- The start of such a span can lie outside of all documents, where lengths are no longer told apart. -/
theorem exceeds_length_of_reversedSpan :
    let p : Planner := ⟨Extensions.standard.register reversedSpan, Limits.standard, false⟩
    let x : Pattern := .modify (.expanded .left 1 1) (.modify (.expanded .left 4294967294 4294967294)
      (.modify (.edge false) (.call "reversed" [])))
    let plan : Plan := .modify (.expanded "contents" .left 1 1)
      (.modify (.expanded "contents" .left 4294967294 4294967294)
        (.modify (.edge false) (.fixedSpan "contents" ⟨4294967295, 0⟩)))
    p.simplifying = false ∧ x.Made AttributeValue.Ordered ∧ p.plan wordContext x = .ok plan ∧
      x.length? = some ⟨4294967294, 4294967294⟩ ∧ (4294967294 : UInt32) ≠ Bound.unlimited ∧ quickFox.Short ∧
      ∃ found ∈ Index.search ⟨[quickFox], NameMap.empty⟩ plan "contents", ∃ hs, found.hits = .ok hs ∧ ∃ a ∈ hs,
        ¬a.span.stop.toNat ≤ a.span.start.toNat + (4294967294 : UInt32).toNat := by
  intro p x plan
  have hcall : (Pattern.call "reversed" []).Made AttributeValue.Ordered :=
    .call (List.forall_mem_nil _) (List.forall_mem_nil _) (show Build.call "reversed" [] = _ from rfl)
  have hfirst : Build.expansion (.modify (.edge false) (.call "reversed" [])) .left 4294967294 4294967294 =
      .ok (.modify (.expanded .left 4294967294 4294967294) (.modify (.edge false) (.call "reversed" []))) := rfl
  have hsecond : Build.expansion (.modify (.expanded .left 4294967294 4294967294)
      (.modify (.edge false) (.call "reversed" []))) .left 1 1 = .ok x := rfl
  have hx : x.Made AttributeValue.Ordered := .expansion (.expansion (.edge hcall false) hfirst) hsecond
  let scope : SearchScope := ⟨quickFox, NameMap.empty⟩
  have hspan : scope.hits (.fixedSpan "contents" ⟨4294967295, 0⟩) = .ok [Hit.ofSpan ⟨4294967295, 0⟩] := by
    rw [SearchScope.hits]
    exact congrArg Except.ok (if_pos (Nat.zero_le _))
  have hedge : scope.hits (.modify (.edge false) (.fixedSpan "contents" ⟨4294967295, 0⟩)) =
      .ok [Hit.ofSpan ⟨4294967295, 4294967295⟩] := by
    rw [SearchScope.hits, hspan]
    exact congrArg Except.ok (Hit.sorted_singleton _)
  have hexpanded : scope.hits (.modify (.expanded "contents" .left 4294967294 4294967294)
      (.modify (.edge false) (.fixedSpan "contents" ⟨4294967295, 0⟩))) = .ok [Hit.ofSpan ⟨1, 4294967295⟩] := by
    rw [SearchScope.hits, hedge]
    exact congrArg Except.ok (Hit.sorted_singleton _)
  have hhits : scope.hits plan = .ok [Hit.ofSpan ⟨0, 4294967295⟩] := by
    rw [SearchScope.hits, hexpanded]
    exact congrArg Except.ok (Hit.sorted_singleton _)
  refine ⟨rfl, hx, by rfl, by decide, by decide, quickFox_short, ⟨0, scope.hits plan⟩, ?_, _, hhits,
    Hit.ofSpan ⟨0, 4294967295⟩, List.mem_cons_self, by decide⟩
  exact List.mem_cons_self

end Planner

end CorpusSearch
