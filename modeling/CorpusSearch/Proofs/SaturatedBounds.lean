import CorpusSearch.Pattern.Length
import CorpusSearch.Proofs.HitPositions
import Mathlib.Data.ENat.Lattice

/-!
Bounds as numbers. A bound stands for a number of tokens or for no limit at all; numbers beyond the largest finite bound
all have this one. Main statement: whatever is computed of bounds is the bound of what is computed of the numbers, so
that it makes no difference where a sum or a product was stopped on the way, and the length range of a pattern has the
bounds of its exact length range.
-/

set_option autoImplicit false

namespace CorpusSearch

namespace Bound

/-! ### Bounds of numbers -/

/-- The bound of a number of tokens, which may be infinite. -/
def ofENat (x : ℕ∞) : UInt32 := if x = ⊤ then unlimited else ofCount x.toNat

def toENat (b : UInt32) : ℕ∞ := if b = unlimited then ⊤ else b.toNat

theorem toNat_unlimited : unlimited.toNat = 4294967295 := rfl

theorem toNat_ofCount (n : Nat) : (ofCount n).toNat = min n 4294967294 := by
  have hlargest : largest.toNat = 4294967294 := rfl
  rw [ofCount, hlargest, UInt32.toNat_ofNat', Nat.mod_eq_of_lt (by omega)]

private theorem ofCount_ne_unlimited (n : Nat) : ofCount n ≠ unlimited := by
  rw [← UInt32.toNat_inj.ne, toNat_ofCount, toNat_unlimited]
  omega

private theorem ofCount_eq_zero_iff {n : Nat} : ofCount n = 0 ↔ n = 0 := by
  rw [← UInt32.toNat_inj, toNat_ofCount, UInt32.toNat_zero]
  omega

@[simp] theorem ofENat_top : ofENat ⊤ = unlimited := rfl

@[simp] theorem ofENat_natCast (n : Nat) : ofENat n = ofCount n := by
  rw [ofENat, if_neg (ENat.natCast_ne_top n), ENat.toNat_natCast]

private theorem ofENat_eq_unlimited_iff {x : ℕ∞} : ofENat x = unlimited ↔ x = ⊤ := by
  cases x with
  | top => simp
  | coe n => simp [ofCount_ne_unlimited]

private theorem ofENat_eq_zero_iff {x : ℕ∞} : ofENat x = 0 ↔ x = 0 := by
  cases x with
  | top => simp [unlimited]
  | coe n => simp [ofCount_eq_zero_iff]

private theorem ofENat_toENat (b : UInt32) : ofENat (toENat b) = b := by
  rw [toENat]
  split
  · rename_i h
    rw [h, ofENat_top]
  · rename_i h
    have hb := b.toNat_lt
    rw [← UInt32.toNat_inj, toNat_unlimited] at h
    rw [ofENat_natCast, ← UInt32.toNat_inj, toNat_ofCount]
    omega

private theorem toNat_ofENat_le {x y : ℕ∞} (h : x ≤ y) : (ofENat x).toNat ≤ (ofENat y).toNat := by
  cases y with
  | top =>
      have hx := (ofENat x).toNat_lt
      rw [ofENat_top, toNat_unlimited]
      omega
  | coe n =>
      cases x with
      | top => exact absurd (top_le_iff.1 h) (ENat.natCast_ne_top n)
      | coe m =>
          have hle : m ≤ n := ENat.natCast_le_natCast.1 h
          rw [ofENat_natCast, ofENat_natCast, toNat_ofCount, toNat_ofCount]
          omega

private theorem max_ofENat (x y : ℕ∞) : max (ofENat x) (ofENat y) = ofENat (max x y) := by
  rw [← UInt32.toNat_inj, Span.toNat_max]
  rcases le_total x y with h | h
  · rw [max_eq_right h, Nat.max_eq_right (toNat_ofENat_le h)]
  · rw [max_eq_left h, Nat.max_eq_left (toNat_ofENat_le h)]

private theorem min_ofENat (x y : ℕ∞) : min (ofENat x) (ofENat y) = ofENat (min x y) := by
  rw [← UInt32.toNat_inj, Span.toNat_min]
  rcases le_total x y with h | h
  · rw [min_eq_left h, Nat.min_eq_left (toNat_ofENat_le h)]
  · rw [min_eq_right h, Nat.min_eq_right (toNat_ofENat_le h)]

/-! ### Sums and products -/

private theorem add_ofENat (x y : ℕ∞) : add (ofENat x) (ofENat y) = ofENat (x + y) := by
  cases x with
  | top => simp [add]
  | coe m =>
      cases y with
      | top => simp [add]
      | coe n =>
          have hfinite : ¬(ofCount m = unlimited ∨ ofCount n = unlimited) :=
            not_or.2 ⟨ofCount_ne_unlimited m, ofCount_ne_unlimited n⟩
          rw [← Nat.cast_add, ofENat_natCast, ofENat_natCast, ofENat_natCast, add, if_neg hfinite,
            ← UInt32.toNat_inj, toNat_ofCount, toNat_ofCount, toNat_ofCount, toNat_ofCount]
          omega

private theorem min_mul_min {m n limit : Nat} (hm : m ≠ 0) (hn : n ≠ 0) :
    min (min m limit * min n limit) limit = min (m * n) limit := by
  have hm := Nat.pos_of_ne_zero hm
  have hn := Nat.pos_of_ne_zero hn
  rcases Nat.eq_zero_or_pos limit with rfl | hlimit
  · simp
  · rcases le_total m limit with hml | hml
    · rcases le_total n limit with hnl | hnl
      · rw [Nat.min_eq_left hml, Nat.min_eq_left hnl]
      · rw [Nat.min_eq_left hml, Nat.min_eq_right hnl, Nat.min_eq_right (Nat.le_mul_of_pos_left limit hm),
          Nat.min_eq_right (hnl.trans (Nat.le_mul_of_pos_left n hm))]
    · have hleft : limit ≤ limit * min n limit := Nat.le_mul_of_pos_right limit (Nat.lt_min.2 ⟨hn, hlimit⟩)
      rw [Nat.min_eq_right hml, Nat.min_eq_right hleft, Nat.min_eq_right (hml.trans (Nat.le_mul_of_pos_right m hn))]

private theorem mul_ofENat (x y : ℕ∞) : mul (ofENat x) (ofENat y) = ofENat (x * y) := by
  simp only [mul, ofENat_eq_zero_iff, ofENat_eq_unlimited_iff]
  split
  · rename_i hzero
    rw [ofENat_eq_zero_iff.2 (mul_eq_zero.2 hzero)]
  · rename_i hzero
    obtain ⟨hx, hy⟩ := not_or.1 hzero
    split
    · rename_i htop
      rcases htop with rfl | rfl
      · rw [ENat.top_mul hy, ofENat_top]
      · rw [ENat.mul_top hx, ofENat_top]
    · rename_i htop
      obtain ⟨hxtop, hytop⟩ := not_or.1 htop
      obtain ⟨m, rfl⟩ := ENat.ne_top_iff_exists.1 hxtop
      obtain ⟨n, rfl⟩ := ENat.ne_top_iff_exists.1 hytop
      rw [← Nat.cast_mul, ofENat_natCast, ofENat_natCast, ofENat_natCast, ← UInt32.toNat_inj, toNat_ofCount,
        toNat_ofCount, toNat_ofCount, toNat_ofCount, min_mul_min (by simpa using hx) (by simpa using hy)]

/-- A sum or a product of any number of bounds, grouped in some way. -/
inductive Computation where
  | bound (x : ℕ∞)
  | sum (s t : Computation)
  | product (s t : Computation)

namespace Computation

def exact : Computation → ℕ∞
  | bound x => x
  | sum s t => s.exact + t.exact
  | product s t => s.exact * t.exact

/-- What is computed of the bounds, each step of which may be stopped. -/
def stopped : Computation → UInt32
  | bound x => ofENat x
  | sum s t => add s.stopped t.stopped
  | product s t => mul s.stopped t.stopped

private theorem stopped_eq (t : Computation) : t.stopped = ofENat t.exact := by
  induction t with
  | bound x => rfl
  | sum s t ihs iht => rw [stopped, ihs, iht, add_ofENat, exact]
  | product s t ihs iht => rw [stopped, ihs, iht, mul_ofENat, exact]

end Computation

end Bound

/-! ### Length ranges -/

/-- Fewest and most tokens, as numbers. -/
structure ExactRange where
  min : ℕ∞
  max : ℕ∞

namespace ExactRange

open CorpusSearch.Bound (ofENat toENat)

/-- The range with the bounds of the numbers. -/
def bounds (r : ExactRange) : LengthRange := ⟨ofENat r.min, ofENat r.max⟩

def ofBounds (min max : UInt32) : ExactRange := ⟨toENat min, toENat max⟩

noncomputable def both (a b : ExactRange) : ExactRange := ⟨Max.max a.min b.min, Min.min a.max b.max⟩

noncomputable def either (a b : ExactRange) : ExactRange := ⟨Min.min a.min b.min, Max.max a.max b.max⟩

def append (a b : ExactRange) : ExactRange := ⟨a.min + b.min, a.max + b.max⟩

def times (a b : ExactRange) : ExactRange := ⟨a.min * b.min, a.max * b.max⟩

@[simp] theorem bounds_ofBounds (min max : UInt32) : (ofBounds min max).bounds = ⟨min, max⟩ := by
  rw [bounds, ofBounds, Bound.ofENat_toENat, Bound.ofENat_toENat]

private theorem bounds_both (a b : ExactRange) : (a.both b).bounds = a.bounds.both b.bounds := by
  simp only [bounds, both, LengthRange.both, Bound.max_ofENat, Bound.min_ofENat]

private theorem bounds_either (a b : ExactRange) : (a.either b).bounds = a.bounds.either b.bounds := by
  simp only [bounds, either, LengthRange.either, Bound.max_ofENat, Bound.min_ofENat]

private theorem bounds_append (a b : ExactRange) : (a.append b).bounds = a.bounds.append b.bounds := by
  simp only [bounds, append, LengthRange.append, Bound.add_ofENat]

private theorem bounds_times (a b : ExactRange) : (a.times b).bounds = a.bounds.times b.bounds := by
  simp only [bounds, times, LengthRange.times, Bound.mul_ofENat]

end ExactRange

def Connective.exactNeutral : Connective → ExactRange
  | and => ⟨0, ⊤⟩
  | or => ⟨⊤, 0⟩
  | sequence => ⟨0, 0⟩

noncomputable def Connective.joinExact : Connective → ExactRange → ExactRange → ExactRange
  | and => .both
  | or => .either
  | sequence => .append

private theorem Connective.bounds_exactNeutral (connective : Connective) :
    connective.exactNeutral.bounds = connective.neutralLength := by
  cases connective <;> rfl

private theorem Connective.bounds_joinExact (connective : Connective) (a b : ExactRange) :
    (connective.joinExact a b).bounds = connective.joinLength a.bounds b.bounds := by
  cases connective with
  | and => exact ExactRange.bounds_both a b
  | or => exact ExactRange.bounds_either a b
  | sequence => exact ExactRange.bounds_append a b

/-- The exact length of what a modifier makes of a clause of the given exact length. -/
def Modifier.exactLength? (m : Modifier) (clause : Option ExactRange) : Option ExactRange :=
  match m with
  | not => some (.ofBounds 1 1)
  | repeated min max => clause.map fun r => r.times (.ofBounds min max)
  | expanded _ min max => clause.map fun r => r.append (.ofBounds min max)
  | filteredNGrams _ min max => some (.ofBounds min max)
  | edge _ => some (.ofBounds 0 0)
  | capture _ | constrained _ | version _ | settings _ => clause

private theorem Modifier.length?_bounds (m : Modifier) (clause : Option ExactRange) :
    m.length? (clause.map ExactRange.bounds) = (m.exactLength? clause).map ExactRange.bounds := by
  cases m with
  | repeated min max => cases clause <;> simp [length?, exactLength?, ExactRange.bounds_times]
  | expanded direction min max => cases clause <;> simp [length?, exactLength?, ExactRange.bounds_append]
  | _ => simp [length?, exactLength?, LengthRange.exactly]

mutual

/-- The lengths that the matches of a pattern can have, in numbers that nothing stops. -/
noncomputable def Pattern.exactLength? : Pattern → Option ExactRange
  | .term _ | .regex _ => some (.ofBounds 1 1)
  | .anyToken min max => some (.ofBounds min max)
  | .fixedSpan span => some (.ofBounds (span.stop - span.start) (span.stop - span.start))
  | .tags tag =>
    match tag.adjust with
    | .fullTag => none
    | .leadingEdge | .trailingEdge => some (.ofBounds 0 0)
  | .defaultValue => none
  | .join connective clauses => Pattern.exactJoinedLength? connective connective.exactNeutral clauses
  | .modify modifier clause => modifier.exactLength? clause.exactLength?
  | .positionFilter _ producer _ => producer.exactLength?
  | .relationTarget _ _ | .relationMatch _ _ | .rootRelations _ | .call _ _ => none

/-- The exact length of clauses that are joined to what has the exact length `done`. -/
noncomputable def Pattern.exactJoinedLength? (connective : Connective) (done : ExactRange) :
    List Pattern → Option ExactRange
  | [] => some done
  | clause :: clauses =>
    match clause.exactLength? with
    | none => none
    | some r => Pattern.exactJoinedLength? connective (connective.joinExact done r) clauses

end

namespace Pattern

mutual

private theorem length?_eq_bounds : (x : Pattern) → x.length? = x.exactLength?.map ExactRange.bounds
  | .term _ | .regex _ | .fixedSpan _ => by simp [length?, exactLength?, LengthRange.exactly]
  | .anyToken min max => by simp [length?, exactLength?]
  | .tags tag => by
      rw [length?, exactLength?]
      cases tag.adjust <;> simp [LengthRange.exactly]
  | .join connective clauses => by
      rw [length?, exactLength?, ← connective.bounds_exactNeutral, joinedLength?_eq_bounds]
  | .modify modifier clause => by
      rw [length?, exactLength?, length?_eq_bounds clause, modifier.length?_bounds]
  | .positionFilter _ producer _ => by rw [length?, exactLength?, length?_eq_bounds producer]
  | .defaultValue | .relationTarget _ _ | .relationMatch _ _ | .rootRelations _ | .call _ _ => rfl

private theorem joinedLength?_eq_bounds {connective : Connective} {done : ExactRange} : (clauses : List Pattern) →
    joinedLength? connective done.bounds clauses =
      (exactJoinedLength? connective done clauses).map ExactRange.bounds
  | [] => rfl
  | clause :: clauses => by
      rw [joinedLength?, exactJoinedLength?, length?_eq_bounds clause]
      cases clause.exactLength? with
      | none => rfl
      | some r =>
          rw [Option.map_some, ← joinedLength?_eq_bounds clauses, connective.bounds_joinExact]

end

end Pattern

/--
The bound of a number is the number up to the largest finite bound, and no bound for infinity. Sums and products of
bounds are the bounds of the sums and products, in any number, order and grouping, and unlimited only where these are
infinite; so the length range of a pattern has the bounds of the exact one.
-/
theorem Bound.stops_once :
    (ofENat ⊤ = unlimited ∧ ∀ n : ℕ, (ofENat n).toNat = min n (unlimited.toNat - 1)) ∧
      (∀ x y, add (ofENat x) (ofENat y) = ofENat (x + y)) ∧
      (∀ x y, mul (ofENat x) (ofENat y) = ofENat (x * y)) ∧
      (∀ t : Computation, t.stopped = ofENat t.exact ∧ (t.stopped = unlimited ↔ t.exact = ⊤)) ∧
      ∀ x : Pattern, x.length? = x.exactLength?.map ExactRange.bounds := by
  refine ⟨⟨rfl, fun n => ?_⟩, add_ofENat, mul_ofENat, fun t => ⟨t.stopped_eq, ?_⟩,
    Pattern.length?_eq_bounds⟩
  · rw [ofENat_natCast, toNat_ofCount]
    rfl
  · rw [t.stopped_eq, ofENat_eq_unlimited_iff]

end CorpusSearch
