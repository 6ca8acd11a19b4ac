import CorpusSearch.Decimal.Binary64

/-!
The fewest decimal digits that determine a floating-point number, and among those the nearest to it.
-/

set_option autoImplicit false

namespace CorpusSearch.Binary64

/-- The number of decimal digits of a natural number, in at most `fuel` steps. -/
def digitCount : Nat → Nat → Nat
  | 0, _ => 0
  | fuel + 1, n => if n < 10 then 1 else digitCount fuel (n / 10) + 1

/-- How often `num` has to be multiplied by ten to reach `den`, at most `fuel` times. -/
def tensToReach : Nat → Nat → Nat → Nat
  | 0, _, _ => 0
  | fuel + 1, num, den => if den ≤ num then 0 else tensToReach fuel (num * 10) den + 1

def decimalExponent (num den : Nat) : Int :=
  if den ≤ num then Int.ofNat (digitCount 400 (num / den)) - 1 else -Int.ofNat (tensToReach 400 num den)

/-- A decimal number `digits * 10 ^ exponent`. -/
structure Digits where
  digits : Nat
  exponent : Int
  deriving DecidableEq, Repr

def Digits.ratio (d : Digits) : Nat × Nat :=
  if d.exponent < 0 then (d.digits, Nat.pow 10 d.exponent.natAbs)
  else (d.digits * Nat.pow 10 d.exponent.natAbs, 1)

/-- Twice or four times the distance of the bounds within which decimals read back as the number. -/
structure Interval where
  low : Nat
  high : Nat
  den : Nat
  closed : Bool

/-- The decimals that are nearer to the number than to its neighbours; the ends count for even mantissas. -/
def interval (x : Binary64) : Interval :=
  let (num, den) := x.ratio
  let unit := num / x.mantissa
  let narrow : Bool := x.mantissa = Nat.pow 2 52 && minExponent < x.exponent
  { low := if narrow then 4 * num - unit else 4 * num - 2 * unit
    high := 4 * num + 2 * unit
    den := 4 * den
    closed := x.mantissa % 2 = 0 }

def Interval.holds (i : Interval) (d : Digits) : Bool :=
  let (num, den) := d.ratio
  if i.closed then i.low * den ≤ num * i.den && num * i.den ≤ i.high * den
  else i.low * den < num * i.den && num * i.den < i.high * den

/-- Of the two neighbours on the grid of a power of ten those that read back, the nearer one first. -/
def candidate? (x : Binary64) (exponent : Int) : Option Digits :=
  let (num, den) := x.ratio
  let (n, d) : Nat × Nat :=
    if exponent < 0 then (num * Nat.pow 10 exponent.natAbs, den) else (num, den * Nat.pow 10 exponent.natAbs)
  let below : Digits := ⟨n / d, exponent⟩
  let above : Digits := ⟨n / d + 1, exponent⟩
  let i := x.interval
  let preferAbove : Bool := d < 2 * (n % d) || (d = 2 * (n % d) && n / d % 2 = 1)
  if preferAbove then [above, below].find? i.holds else [below, above].find? i.holds

def shortestFrom (x : Binary64) : Nat → Int → Digits
  | 0, exponent =>
    let (num, den) := x.ratio
    ⟨num * Nat.pow 10 exponent.natAbs / den, exponent⟩
  | fuel + 1, exponent =>
    match x.candidate? exponent with
    | some d => d
    | none => shortestFrom x fuel (exponent - 1)

def Digits.trim : Nat → Digits → Digits
  | 0, d => d
  | fuel + 1, d =>
    if d.digits % 10 = 0 && d.digits ≠ 0 then trim fuel ⟨d.digits / 10, d.exponent + 1⟩ else d

def shortest (x : Binary64) : Digits :=
  let (num, den) := x.ratio
  (shortestFrom x 17 (decimalExponent num den)).trim 20

end CorpusSearch.Binary64
