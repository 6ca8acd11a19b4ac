/-!
Decimal integers with an optional sign, and the ranges of machine integers.
-/

set_option autoImplicit false

namespace CorpusSearch.Text

def fitsInt64 (n : Int) : Bool := -9223372036854775808 ≤ n && n ≤ 9223372036854775807

def fitsInt32 (n : Int) : Bool := -2147483648 ≤ n && n ≤ 2147483647

/-- The number that a list of decimal digits writes, following on `done`. -/
def digitsValue? (done : Nat) : List Char → Option Nat
  | [] => some done
  | c :: rest =>
    if c.isDigit then digitsValue? (done * 10 + (c.toNat - '0'.toNat)) rest else none

def natural? : List Char → Option Nat
  | [] => none
  | digits => digitsValue? 0 digits

/-- A 64-bit integer: an optional sign, then ASCII digits, at least one. -/
def integer? (text : List Char) : Option Int :=
  let value : Option Int := match text with
    | '-' :: digits => (natural? digits).map fun n => -(n : Int)
    | '+' :: digits => (natural? digits).map fun n => (n : Int)
    | digits => (natural? digits).map fun n => (n : Int)
  value.filter fitsInt64

end CorpusSearch.Text
