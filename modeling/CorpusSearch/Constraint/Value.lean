import CorpusSearch.Filter
import CorpusSearch.Text.Integer
import CorpusSearch.Text.Split

/-!
Values of conditions. Two values are compared as integers if both can be read as such, and as texts otherwise;
nothing can be said about a value that does not exist.
-/

set_option autoImplicit false

namespace CorpusSearch

/-- The value that a part of a condition has for a hit. -/
inductive ConstraintValue where
  | text (s : String)
  | number (n : Int)
  | truth (b : Bool)
  /-- A capture is missing or has no token. -/
  | undefined
  deriving DecidableEq, Repr

namespace ConstraintValue

/-- Whether a value counts as true; the empty text, zero and the undefined value do not. -/
def isTrue : ConstraintValue → Bool
  | text s => !s.isEmpty
  | number n => n ≠ 0
  | truth b => b
  | undefined => false

/-- The integer that a value is or writes, blanks around it left out. -/
def number? : ConstraintValue → Option Int
  | number n => some n
  | text s => Text.integer? (Text.trim s.toList)
  | truth _ | undefined => none

def truthText (b : Bool) : String := if b then "true" else "false"

def text? : ConstraintValue → Option String
  | text s => some s
  | number n => some (toString n)
  | truth b => some (truthText b)
  | undefined => none

def order? (s : Sensitivity) (a b : ConstraintValue) : Option Ordering :=
  match a.number?, b.number? with
  | some m, some n => some (compare m n)
  | _, _ =>
    match a.text?, b.text? with
    | some x, some y => some (compare (s.desensitize x) (s.desensitize y))
    | _, _ => none

def compareBy (c : Comparison) (s : Sensitivity) (a b : ConstraintValue) : ConstraintValue :=
  match order? s a b with
  | some o => truth (c.holds o)
  | none => undefined

def toText : ConstraintValue → String
  | text s => s!"'{s}'"
  | number n => toString n
  | truth b => truthText b
  | undefined => "undefined"

end ConstraintValue

end CorpusSearch
