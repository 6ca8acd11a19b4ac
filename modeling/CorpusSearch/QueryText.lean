import CorpusSearch.Pattern.Basic
import CorpusSearch.Text.Expression

/-!
Pieces of query text. A piece has the level of its outermost construct; it is put in parentheses where a stronger
construct is expected.
-/

set_option autoImplicit false

namespace CorpusSearch

/-- A piece of query text and how strongly its outermost construct binds. -/
structure QueryText where
  text : String
  level : Nat
  deriving DecidableEq, Repr

namespace QueryText

def inSlot (piece : QueryText) (level : Nat) : String :=
  if piece.level < level then s!"({piece.text})" else piece.text

def unsupported {α : Type} (fault : WritingFault) : Result α := .error (.unsupported fault)

/-- How strongly the constructs of patterns bind, the weakest first. -/
inductive Level where
  | constraint
  | position
  | or
  | and
  | sequence
  | prefixed
  | postfixed
  | atom
  deriving DecidableEq, Repr

def Level.rank : Level → Nat
  | constraint => 0
  | position => 1
  | or => 2
  | and => 3
  | sequence => 4
  | prefixed => 5
  | postfixed => 6
  | atom => 7

def Level.above (level : Level) : Nat := level.rank + 1

def piece (level : Level) (text : String) : QueryText := ⟨text, level.rank⟩

end QueryText

end CorpusSearch
