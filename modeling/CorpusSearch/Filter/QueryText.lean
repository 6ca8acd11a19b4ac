import CorpusSearch.QueryText

/-!
Filters as query text. The sensitivity of a comparison has no place in it.
-/

set_option autoImplicit false

namespace CorpusSearch.Filter

/-- How strongly the constructs of filters bind, the weakest first. -/
inductive Level where
  | implication
  | or
  | and
  | comparison
  | not
  | atom
  deriving DecidableEq, Repr

def Level.rank : Level → Nat
  | implication => 0
  | or => 1
  | and => 2
  | comparison => 3
  | not => 4
  | atom => 5

def piece (level : Level) (text : String) : QueryText := ⟨text, level.rank⟩

def binary (level : Level) (operator : String) (left right : QueryText) : QueryText :=
  piece level s!"{left.inSlot level.rank}{operator}{right.inSlot (level.rank + 1)}"

def comparison (operator : Comparison) (left right : QueryText) : QueryText :=
  let slot := Level.comparison.rank + 1
  piece .comparison s!"{left.inSlot slot} {Coded.code operator} {right.inSlot slot}"

def write : Filter → Result QueryText
  | .implies a b => do
    let left ← a.write
    return binary .implication " -> " left (← b.write)
  | .or a b => do
    let left ← a.write
    return binary .or " | " left (← b.write)
  | .and a b => do
    let left ← a.write
    return binary .and " & " left (← b.write)
  | .compare a b operator _ => do
    let left ← a.write
    return comparison operator left (← b.write)
  | .equals a b _ => do
    let left ← a.write
    return comparison .equal left (← b.write)
  | .not a => do
    let clause ← a.write
    return piece .not s!"!{clause.inSlot Level.not.rank}"
  | .text value => return piece .atom (Text.quote value)
  | .tokenValue capture layer => return piece .atom s!"{capture}.{layer}"
  | .call name capture => return piece .atom s!"{name}({capture})"
  | .sameTokens _ _ _ _ => QueryText.unsupported .sameTokens
  | .tokenEquals _ _ _ _ => QueryText.unsupported .layerEquals

def toQueryText (f : Filter) : Result String := do return (← f.write).text

end CorpusSearch.Filter
