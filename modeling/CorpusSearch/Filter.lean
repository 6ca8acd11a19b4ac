import CorpusSearch.Error

/-!
Boolean conditions on the annotations of captured tokens, as they stand in a query.
-/

set_option autoImplicit false

namespace CorpusSearch

inductive Comparison where
  | equal
  | notEqual
  | less
  | lessOrEqual
  | greater
  | greaterOrEqual
  deriving DecidableEq, Repr

namespace Comparison

instance : Coded Comparison where
  kind := "comparison operator"
  values := [equal, notEqual, less, lessOrEqual, greater, greaterOrEqual]
  code
    | equal => "="
    | notEqual => "!="
    | less => "<"
    | lessOrEqual => "<="
    | greater => ">"
    | greaterOrEqual => ">="

def holds (c : Comparison) (o : Ordering) : Bool :=
  match c with
  | equal => o = .eq
  | notEqual => o ≠ .eq
  | less => o = .lt
  | lessOrEqual => o ≠ .gt
  | greater => o = .gt
  | greaterOrEqual => o ≠ .lt

end Comparison

/-- A condition on the captures of a hit; parts that leave the sensitivity open take the default. -/
inductive Filter where
  | and (a b : Filter)
  | or (a b : Filter)
  | not (a : Filter)
  /-- If the first condition holds, so does the second. -/
  | implies (a b : Filter)
  | compare (left right : Filter) (operator : Comparison) (sensitivity : Option Sensitivity)
  | equals (left right : Filter) (sensitivity : Option Sensitivity)
  /-- Two captures have the same value of an annotation. -/
  | sameTokens (captureA captureB layer : String) (sensitivity : Option Sensitivity)
  | text (value : String)
  /-- The value of an annotation of a captured token. -/
  | tokenValue (capture layer : String)
  | tokenEquals (capture layer value : String) (sensitivity : Option Sensitivity)
  /-- A registered predicate on a capture. -/
  | call (name capture : String)
  deriving DecidableEq, Repr

/-- The captures that a filter refers to, from left to right. -/
def Filter.captures : Filter → List String
  | .and a b | .or a b | .implies a b | .compare a b _ _ | .equals a b _ => a.captures ++ b.captures
  | .not a => a.captures
  | .sameTokens a b _ _ => [a, b]
  | .text _ => []
  | .tokenValue capture _ | .tokenEquals capture _ _ _ | .call _ capture => [capture]

end CorpusSearch
