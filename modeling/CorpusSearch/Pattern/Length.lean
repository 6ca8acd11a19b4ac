import CorpusSearch.Pattern.Basic

/-!
How many tokens the matches of a pattern can span, as far as the pattern alone tells.
-/

set_option autoImplicit false

namespace CorpusSearch

/-- Fewest and most tokens; `Bound.unlimited` tokens stand for no upper bound. -/
structure LengthRange where
  min : UInt32
  max : UInt32
  deriving DecidableEq, Repr

namespace LengthRange

def both (a b : LengthRange) : LengthRange := ⟨Max.max a.min b.min, Min.min a.max b.max⟩

def either (a b : LengthRange) : LengthRange := ⟨Min.min a.min b.min, Max.max a.max b.max⟩

def append (a b : LengthRange) : LengthRange := ⟨Bound.add a.min b.min, Bound.add a.max b.max⟩

def times (a b : LengthRange) : LengthRange := ⟨Bound.mul a.min b.min, Bound.mul a.max b.max⟩

def exactly (n : UInt32) : LengthRange := ⟨n, n⟩

end LengthRange

def Connective.neutralLength : Connective → LengthRange
  | and => ⟨0, Bound.unlimited⟩
  | or => ⟨Bound.unlimited, 0⟩
  | sequence => ⟨0, 0⟩

def Connective.joinLength : Connective → LengthRange → LengthRange → LengthRange
  | and => .both
  | or => .either
  | sequence => .append

/-- The length of what a modifier makes of a clause of the given length. -/
def Modifier.length? (m : Modifier) (clause : Option LengthRange) : Option LengthRange :=
  match m with
  | not => some (.exactly 1)
  | repeated min max => clause.map fun l => l.times ⟨min, max⟩
  | expanded _ min max => clause.map fun l => l.append ⟨min, max⟩
  | filteredNGrams _ min max => some ⟨min, max⟩
  | edge _ => some (.exactly 0)
  | capture _ | constrained _ | version _ | settings _ => clause

mutual

/-- The lengths that the matches of a pattern can have, where the pattern tells. -/
def Pattern.length? : Pattern → Option LengthRange
  | .term _ | .regex _ => some (.exactly 1)
  | .anyToken min max => some ⟨min, max⟩
  | .fixedSpan span => some (.exactly (span.stop - span.start))
  | .tags tag =>
    match tag.adjust with
    | .fullTag => none
    | .leadingEdge | .trailingEdge => some (.exactly 0)
  | .defaultValue => none
  | .join connective clauses => Pattern.joinedLength? connective connective.neutralLength clauses
  | .modify modifier clause => modifier.length? clause.length?
  | .positionFilter _ producer _ => producer.length?
  | .relationTarget _ _ | .relationMatch _ _ | .rootRelations _ | .call _ _ => none

/-- The length of clauses that are joined to what has the length `done`. -/
def Pattern.joinedLength? (connective : Connective) (done : LengthRange) :
    List Pattern → Option LengthRange
  | [] => some done
  | clause :: clauses =>
    match clause.length? with
    | none => none
    | some l => Pattern.joinedLength? connective (connective.joinLength done l) clauses

end

end CorpusSearch
