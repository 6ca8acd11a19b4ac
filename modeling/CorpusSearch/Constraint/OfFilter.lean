import CorpusSearch.Constraint.Basic
import CorpusSearch.Context

/-!
Filling in the defaults of a filter. The layers that the filter reads are checked and noted on the way.
-/

set_option autoImplicit false

namespace CorpusSearch

/-- A condition with the layers that it reads. -/
structure ReadingConstraint where
  constraint : Constraint
  layers : NameSet
  deriving DecidableEq

namespace Constraint

/-- A layer of the current field, as the only one read. -/
def readLayer (c : Context) (layer : String) : Result NameSet := do
  if (← c.field).layers.contains layer then return NameSet.single layer
  throw (.invalidQuery (.unknownConstraintLayer layer c.fieldName))

def joinReading (join : Constraint → Constraint → Constraint) (a b : ReadingConstraint) :
    ReadingConstraint :=
  ⟨join a.constraint b.constraint, a.layers.union b.layers⟩

/--
The condition that a filter stands for in a context. Comparisons without a sensitivity take the requested one;
layers have to exist in the field, and predicates have to be registered.
-/
def ofFilter (c : Context) (predicates : NameMap Predicate) : Filter → Result ReadingConstraint
  | .and a b => do
    let a ← ofFilter c predicates a
    return joinReading .and a (← ofFilter c predicates b)
  | .or a b => do
    let a ← ofFilter c predicates a
    return joinReading .or a (← ofFilter c predicates b)
  | .implies a b => do
    let a ← ofFilter c predicates a
    return joinReading .implies a (← ofFilter c predicates b)
  | .not a => do
    let a ← ofFilter c predicates a
    return ⟨.not a.constraint, a.layers⟩
  | .compare left right operator s => do
    let left ← ofFilter c predicates left
    let right ← ofFilter c predicates right
    return joinReading (fun a b => .compare a b operator (s.getD c.requested)) left right
  | .equals left right s => do
    let left ← ofFilter c predicates left
    let right ← ofFilter c predicates right
    return joinReading (fun a b => .compare a b .equal (s.getD c.requested)) left right
  | .sameTokens a b layer s => do
    return ⟨.sameTokens a b layer (s.getD c.requested), ← readLayer c layer⟩
  | .text value => return ⟨.text value, NameMap.empty⟩
  | .tokenValue capture layer => do return ⟨.tokenValue capture layer, ← readLayer c layer⟩
  | .tokenEquals capture layer value s => do
    return ⟨.tokenEquals capture layer value (s.getD c.requested), ← readLayer c layer⟩
  | .call name capture =>
    if predicates.contains name then .ok ⟨.call name capture, NameMap.empty⟩
    else .error (.invalidQuery (.unknownFilterFunction name))

end Constraint

end CorpusSearch
