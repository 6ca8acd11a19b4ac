import CorpusSearch.Constraint.Value
import CorpusSearch.NameMap
import CorpusSearch.Relation

/-!
Conditions with all defaults filled in, and their value for a hit. A condition looks at the captures of the hit
and at the annotations of captured tokens, and at nothing else.
-/

set_option autoImplicit false

namespace CorpusSearch

/-- The annotation values of the tokens that a condition can ask for, by layer and position. -/
structure TokenReader where
  value? : String → UInt32 → Option String

/-- A registered condition on a captured value. -/
abbrev Predicate := TokenReader → CaptureValue → ConstraintValue

/-- What a condition can see of a hit. -/
structure HitView where
  captures : NameMap CaptureValue
  tokens : TokenReader
  predicates : NameMap Predicate

def HitView.captureValue? (view : HitView) (capture layer : String) : Option String := do
  let span := (← view.captures.get? capture).cover
  if span.start < span.stop then view.tokens.value? layer span.start else none

/-- A condition in which every comparison has its sensitivity. -/
inductive Constraint where
  | and (a b : Constraint)
  | or (a b : Constraint)
  | not (a : Constraint)
  | implies (a b : Constraint)
  | compare (left right : Constraint) (operator : Comparison) (sensitivity : Sensitivity)
  | sameTokens (captureA captureB layer : String) (sensitivity : Sensitivity)
  | text (value : String)
  | tokenValue (capture layer : String)
  | tokenEquals (capture layer value : String) (sensitivity : Sensitivity)
  | call (name capture : String)
  deriving DecidableEq, Repr

namespace Constraint

/-- Whether two texts are the same for a sensitivity; undefined if one of them does not exist. -/
def sameText (s : Sensitivity) (a b : Option String) : ConstraintValue :=
  match a, b with
  | some x, some y => .truth (s.desensitize x = s.desensitize y)
  | _, _ => .undefined

/-- The value of a condition for a hit. -/
def value (view : HitView) : Constraint → ConstraintValue
  | and a b => .truth ((a.value view).isTrue && (b.value view).isTrue)
  | or a b => .truth ((a.value view).isTrue || (b.value view).isTrue)
  | implies a b => .truth (!(a.value view).isTrue || (b.value view).isTrue)
  | not a =>
    match a.value view with
    | .undefined => .undefined
    | v => .truth (!v.isTrue)
  | compare left right operator s => (left.value view).compareBy operator s (right.value view)
  | sameTokens a b layer s => sameText s (view.captureValue? a layer) (view.captureValue? b layer)
  | text v => .text v
  | tokenValue capture layer =>
    match view.captureValue? capture layer with
    | some v => .text v
    | none => .undefined
  | tokenEquals capture layer v s => sameText s (view.captureValue? capture layer) (some v)
  | call name capture =>
    match view.predicates.get? name, view.captures.get? capture with
    | some predicate, some v => predicate view.tokens v
    | _, _ => .undefined

def holds (view : HitView) (c : Constraint) : Bool := (c.value view).isTrue

def toText : Constraint → String
  | and a b => s!"AND({a.toText}, {b.toText})"
  | or a b => s!"OR({a.toText}, {b.toText})"
  | implies a b => s!"IMPLIES({a.toText}, {b.toText})"
  | not a => s!"NOT({a.toText})"
  | compare left right operator s =>
    s!"CMP({left.toText}, {Coded.code operator}, {right.toText}, {Coded.code s})"
  | sameTokens a b layer s => s!"SAME({a}, {b}, {layer}, {Coded.code s})"
  | text v => s!"'{v}'"
  | tokenValue capture layer => s!"{capture}.{layer}"
  | tokenEquals capture layer v s => s!"EQ({capture}.{layer}, '{v}', {Coded.code s})"
  | call name capture => s!"{name}({capture})"

end Constraint

end CorpusSearch
