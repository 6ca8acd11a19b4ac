import CorpusSearch.Constraint.Basic
import CorpusSearch.Json.Value

/-!
Conditions as JSON, for engines that evaluate them elsewhere. An object names its kind under `c`.
-/

set_option autoImplicit false

namespace CorpusSearch

def Json.ofCoded {α : Type} [Coded α] (x : α) : Json := .str (Coded.code x)

def Json.text? (v : Json) (name : String) : Option String := (v.get? name).bind Json.str?

def Json.coded? (α : Type) [Coded α] (v : Json) (name : String) : Option α :=
  (v.text? name).bind Coded.ofCode?

namespace Constraint

def object (kind : String) (fields : List (String × Json)) : Json :=
  Json.object (("c", .str kind) :: fields)

def toJson : Constraint → Json
  | and a b => object "and" [("a", a.toJson), ("b", b.toJson)]
  | or a b => object "or" [("a", a.toJson), ("b", b.toJson)]
  | implies a b => object "implies" [("a", a.toJson), ("b", b.toJson)]
  | not a => object "not" [("a", a.toJson)]
  | compare left right operator s =>
    object "cmp"
      [("left", left.toJson), ("right", right.toJson), ("operator", .ofCoded operator),
        ("sensitivity", .ofCoded s)]
  | sameTokens a b layer s =>
    object "same"
      [("capture_a", .str a), ("capture_b", .str b), ("annotation", .str layer),
        ("sensitivity", .ofCoded s)]
  | text value => object "str" [("value", .str value)]
  | tokenValue capture layer =>
    object "annot" [("capture", .str capture), ("annotation", .str layer)]
  | tokenEquals capture layer value s =>
    object "eq"
      [("capture", .str capture), ("annotation", .str layer), ("value", .str value),
        ("sensitivity", .ofCoded s)]
  | call name capture => object "call" [("name", .str name), ("capture", .str capture)]

def ofJsonWithin? : Nat → Json → Option Constraint
  | 0, _ => none
  | fuel + 1, v => do
    let sub (name : String) : Option Constraint := (v.get? name).bind (ofJsonWithin? fuel)
    let s := v.coded? Sensitivity "sensitivity"
    match ← v.text? "c" with
    | "and" => return .and (← sub "a") (← sub "b")
    | "or" => return .or (← sub "a") (← sub "b")
    | "implies" => return .implies (← sub "a") (← sub "b")
    | "not" => return .not (← sub "a")
    | "cmp" =>
      return .compare (← sub "left") (← sub "right") (← v.coded? Comparison "operator") (← s)
    | "same" =>
      return .sameTokens (← v.text? "capture_a") (← v.text? "capture_b") (← v.text? "annotation")
        (← s)
    | "str" => return .text (← v.text? "value")
    | "annot" => return .tokenValue (← v.text? "capture") (← v.text? "annotation")
    | "eq" =>
      return .tokenEquals (← v.text? "capture") (← v.text? "annotation") (← v.text? "value") (← s)
    | "call" => return .call (← v.text? "name") (← v.text? "capture")
    | _ => none

def ofJson? (v : Json) : Option Constraint := ofJsonWithin? (v.depth + 1) v

end Constraint

end CorpusSearch
