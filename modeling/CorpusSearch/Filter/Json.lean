import CorpusSearch.Filter
import CorpusSearch.Json.Node

/-!
Filters as JSON, written and read.
-/

set_option autoImplicit false

namespace CorpusSearch.Filter

open NodeFields (node)

def toJson : Filter → Json
  | .and a b => node "mf-and" [("clauses", .arr [a.toJson, b.toJson])]
  | .or a b => node "mf-or" [("clauses", .arr [a.toJson, b.toJson])]
  | .implies a b => node "mf-implication" [("clauses", .arr [a.toJson, b.toJson])]
  | .not a => node "mf-not" [("clause", a.toJson)]
  | .compare a b operator s =>
    node "mf-compare"
      ([("clauses", .arr [a.toJson, b.toJson]), ("operation", .str (Coded.code operator))]
        ++ NodeFields.sensitivity s)
  | .equals a b s =>
    node "mf-equals" ([("clauses", .arr [a.toJson, b.toJson])] ++ NodeFields.sensitivity s)
  | .sameTokens a b layer s =>
    node "mf-token-annotation-equal"
      ([("captures", .arr [.str a, .str b]), ("annotation", .str layer)]
        ++ NodeFields.sensitivity s)
  | .text value => node "mf-string" [("value", .str value)]
  | .tokenValue capture layer =>
    node "mf-token-annotation" [("capture", .str capture), ("annotation", .str layer)]
  | .tokenEquals capture layer value s =>
    node "mf-token-annotation-string"
      ([("capture", .str capture), ("annotation", .str layer), ("value", .str value)]
        ++ NodeFields.sensitivity s)
  | .call name capture => node "mf-callfunc" [("name", .str name), ("capture", .str capture)]

def readClauses (read : Json → Result Filter) (r : NodeReader) : Result (Filter × Filter) := do
  let (a, b) ← r.pair "clauses"
  let a ← read a
  let b ← read b
  return (a, b)

def ofJsonWithin : Nat → Json → Result Filter
  | 0, value => NodeReader.fault (.notAnObject value.write)
  | fuel + 1, value => do
    let r ← NodeReader.ofJson value
    let clauses := readClauses (ofJsonWithin fuel) r
    match r.type with
    | "mf-and" =>
      let (a, b) ← clauses
      return .and a b
    | "mf-or" =>
      let (a, b) ← clauses
      return .or a b
    | "mf-implication" =>
      let (a, b) ← clauses
      return .implies a b
    | "mf-not" => return .not (← ofJsonWithin fuel (← r.value "clause"))
    | "mf-compare" =>
      let (a, b) ← clauses
      let symbol ← r.str "operation"
      match (Coded.ofCode? symbol : Option Comparison) with
      | some operator => return .compare a b operator (← r.sensitivity)
      | none => NodeReader.fault (.unknownComparison r.type symbol)
    | "mf-equals" =>
      let (a, b) ← clauses
      return .equals a b (← r.sensitivity)
    | "mf-token-annotation-equal" =>
      let (a, b) ← r.pair "captures"
      let a ← r.expect "captures" "an array of strings" a.str?
      let b ← r.expect "captures" "an array of strings" b.str?
      let layer ← r.str "annotation"
      return .sameTokens a b layer (← r.sensitivity)
    | "mf-string" => return .text (← r.str "value")
    | "mf-token-annotation" =>
      let capture ← r.str "capture"
      return .tokenValue capture (← r.str "annotation")
    | "mf-token-annotation-string" =>
      let capture ← r.str "capture"
      let layer ← r.str "annotation"
      let value ← r.str "value"
      return .tokenEquals capture layer value (← r.sensitivity)
    | "mf-callfunc" =>
      let name ← r.str "name"
      return .call name (← r.str "capture")
    | type => NodeReader.fault (.unknownFilter type)

def ofJson (value : Json) : Result Filter := ofJsonWithin (value.depth + 1) value

end CorpusSearch.Filter
