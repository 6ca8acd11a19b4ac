import CorpusSearch.Bound
import CorpusSearch.Error
import CorpusSearch.Json.Writer
import CorpusSearch.Text.Integer

/-!
Nodes as JSON objects: an object with a type and named fields. Fields that have their usual value are left out
when a node is written, and take it when they are missing.
-/

set_option autoImplicit false

namespace CorpusSearch

structure NodeReader where
  type : String
  fields : List (String × Json)

namespace NodeReader

def fault {α : Type} (f : JsonFault) : Result α := .error (.invalidJson f)

def ofJson (value : Json) : Result NodeReader :=
  match value with
  | .obj fields =>
    match (Entries.get? "type" fields).bind Json.str? with
    | some type => .ok ⟨type, fields⟩
    | none => fault (.untyped value.write)
  | _ => fault (.notAnObject value.write)

variable (r : NodeReader)

def wrongType {α : Type} (field expected : String) : Result α :=
  fault (.wrongType r.type field expected)

def expect {α : Type} (field expected : String) (value : Option α) : Result α :=
  match value with
  | some x => .ok x
  | none => r.wrongType field expected

def value (field : String) : Result Json :=
  match Entries.get? field r.fields with
  | some v => .ok v
  | none => fault (.missing r.type field)

def value? (field : String) : Option Json := (Entries.get? field r.fields).filter fun v => !v.isNull

def str (field : String) : Result String := do
  r.expect field "a string" (← r.value field).str?

def str? (field : String) : Result (Option String) :=
  match r.value? field with
  | none => .ok none
  | some v => do return some (← r.expect field "a string" v.str?)

def int (field : String) (v : Json) : Result Int := r.expect field "an integer" v.int64?

def bound (field : String) (v : Json) : Result UInt32 := do
  let n ← r.int field v
  if n < 0 then .error (.construction (.negativeBound r.type field))
  else if n ≤ 4294967295 then return UInt32.ofNat n.toNat
  else r.wrongType field "a 32-bit integer"

def min : Result UInt32 := do r.bound "min" (← r.value "min")

def max : Result UInt32 :=
  match r.value? "max" with
  | some v => r.bound "max" v
  | none => .ok Bound.unlimited

def offset (field : String) : Result Int :=
  match r.value? field with
  | none => .ok 0
  | some v => do
    let n ← r.int field v
    if Text.fitsInt32 n then return n else r.wrongType field "a 32-bit integer"

def flag (field : String) : Result Bool :=
  match r.value? field with
  | none => .ok false
  | some v => r.expect field "a boolean" v.bool?

def arr (field : String) : Result (List Json) := do
  r.expect field "an array" (← r.value field).arr?

def pair (field : String) : Result (Json × Json) := do
  match ← r.arr field with
  | [a, b] => return (a, b)
  | items => fault (.pairLength r.type field items.length)

def decode (α : Type) [Coded α] (code : String) : Result α :=
  match (Coded.ofCode? code : Option α) with
  | some x => .ok x
  | none => fault (.unknownCode r.type (Coded.kind α) code)

def codeOr {α : Type} [Coded α] (field : String) (usual : α) : Result α := do
  match ← r.str? field with
  | some code => r.decode α code
  | none => return usual

def code (α : Type) [Coded α] (field : String) : Result α := do
  r.decode α (← r.str field)

def sensitivity : Result (Option Sensitivity) := do
  match ← r.str? "sensitivity" with
  | some code => return some (← r.decode Sensitivity code)
  | none => return none

end NodeReader

abbrev NodeFields := List (String × Json)

namespace NodeFields

def optional (name : String) (value : Option Json) : NodeFields :=
  match value with
  | some v => [(name, v)]
  | none => []

def text? (name : String) (value : Option String) : NodeFields := optional name (value.map .str)

def flag (name : String) (value : Bool) : NodeFields := if value then [(name, .bool true)] else []

def bound (name : String) (value : UInt32) : NodeFields := [(name, .int (Int.ofNat value.toNat))]

/-- The upper bound, left out if it is none. -/
def max (value : UInt32) : NodeFields :=
  if value = Bound.unlimited then [] else bound "max" value

def codeUnless {α : Type} [Coded α] [DecidableEq α] (name : String) (usual value : α) : NodeFields :=
  if value = usual then [] else [(name, .str (Coded.code value))]

def sensitivity (value : Option Sensitivity) : NodeFields :=
  optional "sensitivity" (value.map fun s => .str (Coded.code s))

def node (type : String) (fields : NodeFields) : Json := Json.object (("type", .str type) :: fields)

end NodeFields

end CorpusSearch
