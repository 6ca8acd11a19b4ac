import CorpusSearch.Constraint.Json
import CorpusSearch.Plan.Basic

/-!
Plans as JSON, for engines that evaluate them elsewhere. An object names its kind under `q`; all other fields are
always written.
-/

set_option autoImplicit false

namespace CorpusSearch

namespace Json

def ofWord (n : UInt32) : Json := .int (Int.ofNat n.toNat)

def ofText? (text : Option String) : Json :=
  match text with
  | some s => .str s
  | none => .null

def word? (v : Json) (name : String) : Option UInt32 := do
  let n ← (← v.get? name).int64?
  return UInt32.ofNat (n % 4294967296).toNat

def flag? (v : Json) (name : String) : Option Bool := (v.get? name).bind Json.bool?

def number? (v : Json) (name : String) : Option Int := (v.get? name).bind Json.int64?

def items? (v : Json) (name : String) : Option (List Json) := (v.get? name).bind Json.arr?

def texts? (v : Json) (name : String) : Option (List String) := do
  (← v.items? name).mapM Json.str?

end Json

/-- The JSON of an attribute value in plans: a text, or the two ends of a range. -/
def AttributeValue.toPlanJson : AttributeValue → Json
  | expression text => .str text
  | range min max => .arr [.int min, .int max]

def AttributeValue.ofPlanJson? : Json → Option AttributeValue
  | .str text => some (.expression text)
  | .arr [min, max] => do return .range (← min.int64?) (← max.int64?)
  | _ => none

def PlanConnective.jsonKind : PlanConnective → String
  | and => "and"
  | relationAnd => "rand"
  | or => "or"
  | sequence => "seq"

namespace Plan

def object (kind : String) (fields : List (String × Json)) : Json :=
  Json.object (("q", .str kind) :: fields)

def boundFields (min max : UInt32) : List (String × Json) :=
  [("min", .ofWord min), ("max", .ofWord max)]

def modifierToJson (m : PlanModifier) (clause : Json) : Json :=
  let clause := ("clause", clause)
  match m with
  | .not field => object "not" [clause, ("field", .str field)]
  | .repeated field min max => object "rep" ([clause, ("field", .str field)] ++ boundFields min max)
  | .expanded field direction min max =>
    object "expand"
      ([clause, ("field", .str field), ("direction", .ofCoded direction)] ++ boundFields min max)
  | .filteredNGrams field operation min max =>
    object "filterngrams"
      ([clause, ("field", .str field), ("operation", .ofCoded operation)] ++ boundFields min max)
  | .capture name => object "capture" [clause, ("name", .str name)]
  | .edge trailing => object "edge" [clause, ("trailing", .bool trailing)]
  | .relationSpan mode => object "rspan" [clause, ("span_mode", .ofCoded mode)]
  | .relationsWithin query =>
    object "rwithin"
      [clause, ("within_capture", .ofText? query.within), ("relations_field", .str query.field),
        ("type_regex", .str query.type), ("capture_as", .str query.capture)]
  | .constrained constraint field layers =>
    let request := Json.object
      [("field", .str field), ("annotations", .arr (layers.names.map .str))]
    object "constrained"
      [clause, ("constraint", constraint.toJson), ("forward_index", request)]

mutual

def toJson : Plan → Json
  | term field value => object "term" [("field", .str field), ("value", .str value)]
  | regex field expression => object "regex" [("field", .str field), ("pattern", .str expression)]
  | anyToken field min max => object "any" (("field", .str field) :: boundFields min max)
  | fixedSpan field span =>
    object "fixedspan"
      [("field", .str field), ("start", .ofWord span.start), ("end", .ofWord span.stop)]
  | tags query =>
    let attributes := query.attributes.entries.map fun e => (e.1, e.2.toPlanJson)
    object "tags"
      [("relations_field", .str query.field), ("type_regex", .str query.type),
        ("attributes", .obj attributes), ("adjust", .ofCoded query.adjust),
        ("capture_as", .str query.capture)]
  | relations query =>
    object "rel"
      [("relations_field", .str query.field), ("type_regex", .str query.type),
        ("direction", .ofCoded query.direction), ("span_mode", .ofCoded query.spanMode),
        ("capture_as", .str query.capture)]
  | join connective clauses => object connective.jsonKind [("clauses", .arr (allToJson clauses))]
  | modify m clause => modifierToJson m clause.toJson
  | positionFilter test producer filter =>
    object "posfilter"
      [("producer", producer.toJson), ("filter", filter.toJson),
        ("operation", .ofCoded test.operation), ("invert", .bool test.inverted),
        ("adjust_leading", .int test.adjustLeading),
        ("adjust_trailing", .int test.adjustTrailing)]
  | align source targets =>
    object "ralign" [("source", source.toJson), ("targets", .arr (targetsToJson targets))]

def allToJson : List Plan → List Json
  | [] => []
  | plan :: plans => plan.toJson :: allToJson plans

def targetsToJson : List (AlignmentHead × Plan) → List Json
  | [] => []
  | (head, target) :: targets =>
    Json.object
      [("relations_field", .str head.field), ("type_regex", .str head.type),
        ("target", target.toJson), ("target_field", .str head.targetField),
        ("capture_as", .str head.capture), ("optional", .bool head.optional)]
      :: targetsToJson targets

end

/-! ### Reading -/

def readAttributes? (v : Json) : Option (NameMap AttributeValue) := do
  let fields ← (← v.get? "attributes").obj?
  return .ofList (← fields.mapM fun f => do return (f.1, ← AttributeValue.ofPlanJson? f.2))

def readTags? (v : Json) : Option TagQuery := do
  return ⟨← v.text? "relations_field", ← v.text? "type_regex", ← readAttributes? v,
    ← v.coded? TagAdjust "adjust", ← v.text? "capture_as"⟩

def readRelations? (v : Json) : Option RelationQuery := do
  return ⟨← v.text? "relations_field", ← v.text? "type_regex",
    ← v.coded? RelationDirection "direction", ← v.coded? SpanMode "span_mode",
    ← v.text? "capture_as"⟩

def readWithin? (v : Json) : Option WithinQuery := do
  return ⟨v.text? "within_capture", ← v.text? "relations_field", ← v.text? "type_regex",
    ← v.text? "capture_as"⟩

def readAlignment? (v : Json) : Option AlignmentHead := do
  return ⟨← v.text? "relations_field", ← v.text? "type_regex", ← v.text? "target_field",
    ← v.text? "capture_as", ← v.flag? "optional"⟩

def readTest? (v : Json) : Option PositionTest := do
  return ⟨← v.coded? PositionOperation "operation", ← v.flag? "invert",
    ← v.number? "adjust_leading", ← v.number? "adjust_trailing"⟩

def readConstrained? (v : Json) : Option PlanModifier := do
  let request ← v.get? "forward_index"
  let layers := NameSet.ofList (← request.texts? "annotations")
  return .constrained (← Constraint.ofJson? (← v.get? "constraint")) (← request.text? "field") layers

/-- Reads the modifier of a kind of object; other kinds are no modified clauses. -/
def readModifier? (kind : String) (v : Json) : Option PlanModifier := do
  match kind with
  | "not" => return .not (← v.text? "field")
  | "rep" => return .repeated (← v.text? "field") (← v.word? "min") (← v.word? "max")
  | "expand" =>
    return .expanded (← v.text? "field") (← v.coded? ExpansionDirection "direction")
      (← v.word? "min") (← v.word? "max")
  | "filterngrams" =>
    return .filteredNGrams (← v.text? "field") (← v.coded? PositionOperation "operation")
      (← v.word? "min") (← v.word? "max")
  | "capture" => return .capture (← v.text? "name")
  | "edge" => return .edge (← v.flag? "trailing")
  | "rspan" => return .relationSpan (← v.coded? SpanMode "span_mode")
  | "rwithin" => return .relationsWithin (← readWithin? v)
  | "constrained" => readConstrained? v
  | _ => none

def ofJsonWithin? : Nat → Json → Option Plan
  | 0, _ => none
  | fuel + 1, v => do
    let sub (name : String) : Option Plan := (v.get? name).bind (ofJsonWithin? fuel)
    let clauses : Option (List Plan) := do (← v.items? "clauses").mapM (ofJsonWithin? fuel)
    match ← v.text? "q" with
    | "term" => return .term (← v.text? "field") (← v.text? "value")
    | "regex" => return .regex (← v.text? "field") (← v.text? "pattern")
    | "any" => return .anyToken (← v.text? "field") (← v.word? "min") (← v.word? "max")
    | "fixedspan" => return .fixedSpan (← v.text? "field") ⟨← v.word? "start", ← v.word? "end"⟩
    | "tags" => return .tags (← readTags? v)
    | "rel" => return .relations (← readRelations? v)
    | "and" => return .join .and (← clauses)
    | "rand" => return .join .relationAnd (← clauses)
    | "or" => return .join .or (← clauses)
    | "seq" => return .join .sequence (← clauses)
    | "posfilter" => return .positionFilter (← readTest? v) (← sub "producer") (← sub "filter")
    | "ralign" =>
      let targets ← (← v.items? "targets").mapM fun t => do
        return (← readAlignment? t, ← ofJsonWithin? fuel (← t.get? "target"))
      return .align (← sub "source") targets
    | kind => return .modify (← readModifier? kind v) (← sub "clause")

def ofJson? (v : Json) : Option Plan := ofJsonWithin? (v.depth + 1) v

end Plan

end CorpusSearch
