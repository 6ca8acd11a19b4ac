import CorpusSearch.Filter.Json
import CorpusSearch.Json.Reader
import CorpusSearch.Pattern.Build

/-!
Patterns as JSON, written and read. Reading builds every node by the functions that check its parts.
-/

set_option autoImplicit false

namespace CorpusSearch

open NodeFields (node)

def TokenTest.fields (test : TokenTest) : NodeFields :=
  [("value", .str test.value)] ++ NodeFields.text? "annotation" test.layer
    ++ NodeFields.sensitivity test.sensitivity

def AttributeValue.toJson : AttributeValue → Json
  | .expression text => .str text
  | .range min max => Json.object [("min", .int min), ("max", .int max)]

def TagPattern.fields (tag : TagPattern) : NodeFields :=
  let attributes := tag.attributes.entries.map fun e => (e.1, e.2.toJson)
  [("name", .str tag.name)]
    ++ (if attributes.isEmpty then [] else [("attributes", .obj attributes)])
    ++ NodeFields.codeUnless "adjust" TagAdjust.fullTag tag.adjust
    ++ NodeFields.text? "capture" tag.capture

/-- The object of a relation target, from the object of what it targets. -/
def RelationHead.toJson (head : RelationHead) (target : Json) : Json :=
  let o := head.operator
  node "reltarget"
    ([("relType", .str o.type), ("clause", target)]
      ++ NodeFields.flag "negate" o.negated
      ++ NodeFields.codeUnless "spanMode" SpanMode.source head.spanMode
      ++ NodeFields.codeUnless "direction" RelationDirection.both o.direction
      ++ NodeFields.text? "capture" head.capture
      ++ NodeFields.text? "sourceVersion" o.sourceVersion
      ++ NodeFields.text? "targetVersion" o.targetVersion
      ++ NodeFields.flag "alignment" o.alignment
      ++ NodeFields.flag "optional" o.optional)

def Connective.jsonType : Connective → String
  | and => "and"
  | or => "or"
  | sequence => "sequence"

/-- The object of a modified clause, from the object of the clause. -/
def Modifier.toJson (m : Modifier) (clause : Json) : Json :=
  match m with
  | not => node "not" [("clause", clause)]
  | repeated low high =>
    node "repeat" ([("clause", clause)] ++ NodeFields.bound "min" low ++ NodeFields.max high)
  | expanded direction low high =>
    node "expansion"
      ([("clause", clause), ("direction", .str (Coded.code direction))]
        ++ NodeFields.bound "min" low ++ NodeFields.max high)
  | filteredNGrams operation low high =>
    node "filterngrams"
      ([("clause", clause), ("operation", .str (Coded.code operation))]
        ++ NodeFields.bound "min" low ++ NodeFields.max high)
  | capture name => node "capture" [("clause", clause), ("capture", .str name)]
  | constrained f => node "constrained" [("clause", clause), ("constraint", f.toJson)]
  | edge trailing => node "edge" [("clause", clause), ("trailingEdge", .bool trailing)]
  | version name => node "docversion" [("clause", clause), ("version", .str name)]
  | settings values =>
    node "settings"
      [("clause", clause), ("settings", .obj (values.entries.map fun e => (e.1, .str e.2)))]

/-- The object of a position filter, from the objects of its two clauses. -/
def PositionTest.toJson (test : PositionTest) (producer filter : Json) : Json :=
  node "posfilter"
    ([("producer", producer), ("filter", filter), ("operation", .str (Coded.code test.operation))]
      ++ NodeFields.flag "invert" test.inverted
      ++ (if test.adjustLeading = 0 then [] else [("adjustLeading", .int test.adjustLeading)])
      ++ (if test.adjustTrailing = 0 then [] else [("adjustTrailing", .int test.adjustTrailing)]))

namespace Pattern

mutual

def toJson : Pattern → Json
  | .term test => node "term" test.fields
  | .regex test => node "regex" test.fields
  | .anyToken low high => node "anytoken" (NodeFields.bound "min" low ++ NodeFields.max high)
  | .fixedSpan span =>
    node "fixedspan" (NodeFields.bound "start" span.start ++ NodeFields.bound "end" span.stop)
  | .tags tag => node "tags" tag.fields
  | .defaultValue => node "defval" []
  | .join connective clauses => node connective.jsonType [("clauses", .arr (allToJson clauses))]
  | .modify modifier clause => modifier.toJson clause.toJson
  | .positionFilter test producer filter => test.toJson producer.toJson filter.toJson
  | .relationTarget head target => head.toJson target.toJson
  | .relationMatch parent targets =>
    node "relmatch" [("parent", parent.toJson), ("children", .arr (targetsToJson targets))]
  | .rootRelations targets => node "relmatch" [("children", .arr (targetsToJson targets))]
  | .call name arguments =>
    node "callfunc" [("name", .str name), ("args", .arr (argumentsToJson arguments))]

def allToJson : List Pattern → List Json
  | [] => []
  | p :: ps => p.toJson :: allToJson ps

def targetsToJson : List (RelationHead × Pattern) → List Json
  | [] => []
  | (head, p) :: targets => head.toJson p.toJson :: targetsToJson targets

def argumentsToJson : List (Argument Pattern) → List Json
  | [] => []
  | .pattern p :: arguments => p.toJson :: argumentsToJson arguments
  | .text s :: arguments => .str s :: argumentsToJson arguments
  | .number n :: arguments => .int n :: argumentsToJson arguments

end

/-! ### Reading -/

def deprecatedTypes : List String :=
  ["andnot", "prefix", "wildcard", "fuzzy", "sensitivity", "intrange", "overlapping"]

def readTest (r : NodeReader) : Result TokenTest := do
  let value ← r.str "value"
  let layer ← r.str? "annotation"
  return ⟨value, layer, ← r.sensitivity⟩

/-- A regular expression, or an object with the ends of an integer range. -/
def readAttribute (r : NodeReader) (value : Json) : Result AttributeValue :=
  let expected := "strings or integer ranges"
  match value with
  | .str text => .ok (.expression text)
  | .obj fields => do
    let low ← r.expect "attributes" expected ((Entries.get? "min" fields).bind Json.int64?)
    let high ← r.expect "attributes" expected ((Entries.get? "max" fields).bind Json.int64?)
    Build.attributeRange low high
  | _ => r.wrongType "attributes" expected

def readAttributes (r : NodeReader) : Result (NameMap AttributeValue) :=
  match r.value? "attributes" with
  | none => .ok .empty
  | some v => do
    let fields ← r.expect "attributes" "an object" v.obj?
    let entries ← fields.mapM fun f => do return (f.1, ← readAttribute r f.2)
    return .ofList entries

def readSettings (r : NodeReader) : Result (NameMap String) := do
  let fields ← r.expect "settings" "an object" (← r.value "settings").obj?
  return .ofList (fields.map fun f => (f.1, f.2.str?.getD f.2.write))

def readArgument (read : Json → Result Pattern) (r : NodeReader) (value : Json) :
    Result (Argument Pattern) :=
  match value with
  | .str s => .ok (.text s)
  | .int _ | .float _ => do return .number (← r.int "args" value)
  | .obj _ => do return .pattern (← read value)
  | _ => r.wrongType "args" "patterns, strings or integers"

def readTarget (read : Json → Result Pattern) (value : Json) : Result (RelationHead × Pattern) := do
  let r ← NodeReader.ofJson value
  if r.type ≠ "reltarget" then NodeReader.fault (.notRelationTarget r.type)
  else
    let type := (← r.str? "relType").getD ""
    let direction ← r.codeOr "direction" RelationDirection.both
    let targetVersion ← r.str? "targetVersion"
    let negated ← r.flag "negate"
    let alignment ← r.flag "alignment"
    let isOptional ← r.flag "optional"
    let operator ← RelationOperator.build type direction targetVersion negated alignment isOptional
    let operator := operator.withSourceVersion (← r.str? "sourceVersion")
    let target ← read (← r.value "clause")
    let mode ← r.codeOr "spanMode" SpanMode.source
    let head ← Build.relationHead operator mode (← r.str? "capture")
    return (head, target)

def readNode (read : Json → Result Pattern) (value : Json) (r : NodeReader) : Result Pattern := do
  let clauses : Result (List Pattern) := do (← r.arr "clauses").mapM read
  let clause (field : String) : Result Pattern := do read (← r.value field)
  match r.type with
  | "term" => return Build.term (← readTest r)
  | "regex" => return Build.regex (← readTest r)
  | "anytoken" =>
    let low ← r.min
    Build.anyToken low (← r.max)
  | "and" => Build.join .and (← clauses)
  | "or" => Build.join .or (← clauses)
  | "sequence" => Build.join .sequence (← clauses)
  | "not" => Build.not (← clause "clause")
  | "repeat" =>
    let p ← clause "clause"
    let low ← r.min
    Build.repetition p low (← r.max)
  | "expansion" =>
    let p ← clause "clause"
    let direction ← r.code ExpansionDirection "direction"
    let low ← r.min
    Build.expansion p direction low (← r.max)
  | "posfilter" =>
    let producer ← clause "producer"
    let filter ← clause "filter"
    let operation ← r.code PositionOperation "operation"
    let inverted ← r.flag "invert"
    let leading ← r.offset "adjustLeading"
    let trailing ← r.offset "adjustTrailing"
    return Build.positionFilter producer filter ⟨operation, inverted, leading, trailing⟩
  | "filterngrams" =>
    let p ← clause "clause"
    let operation ← r.code PositionOperation "operation"
    let low ← r.min
    Build.filterNGrams p operation low (← r.max)
  | "capture" =>
    let p ← clause "clause"
    Build.capture p (← r.str "capture")
  | "constrained" =>
    let p ← clause "clause"
    return Build.constrained p (← Filter.ofJson (← r.value "constraint"))
  | "edge" =>
    let p ← clause "clause"
    return Build.edge p (← r.flag "trailingEdge")
  | "fixedspan" =>
    let start ← r.bound "start" (← r.value "start")
    Build.fixedSpan start (← r.bound "end" (← r.value "end"))
  | "tags" =>
    let name ← r.str "name"
    let attributes ← readAttributes r
    let adjust ← r.codeOr "adjust" TagAdjust.fullTag
    Build.tags name attributes adjust (← r.str? "capture")
  | "reltarget" =>
    let (head, target) ← readTarget read value
    return Build.relationTarget head target
  | "relmatch" =>
    let targets ← (← r.arr "children").mapM (readTarget read)
    match r.value? "parent" with
    | some parent => Build.relationMatch (← read parent) targets
    | none => Build.rootRelations targets
  | "defval" => return .defaultValue
  | "docversion" =>
    let p ← clause "clause"
    Build.version p (← r.str "version")
  | "callfunc" =>
    let name ← r.str "name"
    Build.call name (← (← r.arr "args").mapM (readArgument read r))
  | "settings" =>
    let p ← clause "clause"
    return Build.settings p (← readSettings r)
  | type =>
    if deprecatedTypes.contains type then NodeReader.fault (.deprecatedNode type)
    else NodeReader.fault (.unknownNode type)

def ofJsonWithin : Nat → Json → Result Pattern
  | 0, value => NodeReader.fault (.notAnObject value.write)
  | fuel + 1, value => do readNode (ofJsonWithin fuel) value (← NodeReader.ofJson value)

def ofJson (value : Json) : Result Pattern := ofJsonWithin (value.depth + 1) value

def ofText (text : String) : Result Pattern :=
  match Json.readWithin Json.queryDepth text with
  | some value => ofJson value
  | none => .error .malformedJson

def toText (p : Pattern) : String := p.toJson.write

end Pattern

end CorpusSearch
