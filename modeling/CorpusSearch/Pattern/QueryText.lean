import CorpusSearch.Filter.QueryText

/-!
Patterns as query text. What the query language has no words for is refused.
-/

set_option autoImplicit false

namespace CorpusSearch

open QueryText (unsupported Level)

/-- The flags that stand for a sensitivity at the start of an expression. -/
def Sensitivity.flags : Option Sensitivity → Result String
  | none => .ok ""
  | some .sensitive => .ok "(?-i)"
  | some .insensitive => .ok "(?i)"
  | some s => unsupported (.sensitivity s)

/-- Whether a value can stand without quotes: an alphanumeric character, then these and a few marks. -/
def isPlainWord (value : String) : Bool :=
  match value.toList with
  | [] => false
  | first :: rest =>
    Unicode.isAlphanumeric first
      && rest.all fun c => Unicode.isAlphanumeric c || ".*+?-_".toList.contains c

/-- The expression of a test whose value is an expression, with its sensitivity in front. -/
def TokenTest.flagged (test : TokenTest) : Result String := do
  let flags ← Sensitivity.flags test.sensitivity
  return flags ++ test.value

def TokenTest.escaped (test : TokenTest) : TokenTest := { test with value := Text.escape test.value }

namespace QueryText

def repetitionMark (min max : UInt32) : String :=
  if min = 1 && max = 1 then ""
  else if max = Bound.unlimited then
    if min = 0 then "*" else if min = 1 then "+" else s!"\x7b{min},\x7d"
  else if min = 0 && max = 1 then "?"
  else if min = max then s!"\x7b{min}\x7d"
  else s!"\x7b{min},{max}\x7d"

def anyToken (min max : UInt32) : QueryText :=
  let mark := repetitionMark min max
  QueryText.piece (if mark.isEmpty then .atom else .postfixed) s!"[]{mark}"

/-! ### Token brackets -/

def bracketTest (operator : String) (test : TokenTest) : Result QueryText := do
  let value := Text.quote (← test.flagged)
  let layer := test.layer.getD ""
  return QueryText.piece .atom s!"{layer}{operator}{value}"

mutual

def bracketPart : Pattern → Result QueryText
  | .term test => bracketTest "=" test.escaped
  | .regex test => bracketTest "=" test
  | .join .and clauses => do
    return QueryText.piece .and (" & ".intercalate (← bracketParts Level.and.above clauses))
  | .join .or clauses => do
    return QueryText.piece .or (" | ".intercalate (← bracketParts Level.or.above clauses))
  | .modify .not (.term test) => bracketTest "!=" test.escaped
  | .modify .not (.regex test) => bracketTest "!=" test
  | .modify .not clause => do
    let part ← bracketPart clause
    return QueryText.piece .prefixed s!"!{part.inSlot Level.prefixed.above}"
  | p => unsupported (.inBrackets p.kind)

def bracketParts (slot : Nat) : List Pattern → Result (List String)
  | [] => .ok []
  | p :: ps => do
    let first ← bracketPart p
    return first.inSlot slot :: (← bracketParts slot ps)

end

/-! ### Tags and relations -/

def attributeText (name : String) : AttributeValue → String
  | .expression text =>
    let value := Text.quote text
    s!" {name}={value}"
  | .range min max => s!" {name}=in[{min},{max}]"

def tags (tag : TagPattern) : Result QueryText := do
  let attributes := String.join (tag.attributes.entries.map fun e => attributeText e.1 e.2)
  let text ← match tag.adjust with
    | .fullTag => pure s!"<{tag.name}{attributes}/>"
    | .leadingEdge => pure s!"<{tag.name}{attributes}>"
    | .trailingEdge =>
      if attributes.isEmpty then pure s!"</{tag.name}>" else unsupported .trailingEdgeAttributes
  match tag.capture with
  | some capture => return QueryText.piece .prefixed s!"{capture}:{text}"
  | none => return QueryText.piece .atom text

def usualMode (operator : RelationOperator) : SpanMode :=
  if operator.isRoot then .target else .source

def checkHead (head : RelationHead) : Result Unit :=
  if head.spanMode ≠ usualMode head.operator then unsupported (.spanMode head.spanMode)
  else if head.operator.sourceVersion.isSome then unsupported .sourceVersion
  else .ok ()

/-- A relation, from the piece of its target. -/
def relation (head : RelationHead) (target : QueryText) : String :=
  let capture := match head.capture with
    | some name => s!"{name}:"
    | none => ""
  s!"{capture}{head.operator.toText} {target.inSlot Level.sequence.above}"

def positionWord (test : PositionTest) : Result String :=
  if test.inverted || test.adjustLeading ≠ 0 || test.adjustTrailing ≠ 0 then
    unsupported .adjustedPositionFilter
  else
    match test.operation with
    | .within => .ok "within"
    | .containing => .ok "containing"
    | operation => unsupported (.positionOperation operation)

/-! ### Patterns -/

/-- A test that stands alone; it is quoted unless it is a plain word. -/
def word (test : TokenTest) : Result QueryText := do
  let expression ← test.flagged
  return QueryText.piece .atom (if isPlainWord expression then expression else Text.quote expression)

def connectiveLevel : Connective → Level
  | .and => .and
  | .or => .or
  | .sequence => .sequence

def connectiveMark : Connective → String
  | .and => " & "
  | .or => " | "
  | .sequence => " "

/-- A modified clause, from the piece of the clause; some modifiers have no words whatever the clause. -/
def modified (modifier : Modifier) (clause : Result QueryText) : Result QueryText :=
  match modifier with
  | .not => do
    let clause ← clause
    return QueryText.piece .prefixed s!"!{clause.inSlot Level.prefixed.above}"
  | .repeated min max => do
    let clause ← clause
    return QueryText.piece .postfixed s!"{clause.inSlot Level.postfixed.above}{repetitionMark min max}"
  | .expanded direction min max => do
    let body := (← clause).inSlot Level.sequence.above
    let gap := (anyToken min max).text
    match direction with
    | .left => return QueryText.piece .sequence s!"{gap} {body}"
    | .right => return QueryText.piece .sequence s!"{body} {gap}"
  | .capture name => do
    let clause ← clause
    return QueryText.piece .prefixed s!"{name}:{clause.inSlot Level.prefixed.above}"
  | .constrained filter => do
    let clause ← clause
    let condition ← filter.toQueryText
    return QueryText.piece .constraint s!"{clause.inSlot Level.constraint.above} :: {condition}"
  | .edge _ | .filteredNGrams _ _ _ | .settings _ | .version _ => unsupported (.node modifier.kind)

mutual

def ofPattern (p : Pattern) : Result QueryText :=
  if p.isBracketQuery then do
    let part ← bracketPart p
    return QueryText.piece .atom s!"[{part.text}]"
  else
    match p with
    | .term test => word test.escaped
    | .regex test => word test
    | .anyToken min max => .ok (anyToken min max)
    | .tags tag => tags tag
    | .defaultValue => .ok (QueryText.piece .atom "_")
    | .join connective clauses => do
      let level := connectiveLevel connective
      let texts ← ofPatterns level.above clauses
      return QueryText.piece level ((connectiveMark connective).intercalate texts)
    | .modify modifier clause => modified modifier (ofPattern clause)
    | .positionFilter test producer filter => do
      let keyword ← positionWord test
      let producer ← ofPattern producer
      let filter ← ofPattern filter
      let slot := Level.position.above
      return QueryText.piece .position s!"{producer.inSlot slot} {keyword} {filter.inSlot slot}"
    | .relationTarget head target => do
      checkHead head
      let text := relation head (← ofPattern target)
      return QueryText.piece .position s!"_ {text}"
    | .relationMatch parent targets => do
      let relations := " ;".intercalate ((← ofTargets targets).map fun text => s!" {text}")
      let parent ← ofPattern parent
      return QueryText.piece .position s!"{parent.inSlot Level.sequence.above}{relations}"
    | .rootRelations targets => do
      return QueryText.piece .position (" ; ".intercalate (← ofTargets targets))
    | .call name arguments => do
      let texts := ", ".intercalate (← ofArguments arguments)
      return QueryText.piece .atom s!"{name}({texts})"
    | .fixedSpan _ => unsupported (.node p.kind)

def ofPatterns (slot : Nat) : List Pattern → Result (List String)
  | [] => .ok []
  | p :: ps => do
    let first ← ofPattern p
    return first.inSlot slot :: (← ofPatterns slot ps)

def ofTargets : List (RelationHead × Pattern) → Result (List String)
  | [] => .ok []
  | (head, target) :: targets => do
    checkHead head
    let first := relation head (← ofPattern target)
    return first :: (← ofTargets targets)

def ofArguments : List (Argument Pattern) → Result (List String)
  | [] => .ok []
  | .pattern p :: arguments => do
    let first ← ofPattern p
    return first.text :: (← ofArguments arguments)
  | .text value :: arguments => do return Text.quote value :: (← ofArguments arguments)
  | .number n :: arguments => do return toString n :: (← ofArguments arguments)

end

end QueryText

def Pattern.toQueryText (p : Pattern) : Result String := do return (← QueryText.ofPattern p).text

end CorpusSearch
