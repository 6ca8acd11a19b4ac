import CorpusSearch.Sensitivity
import CorpusSearch.Span

/-!
Everything that can go wrong, by cause, and the wording of each cause. The kind of an error says who has to act:
the builder of a pattern, the author of a query, or the owner of the limits.
-/

set_option autoImplicit false

namespace CorpusSearch

inductive ConstructionFault where
  | inverted (node : String) (min max : Int)
  | emptyRange (node : String)
  | noClause (node : String)
  | notSingleToken
  | emptyCaptureName
  | startAfterEnd (start stop : UInt32)
  | emptyElementName
  | noRelation (node : String)
  | rootChild
  | notRootTargets
  | emptyVersion
  | emptyFunctionName
  | negatedAlignment
  | optionalWithoutAlignment
  | modifiedRoot
  | rootSource
  | negativeBound (node field : String)
  deriving DecidableEq, Repr

namespace ConstructionFault

/-- The part of the pattern that is at fault. -/
def node : ConstructionFault → String
  | inverted node _ _ | emptyRange node | noClause node | noRelation node => node
  | notSingleToken => "not"
  | emptyCaptureName => "capture group"
  | startAfterEnd _ _ => "fixed span"
  | emptyElementName => "tags"
  | rootChild => "relation match"
  | notRootTargets => "root relation match"
  | emptyVersion => "document version"
  | emptyFunctionName => "function call"
  | negatedAlignment | optionalWithoutAlignment | modifiedRoot => "relation operator"
  | rootSource => "relation target"
  | negativeBound _ _ => "bounds"

def description : ConstructionFault → String
  | inverted _ min max => s!"minimum {min} is larger than maximum {max}"
  | emptyRange _ => "maximum must be at least 1"
  | noClause _ => "needs at least one clause"
  | notSingleToken => "can only negate patterns that match a single token"
  | emptyCaptureName => "capture name must not be empty"
  | startAfterEnd start stop => s!"start {start} is after end {stop}"
  | emptyElementName => "element name must not be empty"
  | noRelation _ => "needs at least one relation target"
  | rootChild => "root relations have no source and cannot have a parent"
  | notRootTargets => "all children must be root relations with span mode target"
  | emptyVersion => "version must not be empty"
  | emptyFunctionName => "function name must not be empty"
  | negatedAlignment => "alignment operator cannot be negated"
  | optionalWithoutAlignment => "only alignment operators can be optional"
  | modifiedRoot => "root relation operator cannot be negated or an alignment operator"
  | rootSource => "root relations have no source span"
  | negativeBound node field => s!"{node}: field '{field}' must not be negative"

end ConstructionFault

/-- Why a query has no meaning in its context. -/
inductive QueryFault where
  | malformedExpression
  | malformedRelationType (fullType : String)
  | malformedOperator (operator : String)
  | malformedIndexField (name : String)
  | unknownField (name : String)
  | unknownLayer (layer field : String)
  | unknownConstraintLayer (layer field : String)
  | noRelations (field : String)
  | unknownFunction (name : String)
  | unknownFilterFunction (name : String)
  | unknownCapture (name : String)
  | unknownCode (kind code : String)
  | tooManyArguments (function : String)
  | argumentCount (function : String) (allowed given : Nat)
  | missingArgument (function : String) (number : Nat)
  | notAnInteger (function : String) (number : Nat)
  | wrongArgumentType (function : String) (number : Nat) (expected : String)
  | notAString (number : Nat)
  | notAQuery (number : Nat)
  | unusableArguments (function : String)
  | alignmentWithoutSource
  | misplacedDefault
  deriving DecidableEq, Repr

/-- Stands in messages for the explanation of what is wrong with a regular expression. -/
def expressionExplanation : String := "<regex>"

def malformedExpressionText (expression : String) : String :=
  s!"invalid regular expression /{expression}/: {expressionExplanation}"

def unknownCodeText (kind code : String) : String := s!"unknown {kind} '{code}'"

def QueryFault.description : QueryFault → String
  | malformedExpression => s!"invalid regular expression: {expressionExplanation}"
  | malformedRelationType fullType =>
    s!"unresolvable relation type: {malformedExpressionText fullType}"
  | malformedOperator operator => s!"invalid relation operator: {operator}"
  | malformedIndexField name => s!"malformed index field name '{name}'"
  | unknownField name => s!"unknown field '{name}'"
  | unknownLayer layer field => s!"unknown annotation '{layer}' in field '{field}'"
  | unknownConstraintLayer layer field =>
    s!"unknown annotation '{layer}' in constraint on field '{field}'"
  | noRelations field => s!"field '{field}' has no relations"
  | unknownFunction name => s!"unknown function '{name}'"
  | unknownFilterFunction name => s!"unknown filter function '{name}'"
  | unknownCapture name => s!"constraint refers to unknown capture '{name}'"
  | unknownCode kind code => unknownCodeText kind code
  | tooManyArguments function => s!"too many arguments for function {function}"
  | argumentCount function allowed given =>
    s!"function {function} takes at most {allowed} arguments, got {given}"
  | missingArgument function number => s!"function {function}: argument {number} is required"
  | notAnInteger function number =>
    s!"function {function}: argument {number} must be an integer"
  | wrongArgumentType function number expected =>
    s!"function {function}: argument {number} has the wrong type, expected {expected}"
  | notAString number => s!"argument {number} must be a string"
  | notAQuery number => s!"argument {number} must be a query"
  | unusableArguments function => function
  | alignmentWithoutSource => "alignment operator needs a source to align from"
  | misplacedDefault => "default value '_' is only allowed as a relation or function operand"

inductive SizeFault where
  | patternDepth (limit : Nat)
  | expressionDepth (limit : Nat)
  | expressionSize (limit : Nat)
  deriving DecidableEq, Repr

def SizeFault.description : SizeFault → String
  | patternDepth limit => s!"pattern is nested more than {limit} levels deep"
  | expressionDepth limit => s!"regular expression is nested more than {limit} levels deep"
  | expressionSize limit => s!"regular expression exceeds the size limit of {limit} bytes"

/-- What the query language has no words for. -/
inductive WritingFault where
  | node (kind : String)
  | inBrackets (kind : String)
  | sensitivity (s : Sensitivity)
  | trailingEdgeAttributes
  | spanMode (m : SpanMode)
  | sourceVersion
  | adjustedPositionFilter
  | positionOperation (o : PositionOperation)
  | sameTokens
  | layerEquals
  deriving DecidableEq, Repr

def WritingFault.description : WritingFault → String
  | node kind => s!"{kind} has no query language syntax"
  | inBrackets kind => s!"{kind} cannot be written inside token brackets"
  | sensitivity s =>
    let code := Coded.code s
    s!"match sensitivity '{code}' has no query language syntax"
  | trailingEdgeAttributes => "attributes on the trailing edge of a tag cannot be written"
  | spanMode m =>
    let code := Coded.code m
    s!"relation span mode '{code}' can only be expressed with a function call"
  | sourceVersion => "relation source versions have no query language syntax"
  | adjustedPositionFilter => "inverted or adjusted position filters have no query language syntax"
  | positionOperation o =>
    let code := Coded.code o
    s!"position filter operation '{code}' has no query language syntax"
  | sameTokens => "same-token comparisons have no query language syntax"
  | layerEquals => "annotation-equals-string filters have no query language syntax"

/-- Why a JSON value is not a pattern or a filter. -/
inductive JsonFault where
  | notAnObject (value : String)
  | untyped (value : String)
  | wrongType (node field expected : String)
  | missing (node field : String)
  | pairLength (node field : String) (length : Nat)
  | unknownCode (node kind code : String)
  | unknownComparison (node symbol : String)
  | notRelationTarget (node : String)
  | deprecatedNode (node : String)
  | unknownNode (node : String)
  | unknownFilter (node : String)
  deriving DecidableEq, Repr

def JsonFault.description : JsonFault → String
  | notAnObject value => s!"expected a node object, got {value}"
  | untyped value => s!"node object without 'type': {value}"
  | wrongType node field expected => s!"{node}: field '{field}' must be {expected}"
  | missing node field => s!"{node}: missing field '{field}'"
  | pairLength node field length =>
    s!"{node}: field '{field}' must have exactly 2 elements, has {length}"
  | unknownCode node kind code => s!"{node}: {unknownCodeText kind code}"
  | unknownComparison node symbol => s!"{node}: unknown comparison operator '{symbol}'"
  | notRelationTarget node => s!"relation match children must be 'reltarget' nodes, got '{node}'"
  | deprecatedNode node => s!"node type '{node}' is deprecated and no longer supported"
  | unknownNode node => s!"unknown node type '{node}'"
  | unknownFilter node => s!"unknown match filter type '{node}'"

inductive QueryError where
  /-- Illegal parameters when a node is built. -/
  | construction (fault : ConstructionFault)
  /-- The query has no meaning in its context. -/
  | invalidQuery (fault : QueryFault)
  /-- The query exceeds a configured limit; a simpler one may pass. -/
  | patternTooLarge (fault : SizeFault)
  /-- The query language has no words for the pattern. -/
  | unsupported (fault : WritingFault)
  /-- The JSON value is not a query. -/
  | invalidJson (fault : JsonFault)
  | unknownCode (kind code : String)
  | invalidExpression (expression : String)
  /-- The text is not JSON. -/
  | malformedJson
  /-- The text is not a TOML document of the expected form. -/
  | malformedToml
  /-- The file cannot be read. -/
  | unreadableFile
  deriving DecidableEq, Repr

namespace QueryError

def message : QueryError → String
  | construction fault => s!"invalid {fault.node}: {fault.description}"
  | invalidQuery fault => s!"invalid query: {fault.description}"
  | patternTooLarge fault => s!"pattern too large: {fault.description}"
  | unsupported fault => s!"cannot serialize to corpus query language: {fault.description}"
  | invalidJson fault => s!"invalid JSON query: {fault.description}"
  | unknownCode kind code => unknownCodeText kind code
  | invalidExpression expression => malformedExpressionText expression
  | malformedJson => "malformed JSON text"
  | malformedToml => "malformed TOML document"
  | unreadableFile => "file cannot be read"

end QueryError

abbrev Result (α : Type) := Except QueryError α

namespace Coded

def ofCode (α : Type) [Coded α] (text : String) : Result α :=
  match (ofCode? text : Option α) with
  | some x => .ok x
  | none => .error (.unknownCode (kind α) text)

end Coded

end CorpusSearch
