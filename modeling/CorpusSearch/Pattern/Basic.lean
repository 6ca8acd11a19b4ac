import CorpusSearch.Bound
import CorpusSearch.Filter
import CorpusSearch.NameMap
import CorpusSearch.RelationOperator

/-!
Text patterns: the tree that describes a corpus query, and the questions that can be asked about it.
-/

set_option autoImplicit false

namespace CorpusSearch

/-- A value that an annotation of a single token has to have. -/
structure TokenTest where
  value : String
  layer : Option String
  sensitivity : Option Sensitivity
  deriving DecidableEq, Repr

/-- What an attribute of a markup span has to be. -/
inductive AttributeValue where
  | expression (text : String)
  /-- An integer from `min` to `max`. -/
  | range (min max : Int)
  deriving DecidableEq, Repr

/-- A markup span with a name and attributes. -/
structure TagPattern where
  name : String
  attributes : NameMap AttributeValue
  adjust : TagAdjust
  capture : Option String
  deriving DecidableEq

/-- How a relation target hangs on its source, the target itself left out. -/
structure RelationHead where
  operator : RelationOperator
  spanMode : SpanMode
  capture : Option String
  deriving DecidableEq, Repr

/-- How clauses are joined. -/
inductive Connective where
  /-- All clauses match the same span. -/
  | and
  /-- Some clause matches the span. -/
  | or
  /-- The clauses match one after the other. -/
  | sequence
  deriving DecidableEq, Repr

/-- What is made of a single clause. -/
inductive Modifier where
  /-- Single tokens that the clause does not match. -/
  | not
  | repeated (min max : UInt32)
  | expanded (direction : ExpansionDirection) (min max : UInt32)
  /-- All n-grams that lie to some match of the clause as the operation says. -/
  | filteredNGrams (operation : PositionOperation) (min max : UInt32)
  | capture (name : String)
  | constrained (constraint : Filter)
  | edge (trailing : Bool)
  | version (name : String)
  | settings (values : NameMap String)
  deriving DecidableEq

/-- How producer and filter of a position filter have to lie to each other. -/
structure PositionTest where
  operation : PositionOperation
  inverted : Bool
  adjustLeading : Int
  adjustTrailing : Int
  deriving DecidableEq, Repr

inductive Argument (α : Type) where
  | pattern (p : α)
  | text (value : String)
  | number (value : Int)
  deriving BEq

/-- A text pattern. -/
inductive Pattern where
  /-- A literal value of a single token. -/
  | term (test : TokenTest)
  /-- A regular expression for a single token. -/
  | regex (test : TokenTest)
  /-- Any tokens, from `min` to `max` of them. -/
  | anyToken (min max : UInt32)
  | fixedSpan (span : Span)
  | tags (tag : TagPattern)
  /-- A placeholder that is filled in where it stands. -/
  | defaultValue
  | join (connective : Connective) (clauses : List Pattern)
  | modify (modifier : Modifier) (clause : Pattern)
  | positionFilter (test : PositionTest) (producer filter : Pattern)
  | relationTarget (head : RelationHead) (target : Pattern)
  | relationMatch (parent : Pattern) (children : List (RelationHead × Pattern))
  | rootRelations (children : List (RelationHead × Pattern))
  | call (name : String) (arguments : List (Argument Pattern))
  deriving BEq, Inhabited

namespace Argument

def pattern? {α : Type} : Argument α → Option α
  | pattern p => some p
  | text _ | number _ => none

end Argument

def Connective.kind : Connective → String
  | and => "and"
  | or => "or"
  | sequence => "sequence"

def Modifier.kind : Modifier → String
  | not => "not"
  | repeated _ _ => "repetition"
  | expanded _ _ _ => "expansion"
  | filteredNGrams _ _ _ => "n-gram filter"
  | capture _ => "capture group"
  | constrained _ => "constrained"
  | edge _ => "edge"
  | version _ => "document version"
  | settings _ => "settings"

namespace Pattern

def anyNGram : Pattern := anyToken 0 Bound.unlimited

def isAnyNGram : Pattern → Bool
  | anyToken min max => min = 0 && max = Bound.unlimited
  | _ => false

def kind : Pattern → String
  | term _ => "term"
  | regex _ => "regex"
  | anyToken _ _ => "any token"
  | fixedSpan _ => "fixed span"
  | tags _ => "tags"
  | defaultValue => "default value"
  | join c _ => c.kind
  | modify m _ => m.kind
  | positionFilter _ _ _ => "position filter"
  | relationTarget _ _ => "relation target"
  | relationMatch _ _ => "relation match"
  | rootRelations _ => "root relation match"
  | call _ _ => "function call"

/-- The patterns directly below a node, in the order of the query. -/
def children : Pattern → List Pattern
  | term _ | regex _ | anyToken _ _ | fixedSpan _ | tags _ | defaultValue => []
  | join _ clauses => clauses
  | modify _ clause => [clause]
  | positionFilter _ producer filter => [producer, filter]
  | relationTarget _ target => [target]
  | relationMatch parent targets => parent :: targets.map (·.2)
  | rootRelations targets => targets.map (·.2)
  | call _ arguments => arguments.filterMap Argument.pattern?

mutual

def size : Pattern → Nat
  | term _ | regex _ | anyToken _ _ | fixedSpan _ | tags _ | defaultValue => 1
  | join _ clauses => sizeAll clauses + 1
  | modify _ clause => clause.size + 1
  | positionFilter _ producer filter => producer.size + filter.size + 1
  | relationTarget _ target => target.size + 1
  | relationMatch parent targets => parent.size + sizeTargets targets + 1
  | rootRelations targets => sizeTargets targets + 1
  | call _ arguments => sizeArguments arguments + 1

def sizeAll : List Pattern → Nat
  | [] => 0
  | p :: ps => p.size + sizeAll ps

def sizeTargets : List (RelationHead × Pattern) → Nat
  | [] => 0
  | (_, p) :: targets => p.size + sizeTargets targets

def sizeArguments : List (Argument Pattern) → Nat
  | [] => 0
  | .pattern p :: arguments => p.size + sizeArguments arguments
  | .text _ :: arguments => sizeArguments arguments
  | .number _ :: arguments => sizeArguments arguments

end

/-- Visits the patterns on a stack, each followed by what is below it; `fuel` counts the visits. -/
def walkStack : Nat → List Pattern → List Pattern
  | 0, _ => []
  | _, [] => []
  | fuel + 1, p :: stack => p :: walkStack fuel (p.children ++ stack)

/-- All nodes, each before what is below it. -/
def walk (p : Pattern) : List Pattern := walkStack p.size [p]

def ownCaptureNames : Pattern → List String
  | modify (.capture name) _ => [name]
  | tags tag => tag.capture.toList
  | relationTarget head _ => head.capture.toList
  | relationMatch _ targets => targets.filterMap (·.1.capture)
  | rootRelations targets => targets.filterMap (·.1.capture)
  | _ => []

/-- The names of all captures that the query gives a name to. -/
def captureNames (p : Pattern) : List String := p.walk.flatMap ownCaptureNames

def isBracketQuery : Pattern → Bool
  | term test => test.layer.isSome
  | regex test => test.layer.isSome
  | join .and clauses => allBracketQueries clauses
  | join .or clauses => allBracketQueries clauses
  | modify .not clause => clause.isBracketQuery
  | _ => false
where
  allBracketQueries : List Pattern → Bool
    | [] => true
    | p :: ps => p.isBracketQuery && allBracketQueries ps

end Pattern

end CorpusSearch
