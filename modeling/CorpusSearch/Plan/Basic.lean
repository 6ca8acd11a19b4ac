import CorpusSearch.Constraint.Basic
import CorpusSearch.Pattern.Basic

/-!
Query plans: what an index evaluates. A plan names index fields, such as `contents%word@i`, where it looks up
values or relations, and plain fields where it only needs to count tokens.
-/

set_option autoImplicit false

namespace CorpusSearch

inductive PlanConnective where
  /-- Spans that all clauses match. -/
  | and
  /-- The same, where no relation serves two clauses. -/
  | relationAnd
  | or
  | sequence
  deriving DecidableEq, Repr

/-- Markup spans with a type and attributes. -/
structure TagQuery where
  field : String
  type : String
  attributes : NameMap AttributeValue
  adjust : TagAdjust
  capture : String
  deriving DecidableEq

/-- Relations with a type and a direction. -/
structure RelationQuery where
  field : String
  type : String
  direction : RelationDirection
  spanMode : SpanMode
  capture : String
  deriving DecidableEq, Repr

/-- Relations within a hit, or within one of its captures. -/
structure WithinQuery where
  within : Option String
  field : String
  type : String
  capture : String
  deriving DecidableEq, Repr

/-- How the hits of a source are aligned to hits in another version, the hits there left out. -/
structure AlignmentHead where
  field : String
  type : String
  /-- The field of the other version. -/
  targetField : String
  capture : String
  /-- Whether hits that are not aligned are kept. -/
  «optional» : Bool
  deriving DecidableEq, Repr

/-- What is made of the hits of a single clause. -/
inductive PlanModifier where
  /-- Single tokens of a field that are no hits. -/
  | not (field : String)
  | repeated (field : String) (min max : UInt32)
  | expanded (field : String) (direction : ExpansionDirection) (min max : UInt32)
  | filteredNGrams (field : String) (operation : PositionOperation) (min max : UInt32)
  | capture (name : String)
  | edge (trailing : Bool)
  /-- The spans that the relations of the hits stand for. -/
  | relationSpan (mode : SpanMode)
  | relationsWithin (query : WithinQuery)
  /-- Hits that satisfy a condition on values of a field. -/
  | constrained (constraint : Constraint) (field : String) (layers : NameSet)
  deriving DecidableEq

inductive Plan where
  /-- Tokens with just this value. -/
  | term (field value : String)
  /-- Tokens whose value an expression matches as a whole. -/
  | regex (field expression : String)
  | anyToken (field : String) (min max : UInt32)
  | fixedSpan (field : String) (span : Span)
  | tags (query : TagQuery)
  | relations (query : RelationQuery)
  | join (connective : PlanConnective) (clauses : List Plan)
  | modify (modifier : PlanModifier) (clause : Plan)
  | positionFilter (test : PositionTest) (producer filter : Plan)
  | align (source : Plan) (targets : List (AlignmentHead × Plan))
  deriving BEq, Inhabited

namespace Plan

def anyNGram (field : String) : Plan := anyToken field 0 Bound.unlimited

def isAnyNGram : Plan → Bool
  | anyToken _ min max => min = 0 && max = Bound.unlimited
  | _ => false

def modifierCaptures : PlanModifier → NameSet
  | .capture name => NameSet.single name
  | .relationsWithin query => NameSet.single query.capture
  | _ => NameMap.empty

mutual

/-- The names of all captures that a hit can have. -/
def captureNames : Plan → NameSet
  | term _ _ | regex _ _ | anyToken _ _ _ | fixedSpan _ _ => NameMap.empty
  | tags query => NameSet.single query.capture
  | relations query => NameSet.single query.capture
  | join _ clauses => captureNamesOf clauses
  | modify modifier clause =>
    match modifier with
    | .not _ => NameMap.empty
    | m => (modifierCaptures m).union clause.captureNames
  | positionFilter test producer filter =>
    if test.inverted then producer.captureNames
    else producer.captureNames.union filter.captureNames
  | align source targets => source.captureNames.union (targetCaptureNames targets)

def captureNamesOf : List Plan → NameSet
  | [] => NameMap.empty
  | plan :: plans => plan.captureNames.union (captureNamesOf plans)

def targetCaptureNames : List (AlignmentHead × Plan) → NameSet
  | [] => NameMap.empty
  | (head, target) :: targets =>
    (target.captureNames.insert head.capture ()).union (targetCaptureNames targets)

end

end Plan

end CorpusSearch
