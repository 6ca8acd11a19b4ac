import CorpusSearch.Plan.Basic

/-!
Plans as texts.
-/

set_option autoImplicit false

namespace CorpusSearch

def Bound.toText (bound : UInt32) : String :=
  if bound = Bound.unlimited then "INF" else toString bound.toNat

/-- The code of an operation in capitals, with a mark where it is inverted. -/
def PositionOperation.toText (operation : PositionOperation) (inverted : Bool) : String :=
  let code := (Coded.code operation).toUpper
  if inverted then s!"NOT{code}" else code

def AttributeValue.toText : AttributeValue → String
  | .expression text => text
  | .range min max => s!"[{min}..{max}]"

def PlanConnective.toText : PlanConnective → String
  | and => "AND"
  | relationAnd => "RAND"
  | or => "OR"
  | sequence => "SEQ"

def TagQuery.toText (query : TagQuery) : String :=
  let attributes := query.attributes.entries.map fun e => s!"{e.1}={e.2.toText}"
  let shown := if attributes.isEmpty then "" else
    String.ofList (", \x7b".toList ++ (", ".intercalate attributes).toList ++ ['\x7d'])
  s!"TAGS({query.field}, {query.type}{shown}, {Coded.code query.adjust}, {query.capture})"

def RelationQuery.toText (query : RelationQuery) : String :=
  s!"REL({query.field}, {query.type}, {Coded.code query.direction}, "
    ++ s!"{Coded.code query.spanMode}, {query.capture})"

/-- The text of a target, from the text of the hits it aligns to. -/
def AlignmentHead.toText (head : AlignmentHead) (target : String) : String :=
  let mark := if head.optional then " (optional)" else ""
  s!"{head.capture}: {head.type} -> {target}{mark}"

/-- The text of a test, to follow the texts of producer and filter. -/
def PositionTest.toText (test : PositionTest) : String :=
  let operation := test.operation.toText test.inverted
  if test.adjustLeading = 0 && test.adjustTrailing = 0 then operation
  else s!"{operation}, {test.adjustLeading}, {test.adjustTrailing}"

/-- The text of a modified clause, from the text of the clause. -/
def PlanModifier.toText (m : PlanModifier) (clause : String) : String :=
  match m with
  | not _ => s!"NOT({clause})"
  | repeated _ min max => s!"REP({clause}, {min}, {Bound.toText max})"
  | expanded _ direction min max =>
    s!"EXPAND({clause}, {Coded.code direction}, {min}, {Bound.toText max})"
  | filteredNGrams _ operation min max =>
    s!"FILTERNGRAMS({clause}, {operation.toText false}, {min}, {Bound.toText max})"
  | capture name => s!"CAPTURE({clause}, {name})"
  | edge trailing =>
    let side := if trailing then "TRAILING" else "LEADING"
    s!"EDGE({clause}, {side})"
  | relationSpan mode => s!"RSPAN({clause}, {Coded.code mode})"
  | relationsWithin query =>
    match query.within with
    | some within => s!"RCAPWITHIN({clause}, {within}, {query.type}, {query.capture})"
    | none => s!"RCAPWITHIN({clause}, {query.type}, {query.capture})"
  | constrained constraint _ _ => s!"CONSTRAINED({clause}, {constraint.toText})"

namespace Plan

mutual

def toText : Plan → String
  | term field value => s!"TERM({field}, {value})"
  | regex field expression => s!"REGEX({field}, {expression})"
  | anyToken _ min max => s!"ANYTOKEN({min}, {Bound.toText max})"
  | fixedSpan _ span => s!"FIXEDSPAN({span.start}, {span.stop})"
  | tags query => query.toText
  | relations query => query.toText
  | join connective clauses =>
    let clauses := ", ".intercalate (texts clauses)
    s!"{connective.toText}({clauses})"
  | modify modifier clause => modifier.toText clause.toText
  | positionFilter test producer filter =>
    s!"POSFILTER({producer.toText}, {filter.toText}, {test.toText})"
  | align source targets =>
    let targets := ", ".intercalate (targetTexts targets)
    s!"RCAPALIGN({source.toText}, [{targets}])"

def texts : List Plan → List String
  | [] => []
  | plan :: plans => plan.toText :: texts plans

def targetTexts : List (AlignmentHead × Plan) → List String
  | [] => []
  | (head, target) :: targets => head.toText target.toText :: targetTexts targets

end

end Plan

end CorpusSearch
