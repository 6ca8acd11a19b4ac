import CorpusSearch.Pattern.Length

/-!
Building patterns. Only these functions make patterns from parts; they refuse parts that do not fit and keep the
clauses of a connective free of nodes of the same connective.
-/

set_option autoImplicit false

namespace CorpusSearch.Build

def inverted (node : String) (min max : UInt32) : QueryError :=
  .construction (.inverted node (Int.ofNat min.toNat) (Int.ofNat max.toNat))

def checkBounds (node : String) (min max : UInt32) : Result Unit :=
  if max < min then .error (inverted node min max) else .ok ()

def checkNonEmpty (node : String) (min max : UInt32) : Result Unit := do
  checkBounds node min max
  if max = 0 then throw (.construction (.emptyRange node))

def term (test : TokenTest) : Pattern := .term test

def regex (test : TokenTest) : Pattern := .regex test

def anyToken (min max : UInt32) : Result Pattern := do
  checkNonEmpty "any token" min max
  return .anyToken min max

def clausesFor (connective : Connective) : Pattern → List Pattern
  | .join c clauses => if c = connective then clauses else [.join c clauses]
  | p => [p]

/-- Joins clauses; clauses that are joined in the same way already are taken apart. -/
def join (connective : Connective) (clauses : List Pattern) : Result Pattern :=
  if clauses.isEmpty then .error (.construction (.noClause connective.kind))
  else .ok (.join connective (clauses.flatMap (clausesFor connective)))

/-- Negates a clause, unless its matches are known not to be single tokens. -/
def not (clause : Pattern) : Result Pattern :=
  match clause.length? with
  | none => .ok (.modify .not clause)
  | some l =>
    if l = .exactly 1 then .ok (.modify .not clause) else .error (.construction .notSingleToken)

def repetition (clause : Pattern) (min max : UInt32) : Result Pattern := do
  checkNonEmpty "repetition" min max
  if min = 1 && max = 1 then return clause
  return .modify (.repeated min max) clause

def expansion (clause : Pattern) (direction : ExpansionDirection) (min max : UInt32) :
    Result Pattern := do
  checkBounds "expansion" min max
  return .modify (.expanded direction min max) clause

def positionFilter (producer filter : Pattern) (test : PositionTest) : Pattern :=
  .positionFilter test producer filter

def filterNGrams (clause : Pattern) (operation : PositionOperation) (min max : UInt32) :
    Result Pattern := do
  checkBounds "n-gram filter" min max
  return .modify (.filteredNGrams operation min max) clause

def capture (clause : Pattern) (name : String) : Result Pattern :=
  if name.isEmpty then .error (.construction .emptyCaptureName)
  else .ok (.modify (.capture name) clause)

def constrained (clause : Pattern) (constraint : Filter) : Pattern :=
  .modify (.constrained constraint) clause

def edge (clause : Pattern) (trailing : Bool) : Pattern := .modify (.edge trailing) clause

def fixedSpan (start stop : UInt32) : Result Pattern :=
  if stop < start then .error (.construction (.startAfterEnd start stop))
  else .ok (.fixedSpan ⟨start, stop⟩)

def attributeRange (min max : Int) : Result AttributeValue :=
  if max < min then .error (.construction (.inverted "attribute range" min max))
  else .ok (.range min max)

def tags (name : String) (attributes : NameMap AttributeValue) (adjust : TagAdjust)
    (capture : Option String) : Result Pattern :=
  if name.isEmpty then .error (.construction .emptyElementName)
  else .ok (.tags ⟨name, attributes, adjust, RelationOperator.nonEmpty? capture⟩)

/-- A relation target; root relations have no source span to stand for. -/
def relationHead (operator : RelationOperator) (spanMode : SpanMode) (capture : Option String) :
    Result RelationHead :=
  if operator.isRoot && spanMode = .source then .error (.construction .rootSource)
  else .ok ⟨operator, spanMode, RelationOperator.nonEmpty? capture⟩

def relationTarget (head : RelationHead) (target : Pattern) : Pattern := .relationTarget head target

def relationMatch (parent : Pattern) (targets : List (RelationHead × Pattern)) : Result Pattern :=
  if targets.isEmpty then .error (.construction (.noRelation "relation match"))
  else if targets.any fun t => t.1.operator.isRoot then .error (.construction .rootChild)
  else .ok (.relationMatch parent targets)

def rootRelations (targets : List (RelationHead × Pattern)) : Result Pattern :=
  if targets.isEmpty then .error (.construction (.noRelation "root relation match"))
  else if targets.any fun t => !t.1.operator.isRoot || t.1.spanMode ≠ .target then
    .error (.construction .notRootTargets)
  else .ok (.rootRelations targets)

def version (clause : Pattern) (name : String) : Result Pattern :=
  if name.isEmpty then .error (.construction .emptyVersion)
  else .ok (.modify (.version name) clause)

def call (name : String) (arguments : List (Argument Pattern)) : Result Pattern :=
  if name.isEmpty then .error (.construction .emptyFunctionName) else .ok (.call name arguments)

def settings (clause : Pattern) (values : NameMap String) : Pattern :=
  .modify (.settings values) clause

end CorpusSearch.Build
