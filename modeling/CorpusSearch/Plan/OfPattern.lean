import CorpusSearch.Constraint.OfFilter
import CorpusSearch.Pattern.Simplify
import CorpusSearch.Relations.Plan

/-!
The plan of a pattern. Every node is planned in the context in which it stands; a node whose parts stand in
another field, layer or version plans them in a context of their own.
-/

set_option autoImplicit false

namespace CorpusSearch

/-- What planning a query depends on, beside the query and its context. -/
structure Planner where
  extensions : Extensions
  limits : Limits
  /-- Whether nodes are simplified before they are planned. -/
  simplifying : Bool

abbrev PlansBelow := Context → Pattern → Planning Plan

/-- How the relations below a parent restrict it. -/
structure RelationParts where
  /-- Relations that have to start in the parent. -/
  required : List Plan
  /-- Relations that must not start in the parent. -/
  excluded : List Plan
  aligned : List (AlignmentHead × Plan)

namespace Planner

def checkExpression (p : Planner) (expression : String) : Result Unit :=
  match Regex.check p.limits.expressionDepth p.limits.expressionSize expression with
  | .ok () => .ok ()
  | .error .malformed => .error (.invalidQuery .malformedExpression)
  | .error .tooDeep => .error (.patternTooLarge (.expressionDepth p.limits.expressionDepth))
  | .error .tooLarge => .error (.patternTooLarge (.expressionSize p.limits.expressionSize))

def valueContext (c : Context) (test : TokenTest) : Result Context :=
  c.withLayerAndSensitivity test.layer test.sensitivity

def planTerm (c : Context) (test : TokenTest) : Result Plan := do
  let c ← valueContext c test
  return .term (← c.indexField) (← c.desensitize test.value)

/-- Expressions are checked as they are written, and then brought to the form of the indexed values. -/
def planRegex (p : Planner) (c : Context) (test : TokenTest) : Result Plan := do
  let c ← valueContext c test
  let (forced, expression) := Text.splitForcedSensitivity test.value
  let c ← c.withLayerAndSensitivity none forced
  let expression := Text.stripAnchors expression
  p.checkExpression expression
  let field ← c.indexField
  return .regex field (Text.desensitizeExpression expression (← c.sensitivity))

def checkAttribute (p : Planner) : AttributeValue → Result Unit
  | .expression text => p.checkExpression text
  | .range _ _ => .ok ()

def planTags (p : Planner) (c : Context) (tag : TagPattern) : Planning Plan := do
  tag.attributes.entries.forM fun e => p.checkAttribute e.2
  let field ← c.relationsField
  let capture ← match tag.capture with
    | some name => pure name
    | none => Planning.uniqueName tag.name
  let type := FieldName.fullType FieldName.tagClass tag.name
  return .tags ⟨field, type, tag.attributes, tag.adjust, capture⟩

/-- A condition can only refer to captures that its clause can make. -/
def planConstrained (p : Planner) (c : Context) (clause : Plan) (filter : Filter) : Result Plan := do
  let known := clause.captureNames
  match filter.captures.find? fun name => !known.contains name with
  | some name => throw (.invalidQuery (.unknownCapture name))
  | none =>
    let reading ← Constraint.ofFilter c p.extensions.predicates filter
    return .modify (.constrained reading.constraint c.fieldName reading.layers) clause

/-! ### Relations -/

/-- Plans the target of a relation, in the version that the operator names. -/
def planTarget (below : PlansBelow) (source : Context) (head : RelationHead) (target : Pattern) :
    Planning (Context × Plan) := do
  let c ← source.inVersion? head.operator.targetVersion
  return (c, ← below c target.fillDefault)

def planRelation (below : PlansBelow) (c : Context) (head : RelationHead) (target : Pattern) :
    Planning Plan := do
  let source ← c.inVersion? head.operator.sourceVersion
  let (_, plan) ← planTarget below source head target
  let fullType := head.operator.fullType source.relationClass
  relationPlan source fullType (restrictingPlan? plan) head.operator.direction head.spanMode
    head.capture

def planAlignment (below : PlansBelow) (c : Context) (head : RelationHead) (target : Pattern) :
    Planning (AlignmentHead × Plan) := do
  let source ← c.inVersion? head.operator.sourceVersion
  let (targetContext, plan) ← planTarget below source head target
  let fullType := head.operator.fullType source.relationClass
  checkRelationType fullType
  let capture ← captureFor head.capture head.operator.type
  let field ← source.relationsField
  return (⟨field, fullType, targetContext.fieldName, capture, head.operator.optional⟩, plan)

/-- Plans relations from left to right. -/
def planParts (below : PlansBelow) (c : Context) :
    List (RelationHead × Pattern) → Planning RelationParts
  | [] => pure ⟨[], [], []⟩
  | (head, target) :: rest => do
    if head.operator.alignment then
      let first ← planAlignment below c head target
      let parts ← planParts below c rest
      return { parts with aligned := first :: parts.aligned }
    else
      let first ← planRelation below c head target
      let parts ← planParts below c rest
      if head.operator.negated then return { parts with excluded := first :: parts.excluded }
      return { parts with required := first :: parts.required }

/-- Spans of a parent with the relations that have to start in it, without those that must not. -/
def planRelations (below : PlansBelow) (c : Context) (parent : Plan)
    (targets : List (RelationHead × Pattern)) : Planning Plan := do
  let parts ← planParts below c targets
  let matched := relationMatchPlan c.fieldName (parent :: parts.required)
  let remaining := parts.excluded.foldl withoutRelation matched
  if parts.aligned.isEmpty then return remaining
  return .align remaining parts.aligned

/-- A relation that stands alone; a negated one matches single tokens. -/
def planSingleRelation (below : PlansBelow) (c : Context) (head : RelationHead) (target : Pattern) :
    Planning Plan := do
  if head.operator.alignment then Planning.fail .alignmentWithoutSource
  let relation ← planRelation below c head target
  if head.operator.negated then return withoutRelation (.anyToken c.fieldName 1 1) relation
  return relation

/-! ### Function calls -/

/-- An argument in the type that the function expects; a placeholder is left out. -/
def planArgument (below : PlansBelow) (c : Context) (function : String) (number : Nat)
    (expected : ArgumentType) (argument : Argument Pattern) :
    Planning (Option (Argument Plan)) :=
  match argument, expected with
  | .pattern .defaultValue, _ => pure none
  | .pattern p, .query => do return some (.pattern (← below c p))
  | .text value, .text => pure (some (.text value))
  | .number n, .number => pure (some (.number n))
  | .number n, .text => pure (some (.text (toString n)))
  | .text value, .number =>
    match Text.integer? (Text.trim value.toList) with
    | some n => pure (some (.number n))
    | none => Planning.fail (.notAnInteger function number)
  | _, expected => Planning.fail (.wrongArgumentType function number expected.name)

/-- The arguments from the place `index` on. -/
def planArguments (below : PlansBelow) (c : Context) (f : QueryFunction) (function : String) :
    Nat → List (Argument Pattern) → Planning (List (Option (Argument Plan)))
  | _, [] => pure []
  | index, argument :: rest =>
    match f.typeAt? index with
    | none => Planning.fail (.tooManyArguments function)
    | some expected => do
      let first ← planArgument below c function (index + 1) expected argument
      return first :: (← planArguments below c f function (index + 1) rest)

def planCall (p : Planner) (below : PlansBelow) (c : Context) (name : String)
    (arguments : List (Argument Pattern)) : Planning Plan :=
  match p.extensions.functions.get? name with
  | none => Planning.fail (.unknownFunction name)
  | some f => do
    let given ← planArguments below c f name 0 arguments
    let complete ← f.completeArguments c given
    f.build c complete

/-! ### Nodes -/

def planConnective : Connective → PlanConnective
  | .and => .and
  | .or => .or
  | .sequence => .sequence

def planModifier (p : Planner) (below : PlansBelow) (c : Context) (clause : Pattern) :
    Modifier → Planning Plan
  | .not => do return .modify (.not c.fieldName) (← below c clause)
  | .repeated min max => do return .modify (.repeated c.fieldName min max) (← below c clause)
  | .expanded direction min max => do
    return .modify (.expanded c.fieldName direction min max) (← below c clause)
  | .filteredNGrams operation min max => do
    return .modify (.filteredNGrams c.fieldName operation min max) (← below c clause)
  | .capture name => do return .modify (.capture name) (← below c clause)
  | .constrained filter => do
    let plan ← below c clause
    p.planConstrained c plan filter
  | .edge trailing => do return .modify (.edge trailing) (← below c clause)
  | .version name => do below (← c.inVersion (some name)) clause
  | .settings _ => below c clause

def planNode (p : Planner) (below : PlansBelow) (c : Context) : Pattern → Planning Plan
  | .term test => planTerm c test
  | .regex test => p.planRegex c test
  | .anyToken min max => pure (.anyToken c.fieldName min max)
  | .fixedSpan span => pure (.fixedSpan c.fieldName span)
  | .tags tag => p.planTags c tag
  | .defaultValue => Planning.fail .misplacedDefault
  | .join connective clauses => do
    return .join (planConnective connective) (← clauses.mapM (below c))
  | .modify modifier clause => p.planModifier below c clause modifier
  | .positionFilter test producer filter => do
    let producer ← below c producer
    return .positionFilter test producer (← below c filter)
  | .relationTarget head target => planSingleRelation below c head target
  | .relationMatch parent targets => do
    let parent ← below c parent
    planRelations below c parent targets
  | .rootRelations targets => planRelations below c (Plan.anyNGram c.fieldName) targets
  | .call name arguments => p.planCall below c name arguments

/-- The plan of a pattern that may be nested `depth` deep. -/
def planWithin (p : Planner) : Nat → Context → Pattern → Planning Plan
  | 0, _, _ => throw (.patternTooLarge (.patternDepth p.limits.patternDepth))
  | depth + 1, c, pattern =>
    p.planNode (planWithin p depth) c (if p.simplifying then pattern.simplify else pattern)

/-- The plan of a query. The capture names that it gives itself are not made up for other captures. -/
def plan (p : Planner) (c : Context) (pattern : Pattern) : Result Plan := do
  let names := pattern.captureNames.foldl CaptureNames.reserve CaptureNames.empty
  let (plan, _) ← (p.planWithin p.limits.patternDepth c pattern).run names
  return plan

end Planner

end CorpusSearch
