import CorpusSearch.Extension
import CorpusSearch.Regex.Match

/-!
Plans that search relations. Clauses that match any number of tokens say nothing about a relation and are left
out of the plan.
-/

set_option autoImplicit false

namespace CorpusSearch

/-- The expression for whole matches, or the error that it is none. -/
def compileExpression (expression : String) : Result Regex.Core :=
  match Regex.compileWhole expression with
  | .ok core => .ok core
  | .error _ => .error (.invalidExpression expression)

def checkRelationType (fullType : String) : Result Unit :=
  match compileExpression fullType with
  | .ok _ => .ok ()
  | .error _ => .error (.invalidQuery (.malformedRelationType fullType))

/-- The index field of the relations of the current field. -/
def Context.relationsField (c : Context) : Result String := do (← c.withRelations).indexField

/-- The capture that is named, or a new one with the name of the relation type. -/
def captureFor (name : Option String) (relationType : String) : Planning String :=
  match name with
  | some name => pure name
  | none => Planning.uniqueName (FieldName.captureName relationType)

/-- Drops a plan that matches any number of tokens. -/
def restrictingPlan? (plan : Plan) : Option Plan := if plan.isAnyNGram then none else some plan

/--
The relations of a type and direction, or of these the ones whose target is a hit of a plan. The hits are the
spans that the span mode says.
-/
def relationPlan (c : Context) (fullType : String) (target : Option Plan)
    (direction : RelationDirection) (mode : SpanMode) (capture : Option String) : Planning Plan := do
  checkRelationType fullType
  let field ← c.relationsField
  let capture ← captureFor (RelationOperator.nonEmpty? capture) fullType
  let relations (mode : SpanMode) : Plan := .relations ⟨field, fullType, direction, mode, capture⟩
  match target with
  | none => return relations mode
  | some target =>
    let matched := Plan.join .relationAnd [relations .target, target]
    if mode = .target then return matched
    return .modify (.relationSpan mode) matched

def relationMatchPlan (field : String) (clauses : List Plan) : Plan :=
  match clauses.filterMap restrictingPlan? with
  | [] => Plan.anyNGram field
  | [clause] => clause
  | clauses => .join .relationAnd clauses

def withoutRelation (parent relation : Plan) : Plan :=
  .positionFilter ⟨.matches, true, 0, 0⟩ parent relation

end CorpusSearch
