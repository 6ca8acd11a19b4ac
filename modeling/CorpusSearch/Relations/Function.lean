import CorpusSearch.Relations.Plan

/-!
The relation functions, which every query can call.
-/

set_option autoImplicit false

namespace CorpusSearch.RelationFunction

def textAt (arguments : List (Argument Plan)) (index : Nat) : Planning String :=
  match arguments[index]? with
  | some (.text value) => pure value
  | _ => Planning.fail (.notAString (index + 1))

def planAt (arguments : List (Argument Plan)) (index : Nat) : Planning Plan :=
  match arguments[index]? with
  | some (.pattern plan) => pure plan
  | _ => Planning.fail (.notAQuery (index + 1))

def decode (α : Type) [Coded α] (code : String) : Planning α :=
  match (Coded.ofCode? code : Option α) with
  | some x => pure x
  | none => Planning.fail (.unknownCode (Coded.kind α) code)

/-- Relations by type, target, span mode, capture name and direction. -/
def rel : QueryFunction where
  name := "rel"
  types := [.text, .query, .text, .text, .text]
  defaults := [some (.text FieldName.anyType), some .anyNGram, some (.text "source"),
    some (.text ""), some (.text "both")]
  variadic := false
  build c arguments := do
    let fullType := FieldName.withDefaultClass (← textAt arguments 0) c.relationClass
    let target := restrictingPlan? (← planAt arguments 1)
    let mode ← decode SpanMode (← textAt arguments 2)
    let capture ← textAt arguments 3
    let direction ← decode RelationDirection (← textAt arguments 4)
    relationPlan c fullType target direction mode (some capture)

def rmatch : QueryFunction where
  name := "rmatch"
  types := [.query]
  defaults := []
  variadic := true
  build c arguments := do
    let clauses ← (List.range arguments.length).mapM (planAt arguments)
    return relationMatchPlan c.fieldName clauses

/-- The spans that the relations of the hits stand for. -/
def rspan : QueryFunction where
  name := "rspan"
  types := [.query, .text]
  defaults := [none, some (.text "full")]
  variadic := false
  build _ arguments := do
    let clause ← planAt arguments 0
    let mode ← decode SpanMode (← textAt arguments 1)
    return .modify (.relationSpan mode) clause

/-- Captures all relations of a type within the hits, or within one of their captures. -/
def captureWithin (c : Context) (clause : Plan) (within : Option String)
    (capture relationType : String) : Planning Plan := do
  let fullType := FieldName.withDefaultClass relationType c.relationClass
  checkRelationType fullType
  let field ← c.relationsField
  let capture ← Planning.uniqueName capture
  return .modify (.relationsWithin ⟨within, field, fullType, capture⟩) clause

def rcapture : QueryFunction where
  name := "rcapture"
  types := [.query, .text, .text]
  defaults := [none, some (.text "rels"), some (.text FieldName.anyType)]
  variadic := false
  build c arguments := do
    let clause ← planAt arguments 0
    let capture ← textAt arguments 1
    captureWithin c clause none capture (← textAt arguments 2)

/-- Captures relations within a capture of the hits. -/
def rcapture2 : QueryFunction where
  name := "rcapture2"
  types := [.query, .text, .text, .text]
  defaults := [none, none, some (.text "rels"), some (.text FieldName.anyType)]
  variadic := false
  build c arguments := do
    let clause ← planAt arguments 0
    let within ← textAt arguments 1
    let capture ← textAt arguments 2
    captureWithin c clause (some within) capture (← textAt arguments 3)

end CorpusSearch.RelationFunction

namespace CorpusSearch

/-- The relation functions, and no predicates. -/
def Extensions.standard : Extensions :=
  [RelationFunction.rel, RelationFunction.rmatch, RelationFunction.rspan, RelationFunction.rcapture,
    RelationFunction.rcapture2].foldl Extensions.register ⟨NameMap.empty, NameMap.empty⟩

end CorpusSearch
