import CorpusSearch.CaptureNames
import CorpusSearch.Context
import CorpusSearch.Plan.Basic

/-!
Functions that queries can call. A query function builds a plan from its arguments; a predicate decides on a
captured value. Arguments that are left out take their default.
-/

set_option autoImplicit false

namespace CorpusSearch

/-- Building a part of a plan, while capture names are taken into use. -/
abbrev Planning := StateT CaptureNames (Except QueryError)

namespace Planning

def fail {α : Type} (fault : QueryFault) : Planning α := throw (.invalidQuery fault)

def uniqueName (base : String) : Planning String := modifyGet fun names => names.ensureUnique base

end Planning

inductive ArgumentType where
  | query
  | text
  | number
  deriving DecidableEq, Repr

/-- What an argument type is called in messages. -/
def ArgumentType.name : ArgumentType → String
  | query => "Query"
  | text => "Str"
  | number => "Int"

/-- What stands for an argument that is left out. -/
inductive DefaultArgument where
  /-- Any number of tokens of the current field. -/
  | anyNGram
  | text (value : String)
  | number (value : Int)
  deriving DecidableEq, Repr

def DefaultArgument.resolve (c : Context) : DefaultArgument → Argument Plan
  | anyNGram => .pattern (Plan.anyNGram c.fieldName)
  | text value => .text value
  | number value => .number value

structure QueryFunction where
  name : String
  types : List ArgumentType
  /-- The defaults of the arguments; an argument without one has to be given. -/
  defaults : List (Option DefaultArgument)
  /-- Whether the last type holds for any number of arguments. -/
  variadic : Bool
  build : Context → List (Argument Plan) → Planning Plan

namespace QueryFunction

def typeAt? (f : QueryFunction) (index : Nat) : Option ArgumentType :=
  match f.types[index]? with
  | some type => some type
  | none => if f.variadic then f.types.getLast? else none

def defaultAt (f : QueryFunction) (c : Context) (index : Nat) : Result (Argument Plan) :=
  match (f.defaults[index]?).join with
  | some d => .ok (d.resolve c)
  | none => .error (.invalidQuery (.missingArgument f.name (index + 1)))

/-- The first `count` arguments from the place `index` on, defaults in the places of those left out. -/
def fillArguments (f : QueryFunction) (c : Context) :
    Nat → Nat → List (Option (Argument Plan)) → Result (List (Argument Plan))
  | 0, _, _ => .ok []
  | count + 1, index, given => do
    let first ← match given.head?.join with
      | some argument => pure argument
      | none => f.defaultAt c index
    return first :: (← fillArguments f c count (index + 1) given.tail)

/-- Fills in the arguments that are left out, and refuses more arguments than the function takes. -/
def completeArguments (f : QueryFunction) (c : Context) (given : List (Option (Argument Plan))) :
    Result (List (Argument Plan)) :=
  if f.variadic then f.fillArguments c (max given.length (f.types.length - 1)) 0 given
  else if f.types.length < given.length then
    .error (.invalidQuery (.argumentCount f.name f.types.length given.length))
  else f.fillArguments c f.types.length 0 given

end QueryFunction

/-- The functions and predicates that a query can use. -/
structure Extensions where
  functions : NameMap QueryFunction
  predicates : NameMap Predicate

namespace Extensions

def register (e : Extensions) (f : QueryFunction) : Extensions :=
  { e with functions := e.functions.insert f.name f }

def registerPredicate (e : Extensions) (name : String) (p : Predicate) : Extensions :=
  { e with predicates := e.predicates.insert name p }

end Extensions

end CorpusSearch
