import CorpusSearch.Error
import CorpusSearch.FieldName

/-!
Relation operators such as `-nsubj->`, `!-obj->`, `^-->` and `=al=>nl?`: what they mean, how they are read and how
they are written.
-/

set_option autoImplicit false

namespace CorpusSearch

/-- What a relation operator says about the relations it follows. -/
structure RelationOperator where
  /-- The pattern of the relation type, with or without a class. -/
  type : String
  direction : RelationDirection
  sourceVersion : Option String
  targetVersion : Option String
  negated : Bool
  alignment : Bool
  «optional» : Bool
  deriving DecidableEq, Repr

namespace RelationOperator

def typeOrAny (type : String) : String := if type.isEmpty then FieldName.anyType else type

def nonEmpty? (text : Option String) : Option String := text.filter fun t => !t.isEmpty

/-- An operator without source version. An alignment is not negated, and only an alignment is optional. -/
def build (type : String) (direction : RelationDirection) (targetVersion : Option String)
    (negated alignment «optional» : Bool) : Result RelationOperator :=
  if alignment && negated then .error (.construction .negatedAlignment)
  else if «optional» && !alignment then .error (.construction .optionalWithoutAlignment)
  else if direction = .root && (alignment || negated) then .error (.construction .modifiedRoot)
  else .ok ⟨typeOrAny type, direction, none, nonEmpty? targetVersion, negated, alignment, «optional»⟩

def ofType (type : String) : RelationOperator :=
  ⟨typeOrAny type, .both, none, none, false, false, false⟩

def withSourceVersion (o : RelationOperator) (version : Option String) : RelationOperator :=
  { o with sourceVersion := nonEmpty? version }

def isVersionChar (c : Char) : Bool := c.isAlphanum || c = '_' || c = '-'

def isDash (c : Char) : Bool := c = '-' || c = '='

def dropMark (mark : Char) (text : List Char) : Bool × List Char :=
  match text with
  | c :: rest => if c = mark then (true, rest) else (false, text)
  | [] => (false, [])

def splitArrow? (text : List Char) : Option (List Char × List Char) := do
  let (arrow, version) ← Text.splitLast? ['>'] text
  if !version.all isVersionChar then none
  match arrow with
  | [] => none
  | first :: body =>
    let (type, last) ← Text.unsnoc? body
    if isDash first && isDash last then return (type, version) else none

/--
Reads an operator. A question mark at the end makes it optional, a circumflex at the start asks for root
relations, an exclamation mark negates. The relation type stands between the dashes, or equal signs for an
alignment, the target version behind the arrow.
-/
def ofText (text : String) : Result RelationOperator :=
  let chars := text.toList
  let (isOptional, body) : Bool × List Char := match Text.unsnoc? chars with
    | some (init, '?') => (true, init)
    | _ => (false, chars)
  let (isRoot, body) := dropMark '^' body
  let isAlignment := (Text.splitFirst? ['=', '>'] body).isSome
  let (isNegated, body) := dropMark '!' body
  match splitArrow? body with
  | none => .error (.invalidQuery (.malformedOperator text))
  | some (type, version) =>
    build (String.ofList type) (if isRoot then .root else .both) (some (String.ofList version))
      isNegated isAlignment isOptional

def isRoot (o : RelationOperator) : Bool := o.direction = .root

/-- The pattern of class and type; the target version is added to the class. -/
def fullType (o : RelationOperator) (defaultClass : String) : String :=
  let (named?, type) := FieldName.splitClass o.type
  let relationClass := named?.getD defaultClass
  match o.targetVersion with
  | some version => FieldName.fullType (FieldName.withVersion relationClass version) type
  | none => FieldName.fullType relationClass type

/-- Writes an operator; the source version has no place in it. -/
def toText (o : RelationOperator) : String :=
  let mark : List Char := if o.isRoot then ['^'] else if o.negated then ['!'] else []
  let dash := if o.alignment then '=' else '-'
  let type := if o.type = FieldName.anyType then [] else o.type.toList
  let version := (o.targetVersion.getD "").toList
  String.ofList (mark ++ dash :: type ++ dash :: '>' :: version ++ if o.optional then ['?'] else [])

end RelationOperator

end CorpusSearch
