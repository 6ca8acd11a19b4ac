import CorpusSearch.Sensitivity
import CorpusSearch.Text.Split

/-!
Names of index fields, of document versions and of relation types. An index field name joins field, annotation
and sensitivity; a version is appended to a field or a relation class; a full relation type joins class and type.
-/

set_option autoImplicit false

namespace CorpusSearch.FieldName

def layerSeparator : Char := '%'
def sensitivitySeparator : Char := '@'
def versionSeparator : String := "__"
def classSeparator : String := "::"

def relationLayer : String := "_relation"

def tagClass : String := "__tag"

/-- Matches every relation class that is not internal. -/
def anyClass : String := "[^_].*"

def anyType : String := ".*"

/-- The name of an index field, as in `contents%word@i`. -/
def indexField (field layer : String) (sensitivity : Sensitivity) : String :=
  String.ofList (field.toList ++ layerSeparator :: layer.toList
    ++ sensitivitySeparator :: (Coded.code sensitivity).toList)

/-- The field, the layer and the sensitivity code of an index field name. -/
def splitIndexField? (name : String) : Option (String × String × String) := do
  let (field, rest) ← Text.splitFirst? [layerSeparator] name.toList
  let (layer, sensitivity) ← Text.splitLast? [sensitivitySeparator] rest
  return (String.ofList field, String.ofList layer, String.ofList sensitivity)

/--
Base name and version of a field; the version follows the last version separator that is not at the very start
of the name.
-/
def splitVersion (name : String) : String × Option String :=
  match Text.splitLast? versionSeparator.toList name.toList with
  | some (c :: base, version) => (String.ofList (c :: base), some (String.ofList version))
  | _ => (name, none)

/-- The name of a field in a version of the document; the empty version stands for the base field. -/
def withVersion (name version : String) : String :=
  let base := (splitVersion name).1
  if version.isEmpty then base
  else String.ofList (base.toList ++ versionSeparator.toList ++ version.toList)

/-- Puts parentheses around an expression that has none and is not a repeated dot. -/
def grouped (expression : String) : String :=
  let text := expression.toList
  if (text.head? = some '(' && text.getLast? = some ')')
      || text = ['.', '*'] || text = ['.', '+'] || text = ['.', '?'] then
    expression
  else String.ofList ('(' :: text ++ [')'])

/-- The pattern of a full relation type, from the patterns of class and type. -/
def fullType (relationClass relationType : String) : String :=
  String.ofList ((grouped relationClass).toList ++ classSeparator.toList
    ++ (grouped relationType).toList)

def splitClass (fullType : String) : Option String × String :=
  match Text.splitFirst? classSeparator.toList fullType.toList with
  | some (relationClass, relationType) =>
    (some (String.ofList relationClass), String.ofList relationType)
  | none => (none, fullType)

/-- A full type pattern; the default class is used where the pattern names none. -/
def withDefaultClass (relationType defaultClass : String) : String :=
  match splitClass relationType with
  | (some _, _) => relationType
  | (none, _) => fullType defaultClass relationType

/-- The capture name of a relation: the letters of its type, or `rel` where there are none. -/
def captureName (relationType : String) : String :=
  let type := match Text.splitLast? classSeparator.toList relationType.toList with
    | some (_, type) => type
    | none => relationType.toList
  match type.filter Unicode.isAlphabetic with
  | [] => "rel"
  | letters => String.ofList letters

end CorpusSearch.FieldName
