import CorpusSearch.NameMap
import CorpusSearch.Sensitivity

/-!
What an index offers: its fields, the annotation layers of each field, and the sensitivities in which the values
of a layer are indexed.
-/

set_option autoImplicit false

namespace CorpusSearch

/-- An annotation layer of a field, by the forms in which its values are indexed. -/
structure Layer where
  sensitivities : List Sensitivity
  deriving DecidableEq, Repr

namespace Layer

/-- The layer with the given sensitivities, each once and in their usual order. -/
def ofList (sensitivities : List Sensitivity) : Layer :=
  ⟨(Coded.values : List Sensitivity).filter sensitivities.contains⟩

/-- A layer that is indexed with and without regard to case and diacritics. -/
def standard : Layer := ofList [.sensitive, .insensitive]

def offers (layer : Layer) (s : Sensitivity) : Bool := layer.sensitivities.contains s

/-- What is tried, in this order, where a sensitivity is not offered. -/
def fallbacks : Sensitivity → List Sensitivity
  | .insensitive => [.sensitive]
  | .sensitive => [.insensitive]
  | .caseInsensitive | .diacriticsInsensitive => [.sensitive, .insensitive]

/--
The sensitivity that comes closest to the requested one: itself, a fallback, or the first one offered. A layer
that offers none leaves the request as it is.
-/
def resolve (layer : Layer) (requested : Sensitivity) : Sensitivity :=
  if layer.offers requested then requested
  else
    match (fallbacks requested).find? layer.offers with
    | some s => s
    | none => layer.sensitivities.head?.getD requested

end Layer

/-- A field of the index. -/
structure AnnotatedField where
  /-- Whether relations and markup are indexed for the field. -/
  relations : Bool
  layers : NameMap Layer
  deriving DecidableEq

/-- The fields of an index; a version of a document is a field of its own. -/
structure Catalog where
  fields : NameMap AnnotatedField
  deriving DecidableEq

def Catalog.field? (catalog : Catalog) (name : String) : Option AnnotatedField :=
  catalog.fields.get? name

end CorpusSearch
