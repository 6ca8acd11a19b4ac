import CorpusSearch.Catalog
import CorpusSearch.Config
import CorpusSearch.Error

/-!
Where a part of a query stands: the field and the version of the document, the annotation layer and the
sensitivity. Parts of a query that name another one of these are read in a context that differs in it.
-/

set_option autoImplicit false

namespace CorpusSearch

structure Context where
  catalog : Catalog
  /-- The field without a version. -/
  baseField : String
  version : Option String
  /-- The layer of values; it is kept while relations are searched. -/
  valueLayer : String
  /-- The sensitivity that is asked for, whether the layer offers it or not. -/
  requested : Sensitivity
  /-- Whether the relations of the field are searched, and not values. -/
  onRelations : Bool
  /-- The relation class of relation types that name none. -/
  relationClass : String
  deriving DecidableEq

namespace Context

/-- The field that is searched, in its version. -/
def fieldName (c : Context) : String :=
  match c.version with
  | some version => FieldName.withVersion c.baseField version
  | none => c.baseField

def layer (c : Context) : String := if c.onRelations then FieldName.relationLayer else c.valueLayer

def field (c : Context) : Result AnnotatedField :=
  match c.catalog.field? c.fieldName with
  | some field => .ok field
  | none => .error (.invalidQuery (.unknownField c.fieldName))

def checkLayer (c : Context) (layer : String) : Result Unit := do
  if (← c.field).layers.contains layer then return ()
  throw (.invalidQuery (.unknownLayer layer c.fieldName))

/-- The context of a query; field and layer have to exist. -/
def start (catalog : Catalog) (field layer : String) (sensitivity : Sensitivity) : Result Context := do
  let c : Context := ⟨catalog, field, none, layer, sensitivity, false, FieldName.anyClass⟩
  c.checkLayer layer
  return c

def withRelationClass (c : Context) (relationClass : String) : Context :=
  { c with relationClass := relationClass }

/-- The context of a query that names nothing itself. -/
def ofDefaults (catalog : Catalog) (defaults : Defaults) : Result Context := do
  let c ← start catalog defaults.field defaults.layer defaults.sensitivity
  return c.withRelationClass defaults.relationClass

/-- The sensitivity that is searched; relations are always searched exactly. -/
def sensitivity (c : Context) : Result Sensitivity :=
  if c.onRelations then .ok .sensitive
  else do
    match (← c.field).layers.get? c.valueLayer with
    | some layer => return layer.resolve c.requested
    | none => return c.requested

/-- The name of the index field that is searched. -/
def indexField (c : Context) : Result String := do
  return FieldName.indexField c.fieldName c.layer (← c.sensitivity)

/-- The form in which the index field holds a value. -/
def desensitize (c : Context) (value : String) : Result String := do
  return (← c.sensitivity).desensitize value

def withLayer (c : Context) (layer : Option String) : Result Context :=
  match layer with
  | none => .ok c
  | some layer => do
    c.checkLayer layer
    return { c with valueLayer := layer, onRelations := false }

/-- Moves to a layer and asks for a sensitivity, where these are named. -/
def withLayerAndSensitivity (c : Context) (layer : Option String) (sensitivity : Option Sensitivity) :
    Result Context := do
  let moved ← c.withLayer layer
  return { moved with requested := sensitivity.getD moved.requested }

/-- Moves to the relations of the field. -/
def withRelations (c : Context) : Result Context := do
  if (← c.field).relations then return { c with onRelations := true }
  throw (.invalidQuery (.noRelations c.fieldName))

/-- Moves to a version of the document; no version, or an empty one, is the field without version. -/
def inVersion (c : Context) (version : Option String) : Result Context := do
  let moved := { c with version := version.filter fun v => !v.isEmpty }
  let _ ← moved.field
  return moved

def inVersion? (c : Context) (version : Option String) : Result Context :=
  match version with
  | some version => c.inVersion (some version)
  | none => .ok c

end Context

end CorpusSearch
