import CorpusSearch.Constraint.Basic

/-!
An index held in memory: documents with fields, and for each field its tokens, relations and markup.
-/

set_option autoImplicit false

namespace CorpusSearch

abbrev Token := NameMap String

structure Tag where
  name : String
  span : Span
  attributes : NameMap String
  deriving DecidableEq

/-- What a document holds in one field. -/
structure FieldContent where
  tokens : List Token
  relations : List Relation
  tags : List Tag
  deriving DecidableEq

namespace FieldContent

def empty : FieldContent := ⟨[], [], []⟩

/-- Puts values into tokens, one into each; there are new tokens for values left over. -/
def putValues (layer : String) : List Token → List String → List Token
  | tokens, [] => tokens
  | [], value :: values => NameMap.empty.insert layer value :: putValues layer [] values
  | token :: tokens, value :: values => token.insert layer value :: putValues layer tokens values

def withValues (f : FieldContent) (layer : String) (values : List String) : FieldContent :=
  { f with tokens := putValues layer f.tokens values }

def withRelation (f : FieldContent) (r : Relation) : FieldContent :=
  { f with relations := f.relations ++ [r] }

def withTag (f : FieldContent) (tag : Tag) : FieldContent := { f with tags := f.tags ++ [tag] }

def size (f : FieldContent) : Nat := f.tokens.length

end FieldContent

/-- A document, by its fields; a version of the document is a field of its own. -/
abbrev Document := NameMap FieldContent

def Document.value? (d : Document) (field layer : String) (position : UInt32) : Option String := do
  (← (← d.get? field).tokens[position.toNat]?).get? layer

def Document.reader (d : Document) (field : String) : TokenReader := ⟨d.value? field⟩

structure Index where
  documents : List Document
  /-- The predicates that conditions can call. -/
  predicates : NameMap Predicate

end CorpusSearch
