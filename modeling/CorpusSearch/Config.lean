import CorpusSearch.FieldName

/-!
What an installation sets once for all queries: the defaults that a query may leave out, and the limits that it
has to keep.
-/

set_option autoImplicit false

namespace CorpusSearch

/-- What holds where a query does not say it. -/
structure Defaults where
  field : String
  layer : String
  sensitivity : Sensitivity
  /-- The pattern of the relation class, for relation types without one. -/
  relationClass : String
  deriving DecidableEq, Repr

/-- How large a query may be. -/
structure Limits where
  /-- Bytes of a compiled regular expression. -/
  expressionSize : Nat
  /-- Nesting depth of a regular expression. -/
  expressionDepth : Nat
  /-- Nesting depth of a pattern. -/
  patternDepth : Nat
  deriving DecidableEq, Repr

structure Config where
  defaults : Defaults
  limits : Limits
  deriving DecidableEq, Repr

/-- The defaults of an installation that sets none. -/
def Defaults.standard : Defaults := ⟨"contents", "word", .insensitive, FieldName.anyClass⟩

/-- The limits of an installation that sets none. -/
def Limits.standard : Limits := ⟨1024 * 1024, 100, 250⟩

def Config.standard : Config := ⟨Defaults.standard, Limits.standard⟩

end CorpusSearch
