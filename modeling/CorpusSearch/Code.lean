/-!
Small enumerations whose values have a short code in texts.
-/

set_option autoImplicit false

namespace CorpusSearch

/-- A type with finitely many values, each with a code of its own. -/
class Coded (α : Type) where
  /-- What the type is called in messages. -/
  kind : String
  values : List α
  code : α → String

namespace Coded

variable {α : Type} [Coded α]

def ofCode? (text : String) : Option α :=
  (values : List α).find? fun x => code x == text

end Coded

end CorpusSearch
