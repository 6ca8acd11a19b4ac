import CorpusSearch.Code
import CorpusSearch.Unicode.Case
import CorpusSearch.Unicode.Normal

/-!
How exactly two values have to agree: with or without regard to case, with or without regard to diacritics.
An index holds a value in the form that `desensitize` gives it.
-/

set_option autoImplicit false

namespace CorpusSearch

/-- Whether case and diacritics count when values are compared. -/
inductive Sensitivity where
  /-- Case and diacritics count. -/
  | sensitive
  /-- Neither counts. -/
  | insensitive
  /-- Diacritics count. -/
  | caseInsensitive
  /-- Case counts. -/
  | diacriticsInsensitive
  deriving DecidableEq, Repr

namespace Sensitivity

instance : Coded Sensitivity where
  kind := "match sensitivity"
  values := [sensitive, insensitive, caseInsensitive, diacriticsInsensitive]
  code
    | sensitive => "s"
    | insensitive => "i"
    | caseInsensitive => "ci"
    | diacriticsInsensitive => "di"

def ofFlags (caseSensitive diacriticsSensitive : Bool) : Sensitivity :=
  match caseSensitive, diacriticsSensitive with
  | true, true => sensitive
  | false, false => insensitive
  | false, true => caseInsensitive
  | true, false => diacriticsInsensitive

def isCaseSensitive : Sensitivity → Bool
  | sensitive | diacriticsInsensitive => true
  | insensitive | caseInsensitive => false

def isDiacriticsSensitive : Sensitivity → Bool
  | sensitive | caseInsensitive => true
  | insensitive | diacriticsInsensitive => false

def stripMarks (text : List Char) : List Char :=
  Unicode.compose ((Unicode.decompose text).filter fun c => !Unicode.isMark c)

def desensitizeChars (s : Sensitivity) (text : List Char) : List Char :=
  let stripped := if s.isDiacriticsSensitive then text else stripMarks text
  if s.isCaseSensitive then stripped else Unicode.lowercase stripped

/-- The form a value has in an index of this sensitivity. -/
def desensitize (s : Sensitivity) (value : String) : String :=
  String.ofList (s.desensitizeChars value.toList)

end Sensitivity

end CorpusSearch
