import CorpusSearch.Decimal.Binary64
import CorpusSearch.NameMap

/-!
JSON values. A number is an integer of 64 bits, signed or unsigned, or a floating-point number; the fields of an
object stand in the order of their names.
-/

set_option autoImplicit false

namespace CorpusSearch

inductive Json where
  | null
  | bool (b : Bool)
  | int (n : Int)
  | float (x : Binary64)
  | str (s : String)
  | arr (items : List Json)
  | obj (fields : List (String × Json))
  deriving Inhabited

namespace Json

/-- An object of the given fields; of fields with one name the last counts. -/
def object (fields : List (String × Json)) : Json :=
  .obj (fields.foldl (fun entries f => Entries.insert f.1 f.2 entries) [])

def get? (name : String) : Json → Option Json
  | .obj fields => Entries.get? name fields
  | _ => none

def str? : Json → Option String
  | .str s => some s
  | _ => none

def bool? : Json → Option Bool
  | .bool b => some b
  | _ => none

def int64? : Json → Option Int
  | .int n => if -9223372036854775808 ≤ n && n ≤ 9223372036854775807 then some n else none
  | _ => none

def arr? : Json → Option (List Json)
  | .arr items => some items
  | _ => none

def obj? : Json → Option (List (String × Json))
  | .obj fields => some fields
  | _ => none

def isNull : Json → Bool
  | .null => true
  | _ => false

mutual

/-- How deep arrays and objects are nested. -/
def depth : Json → Nat
  | .arr items => itemsDepth items + 1
  | .obj fields => fieldsDepth fields + 1
  | _ => 0

def itemsDepth : List Json → Nat
  | [] => 0
  | item :: items => max item.depth (itemsDepth items)

def fieldsDepth : List (String × Json) → Nat
  | [] => 0
  | (_, value) :: fields => max value.depth (fieldsDepth fields)

end

end Json

end CorpusSearch
