import CorpusSearch.Code
import CorpusSearch.NameMap

/-!
TOML values, and the views under which they are taken for records, enumerations and numbers.
-/

set_option autoImplicit false

namespace CorpusSearch

inductive Toml where
  | string (s : String)
  | integer (n : Int)
  /-- A floating-point number, as it is written. -/
  | float (written : String)
  | boolean (b : Bool)
  /-- A date, a time or both, as written. -/
  | date (written : String)
  | array (items : List Toml)
  | table (entries : List (String × Toml))
  deriving Inhabited

namespace Toml

def string? : Toml → Option String
  | string s => some s
  | _ => none

def boolean? : Toml → Option Bool
  | boolean b => some b
  | _ => none

def array? : Toml → Option (List Toml)
  | array items => some items
  | _ => none

def table? : Toml → Option (List (String × Toml))
  | table entries => some entries
  | _ => none

def natural? (limit : Nat) : Toml → Option Nat
  | integer n => if 0 ≤ n && n.toNat < limit then some n.toNat else none
  | _ => none

/--
The members of a record, in the order of the given names. A table holds them under their names, an array in their
order; a date is a record that has none of them.
-/
def record? (names : List String) : Toml → Option (List (Option Toml))
  | table entries => some (names.map fun name => Entries.get? name entries)
  | array items => some (names.zipIdx.map fun (_, index) => items[index]?)
  | date _ => some (names.map fun _ => none)
  | _ => none

def isEmpty : Toml → Bool
  | array items => items.isEmpty
  | table entries => entries.isEmpty
  | _ => false

/-- A coded value: its code, or a table with nothing but the code and an empty value under it. -/
def coded? (α : Type) [Coded α] : Toml → Option α
  | string code => Coded.ofCode? code
  | table [(code, value)] => if value.isEmpty then Coded.ofCode? code else none
  | _ => none

def memberOr {α : Type} (read : Toml → Option α) (usual : α) (member : Option Toml) : Option α :=
  match member with
  | some v => read v
  | none => some usual

end Toml

end CorpusSearch
