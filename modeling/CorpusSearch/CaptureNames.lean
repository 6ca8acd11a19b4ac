import CorpusSearch.NameMap

/-!
The capture names of a query. Main statement: a name is in use after a reservation if it was before, or if it is
the reserved one.
-/

set_option autoImplicit false

namespace CorpusSearch

/-- The capture names in use. -/
structure CaptureNames where
  used : NameSet
  deriving DecidableEq

namespace CaptureNames

def empty : CaptureNames := ⟨NameMap.empty⟩

def reserve (names : CaptureNames) (name : String) : CaptureNames := ⟨names.used.insert name ()⟩

def contains (names : CaptureNames) (name : String) : Bool := names.used.contains name

/-- A base name with a number behind it. -/
def numbered (base : String) (n : Nat) : String := String.ofList (base.toList ++ Nat.toDigits 10 n)

/-- The first free name from the number `n` on; `fuel` bounds the names that are tried. -/
def firstFree (names : CaptureNames) (base : String) : Nat → Nat → String
  | 0, n => numbered base n
  | fuel + 1, n =>
    if names.contains (numbered base n) then firstFree names base fuel (n + 1) else numbered base n

/-- The base itself if it is free, otherwise the base with the least number from two on that makes it free. -/
def freeName (names : CaptureNames) (base : String) : String :=
  if names.contains base then names.firstFree base names.used.names.length 2 else base

def ensureUnique (names : CaptureNames) (base : String) : String × CaptureNames :=
  let name := names.freeName base
  (name, names.reserve name)

theorem contains_reserve (names : CaptureNames) (name other : String) :
    (names.reserve name).contains other = (other == name || names.contains other) := by
  simp only [reserve, contains, NameMap.contains, NameMap.get?_insert]
  by_cases h : other = name <;> simp [h]

end CaptureNames

end CorpusSearch
