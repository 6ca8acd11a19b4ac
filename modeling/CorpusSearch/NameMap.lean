/-!
Maps from names to values, kept as lists in the order of their names, so that two maps with the same entries are
equal. Main statements: a name that was just inserted is found with its value, and no other name is affected.
-/

set_option autoImplicit false

namespace CorpusSearch

namespace Entries

variable {α : Type}

/-- Puts a value under a name, in the place of the value that was there before. -/
def insert (name : String) (value : α) : List (String × α) → List (String × α)
  | [] => [(name, value)]
  | (n, v) :: rest =>
    if name < n then (name, value) :: (n, v) :: rest
    else if name = n then (name, value) :: rest
    else (n, v) :: insert name value rest

def get? (name : String) : List (String × α) → Option α
  | [] => none
  | (n, v) :: rest => if name = n then some v else get? name rest

/-- In strictly increasing order of names. -/
def Ordered (entries : List (String × α)) : Prop :=
  entries.Pairwise fun a b => a.1 < b.1

theorem mem_insert {name : String} {value : α} {entry : String × α} {entries : List (String × α)} :
    entry ∈ insert name value entries → entry = (name, value) ∨ entry ∈ entries := by
  induction entries with
  | nil => simp [insert]
  | cons head rest ih =>
    obtain ⟨n, v⟩ := head
    unfold insert
    split
    · simp
    · split
      · intro h
        rcases List.mem_cons.1 h with h | h
        · exact .inl h
        · exact .inr (List.mem_cons_of_mem _ h)
      · intro h
        rcases List.mem_cons.1 h with h | h
        · exact .inr (h ▸ List.mem_cons_self)
        · rcases ih h with h | h
          · exact .inl h
          · exact .inr (List.mem_cons_of_mem _ h)

private theorem lt_of_not_lt {a b : String} (h : ¬a < b) (hne : a ≠ b) : b < a := by
  have hba : b ≤ a := String.not_lt.1 h
  by_cases hab : a ≤ b
  · exact absurd (String.le_antisymm hab hba) hne
  · exact String.not_le.1 hab

theorem Ordered.insert {entries : List (String × α)} (h : Ordered entries) (name : String) (value : α) :
    Ordered (insert name value entries) := by
  induction entries with
  | nil => simp [Entries.insert, Ordered]
  | cons head rest ih =>
    obtain ⟨n, v⟩ := head
    have hrest := List.pairwise_cons.1 h
    unfold Entries.insert
    split
    · rename_i hlt
      refine List.pairwise_cons.2 ⟨?_, h⟩
      intro entry hmem
      rcases List.mem_cons.1 hmem with hmem | hmem
      · exact hmem ▸ hlt
      · exact String.lt_trans hlt (hrest.1 entry hmem)
    · split
      · rename_i heq
        exact List.pairwise_cons.2 ⟨fun entry hmem => heq ▸ hrest.1 entry hmem, hrest.2⟩
      · rename_i hnlt hne
        refine List.pairwise_cons.2 ⟨?_, ih hrest.2⟩
        intro entry hmem
        rcases mem_insert hmem with hmem | hmem
        · exact hmem ▸ lt_of_not_lt hnlt hne
        · exact hrest.1 entry hmem

theorem get?_insert (entries : List (String × α)) (name other : String) (value : α) :
    get? other (insert name value entries) = if other = name then some value else get? other entries := by
  induction entries with
  | nil => simp [insert, get?]
  | cons head rest ih =>
    obtain ⟨n, v⟩ := head
    unfold insert
    split
    · simp [get?]
    · split
      · rename_i heq
        subst heq
        by_cases h : other = name <;> simp [get?, h]
      · rename_i hne
        by_cases h : other = n
        · subst h
          have : other ≠ name := fun e => hne e.symm
          simp [get?, this]
        · simp [get?, h, ih]

end Entries

/-- A map from names to values. -/
structure NameMap (α : Type) where
  entries : List (String × α)
  ordered : Entries.Ordered entries

namespace NameMap

variable {α : Type}

instance [DecidableEq α] : DecidableEq (NameMap α) := fun a b =>
  if h : a.entries = b.entries then
    .isTrue (by cases a; cases b; cases h; rfl)
  else .isFalse fun e => h (e ▸ rfl)

def empty : NameMap α := ⟨[], List.Pairwise.nil⟩

instance : Inhabited (NameMap α) := ⟨empty⟩

def insert (m : NameMap α) (name : String) (value : α) : NameMap α :=
  ⟨Entries.insert name value m.entries, m.ordered.insert name value⟩

def get? (m : NameMap α) (name : String) : Option α := Entries.get? name m.entries

def contains (m : NameMap α) (name : String) : Bool := (m.get? name).isSome

def names (m : NameMap α) : List String := m.entries.map (·.1)

/-- The map of a list of entries; of entries with one name the last counts. -/
def ofList (entries : List (String × α)) : NameMap α :=
  entries.foldl (fun m e => m.insert e.1 e.2) empty

def union (a b : NameMap α) : NameMap α :=
  b.entries.foldl (fun m e => m.insert e.1 e.2) a

theorem get?_insert (m : NameMap α) (name other : String) (value : α) :
    (m.insert name value).get? other = if other = name then some value else m.get? other :=
  Entries.get?_insert m.entries name other value

end NameMap

abbrev NameSet := NameMap Unit

namespace NameSet

def single (name : String) : NameSet := NameMap.empty.insert name ()

def ofList (names : List String) : NameSet := NameMap.ofList (names.map fun name => (name, ()))

end NameSet

end CorpusSearch
