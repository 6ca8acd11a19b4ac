import CorpusSearch.NameMap
import Mathlib.Data.List.Sort

/-!
Maps built entry by entry. Main statements: a map is what its own entries make, its union with the empty map on
either side is itself, and it holds no other entries than those it was made of. Maps with the same values are equal,
and so the union of maps is associative.
-/

set_option autoImplicit false

namespace CorpusSearch

namespace Entries

variable {α : Type}

theorem insert_last {entries : List (String × α)} {name : String} {value : α}
    (h : ∀ e ∈ entries, e.1 < name) : insert name value entries = entries ++ [(name, value)] := by
  induction entries with
  | nil => rfl
  | cons head rest ih =>
      have hlt := h head List.mem_cons_self
      have hnot : ¬name < head.1 := fun hgt => String.lt_irrefl _ (String.lt_trans hlt hgt)
      have hne : name ≠ head.1 := fun e => String.lt_irrefl _ (e ▸ hlt)
      rw [insert, if_neg hnot, if_neg hne, ih fun e he => h e (List.mem_cons_of_mem _ he)]
      rfl

private theorem foldl_insert_of_ordered {entries done : List (String × α)} (h : Ordered (done ++ entries)) :
    entries.foldl (fun m e => insert e.1 e.2 m) done = done ++ entries := by
  induction entries generalizing done with
  | nil => simp
  | cons e rest ih =>
      have hlast : ∀ d ∈ done, d.1 < e.1 := by
        intro d hd
        exact (List.pairwise_append.1 h).2.2 d hd e List.mem_cons_self
      have hnext : Ordered ((done ++ [e]) ++ rest) := by simpa using h
      rw [List.foldl_cons, insert_last hlast, ih hnext]
      simp

variable {entries : List (String × α)} {name : String} {value : α}

private theorem get?_eq_none (h : ∀ e ∈ entries, e.1 ≠ name) : get? name entries = none := by
  induction entries with
  | nil => rfl
  | cons head rest ih =>
      obtain ⟨hhead, hrest⟩ := List.forall_mem_cons.1 h
      rw [get?, if_neg (Ne.symm hhead), ih hrest]

private theorem mem_of_get? (h : get? name entries = some value) : (name, value) ∈ entries := by
  induction entries with
  | nil => cases h
  | cons head rest ih =>
      rw [get?] at h
      split at h
      · rename_i heq
        obtain rfl := Option.some.inj h
        exact heq ▸ List.mem_cons_self
      · exact List.mem_cons_of_mem _ (ih h)

private theorem Ordered.get?_eq_some_iff (h : Ordered entries) :
    get? name entries = some value ↔ (name, value) ∈ entries := by
  refine ⟨mem_of_get?, fun hmem => ?_⟩
  induction entries with
  | nil => cases hmem
  | cons head rest ih =>
      obtain ⟨hfirst, hrest⟩ := List.pairwise_cons.1 h
      rw [get?]
      rcases List.mem_cons.1 hmem with rfl | hmem
      · rw [if_pos rfl]
      · have hne : name ≠ head.1 := fun heq => String.lt_irrefl _ (heq ▸ hfirst _ hmem)
        rw [if_neg hne, ih hrest hmem]

end Entries

theorem NameMap.entries_foldl_insert {α : Type} (entries : List (String × α)) (m : NameMap α) :
    (entries.foldl (fun m e => m.insert e.1 e.2) m).entries =
      entries.foldl (fun m e => Entries.insert e.1 e.2 m) m.entries := by
  induction entries generalizing m with
  | nil => rfl
  | cons e rest ih => exact ih _

theorem NameMap.eq_of_entries {α : Type} {a b : NameMap α} (h : a.entries = b.entries) : a = b := by
  cases a
  cases b
  cases h
  rfl

theorem NameMap.ofList_entries {α : Type} (m : NameMap α) : NameMap.ofList m.entries = m := by
  refine eq_of_entries ?_
  rw [ofList, entries_foldl_insert]
  exact Entries.foldl_insert_of_ordered m.ordered

private theorem NameMap.mem_foldl_insert {α : Type} {entries : List (String × α)} {m : NameMap α} {e : String × α}
    (h : e ∈ (entries.foldl (fun m e => m.insert e.1 e.2) m).entries) : e ∈ m.entries ∨ e ∈ entries := by
  induction entries generalizing m with
  | nil => exact .inl h
  | cons first rest ih =>
      rcases ih h with h | h
      · rcases Entries.mem_insert h with rfl | h
        · exact .inr List.mem_cons_self
        · exact .inl h
      · exact .inr (List.mem_cons_of_mem _ h)

theorem NameMap.mem_ofList {α : Type} {entries : List (String × α)} {e : String × α}
    (h : e ∈ (NameMap.ofList entries).entries) : e ∈ entries := by
  rcases mem_foldl_insert h with h | h
  · cases h
  · exact h

theorem NameMap.mem_union {α : Type} {a b : NameMap α} {e : String × α} (h : e ∈ (a.union b).entries) :
    e ∈ a.entries ∨ e ∈ b.entries := mem_foldl_insert h

namespace NameMap

variable {α : Type}

@[simp] theorem union_empty (m : NameMap α) : m.union empty = m := rfl

@[simp] theorem empty_union (m : NameMap α) : empty.union m = m := ofList_entries m

section Values

variable {a b : NameMap α} {name : String} {value : α}

private theorem get?_eq_some_iff : a.get? name = some value ↔ (name, value) ∈ a.entries := a.ordered.get?_eq_some_iff

theorem ext_get? (h : ∀ name, a.get? name = b.get? name) : a = b := by
  have hirrefl : Std.Irrefl fun e f : String × α => e.1 < f.1 := ⟨fun e => String.lt_irrefl e.1⟩
  have hantisymm : Std.Antisymm fun e f : String × α => e.1 < f.1 :=
    ⟨fun e f hef hfe => absurd (String.lt_trans hef hfe) (String.lt_irrefl e.1)⟩
  refine eq_of_entries (List.Pairwise.eq_of_mem_iff a.ordered b.ordered fun e => ?_)
  rw [← get?_eq_some_iff (a := a), ← get?_eq_some_iff (a := b), h]

end Values

theorem get?_foldl_insert {entries : List (String × α)} (h : Entries.Ordered entries) (m : NameMap α)
    (name : String) : (entries.foldl (fun m e => m.insert e.1 e.2) m).get? name =
      (Entries.get? name entries).or (m.get? name) := by
  induction entries generalizing m with
  | nil => rfl
  | cons e rest ih =>
      obtain ⟨hfirst, hrest⟩ := List.pairwise_cons.1 h
      rw [List.foldl_cons, ih hrest, get?_insert, Entries.get?]
      by_cases heq : name = e.1
      · have hnone : Entries.get? name rest = none :=
          Entries.get?_eq_none fun f hf hfe => String.lt_irrefl _ (heq ▸ hfe ▸ hfirst f hf)
        rw [if_pos heq, if_pos heq, hnone]
        rfl
      · rw [if_neg heq, if_neg heq]

private theorem get?_union (a b : NameMap α) (name : String) : (a.union b).get? name = (b.get? name).or (a.get? name) :=
  get?_foldl_insert b.ordered a name

theorem union_assoc (a b c : NameMap α) : (a.union b).union c = a.union (b.union c) :=
  ext_get? fun name => by rw [get?_union, get?_union, get?_union, get?_union, Option.or_assoc]

theorem union_self (m : NameMap α) : m.union m = m := ext_get? fun name => by rw [get?_union, Option.or_self]

theorem contains_union (a b : NameMap α) (name : String) :
    (a.union b).contains name = (a.contains name || b.contains name) := by
  rw [contains, get?_union, Option.isSome_or, Bool.or_comm, contains, contains]

theorem contains_insert (m : NameMap α) (name other : String) (value : α) :
    (m.insert name value).contains other = (other == name || m.contains other) := by
  rw [contains, get?_insert]
  by_cases h : other = name <;> simp [h, contains]

theorem contains_iff_mem {m : NameMap α} {name : String} :
    m.contains name = true ↔ ∃ value, (name, value) ∈ m.entries := by
  simp only [contains, Option.isSome_iff_exists, get?_eq_some_iff]

theorem mem_names_iff {m : NameMap α} {name : String} : name ∈ m.names ↔ m.contains name = true := by
  rw [contains_iff_mem, names, List.mem_map]
  constructor
  · rintro ⟨⟨n, value⟩, hmem, rfl⟩
    exact ⟨value, hmem⟩
  · rintro ⟨value, hmem⟩
    exact ⟨(name, value), hmem, rfl⟩

end NameMap

end CorpusSearch
