import CorpusSearch.Proofs.NameMaps
import CorpusSearch.Proofs.PlanningSteps
import Mathlib.Data.List.Perm.Subperm

/-!
Capture names that planning makes up. A name is only handed out if it is not in use, and is in use from then on. Main
statements: there always is a free name; names that are handed out one after the other are different, and none was in
use before; what a sequence of planning steps gives names to is made up of what its steps do.
-/

set_option autoImplicit false

namespace CorpusSearch

namespace CaptureNames

variable {names final : CaptureNames} {base name : String}

/-! ### Free names -/

theorem numbered_injective (base : String) : Function.Injective (numbered base) := by
  intro m n h
  have hdigits : Nat.toDigits 10 m = Nat.toDigits 10 n := List.append_cancel_left (String.ofList_injective h)
  rw [← Nat.ofDigitChars_ten_toDigits (n := m), hdigits, Nat.ofDigitChars_ten_toDigits]

/-- The search ends with the first number that makes a free name, if it is tried. -/
theorem exists_firstFree (names : CaptureNames) (base : String) (fuel n : Nat) :
    ∃ k ≤ fuel, names.firstFree base fuel n = numbered base (n + k) ∧
      (∀ i < k, names.contains (numbered base (n + i)) = true) ∧
      (k < fuel → names.contains (numbered base (n + k)) = false) := by
  induction fuel generalizing n with
  | zero => exact ⟨0, Nat.le_refl 0, rfl, fun i hi => absurd hi (Nat.not_lt_zero i), fun h => absurd h (by decide)⟩
  | succ fuel ih =>
      rw [firstFree]
      split
      · rename_i hn
        obtain ⟨k, hk, hname, hused, hfree⟩ := ih (n + 1)
        rw [Nat.add_assoc, Nat.add_comm 1 k] at hname hfree
        refine ⟨k + 1, by omega, hname, fun i hi => ?_, fun h => hfree (by omega)⟩
        cases i with
        | zero => exact hn
        | succ i =>
            have hi := hused i (by omega)
            rwa [Nat.add_assoc, Nat.add_comm 1 i] at hi
      · rename_i hn
        refine ⟨0, Nat.zero_le _, rfl, fun i hi => absurd hi (Nat.not_lt_zero i), fun _ => ?_⟩
        rwa [Bool.not_eq_true] at hn

theorem le_length_of_injective {f : Nat → String} (hf : Function.Injective f) {k : Nat}
    (h : ∀ i < k, names.contains (f i) = true) : k ≤ names.used.names.length := by
  have hnodup : ((List.range k).map f).Nodup := List.nodup_range.map hf
  have hsubset : (List.range k).map f ⊆ names.used.names := by
    intro other hother
    obtain ⟨i, hi, rfl⟩ := List.mem_map.1 hother
    exact NameMap.mem_names_iff.2 (h i (List.mem_range.1 hi))
  have hlength := (List.subperm_of_subset hnodup hsubset).length_le
  rwa [List.length_map, List.length_range] at hlength

theorem le_length_of_numbered {n k : Nat} (h : ∀ i < k, names.contains (numbered base (n + i)) = true) :
    k ≤ names.used.names.length :=
  le_length_of_injective (fun _ _ hij => Nat.add_left_cancel (numbered_injective base hij)) h

private theorem contains_firstFree (names : CaptureNames) (base : String) (n : Nat) :
    names.contains (names.firstFree base names.used.names.length n) = false := by
  obtain ⟨k, hk, hname, hused, hfree⟩ := exists_firstFree names base names.used.names.length n
  rw [hname]
  by_contra hcontains
  have hlast : ¬k < names.used.names.length := fun hk => hcontains (hfree hk)
  have hall : ∀ i < k + 1, names.contains (numbered base (n + i)) = true := by
    intro i hi
    rcases Nat.lt_succ_iff_lt_or_eq.1 hi with hi | rfl
    · exact hused i hi
    · exact Bool.not_eq_false _ ▸ hcontains
  have hlength := le_length_of_numbered hall
  omega

theorem contains_freeName (names : CaptureNames) (base : String) : names.contains (names.freeName base) = false := by
  rw [freeName]
  split
  · exact contains_firstFree names base 2
  · rename_i hbase
    exact Bool.not_eq_true _ ▸ hbase

/-! ### Names that are handed out -/

/-- Names that are handed out one after the other, each free at that time. -/
inductive Issued : CaptureNames → List String → CaptureNames → Prop
  | nil (names : CaptureNames) : Issued names [] names
  | cons {names final : CaptureNames} {base : String} {issued : List String}
      (h : Issued (names.ensureUnique base).2 issued final) :
      Issued names ((names.ensureUnique base).1 :: issued) final

namespace Issued

variable {issued later : List String}

theorem append {mid : CaptureNames} (h : Issued names issued mid) (hlater : Issued mid later final) :
    Issued names (issued ++ later) final := by
  induction h with
  | nil names => exact hlater
  | cons _ ih => exact .cons (ih hlater)

/-- In use are the names that were, and those that were handed out. -/
theorem contains_iff (h : Issued names issued final) :
    final.contains name = true ↔ names.contains name = true ∨ name ∈ issued := by
  induction h with
  | nil names => simp
  | @cons names final base issued _ ih =>
      rw [ih, ensureUnique, contains_reserve, Bool.or_eq_true, beq_iff_eq, List.mem_cons]
      tauto

theorem contains_eq_false (h : Issued names issued final) : ∀ name ∈ issued, names.contains name = false := by
  induction h with
  | nil names => exact List.forall_mem_nil _
  | @cons names final base issued _ ih =>
      refine List.forall_mem_cons.2 ⟨contains_freeName names base, fun name hname => ?_⟩
      have hfree := ih name hname
      rw [ensureUnique, contains_reserve, Bool.or_eq_false_iff] at hfree
      exact hfree.2

theorem nodup (h : Issued names issued final) : issued.Nodup := by
  induction h with
  | nil names => exact List.nodup_nil
  | @cons names final base issued hrest ih =>
      refine List.nodup_cons.2 ⟨fun hmem => ?_, ih⟩
      have hfree := hrest.contains_eq_false _ hmem
      rw [ensureUnique, contains_reserve, beq_self_eq_true, Bool.true_or] at hfree
      cases hfree

end Issued

theorem contains_foldl_reserve (names : CaptureNames) (reserved : List String) :
    (reserved.foldl reserve names).contains name = true ↔ name ∈ reserved ∨ names.contains name = true := by
  induction reserved generalizing names with
  | nil => simp
  | cons first reserved ih =>
      rw [List.foldl_cons, ih, contains_reserve, Bool.or_eq_true, beq_iff_eq, List.mem_cons]
      tauto

end CaptureNames

/-! ### Planning steps -/

namespace Planning

open CaptureNames (Issued)

variable {α β : Type} {captures : α → List String} {given : List String}

/-- The capture names of whatever a step results in are given to it, but for those that it makes up. -/
def Gives (captures : α → List String) (x : Planning α) (given : List String) : Prop :=
  ∀ names r, x.run names = .ok r → ∃ issued, Issued names issued r.2 ∧ (captures r.1).Perm (issued ++ given)

namespace Gives

theorem congr {x : Planning α} {given' : List String} (hx : Gives captures x given) (h : given.Perm given') :
    Gives captures x given' := by
  intro names r hr
  obtain ⟨issued, hissued, hperm⟩ := hx names r hr
  exact ⟨issued, hissued, hperm.trans (h.append_left issued)⟩

theorem pure {a : α} (h : (captures a).Perm given) : Gives captures (Pure.pure a) given := by
  intro names r hr
  obtain rfl := Except.ok.inj hr
  exact ⟨[], .nil names, h⟩

theorem throw (e : QueryError) : Gives captures (throw e) given := fun _ _ hr => nomatch hr

theorem bindYields {x : Planning α} {f : α → Planning β} {P : α → Prop} {captures' : β → List String}
    {given' : List String} (hx : Gives captures x given) (hyields : Yields x P)
    (hf : ∀ a, P a → Gives captures' (f a) (captures a ++ given')) : Gives captures' (x >>= f) (given ++ given') := by
  intro names r hr
  obtain ⟨s, hs, hr⟩ := run_bind_eq_ok.1 hr
  obtain ⟨issued, hissued, hfirst⟩ := hx names s hs
  obtain ⟨later, hlater, hsecond⟩ := hf s.1 (hyields names s hs) s.2 r hr
  refine ⟨issued ++ later, hissued.append hlater, hsecond.trans ?_⟩
  -- The four lists change places, so that it is easier to count than to permute them.
  rw [List.perm_iff_count] at hfirst ⊢
  intro name
  have hcount := hfirst name
  simp only [List.count_append] at hcount ⊢
  omega

theorem bind {x : Planning α} {f : α → Planning β} {captures' : β → List String} {given' : List String}
    (hx : Gives captures x given) (hf : ∀ a, Gives captures' (f a) (captures a ++ given')) :
    Gives captures' (x >>= f) (given ++ given') :=
  hx.bindYields (Yields.trivial x) fun a _ => hf a

/-- A value made of what a step results in. -/
theorem map {x : Planning α} {f : α → β} {captures' : β → List String} (hx : Gives captures x given)
    (hf : ∀ a, (captures' (f a)).Perm (captures a)) : Gives captures' (x >>= fun a => Pure.pure (f a)) given := by
  have hbind : Gives captures' (x >>= fun a => Pure.pure (f a)) (given ++ []) :=
    hx.bind fun a => pure (by rw [List.append_nil]; exact hf a)
  rwa [List.append_nil] at hbind

theorem liftM_bind {x : Result α} {f : α → Planning β} {captures' : β → List String}
    (hf : ∀ a, x = .ok a → Gives captures' (f a) given) : Gives captures' (liftM x >>= f) given := by
  intro names r hr
  obtain ⟨a, hx, hr⟩ := run_liftM_bind_eq_ok.1 hr
  exact hf a hx names r hr

theorem liftM {x : Result α} (h : ∀ a, x = .ok a → (captures a).Perm given) : Gives captures (liftM x) given := by
  intro names r hr
  obtain ⟨hx, hnames⟩ := run_liftM_eq_ok.1 hr
  exact ⟨[], hnames ▸ .nil names, h r.1 hx⟩

theorem uniqueName (base : String) : Gives (fun name => [name]) (uniqueName base) [] := by
  intro names r hr
  obtain rfl := Except.ok.inj hr
  exact ⟨_, .cons (.nil _), .refl _⟩

theorem mapM {x : α → Planning β} {captures' : β → List String} {items : List α}
    (h : ∀ a ∈ items, Gives captures' (x a) (captures a)) :
    Gives (fun results => results.flatMap captures') (items.mapM x) (items.flatMap captures) := by
  induction items with
  | nil => exact pure (.refl _)
  | cons a items ih =>
      obtain ⟨ha, hitems⟩ := List.forall_mem_cons.1 h
      rw [List.mapM_cons, List.flatMap_cons]
      refine ha.bind fun b => ?_
      refine ((ih hitems).bind fun results => pure ?_).congr List.perm_append_comm
      rw [List.flatMap_cons]
      exact List.perm_append_comm

theorem forM {x : α → Planning PUnit} {items : List α} (h : ∀ a ∈ items, Gives (fun _ => []) (x a) []) :
    Gives (fun _ => []) (items.forM x) [] := by
  induction items with
  | nil => exact pure (.refl _)
  | cons a items ih =>
      obtain ⟨ha, hitems⟩ := List.forall_mem_cons.1 h
      exact ha.bind fun _ => ih hitems

end Gives

end Planning

end CorpusSearch
