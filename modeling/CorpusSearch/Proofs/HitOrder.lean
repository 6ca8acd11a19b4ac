import CorpusSearch.Hit
import CorpusSearch.Proofs.NameMaps
import Mathlib.Data.List.Sort

/-!
The order of hits. It is total and tells different hits apart, so that a list of hits has one form in order:
sorting neither loses nor adds a hit, and two lists with the same hits are sorted into the same list.
-/

set_option autoImplicit false

namespace CorpusSearch

open Std

/-! ### Lawful orders -/

private theorem compareOn_eq_eq {α β : Type} [Ord β] [LawfulEqOrd β] {f : α → β} {a b : α}
    (h : compareOn f a b = .eq) : f a = f b := LawfulEqOrd.eq_of_compare h

instance : TransOrd Span :=
  inferInstanceAs (TransCmp (compareLex (compareOn Span.start) (compareOn Span.stop)))

instance : LawfulEqOrd Span where
  compare_self := ReflCmp.compare_self
  eq_of_compare {a b} h := by
    obtain ⟨hstart, hstop⟩ := compareLex_eq_eq.1 h
    cases a
    cases b
    rw [Span.mk.injEq]
    exact ⟨compareOn_eq_eq hstart, compareOn_eq_eq hstop⟩

instance : TransOrd Relation :=
  inferInstanceAs (TransCmp (compareLex (compareOn Relation.type)
    (compareLex (compareOn Relation.source) (compareOn Relation.target))))

instance : LawfulEqOrd Relation where
  compare_self := ReflCmp.compare_self
  eq_of_compare {a b} h := by
    obtain ⟨htype, h⟩ := compareLex_eq_eq.1 h
    obtain ⟨hsource, htarget⟩ := compareLex_eq_eq.1 h
    cases a
    cases b
    rw [Relation.mk.injEq]
    exact ⟨compareOn_eq_eq htype, compareOn_eq_eq hsource, compareOn_eq_eq htarget⟩

namespace CaptureValue

/-- The spans and the relations that a value holds. -/
def parts : CaptureValue → List Span × List Relation
  | span s => ([s], [])
  | relation r => ([], [r])
  | relations rs => ([], rs)

theorem eq_of_parts {a b : CaptureValue} (hrank : a.rank = b.rank) (hparts : a.parts = b.parts) :
    a = b := by
  cases a <;> cases b <;> simp_all [rank, parts]

private theorem compare_eq (a b : CaptureValue) :
    compare a b = compareLex (compareOn rank)
      (compareLex (compareOn fun v => v.parts.1) (compareOn fun v => v.parts.2)) a b := by
  have hsingle : ∀ {α : Type} [Ord α] (x y : α), compare [x] [y] = compare x y := by
    intro α _ x y
    show List.compareLex compare [x] [y] = compare x y
    rw [List.compareLex_cons_cons, List.compareLex_nil_nil, Ordering.then_eq]
  cases a with
  | span s =>
      cases b with
      | span t =>
          show compare s t = (compare [s] [t]).then .eq
          rw [Ordering.then_eq, hsingle]
      | relation r => rfl
      | relations rs => rfl
  | relation r =>
      cases b with
      | span t => rfl
      | relation q => exact (hsingle r q).symm
      | relations rs => rfl
  | relations rs =>
      cases b with
      | span t => rfl
      | relation q => rfl
      | relations qs => rfl

instance : TransOrd CaptureValue := by
  have horder : (compare : CaptureValue → CaptureValue → Ordering) = compareLex (compareOn rank)
      (compareLex (compareOn fun v => v.parts.1) (compareOn fun v => v.parts.2)) := by
    funext a b
    exact compare_eq a b
  rw [TransOrd, horder]
  infer_instance

instance : LawfulEqOrd CaptureValue where
  compare_self := ReflCmp.compare_self
  eq_of_compare {a b} h := by
    rw [compare_eq] at h
    obtain ⟨hrank, h⟩ := compareLex_eq_eq.1 h
    obtain ⟨hspans, hrelations⟩ := compareLex_eq_eq.1 h
    exact eq_of_parts (compareOn_eq_eq hrank)
      (Prod.ext (compareOn_eq_eq hspans) (compareOn_eq_eq hrelations))

end CaptureValue

instance : TransCmp captureOrder :=
  inferInstanceAs (TransCmp (compareLex (compareOn Prod.fst) (compareOn Prod.snd)))

instance : LawfulEqCmp captureOrder where
  compare_self := ReflCmp.compare_self
  eq_of_compare h := by
    obtain ⟨hname, hvalue⟩ := compareLex_eq_eq.1 h
    exact Prod.ext (compareOn_eq_eq hname) (compareOn_eq_eq hvalue)

namespace Hit

def compareCaptures (a b : Hit) : Ordering :=
  List.compareLex captureOrder a.captures.entries b.captures.entries

instance : TransCmp compareCaptures where
  eq_swap := (inferInstance : TransCmp (List.compareLex captureOrder)).eq_swap
  isLE_trans := (inferInstance : TransCmp (List.compareLex captureOrder)).isLE_trans

instance : TransOrd Hit :=
  inferInstanceAs (TransCmp (compareLex (compareOn Hit.span)
    (compareLex compareCaptures (compareOn Hit.relations))))

instance : LawfulEqOrd Hit where
  compare_self := ReflCmp.compare_self
  eq_of_compare {a b} h := by
    obtain ⟨hspan, h⟩ := compareLex_eq_eq.1 h
    obtain ⟨hcaptures, hrelations⟩ := compareLex_eq_eq.1 h
    have hentries : a.captures.entries = b.captures.entries :=
      (inferInstance : LawfulEqCmp (List.compareLex captureOrder)).eq_of_compare hcaptures
    cases a
    cases b
    rw [Hit.mk.injEq]
    exact ⟨compareOn_eq_eq hspan, NameMap.eq_of_entries hentries, compareOn_eq_eq hrelations⟩

end Hit

/-! ### Lists without repetitions -/

section Repetitions

variable {α : Type}

private theorem eraseRepsBy_loop_eq (r : α → α → Bool) (a : α) (l done : List α) :
    List.eraseRepsBy.loop r a l done = done.reverse ++ List.eraseRepsBy.loop r a l [] := by
  induction l generalizing a done with
  | nil => simp [List.eraseRepsBy.loop]
  | cons b l ih =>
      rw [List.eraseRepsBy.loop, List.eraseRepsBy.loop]
      cases r a b with
      | true => exact ih a done
      | false =>
          rw [ih b (a :: done), ih b [a]]
          simp

variable [DecidableEq α]

private theorem eraseReps_cons_cons (a b : α) (l : List α) :
    (a :: b :: l).eraseReps = if a = b then (a :: l).eraseReps else a :: (b :: l).eraseReps := by
  show List.eraseRepsBy.loop _ a (b :: l) [] = _
  rw [List.eraseRepsBy.loop]
  by_cases h : a = b
  · rw [if_pos h, beq_iff_eq.2 h]
    rfl
  · rw [if_neg h, beq_eq_false_iff_ne.2 h]
    exact eraseRepsBy_loop_eq _ b l [a]

private theorem mem_eraseReps {x : α} {l : List α} : x ∈ l.eraseReps ↔ x ∈ l := by
  cases l with
  | nil => exact Iff.rfl
  | cons a l =>
      induction l generalizing a with
      | nil => exact Iff.rfl
      | cons b l ih =>
          rw [eraseReps_cons_cons]
          split
          · rename_i h
            subst h
            rw [ih]
            simp
          · simp only [List.mem_cons, ih]

private theorem pairwise_eraseReps {r : α → α → Prop} (antisymm : ∀ a b, r a b → r b a → a = b) {l : List α}
    (h : l.Pairwise r) : l.eraseReps.Pairwise fun a b => r a b ∧ a ≠ b := by
  cases l with
  | nil => exact .nil
  | cons a l =>
      induction l generalizing a with
      | nil => exact List.pairwise_singleton _ _
      | cons b l ih =>
          have hcons := List.pairwise_cons.1 h
          have hrest := List.pairwise_cons.1 hcons.2
          rw [eraseReps_cons_cons]
          split
          · rename_i heq
            subst heq
            exact ih a (List.pairwise_cons.2 ⟨hrest.1, hrest.2⟩)
          · rename_i hne
            refine List.pairwise_cons.2 ⟨fun x hx => ?_, ih b hcons.2⟩
            have hx := mem_eraseReps.1 hx
            refine ⟨hcons.1 x hx, ?_⟩
            rintro rfl
            rcases List.mem_cons.1 hx with rfl | hx
            · exact hne rfl
            · exact hne (antisymm _ _ (hcons.1 b List.mem_cons_self) (hrest.1 _ hx))

end Repetitions

/-! ### Hits in order -/

namespace Hit

def Before (a b : Hit) : Prop := (compare a b).isLE = true ∧ a ≠ b

instance : Std.Irrefl Before := ⟨fun _ h => h.2 rfl⟩

instance : Std.Antisymm Before :=
  ⟨fun _ _ hab hba => LawfulEqOrd.eq_of_compare (OrientedCmp.isLE_antisymm hab.1 hba.1)⟩

theorem mem_sorted {h : Hit} {hits : List Hit} : h ∈ sorted hits ↔ h ∈ hits := by
  rw [sorted, mem_eraseReps, List.mem_mergeSort]

private theorem pairwise_sorted (hits : List Hit) : (sorted hits).Pairwise Before := by
  refine pairwise_eraseReps ?_ ?_
  · intro a b hab hba
    exact LawfulEqOrd.eq_of_compare (OrientedCmp.isLE_antisymm hab hba)
  · refine List.pairwise_mergeSort (fun a b c => TransCmp.isLE_trans) ?_ hits
    intro a b
    rw [Bool.or_eq_true]
    by_cases hab : (compare a b).isLE = true
    · exact .inl hab
    · exact .inr (Ordering.isLE_of_eq_lt (OrientedCmp.lt_of_not_isLE hab))

/-- What a list is sorted into depends on nothing but which hits it holds. -/
theorem sorted_congr {xs ys : List Hit} (h : ∀ a, a ∈ xs ↔ a ∈ ys) : sorted xs = sorted ys := by
  refine List.Pairwise.eq_of_mem_iff (pairwise_sorted xs) (pairwise_sorted ys) fun a => ?_
  rw [mem_sorted, mem_sorted, h]

@[simp] theorem sorted_sorted (hits : List Hit) : sorted (sorted hits) = sorted hits :=
  sorted_congr fun _ => mem_sorted

@[simp] theorem sorted_nil : sorted [] = [] := by
  rw [sorted, List.mergeSort_nil]
  rfl

@[simp] theorem sorted_singleton (h : Hit) : sorted [h] = [h] := by
  rw [sorted, List.mergeSort_singleton]
  rfl

end Hit

end CorpusSearch
