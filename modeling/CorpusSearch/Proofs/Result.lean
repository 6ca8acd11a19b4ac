import CorpusSearch.Error
import Mathlib.Data.List.Forall2

/-!
Results of operations that can fail, taken apart and put together: a sequence of steps succeeds exactly if each
step does.
-/

set_option autoImplicit false

namespace CorpusSearch.Result

variable {α β γ : Type}

theorem bind_eq_ok {x : Result α} {f : α → Result β} {b : β} :
    (x >>= f) = .ok b ↔ ∃ a, x = .ok a ∧ f a = .ok b := by
  cases x <;> simp [bind, Except.bind]

/-- Of two steps, the first that fails decides on the error. -/
theorem bind_eq_error {x : Result α} {f : α → Result β} {e : QueryError} :
    (x >>= f) = .error e ↔ x = .error e ∨ ∃ a, x = .ok a ∧ f a = .error e := by
  cases x <;> simp [bind, Except.bind]

@[simp] theorem ok_bind (a : α) (f : α → Result β) : ((.ok a : Result α) >>= f) = f a := rfl

@[simp] theorem pure_eq_ok (a : α) : (pure a : Result α) = .ok a := rfl

@[simp] theorem throw_eq_error (e : QueryError) : (throw e : Result α) = .error e := rfl

@[simp] theorem error_bind (e : QueryError) (f : α → Result β) :
    ((.error e : Result α) >>= f) = .error e := rfl

theorem mapM_eq_ok {f : α → Result β} {xs : List α} {ys : List β} :
    xs.mapM f = .ok ys ↔ List.Forall₂ (fun x y => f x = .ok y) xs ys := by
  induction xs generalizing ys with
  | nil => simp [List.mapM_nil, eq_comm]
  | cons x xs ih =>
      simp only [List.mapM_cons, bind_eq_ok, pure_eq_ok, ih, List.forall₂_cons_left_iff,
        Except.ok.injEq]
      constructor
      · rintro ⟨y, hy, rest, hrest, rfl⟩
        exact ⟨y, rest, hy, hrest, rfl⟩
      · rintro ⟨y, rest, hy, hrest, rfl⟩
        exact ⟨y, hy, rest, hrest, rfl⟩

theorem forall_of_mapM {f : α → Result β} {P : β → Prop} {xs : List α} {ys : List β}
    (h : xs.mapM f = .ok ys) (hf : ∀ x ∈ xs, ∀ y, f x = .ok y → P y) : ∀ y ∈ ys, P y := by
  have hrel := mapM_eq_ok.1 h
  clear h
  induction hrel with
  | nil => simp
  | @cons x y xs ys hxy _ ih =>
      intro z hz
      rcases List.mem_cons.1 hz with rfl | hz
      · exact hf x List.mem_cons_self _ hxy
      · exact ih (fun x hx => hf x (List.mem_cons_of_mem _ hx)) z hz

/-! ### Success -/

def Succeeds (x : Result α) : Prop := ∃ a, x = .ok a

@[simp] theorem succeeds_ok (a : α) : Succeeds (.ok a : Result α) := ⟨a, rfl⟩

@[simp] theorem not_succeeds_error (e : QueryError) : ¬Succeeds (.error e : Result α) := by
  rintro ⟨a, h⟩
  cases h

private theorem succeeds_bind {x : Result α} {f : α → Result β} :
    Succeeds (x >>= f) ↔ ∃ a, x = .ok a ∧ Succeeds (f a) := by
  constructor
  · rintro ⟨b, h⟩
    obtain ⟨a, ha, hb⟩ := bind_eq_ok.1 h
    exact ⟨a, ha, b, hb⟩
  · rintro ⟨a, ha, b, hb⟩
    exact ⟨b, bind_eq_ok.2 ⟨a, ha, hb⟩⟩

/-- Two steps succeed together if whether the second one does is independent of the first. -/
theorem succeeds_bind_iff {x : Result α} {f : α → Result β} {P : Prop}
    (h : ∀ a, x = .ok a → (Succeeds (f a) ↔ P)) : Succeeds (x >>= f) ↔ Succeeds x ∧ P := by
  rw [succeeds_bind]
  constructor
  · rintro ⟨a, ha, hf⟩
    exact ⟨⟨a, ha⟩, (h a ha).1 hf⟩
  · rintro ⟨⟨a, ha⟩, hP⟩
    exact ⟨a, ha, (h a ha).2 hP⟩

theorem succeeds_bind_of_total {x : Result α} {f : α → Result β} (h : ∀ a, x = .ok a → Succeeds (f a)) :
    Succeeds (x >>= f) ↔ Succeeds x := by
  have hiff : ∀ a, x = .ok a → (Succeeds (f a) ↔ True) := fun a ha => iff_true_intro (h a ha)
  rw [succeeds_bind_iff hiff, and_true]

@[simp] theorem succeeds_bind_pure {x : Result α} {g : α → β} :
    Succeeds (x >>= fun a => pure (g a)) ↔ Succeeds x :=
  succeeds_bind_of_total fun a _ => succeeds_ok (g a)

theorem succeeds_bind_bind_pure {x : Result α} {y : Result β} {k : α → β → γ} :
    Succeeds (x >>= fun a => y >>= fun b => pure (k a b)) ↔ Succeeds x ∧ Succeeds y :=
  succeeds_bind_iff fun _ _ => succeeds_bind_pure

/-! ### Failure -/

def Refuses (x : Result α) (P : QueryError → Prop) : Prop := ∀ e, x = .error e → P e

namespace Refuses

variable {P Q : QueryError → Prop} {x : Result α}

theorem ok (a : α) : Refuses (.ok a : Result α) P := fun _ h => nomatch h

theorem error {e : QueryError} (h : P e) : Refuses (.error e : Result α) P := by
  intro e' he
  cases he
  exact h

theorem bind {f : α → Result β} (hx : x.Refuses P) (hf : ∀ a, (f a).Refuses P) : (x >>= f).Refuses P := by
  intro e h
  rcases bind_eq_error.1 h with h | ⟨a, _, h⟩
  · exact hx e h
  · exact hf a e h

theorem imp (hx : x.Refuses P) (h : ∀ e, P e → Q e) : x.Refuses Q := fun e he => h e (hx e he)

theorem ite {c : Prop} [Decidable c] {y : Result α} (hx : x.Refuses P) (hy : y.Refuses P) :
    Refuses (if c then x else y) P := by
  split
  · exact hx
  · exact hy

theorem mapM {f : α → Result β} (h : ∀ a, (f a).Refuses P) (items : List α) : Refuses (items.mapM f) P := by
  induction items with
  | nil => exact .ok []
  | cons a items ih =>
      rw [List.mapM_cons]
      exact (h a).bind fun b => ih.bind fun bs => .ok (b :: bs)

end Refuses

end CorpusSearch.Result
