import CorpusSearch.Extension
import CorpusSearch.Proofs.Result

/-!
Reasoning about planning step by step. What holds of each step holds of the steps together, as long as they
succeed.
-/

set_option autoImplicit false

namespace CorpusSearch.Planning

variable {α β : Type}

theorem run_bind_eq_ok {x : Planning α} {f : α → Planning β} {names : CaptureNames}
    {r : β × CaptureNames} :
    (x >>= f).run names = .ok r ↔ ∃ s, x.run names = .ok s ∧ (f s.1).run s.2 = .ok r := by
  rw [StateT.run_bind, Result.bind_eq_ok]

theorem run_liftM_eq_ok {x : Result α} {names : CaptureNames} {r : α × CaptureNames} :
    (liftM x : Planning α).run names = .ok r ↔ x = .ok r.1 ∧ r.2 = names := by
  cases x with
  | error e => simp [liftM, monadLift, MonadLift.monadLift, StateT.lift, StateT.run]
  | ok a =>
      simp only [liftM, monadLift, MonadLift.monadLift, StateT.lift, StateT.run, Result.ok_bind,
        Result.pure_eq_ok, Except.ok.injEq]
      constructor
      · rintro rfl
        exact ⟨rfl, rfl⟩
      · rintro ⟨rfl, rfl⟩
        rfl

/-- A step that does nothing with the names in use, and another behind it. -/
theorem run_liftM_bind_eq_ok {x : Result α} {f : α → Planning β} {names : CaptureNames} {r : β × CaptureNames} :
    ((liftM x : Planning α) >>= f).run names = .ok r ↔ ∃ a, x = .ok a ∧ (f a).run names = .ok r := by
  rw [run_bind_eq_ok]
  constructor
  · rintro ⟨s, hs, hr⟩
    obtain ⟨hx, hnames⟩ := run_liftM_eq_ok.1 hs
    rw [hnames] at hr
    exact ⟨s.1, hx, hr⟩
  · rintro ⟨a, hx, hr⟩
    exact ⟨(a, names), run_liftM_eq_ok.2 ⟨hx, rfl⟩, hr⟩

def Yields (x : Planning α) (P : α → Prop) : Prop :=
  ∀ names r, x.run names = .ok r → P r.1

namespace Yields

variable {P Q : α → Prop} {S : β → Prop}

theorem pure {a : α} (h : P a) : Yields (Pure.pure a) P := by
  intro names r hr
  obtain rfl := Except.ok.inj hr
  exact h

theorem bind {x : Planning α} {f : α → Planning β} (hx : Yields x P)
    (hf : ∀ a, P a → Yields (f a) S) : Yields (x >>= f) S := by
  intro names r hr
  obtain ⟨s, hs, hr⟩ := run_bind_eq_ok.1 hr
  exact hf s.1 (hx names s hs) s.2 r hr

theorem liftM (x : Result α) : Yields (liftM x) (fun a => x = .ok a) :=
  fun _ _ hr => (run_liftM_eq_ok.1 hr).1

theorem throw (e : QueryError) : Yields (throw e) P := fun _ _ hr => nomatch hr

theorem fail (fault : QueryFault) : Yields (fail fault) P := throw _

theorem trivial (x : Planning α) : Yields x fun _ => True := fun _ _ _ => True.intro

theorem imp {x : Planning α} (hx : Yields x P) (h : ∀ a, P a → Q a) : Yields x Q :=
  fun names r hr => h r.1 (hx names r hr)

theorem mapM {x : α → Planning β} {items : List α} (h : ∀ a ∈ items, Yields (x a) S) :
    Yields (items.mapM x) fun results => ∀ b ∈ results, S b := by
  induction items with
  | nil =>
      rw [List.mapM_nil]
      exact pure (by simp)
  | cons a items ih =>
      rw [List.mapM_cons]
      refine (h a List.mem_cons_self).bind fun b hb => ?_
      refine (ih fun a ha => h a (List.mem_cons_of_mem _ ha)).bind fun results hresults => ?_
      exact pure (List.forall_mem_cons.2 ⟨hb, hresults⟩)

theorem forM {x : α → Planning PUnit} {R : α → Prop} {items : List α}
    (h : ∀ a ∈ items, Yields (x a) fun _ => R a) :
    Yields (items.forM x) fun _ => ∀ a ∈ items, R a := by
  induction items with
  | nil => exact pure (by simp)
  | cons a items ih =>
      refine (h a List.mem_cons_self).bind fun _ ha => ?_
      refine (ih fun a ha => h a (List.mem_cons_of_mem _ ha)).imp fun _ hrest => ?_
      exact List.forall_mem_cons.2 ⟨ha, hrest⟩

end Yields

end CorpusSearch.Planning
