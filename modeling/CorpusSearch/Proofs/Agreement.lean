import CorpusSearch.Proofs.PlanningSteps

/-!
Two computations side by side. Results agree if both fail for one reason or both succeed with related values;
planning agrees if, wherever both plannings succeed, they have taken the same capture names into use and have
related results.
-/

set_option autoImplicit false

namespace CorpusSearch

variable {α β γ δ : Type}

namespace Result

/-- Both fail for the same reason, or both succeed with values in relation. -/
def Agree (R : α → β → Prop) : Result α → Result β → Prop
  | .ok a, .ok b => R a b
  | .error e, .error e' => e = e'
  | .ok _, .error _ | .error _, .ok _ => False

namespace Agree

variable {R : α → β → Prop} {S : γ → δ → Prop}

theorem refl {R : α → α → Prop} (h : ∀ a, R a a) (x : Result α) : Agree R x x := by
  cases x with
  | ok a => exact h a
  | error e => rfl

theorem imp {R' : α → β → Prop} {x : Result α} {y : Result β} (h : Agree R x y)
    (hR : ∀ a b, x = .ok a → y = .ok b → R a b → R' a b) : Agree R' x y := by
  cases x with
  | ok a =>
      cases y with
      | ok b => exact hR a b rfl rfl h
      | error e => exact h.elim
  | error e =>
      cases y with
      | ok b => exact h.elim
      | error e' => exact h

theorem symm {R' : β → α → Prop} {x : Result α} {y : Result β} (h : Agree R x y)
    (hR : ∀ a b, R a b → R' b a) : Agree R' y x := by
  cases x with
  | ok a =>
      cases y with
      | ok b => exact hR a b h
      | error e => exact h.elim
  | error e =>
      cases y with
      | ok b => exact h.elim
      | error e' => exact Eq.symm h

theorem trans {T : β → γ → Prop} {U : α → γ → Prop} {x : Result α} {y : Result β} {z : Result γ}
    (hxy : Agree R x y) (hyz : Agree T y z) (h : ∀ a b c, R a b → T b c → U a c) : Agree U x z := by
  cases x with
  | ok a =>
      cases y with
      | error e => exact hxy.elim
      | ok b =>
          cases z with
          | error e => exact hyz.elim
          | ok c => exact h a b c hxy hyz
  | error e =>
      cases y with
      | ok b => exact hxy.elim
      | error e' =>
          cases z with
          | ok c => exact hyz.elim
          | error e'' => exact Eq.trans hxy hyz

theorem bind {x : Result α} {y : Result β} {f : α → Result γ} {g : β → Result δ}
    (hxy : Agree R x y) (hfg : ∀ a b, x = .ok a → y = .ok b → R a b → Agree S (f a) (g b)) :
    Agree S (x >>= f) (y >>= g) := by
  cases x with
  | ok a =>
      cases y with
      | ok b => exact hfg a b rfl rfl hxy
      | error e => exact hxy.elim
  | error e =>
      cases y with
      | ok b => exact hxy.elim
      | error e' => exact hxy

theorem bind_left {x : Result α} {f : α → Result γ} {g : α → Result δ}
    (hfg : ∀ a, Agree S (f a) (g a)) : Agree S (x >>= f) (x >>= g) := by
  refine bind (refl (R := Eq) (fun _ => rfl) x) ?_
  rintro a _ - - rfl
  exact hfg a

end Agree

end Result

namespace Planning

/-- Wherever both succeed from the same names, they end with the same names and with results in relation. -/
def Agree (R : α → β → Prop) (x : Planning α) (y : Planning β) : Prop :=
  ∀ names r s, x.run names = .ok r → y.run names = .ok s → r.2 = s.2 ∧ R r.1 s.1

namespace Agree

variable {R R' : α → β → Prop} {S : γ → δ → Prop} {x : Planning α} {y : Planning β}

theorem pure {a : α} {b : β} (h : R a b) : Agree R (Pure.pure a) (Pure.pure b) := by
  intro names r s hr hs
  obtain rfl := Except.ok.inj hr
  obtain rfl := Except.ok.inj hs
  exact ⟨rfl, h⟩

theorem bind {f : α → Planning γ} {g : β → Planning δ} (hxy : Agree R x y)
    (hfg : ∀ a b, R a b → Agree S (f a) (g b)) : Agree S (x >>= f) (y >>= g) := by
  intro names r s hr hs
  obtain ⟨r', hr', hr⟩ := run_bind_eq_ok.1 hr
  obtain ⟨s', hs', hs⟩ := run_bind_eq_ok.1 hs
  obtain ⟨hnames, hR⟩ := hxy names r' s' hr' hs'
  rw [← hnames] at hs
  exact hfg r'.1 s'.1 hR r'.2 r s hr hs

theorem imp (hxy : Agree R x y) (h : ∀ a b, R a b → R' a b) : Agree R' x y := by
  intro names r s hr hs
  obtain ⟨hnames, hR⟩ := hxy names r s hr hs
  exact ⟨hnames, h _ _ hR⟩

theorem map {f : α → γ} {g : β → δ} (hxy : Agree R x y) (h : ∀ a b, R a b → S (f a) (g b)) :
    Agree S (do let a ← x; return f a) (do let b ← y; return g b) :=
  hxy.bind fun a b hab => pure (h a b hab)

theorem map_right {T : α → δ → Prop} {g : β → δ} (hxy : Agree R x y) (h : ∀ a b, R a b → T a (g b)) :
    Agree T x (do let b ← y; return g b) := by
  intro names r s hr hs
  obtain ⟨s', hs', hs⟩ := run_bind_eq_ok.1 hs
  obtain rfl := Except.ok.inj hs
  obtain ⟨hnames, hR⟩ := hxy names r s' hr hs'
  exact ⟨hnames, h _ _ hR⟩

/-- A step agrees with itself. -/
theorem refl (x : Planning α) : Agree Eq x x := by
  intro names r s hr hs
  obtain rfl := Except.ok.inj (hr.symm.trans hs)
  exact ⟨rfl, rfl⟩

theorem liftM (x : Result α) : Agree (fun a b => a = b ∧ x = .ok a) (liftM x) (liftM x) := by
  intro names r s hr hs
  obtain ⟨ha, hr⟩ := run_liftM_eq_ok.1 hr
  obtain ⟨hb, hs⟩ := run_liftM_eq_ok.1 hs
  exact ⟨hr.trans hs.symm, Except.ok.inj (ha.symm.trans hb), ha⟩

theorem liftM_liftM {x : Result α} {y : Result β} (h : ∀ a b, x = .ok a → y = .ok b → R a b) :
    Agree R (MonadLiftT.monadLift x) (MonadLiftT.monadLift y) := by
  intro names r s hr hs
  obtain ⟨ha, hr⟩ := run_liftM_eq_ok.1 hr
  obtain ⟨hb, hs⟩ := run_liftM_eq_ok.1 hs
  exact ⟨hr.trans hs.symm, h _ _ ha hb⟩

theorem throw_left (e : QueryError) : Agree R (throw e) y := fun _ _ _ hr => nomatch hr

theorem throw_right (e : QueryError) : Agree R x (throw e) := fun _ _ _ _ hs => nomatch hs

theorem fail_left (fault : QueryFault) : Agree R (fail fault) y := throw_left _

/-- What each of the two yields may be used of the results. -/
theorem and_yields (hxy : Agree R x y) {P : α → Prop} {Q : β → Prop} (hx : Yields x P)
    (hy : Yields y Q) : Agree (fun a b => R a b ∧ P a ∧ Q b) x y := by
  intro names r s hr hs
  obtain ⟨hnames, hR⟩ := hxy names r s hr hs
  exact ⟨hnames, hR, hx names r hr, hy names s hs⟩

theorem mapM {ι : Type} {f : ι → Planning α} {g : ι → Planning β} {items : List ι}
    (h : ∀ i ∈ items, Agree R (f i) (g i)) :
    Agree (List.Forall₂ R) (items.mapM f) (items.mapM g) := by
  induction items with
  | nil =>
      rw [List.mapM_nil, List.mapM_nil]
      exact pure .nil
  | cons i items ih =>
      rw [List.mapM_cons, List.mapM_cons]
      refine (h i List.mem_cons_self).bind fun a b hab => ?_
      refine (ih fun j hj => h j (List.mem_cons_of_mem _ hj)).bind fun as bs hrest => ?_
      exact pure (.cons hab hrest)

end Agree

end Planning

end CorpusSearch
