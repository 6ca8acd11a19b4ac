import CorpusSearch.Proofs.StandaloneExpressions

/-!
Expressions with less to ask for. A start of a line at the start of a value, and an end of a line at its end, always
hold, and an expression for whole values may do without them. Main statement: the first branch without a start of a
line before it, and the last one without an end of a line behind it, leave an expression that is no deeper and matches
the same values.
-/

set_option autoImplicit false

namespace CorpusSearch.Regex

/-! ### Conditions that always hold -/

/--
What an expression is without conditions that always hold when whole values are matched. It is nested no deeper, and
wherever the expression has a form without flags it has one that matches the same values.
-/
structure Trims (e e' : Expr) : Prop where
  depth_le : e'.depth ≤ e.depth
  exists_core {f g : Flags} {c : Core} (h : e.toCore? f = some (c, g)) : ∃ c', e'.toCore? f = some (c', g) ∧
    ∀ value, c.Matches [] value [] ↔ c'.Matches [] value []

section Trims

variable {e e' e'' : Expr} {parts others first later : List Expr} {f g h : Flags} {a c : Core}

theorem Trims.refl (e : Expr) : Trims e e :=
  ⟨Nat.le_refl _, fun h => ⟨_, h, fun _ => Iff.rfl⟩⟩

theorem Trims.trans (h : Trims e e') (h' : Trims e' e'') : Trims e e'' where
  depth_le := Nat.le_trans h'.depth_le h.depth_le
  exists_core hcore := by
    obtain ⟨c', hcore', hmatch⟩ := h.exists_core hcore
    obtain ⟨c'', hcore'', hmatch'⟩ := h'.exists_core hcore'
    exact ⟨c'', hcore'', fun value => (hmatch value).trans (hmatch' value)⟩

private theorem lineStart_holds (f : Flags) (after : List Char) :
    (Assertion.lineStart.toLook f).holds ⟨[], after⟩ = true := by
  rw [Assertion.toLook]
  split <;> rfl

private theorem lineEnd_holds (f : Flags) (before : List Char) :
    (Assertion.lineEnd.toLook f).holds ⟨before, []⟩ = true := by
  rw [Assertion.toLook]
  split <;> rfl

private theorem depth_sequence : (Expr.sequence parts).depth =
    Expr.maxDepth parts + (if parts.length ≤ 1 then 0 else 1) := by
  match parts with
  | [] => rfl
  | [part] => exact (Nat.max_zero _).symm
  | part :: other :: rest =>
      rw [if_neg (by simp)]
      rfl

private theorem trims_sequence (hlength : parts.length = others.length + 1)
    (hdepth : Expr.maxDepth others ≤ Expr.maxDepth parts)
    (hseq : ∀ {f g : Flags} {a : Core}, Expr.toSeq? f parts = some (a, g) → ∃ a', Expr.toSeq? f others = some (a', g) ∧
      ∀ value, a.Matches [] value [] ↔ a'.Matches [] value []) :
    Trims (.sequence parts) (.sequence others) where
  depth_le := by
    rw [depth_sequence, depth_sequence]
    split <;> split <;> omega
  exists_core {f g c} hcore := by
    obtain ⟨a, ha, hreach⟩ := exists_of_toCore?_sequence hcore
    obtain ⟨a', ha', hmatch⟩ := hseq ha
    obtain ⟨c', hcore', hreach'⟩ := exists_toCore?_sequence ha'
    refine ⟨c', hcore', fun value => ?_⟩
    rw [← matches_congr hreach, hmatch value, matches_congr hreach']

private theorem trims_lineStart (parts : List Expr) :
    Trims (.sequence (.assertion .lineStart :: parts)) (.sequence parts) := by
  refine trims_sequence rfl (Nat.le_max_right _ _) fun {f g a} ha => ?_
  obtain ⟨⟨b, k⟩, hb, ha⟩ := Option.bind_eq_some_iff.1 ha
  cases ha
  refine ⟨b, hb, fun value => ⟨?_, fun hmatch => ?_⟩⟩
  · rintro ⟨_, second, rfl, ⟨rfl, -⟩, hmatch⟩
    exact hmatch
  · exact ⟨[], value, rfl, ⟨rfl, lineStart_holds f _⟩, hmatch⟩

private theorem trims_lineEnd (parts : List Expr) :
    Trims (.sequence (parts ++ [.assertion .lineEnd])) (.sequence parts) := by
  refine trims_sequence List.length_append ?_ fun {f g a} ha => ?_
  · rw [maxDepth_append]
    exact Nat.le_max_left _ _
  rw [toSeq?_append] at ha
  obtain ⟨⟨b, k⟩, hb, ha⟩ := Option.bind_eq_some_iff.1 ha
  cases ha
  refine ⟨b, hb, fun value => ?_⟩
  rw [matches_iff_mem_reach, matches_iff_mem_reach, reach_chain hb, Core.reach, Core.reach, Core.reach, List.mem_filter]
  exact and_iff_left (lineEnd_holds k _)

theorem Trims.alternation (h : Trims e e') (first later : List Expr) :
    Trims (.alternation (first ++ e :: later)) (.alternation (first ++ e' :: later)) where
  depth_le := by
    have hle := h.depth_le
    simp only [Expr.depth, maxDepth_append, Expr.maxDepth]
    omega
  exists_core {f g c} hcore := by
    change Expr.toAlt? f (first ++ e :: later) = _ at hcore
    change ∃ c', Expr.toAlt? f (first ++ e' :: later) = _ ∧ _
    induction first generalizing f c with
    | nil =>
        obtain ⟨⟨a, k⟩, ha, hcore⟩ := Option.bind_eq_some_iff.1 hcore
        obtain ⟨⟨b, l⟩, hb, hcore⟩ := Option.bind_eq_some_iff.1 hcore
        cases hcore
        obtain ⟨a', ha', hmatch⟩ := h.exists_core ha
        refine ⟨.alt a' b, ?_, fun value => or_congr_left (hmatch value)⟩
        rw [List.nil_append, Expr.toAlt?, ha', Option.bind_eq_bind, Option.bind_some]
        dsimp only
        rw [hb]
        rfl
    | cons branch first ih =>
        obtain ⟨⟨a, k⟩, ha, hcore⟩ := Option.bind_eq_some_iff.1 hcore
        obtain ⟨⟨b, l⟩, hb, hcore⟩ := Option.bind_eq_some_iff.1 hcore
        cases hcore
        obtain ⟨b', hb', hmatch⟩ := ih hb
        refine ⟨.alt a b', ?_, fun value => or_congr_right (hmatch value)⟩
        rw [List.cons_append, Expr.toAlt?, ha, Option.bind_eq_bind, Option.bind_some]
        dsimp only
        rw [hb']
        rfl

end Trims

/-! ### Branches -/

section Branches

variable {branches branches' parts parts' : List Expr} {x e : Expr} {f g : Flags} {c : Core}

private theorem joinBranches_of_ne_nil (h : branches ≠ []) (parts : List Expr) :
    joinBranches branches parts = .alternation (branches.reverse ++ [.sequence parts.reverse]) := by
  cases branches with
  | nil => exact absurd rfl h
  | cons branch branches =>
      rw [joinBranches, List.reverse_cons]
      exact List.cons_ne_nil _ _

theorem trims_joinBranches_lineEnd (branches parts : List Expr) :
    Trims (joinBranches branches (.assertion .lineEnd :: parts)) (joinBranches branches parts) := by
  by_cases hone : branches = []
  · rw [hone, joinBranches, joinBranches, List.reverse_cons]
    exact trims_lineEnd parts.reverse
  · rw [joinBranches_of_ne_nil hone, joinBranches_of_ne_nil hone, List.reverse_cons]
    exact (trims_lineEnd parts.reverse).alternation branches.reverse []

private theorem exists_toCore?_of_toAlt? {first later : List Expr}
    (h : Expr.toAlt? f (first ++ e :: later) = some (c, g)) : ∃ k p, e.toCore? k = some p := by
  induction first generalizing f c with
  | nil =>
      obtain ⟨p, hp, -⟩ := Option.bind_eq_some_iff.1 h
      exact ⟨f, p, hp⟩
  | cons branch first ih =>
      obtain ⟨⟨a, l⟩, -, h⟩ := Option.bind_eq_some_iff.1 h
      obtain ⟨⟨b, k⟩, hb, h⟩ := Option.bind_eq_some_iff.1 h
      cases h
      exact ih hb

theorem exists_toCore?_of_joinBranches (h : (joinBranches branches (x :: parts)).toCore? f = some (c, g)) :
    ∃ k p, x.toCore? k = some p := by
  have hlast : ∀ {f c g}, (Expr.sequence (x :: parts).reverse).toCore? f = some (c, g) →
      ∃ k p, x.toCore? k = some p := by
    intro f c g h
    obtain ⟨a, ha, -⟩ := exists_of_toCore?_sequence h
    rw [List.reverse_cons] at ha
    obtain ⟨_, k, _, -, hx, -⟩ := exists_of_toSeq?_append ha
    obtain ⟨p, hp, -⟩ := Option.bind_eq_some_iff.1 hx
    exact ⟨k, p, hp⟩
  by_cases hone : branches = []
  · rw [hone] at h
    exact hlast h
  · rw [joinBranches_of_ne_nil hone] at h
    obtain ⟨k, p, hp⟩ := exists_toCore?_of_toAlt? (h : Expr.toAlt? f _ = _)
    exact hlast hp

/-- Branches and parts, the last one first, with a part more at the very start. -/
inductive Fronted (x : Expr) : List Expr → List Expr → List Expr → List Expr → Prop
  | first (parts : List Expr) : Fronted x [] (parts ++ [x]) [] parts
  | later (branches front parts : List Expr) :
      Fronted x (branches ++ [.sequence (x :: front)]) parts (branches ++ [.sequence front]) parts

theorem Fronted.trims (h : Fronted (.assertion .lineStart) branches parts branches' parts') :
    Trims (joinBranches branches parts) (joinBranches branches' parts') := by
  cases h with
  | first =>
      rw [joinBranches, joinBranches, List.reverse_append]
      exact trims_lineStart parts'.reverse
  | later branches front =>
      have hne : ∀ branch : Expr, branches ++ [branch] ≠ [] := fun branch => by simp
      rw [joinBranches_of_ne_nil (hne _), joinBranches_of_ne_nil (hne _), List.reverse_append, List.reverse_append]
      exact (trims_lineStart front).alternation [] (branches.reverse ++ [.sequence parts.reverse])

end Branches

end CorpusSearch.Regex
