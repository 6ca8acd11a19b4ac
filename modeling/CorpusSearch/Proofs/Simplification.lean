import CorpusSearch.Pattern.Simplify
import Mathlib.Tactic.Common

/-!
Simplifying as a limit. The fuel of the functions that simplify is always enough, so that a rule can be read as an
equation: a node has the simplest form of what a rule makes of it.
-/

set_option autoImplicit false

namespace CorpusSearch

namespace Text

private theorem length_dropStart? {start text rest : List Char} (h : dropStart? start text = some rest) :
    text.length = start.length + rest.length := by
  induction start generalizing text with
  | nil =>
      obtain rfl := Option.some.inj h
      simp
  | cons p start ih =>
      cases text with
      | nil => cases h
      | cons c text =>
          rw [dropStart?] at h
          split at h
          · have hlength := ih h
            simp only [List.length_cons]
            omega
          · cases h

theorem length_of_splitForcedSensitivity {expression rest : String} {s : Sensitivity}
    (h : splitForcedSensitivity expression = (some s, rest)) : rest.length < expression.length := by
  have hshorter : ∀ {start tail : List Char}, 0 < start.length →
      dropStart? start expression.toList = some tail → (String.ofList tail).length < expression.length := by
    intro start tail hstart htail
    have hlength := length_dropStart? htail
    rw [String.length_ofList, ← String.length_toList]
    omega
  unfold splitForcedSensitivity at h
  dsimp only at h
  split at h
  · rename_i hdrop
    rw [← (Prod.mk.inj h).2]
    exact hshorter (by decide) hdrop
  · rename_i hdrop
    rw [← (Prod.mk.inj h).2]
    exact hshorter (by decide) hdrop
  · rename_i hdrop
    rw [← (Prod.mk.inj h).2]
    exact hshorter (by decide) hdrop
  · cases (Prod.mk.inj h).1

theorem rest_of_splitForcedSensitivity {expression rest : String}
    (h : splitForcedSensitivity expression = (none, rest)) : rest = expression := by
  unfold splitForcedSensitivity at h
  dsimp only at h
  split at h
  · cases (Prod.mk.inj h).1
  · cases (Prod.mk.inj h).1
  · cases (Prod.mk.inj h).1
  · exact (Prod.mk.inj h).2.symm

end Text

namespace TokenTest

theorem resolveFlags_of_none {test : TokenTest} {rest : String}
    (h : Text.splitForcedSensitivity test.value = (none, rest)) (fuel : Nat) :
    test.resolveFlags fuel = test := by
  cases fuel with
  | zero => rfl
  | succ fuel => rw [resolveFlags, h]

private theorem resolveFlags_of_some {test : TokenTest} {s : Sensitivity} {rest : String}
    (h : Text.splitForcedSensitivity test.value = (some s, rest)) (fuel : Nat) :
    test.resolveFlags (fuel + 1) =
      ({ test with value := rest, sensitivity := some s } : TokenTest).resolveFlags fuel := by
  rw [resolveFlags, h]

def resolved (test : TokenTest) : TokenTest := test.resolveFlags test.value.length

private theorem resolveFlags_eq {test : TokenTest} {fuel fuel' : Nat} (h : test.value.length ≤ fuel)
    (h' : test.value.length ≤ fuel') : test.resolveFlags fuel = test.resolveFlags fuel' := by
  induction hsize : test.value.length using Nat.strongRecOn generalizing test fuel fuel' with
  | ind size ih =>
      cases hsplit : Text.splitForcedSensitivity test.value with
      | mk forced rest =>
          cases forced with
          | none => rw [resolveFlags_of_none hsplit, resolveFlags_of_none hsplit]
          | some s =>
              have hlength := Text.length_of_splitForcedSensitivity hsplit
              obtain ⟨less, rfl⟩ : ∃ less, fuel = less + 1 := ⟨fuel - 1, by omega⟩
              obtain ⟨less', rfl⟩ : ∃ less', fuel' = less' + 1 := ⟨fuel' - 1, by omega⟩
              rw [resolveFlags_of_some hsplit, resolveFlags_of_some hsplit]
              exact ih rest.length (hsize ▸ hlength) (by dsimp only; omega) (by dsimp only; omega) rfl

theorem resolved_of_some {test : TokenTest} {s : Sensitivity} {rest : String}
    (h : Text.splitForcedSensitivity test.value = (some s, rest)) :
    test.resolved = ({ test with value := rest, sensitivity := some s } : TokenTest).resolved := by
  have hlength := Text.length_of_splitForcedSensitivity h
  obtain ⟨fuel, hfuel⟩ : ∃ fuel, test.value.length = fuel + 1 := ⟨test.value.length - 1, by omega⟩
  rw [resolved, hfuel, resolveFlags_of_some h, resolved]
  exact resolveFlags_eq (by dsimp only; omega) (Nat.le_refl _)

theorem split_resolveFlags (test : TokenTest) (fuel : Nat) (h : test.value.length ≤ fuel) :
    (Text.splitForcedSensitivity (test.resolveFlags fuel).value).1 = none := by
  induction fuel generalizing test with
  | zero =>
      cases hsplit : Text.splitForcedSensitivity test.value with
      | mk forced rest =>
          cases forced with
          | none => rw [resolveFlags_of_none hsplit, hsplit]
          | some s =>
              have hlength := Text.length_of_splitForcedSensitivity hsplit
              omega
  | succ fuel ih =>
      cases hsplit : Text.splitForcedSensitivity test.value with
      | mk forced rest =>
          cases forced with
          | none => rw [resolveFlags_of_none hsplit, hsplit]
          | some s =>
              have hlength := Text.length_of_splitForcedSensitivity hsplit
              rw [resolveFlags_of_some hsplit]
              exact ih _ (by dsimp only; omega)

private theorem simpler?_of_simplerRegex? {test : TokenTest} {q : Pattern} (h : test.simplerRegex? = some q) :
    q.simpler? = none := by
  unfold simplerRegex? at h
  dsimp only at h
  split at h
  · obtain rfl := Option.some.inj h
    rfl
  · rename_i hletters
    split at h
    · cases h
    · obtain rfl := Option.some.inj h
      have hflags := split_resolveFlags test test.value.length (Nat.le_refl _)
      have hagain : ∀ fuel, (test.resolveFlags test.value.length).resolveFlags fuel =
          test.resolveFlags test.value.length :=
        resolveFlags_of_none (Prod.ext hflags rfl)
      rw [Pattern.simpler?, simplerRegex?, hagain, if_neg hletters, if_pos rfl]

end TokenTest

namespace Pattern

theorem size_pos (p : Pattern) : 0 < p.size := by
  cases p <;> simp [size]

theorem size_of_simpler? {p q : Pattern} (h : p.simpler? = some q) :
    q.size < p.size ∨ q.simpler? = none := by
  unfold simpler? at h
  split at h
  · exact .inr (TokenTest.simpler?_of_simplerRegex? h)
  · obtain rfl := Option.some.inj h
    left
    simp only [size]
    omega
  · obtain rfl := Option.some.inj h
    left
    simp only [size, sizeAll]
    omega
  · obtain rfl := Option.some.inj h
    exact .inr rfl
  · cases h

private theorem simplifyWithin_of_none {p : Pattern} (h : p.simpler? = none) (fuel : Nat) :
    p.simplifyWithin fuel = p := by
  cases fuel with
  | zero => rfl
  | succ fuel => rw [simplifyWithin, h]

private theorem simplifyWithin_succ (fuel : Nat) (p : Pattern) (h : p.size ≤ fuel) :
    p.simplifyWithin (fuel + 1) = p.simplifyWithin fuel := by
  induction fuel generalizing p with
  | zero =>
      have hpos := p.size_pos
      omega
  | succ fuel ih =>
      rw [simplifyWithin, simplifyWithin]
      cases hq : p.simpler? with
      | none => rfl
      | some q =>
          dsimp only
          rcases size_of_simpler? hq with hsize | hnone
          · exact ih q (by omega)
          · rw [simplifyWithin_of_none hnone, simplifyWithin_of_none hnone]

private theorem simplifyWithin_eq_simplify {p : Pattern} {fuel : Nat} (h : p.size ≤ fuel) :
    p.simplifyWithin fuel = p.simplify := by
  induction h with
  | refl => rfl
  | step h ih => rw [simplifyWithin_succ _ p h, ih]

theorem simplify_regex (test : TokenTest) :
    (regex test).simplify =
      if Text.isAlphanumeric test.resolved.value then .term test.resolved else .regex test.resolved := by
  have hsize : (regex test).simplify = ((regex test).simpler?).getD (.regex test) := by
    cases hsimpler : (regex test).simpler? with
    | none => exact simplifyWithin_of_none hsimpler _
    | some q =>
        show (regex test).simplifyWithin 1 = q
        rw [simplifyWithin, hsimpler]
        rfl
  rw [hsize, simpler?, TokenTest.simplerRegex?, ← TokenTest.resolved]
  split
  · rfl
  · split
    · rename_i heq
      rw [heq, Option.getD_none]
    · rfl

theorem simplify_of_none {p : Pattern} (h : p.simpler? = none) : p.simplify = p :=
  simplifyWithin_of_none h p.size

/-- A rule is a step towards the simplest form. -/
theorem simplify_of_some {p q : Pattern} (h : p.simpler? = some q) : p.simplify = q.simplify := by
  have hpos := p.size_pos
  have hstep : p.simplifyWithin (p.size - 1 + 1) = q.simplifyWithin (p.size - 1) := by
    rw [simplifyWithin, h]
  rw [Nat.sub_add_cancel hpos] at hstep
  rw [simplify, hstep]
  rcases size_of_simpler? h with hsize | hnone
  · exact simplifyWithin_eq_simplify (by omega)
  · rw [simplify_of_none hnone, simplifyWithin_of_none hnone]

end Pattern

end CorpusSearch
