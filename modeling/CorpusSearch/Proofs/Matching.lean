import CorpusSearch.Regex.Match
import Mathlib.Data.List.Basic
import Mathlib.Tactic.Common

/-!
Which pieces of a text an expression matches. What an expression makes of a piece depends on the piece and on what
stands around it; a sequence matches two pieces one behind the other, a repetition a number of pieces in a row. Main
statement: an expression reaches a place from another exactly if it matches what stands between them.
-/

set_option autoImplicit false

namespace CorpusSearch.Regex

/-- What may hold of a piece of a text, by what stands before it, in reverse, the piece and what stands behind it. -/
abbrev PieceTest := List Char → List Char → List Char → Prop

def Joined (P Q : PieceTest) : PieceTest := fun before text after => ∃ first second,
  text = first ++ second ∧ P before first (second ++ after) ∧ Q (first.reverse ++ before) second after

def InRow (P : PieceTest) : Nat → PieceTest
  | 0 => fun _ text _ => text = []
  | n + 1 => Joined P (InRow P n)

def Core.Matches : Core → PieceTest
  | .empty => fun _ text _ => text = []
  | .chars s => fun _ text _ => ∃ c, text = [c] ∧ s.contains c = true
  | .look l => fun before text after => text = [] ∧ l.holds ⟨before, after⟩ = true
  | .seq a b => Joined a.Matches b.Matches
  | .alt a b => fun before text after => a.Matches before text after ∨ b.Matches before text after
  | .rep min max body => fun before text after =>
    ∃ n, min ≤ n ∧ (∀ m ∈ max, n ≤ Nat.max min m) ∧ InRow body.Matches n before text after

/-! ### Places of one text -/

namespace Cursor

variable {P Q : PieceTest} {p q c d : Cursor} {text : List Char}

def IsAt (text : List Char) (c : Cursor) : Prop := c.before.reverse ++ c.after = text

/-- A place and one further on, where what stands between passes a test. -/
def Goes (P : PieceTest) (p q : Cursor) : Prop := ∃ piece,
  p.after = piece ++ q.after ∧ q.before = piece.reverse ++ p.before ∧ P p.before piece q.after

private theorem Goes.isAt (h : Goes P p q) (hp : p.IsAt text) : q.IsAt text := by
  obtain ⟨piece, hafter, hbefore, -⟩ := h
  rw [IsAt] at hp ⊢
  rw [hbefore, ← hp, hafter]
  simp

private theorem same_iff (hc : c.IsAt text) (hd : d.IsAt text) : c.same d = true ↔ c = d := by
  rw [same, decide_eq_true_iff]
  constructor
  · intro hlength
    obtain ⟨hbefore, hafter⟩ := List.append_inj' (hc.trans hd.symm) hlength
    obtain ⟨before, after⟩ := c
    obtain rfl : before = d.before := List.reverse_injective hbefore
    obtain rfl : after = d.after := hafter
    rfl
  · rintro rfl
    rfl

private theorem goes_nil : Goes (fun _ piece _ => piece = []) p q ↔ p = q := by
  obtain ⟨before, after⟩ := p
  constructor
  · rintro ⟨piece, hafter, hbefore, rfl⟩
    obtain rfl : after = q.after := hafter
    exact congrArg (Cursor.mk · q.after) hbefore.symm
  · rintro rfl
    exact ⟨[], rfl, rfl, rfl⟩

private theorem goes_joined : Goes (Joined P Q) p q ↔ ∃ m, Goes P p m ∧ Goes Q m q := by
  constructor
  · rintro ⟨_, hafter, hbefore, first, second, rfl, hfirst, hsecond⟩
    refine ⟨⟨first.reverse ++ p.before, second ++ q.after⟩, ⟨first, ?_, rfl, hfirst⟩, second, rfl, ?_, hsecond⟩
    · rw [hafter, List.append_assoc]
    · rw [hbefore, List.reverse_append, List.append_assoc]
  · rintro ⟨m, ⟨first, hafter, hbefore, hfirst⟩, second, hafter', hbefore', hsecond⟩
    rw [hafter'] at hfirst
    rw [hbefore] at hsecond
    refine ⟨first ++ second, ?_, ?_, first, second, rfl, hfirst, hsecond⟩
    · rw [hafter, hafter', List.append_assoc]
    · rw [hbefore', hbefore, List.reverse_append, List.append_assoc]

private theorem goes_or : Goes (fun before piece after => P before piece after ∨ Q before piece after) p q ↔
    Goes P p q ∨ Goes Q p q := by
  constructor
  · rintro ⟨piece, hafter, hbefore, h | h⟩
    · exact .inl ⟨piece, hafter, hbefore, h⟩
    · exact .inr ⟨piece, hafter, hbefore, h⟩
  · rintro (⟨piece, hafter, hbefore, h⟩ | ⟨piece, hafter, hbefore, h⟩)
    · exact ⟨piece, hafter, hbefore, .inl h⟩
    · exact ⟨piece, hafter, hbefore, .inr h⟩

private theorem goes_succ {n : Nat} : Goes (InRow P (n + 1)) p q ↔ ∃ m, Goes P p m ∧ Goes (InRow P n) m q := goes_joined

private theorem goes_add {n k : Nat} :
    Goes (InRow P (n + k)) p q ↔ ∃ m, Goes (InRow P n) p m ∧ Goes (InRow P k) m q := by
  induction n generalizing p with
  | zero =>
      rw [Nat.zero_add]
      constructor
      · intro h
        exact ⟨p, goes_nil.2 rfl, h⟩
      · rintro ⟨m, hm, h⟩
        obtain rfl := goes_nil.1 hm
        exact h
  | succ n ih =>
      rw [Nat.succ_add, goes_succ]
      simp only [ih, goes_succ]
      constructor
      · rintro ⟨x, hx, m, hm, h⟩
        exact ⟨m, ⟨x, hx, hm⟩, h⟩
      · rintro ⟨m, ⟨x, hx, hm⟩, h⟩
        exact ⟨x, hx, m, hm, h⟩

private theorem exists_short {n : Nat} (h : Goes (InRow P n) p q) : ∃ k ≤ p.after.length, Goes (InRow P k) p q := by
  induction n generalizing p with
  | zero => exact ⟨0, Nat.zero_le _, h⟩
  | succ n ih =>
      obtain ⟨m, hm, h⟩ := goes_succ.1 h
      obtain ⟨k, hk, hrow⟩ := ih h
      obtain ⟨piece, hafter, hbefore, hpiece⟩ := hm
      rcases piece with _ | ⟨c, piece⟩
      · obtain rfl : p = m := goes_nil.1 ⟨[], hafter, hbefore, rfl⟩
        exact ⟨k, hk, hrow⟩
      · refine ⟨k + 1, ?_, goes_succ.2 ⟨m, ⟨c :: piece, hafter, hbefore, hpiece⟩, hrow⟩⟩
        rw [hafter, List.length_append, List.length_cons]
        omega

end Cursor

/-! ### Sets of places -/

section Steps

variable {P Q : PieceTest} {step : List Cursor → List Cursor} {text : List Char} {cs known new : List Cursor}
  {q : Cursor}

private theorem mem_freshCursors (hknown : ∀ c ∈ known, c.IsAt text) (hnew : ∀ c ∈ new, c.IsAt text) :
    q ∈ freshCursors known new ↔ q ∈ new ∧ q ∉ known := by
  induction new generalizing known with
  | nil => simp [freshCursors]
  | cons c new ih =>
      obtain ⟨hc, hnew⟩ := List.forall_mem_cons.1 hnew
      have hin : known.any c.same = true ↔ c ∈ known := by
        rw [List.any_eq_true]
        constructor
        · rintro ⟨d, hd, hsame⟩
          rw [(Cursor.same_iff hc (hknown d hd)).1 hsame]
          exact hd
        · intro hmem
          exact ⟨c, hmem, (Cursor.same_iff hc hc).2 rfl⟩
      rw [freshCursors, List.mem_cons]
      split
      · rename_i hany
        rw [ih hknown hnew]
        constructor
        · rintro ⟨hmem, hfresh⟩
          exact ⟨.inr hmem, hfresh⟩
        · rintro ⟨rfl | hmem, hfresh⟩
          · exact absurd (hin.1 hany) hfresh
          · exact ⟨hmem, hfresh⟩
      · rename_i hany
        rw [List.mem_cons, ih (List.forall_mem_cons.2 ⟨hc, hknown⟩) hnew, List.mem_cons, not_or]
        constructor
        · rintro (rfl | ⟨hmem, -, hfresh⟩)
          · exact ⟨.inl rfl, fun hmem => hany (hin.2 hmem)⟩
          · exact ⟨.inr hmem, hfresh⟩
        · rintro ⟨hmem, hfresh⟩
          by_cases heq : q = c
          · exact .inl heq
          · exact .inr ⟨hmem.resolve_left heq, heq, hfresh⟩

/-- A step on sets of places of one text that goes from each of them over all pieces that pass a test. -/
def Performs (step : List Cursor → List Cursor) (P : PieceTest) : Prop :=
  ∀ {text : List Char} {cs : List Cursor}, (∀ c ∈ cs, c.IsAt text) → ∀ q, q ∈ step cs ↔ ∃ p ∈ cs, p.Goes P q

private theorem Performs.isAt (h : Performs step P) (hcs : ∀ c ∈ cs, c.IsAt text) : ∀ c ∈ step cs, c.IsAt text := by
  intro c hc
  obtain ⟨p, hp, hgoes⟩ := (h hcs c).1 hc
  exact hgoes.isAt (hcs p hp)

private theorem performs_self : Performs (fun cs => cs) (fun _ piece _ => piece = []) := by
  intro text cs _ q
  simp only [Cursor.goes_nil]
  exact exists_eq_right.symm

private theorem Performs.comp {other : List Cursor → List Cursor} (h : Performs step P) (h' : Performs other Q) :
    Performs (fun cs => other (step cs)) (Joined P Q) := by
  intro text cs hcs q
  simp only [h' (h.isAt hcs), h hcs, Cursor.goes_joined]
  constructor
  · rintro ⟨m, ⟨p, hp, hm⟩, hq⟩
    exact ⟨p, hp, m, hm, hq⟩
  · rintro ⟨p, hp, m, hm, hq⟩
    exact ⟨m, ⟨p, hp, hm⟩, hq⟩

private theorem performs_iterateStep (h : Performs step P) (n : Nat) : Performs (iterateStep step n) (InRow P n) := by
  induction n with
  | zero => exact performs_self
  | succ n ih =>
      intro text cs hcs q
      rw [iterateStep, InRow]
      split
      · rename_i hempty
        rw [List.isEmpty_iff.1 hempty]
        simp
      · exact h.comp ih hcs q

private theorem mem_or_exists_fresh {found fresh : List Cursor}
    (hout : ∀ p ∈ found, ∀ m, p.Goes P m → m ∈ found ∨ m ∈ fresh)
    {n : Nat} {p : Cursor} (hp : p ∈ found) (h : p.Goes (InRow P n) q) :
    q ∈ found ∨ ∃ m ∈ fresh, ∃ k < n, m.Goes (InRow P k) q := by
  induction n generalizing p with
  | zero =>
      obtain rfl := Cursor.goes_nil.1 h
      exact .inl hp
  | succ n ih =>
      obtain ⟨m, hm, h⟩ := Cursor.goes_succ.1 h
      rcases hout p hp m hm with hfound | hfresh
      · rcases ih hfound h with hq | ⟨x, hx, k, hk, hrow⟩
        · exact .inl hq
        · exact .inr ⟨x, hx, k, Nat.lt_succ_of_lt hk, hrow⟩
      · exact .inr ⟨m, hfresh, n, Nat.lt_succ_self n, h⟩

private theorem mem_reachUpTo (h : Performs step P) (count : Nat) {frontier found : List Cursor}
    (hfound : ∀ c ∈ found, c.IsAt text) (hfrontier : ∀ c ∈ frontier, c ∈ found)
    (hclosed : ∀ p ∈ found, p ∉ frontier → ∀ m, p.Goes P m → m ∈ found) :
    q ∈ reachUpTo step count frontier found ↔ ∃ p ∈ found, ∃ n ≤ count, p.Goes (InRow P n) q := by
  induction count generalizing frontier found with
  | zero =>
      rw [reachUpTo]
      constructor
      · intro hq
        exact ⟨q, hq, 0, Nat.le_refl 0, Cursor.goes_nil.2 rfl⟩
      · rintro ⟨p, hp, n, hn, hgoes⟩
        obtain rfl := Nat.le_zero.1 hn
        exact Cursor.goes_nil.1 hgoes ▸ hp
  | succ count ih =>
      have hplaces : ∀ c ∈ frontier, c.IsAt text := fun c hc => hfound c (hfrontier c hc)
      have hfresh : ∀ {m}, m ∈ freshCursors found (step frontier) ↔ (∃ p ∈ frontier, p.Goes P m) ∧ m ∉ found := by
        intro m
        rw [mem_freshCursors hfound (h.isAt hplaces), h hplaces]
      have hout : ∀ p ∈ found, ∀ m, p.Goes P m → m ∈ found ∨ m ∈ freshCursors found (step frontier) := by
        intro p hp m hgoes
        by_cases hm : m ∈ found
        · exact .inl hm
        by_cases hlast : p ∈ frontier
        · exact .inr (hfresh.2 ⟨⟨p, hlast, hgoes⟩, hm⟩)
        · exact absurd (hclosed p hp hlast m hgoes) hm
      rw [reachUpTo]
      split
      · rename_i hnone
        constructor
        · intro hq
          exact ⟨q, hq, 0, Nat.zero_le _, Cursor.goes_nil.2 rfl⟩
        · rintro ⟨p, hp, n, -, hgoes⟩
          rcases mem_or_exists_fresh hout hp hgoes with hq | ⟨m, hm, -⟩
          · exact hq
          · rw [hnone] at hm
            cases hm
      · have hlater : ∀ c ∈ found ++ freshCursors found (step frontier), c.IsAt text := by
          refine List.forall_mem_append.2 ⟨hfound, fun c hc => ?_⟩
          obtain ⟨⟨p, hp, hgoes⟩, -⟩ := hfresh.1 hc
          exact hgoes.isAt (hplaces p hp)
        have hrest : ∀ p ∈ found ++ freshCursors found (step frontier), p ∉ freshCursors found (step frontier) →
            ∀ m, p.Goes P m → m ∈ found ++ freshCursors found (step frontier) := by
          intro p hp hold m hgoes
          exact List.mem_append.2 (hout p ((List.mem_append.1 hp).resolve_right hold) m hgoes)
        rw [ih hlater (fun c hc => List.mem_append_right _ hc) hrest]
        constructor
        · rintro ⟨p, hp, n, hn, hgoes⟩
          rcases List.mem_append.1 hp with hp | hp
          · exact ⟨p, hp, n, Nat.le_succ_of_le hn, hgoes⟩
          · obtain ⟨⟨x, hx, hstep⟩, -⟩ := hfresh.1 hp
            exact ⟨x, hfrontier x hx, n + 1, Nat.succ_le_succ hn, Cursor.goes_succ.2 ⟨p, hstep, hgoes⟩⟩
        · rintro ⟨p, hp, n, hn, hgoes⟩
          rcases mem_or_exists_fresh hout hp hgoes with hq | ⟨m, hm, k, hk, hrow⟩
          · exact ⟨q, List.mem_append_left _ hq, 0, Nat.zero_le _, Cursor.goes_nil.2 rfl⟩
          · exact ⟨m, List.mem_append_right _ hm, k, by omega, hrow⟩

private theorem length_lt_reachBound {c : Cursor} (hc : c ∈ cs) : c.after.length < reachBound cs := by
  have hfold : ∀ (cs : List Cursor) (n : Nat), n ≤ cs.foldl (fun n c => max n c.after.length) n ∧
      ∀ c ∈ cs, c.after.length ≤ cs.foldl (fun n c => max n c.after.length) n := by
    intro cs
    induction cs with
    | nil =>
        intro n
        exact ⟨Nat.le_refl n, nofun⟩
    | cons d cs ih =>
        intro n
        obtain ⟨hstart, hall⟩ := ih (max n d.after.length)
        refine ⟨Nat.le_trans (Nat.le_max_left _ _) hstart, List.forall_mem_cons.2 ⟨?_, hall⟩⟩
        exact Nat.le_trans (Nat.le_max_right _ _) hstart
  exact Nat.lt_succ_of_le ((hfold cs 0).2 c hc)

end Steps

/-! ### Expressions -/

/-- How many rounds a repetition goes on for after the pieces that it needs. -/
def roundsBeyond (min : Nat) (max : Option Nat) (cs : List Cursor) : Nat :=
  match max with
  | none => reachBound cs
  | some m => m - min

private theorem reach_repetition (body : Core) (min : Nat) (max : Option Nat) (cs : List Cursor) :
    (Core.rep min max body).reach cs = reachUpTo body.reach (roundsBeyond min max (iterateStep body.reach min cs))
      (iterateStep body.reach min cs) (iterateStep body.reach min cs) := by
  rw [Core.reach.eq_def]
  cases max <;> rfl

private theorem performs_repetition {body : Core} (h : Performs body.reach body.Matches) (min : Nat)
    (max : Option Nat) : Performs (Core.rep min max body).reach (Core.rep min max body).Matches := by
  intro text cs hcs q
  have hfirst := performs_iterateStep h min hcs
  have hplaces := Performs.isAt (performs_iterateStep h min) hcs
  have hgoes : ∀ p, Cursor.Goes (Core.rep min max body).Matches p q ↔
      ∃ n, min ≤ n ∧ (∀ m ∈ max, n ≤ Nat.max min m) ∧ p.Goes (InRow body.Matches n) q := by
    intro p
    constructor
    · rintro ⟨piece, hafter, hbefore, n, hmin, hmax, hrow⟩
      exact ⟨n, hmin, hmax, piece, hafter, hbefore, hrow⟩
    · rintro ⟨n, hmin, hmax, piece, hafter, hbefore, hrow⟩
      exact ⟨piece, hafter, hbefore, n, hmin, hmax, hrow⟩
  rw [reach_repetition, mem_reachUpTo h _ hplaces (fun c hc => hc) fun p hp hnot => absurd hp hnot]
  simp only [hfirst, hgoes]
  constructor
  · rintro ⟨m, ⟨p, hp, hm⟩, n, hn, hrow⟩
    refine ⟨p, hp, min + n, Nat.le_add_right min n, ?_, Cursor.goes_add.2 ⟨m, hm, hrow⟩⟩
    rintro high rfl
    have hle : n ≤ high - min := hn
    have hleft : min ≤ Nat.max min high := Nat.le_max_left _ _
    have hright : high ≤ Nat.max min high := Nat.le_max_right _ _
    omega
  · rintro ⟨p, hp, n, hmin, hmax, hrow⟩
    obtain ⟨n, rfl⟩ := Nat.exists_eq_add_of_le hmin
    obtain ⟨m, hm, hrow⟩ := Cursor.goes_add.1 hrow
    cases max with
    | none =>
        obtain ⟨k, hk, hrow⟩ := Cursor.exists_short hrow
        have hbound := length_lt_reachBound ((hfirst m).2 ⟨p, hp, hm⟩)
        exact ⟨m, ⟨p, hp, hm⟩, k, Nat.le_of_lt (Nat.lt_of_le_of_lt hk hbound), hrow⟩
    | some high =>
        have hle : min + n ≤ Nat.max min high := hmax high rfl
        refine ⟨m, ⟨p, hp, hm⟩, n, ?_, hrow⟩
        show n ≤ high - min
        rcases Nat.le_total min high with horder | horder
        · rw [Nat.max_eq_max, Nat.max_eq_right horder] at hle
          omega
        · rw [Nat.max_eq_max, Nat.max_eq_left horder] at hle
          omega

theorem performs_reach (e : Core) : Performs e.reach e.Matches := by
  induction e with
  | empty =>
      intro text cs hcs q
      rw [Core.reach]
      exact performs_self hcs q
  | chars s =>
      intro text cs hcs q
      rw [Core.reach, List.mem_filterMap]
      refine exists_congr fun p => and_congr_right fun _ => ?_
      obtain ⟨before, after⟩ := p
      constructor
      · intro hstep
        cases after with
        | nil => cases hstep
        | cons c after =>
            rw [Cursor.step?] at hstep
            dsimp only at hstep
            split at hstep
            · rename_i hc
              cases hstep
              exact ⟨[c], rfl, rfl, c, rfl, hc⟩
            · cases hstep
      · rintro ⟨_, hafter, hbefore, c, rfl, hc⟩
        obtain rfl : after = c :: q.after := hafter
        rw [Cursor.step?]
        dsimp only
        rw [if_pos hc]
        exact congrArg (fun b => some (Cursor.mk b q.after)) hbefore.symm
  | look l =>
      intro text cs hcs q
      rw [Core.reach, List.mem_filter]
      constructor
      · rintro ⟨hq, hholds⟩
        exact ⟨q, hq, [], rfl, rfl, rfl, hholds⟩
      · rintro ⟨p, hp, _, hafter, hbefore, rfl, hholds⟩
        obtain rfl : p = q := Cursor.goes_nil.1 ⟨[], hafter, hbefore, rfl⟩
        exact ⟨hp, hholds⟩
  | seq a b iha ihb =>
      intro text cs hcs q
      rw [Core.reach]
      exact iha.comp ihb hcs q
  | alt a b iha ihb =>
      intro text cs hcs q
      rw [Core.reach, List.mem_append, mem_freshCursors (iha.isAt hcs) (ihb.isAt hcs), iha hcs, ihb hcs]
      have hgoes : ∀ p, Cursor.Goes (Core.alt a b).Matches p q ↔ p.Goes a.Matches q ∨ p.Goes b.Matches q :=
        fun p => Cursor.goes_or
      simp only [hgoes, and_or_left, exists_or]
      constructor
      · rintro (hleft | ⟨hright, -⟩)
        · exact .inl hleft
        · exact .inr hright
      · intro h
        by_cases hleft : ∃ p ∈ cs, p.Goes a.Matches q
        · exact .inl hleft
        · exact .inr ⟨h.resolve_left hleft, fun hmem => hleft hmem⟩
  | rep min max body ih => exact performs_repetition ih min max

theorem matches_iff_mem_reach {e : Core} {before text after : List Char} :
    e.Matches before text after ↔ ⟨text.reverse ++ before, after⟩ ∈ e.reach [⟨before, text ++ after⟩] := by
  rw [performs_reach e (List.forall_mem_singleton.2 rfl)]
  constructor
  · intro h
    exact ⟨_, List.mem_singleton_self _, text, rfl, rfl, h⟩
  · rintro ⟨_, hp, piece, hafter, -, h⟩
    obtain rfl := List.mem_singleton.1 hp
    obtain rfl : text = piece := List.append_cancel_right hafter
    exact h

theorem matches_congr {e e' : Core} (h : ∀ cs, e.reach cs = e'.reach cs) {before text after : List Char} :
    e.Matches before text after ↔ e'.Matches before text after := by
  rw [matches_iff_mem_reach, matches_iff_mem_reach, h]

end CorpusSearch.Regex
