import CorpusSearch.Text.Expression
import Mathlib.Tactic.Common

/-!
Characters with a meaning in expressions. Lower case and stripped diacritics never bring one into a text, and letters
and numbers are none, so that a text of letters and numbers stands for itself in whatever form it is matched.
-/

set_option autoImplicit false

namespace CorpusSearch

namespace Text

/-- The characters that mean something other than themselves outside escapes and classes. -/
def operators : List Char := "\\.+*?()|[\x7b^$".toList

def IsPlain (c : Char) : Prop := c ∉ operators

instance (c : Char) : Decidable (IsPlain c) := inferInstanceAs (Decidable (c ∉ operators))

theorem isPlain_of_isAlphanumeric {c : Char} (h : Unicode.isAlphanumeric c = true) : IsPlain c := by
  intro hmem
  have hall : operators.all (fun d => !Unicode.isAlphanumeric d) = true := by decide +kernel
  have hnone := List.all_eq_true.1 hall c hmem
  rw [h] at hnone
  cases hnone

/-- Ranges of code points between the operators: all letters, and everything beyond ASCII. -/
def awayFromOperators (n : Nat) : Bool :=
  0x80 ≤ n || (0x60 ≤ n && n ≤ 0x7A) || (0x41 ≤ n && n ≤ 0x5A) || (0x3B ≤ n && n ≤ 0x3E) || n = 0

private theorem awayFromOperators_iff {n : Nat} : awayFromOperators n = true ↔
    (((0x80 ≤ n ∨ 0x60 ≤ n ∧ n ≤ 0x7A) ∨ 0x41 ≤ n ∧ n ≤ 0x5A) ∨ 0x3B ≤ n ∧ n ≤ 0x3E) ∨ n = 0 := by
  simp [awayFromOperators]

private theorem awayFromOperators_of_le {n : Nat} (h : 0x80 ≤ n) : awayFromOperators n = true := by
  rw [awayFromOperators_iff]
  omega

def SetApart (special : List Char) : Prop := ∀ c ∈ special, awayFromOperators c.toNat = false

instance (special : List Char) : Decidable (SetApart special) :=
  List.decidableBAll _ special

private theorem setApart_operators : SetApart operators := by decide

theorem setApart_metaCharacters : SetApart metaCharacters := by decide

section SetApart

variable {special : List Char} {c : Char} {n : Nat}

private theorem notMem_iff_code : c ∉ special ↔ c.toNat ∉ special.map Char.toNat := by
  rw [List.mem_map, not_iff_not]
  constructor
  · intro h
    exact ⟨c, h, rfl⟩
  · rintro ⟨d, hd, hcode⟩
    rwa [← Char.toNat_inj.1 hcode]

private theorem SetApart.code_notMem (hspecial : SetApart special) (h : awayFromOperators n = true) :
    n ∉ special.map Char.toNat := by
  intro hmem
  obtain ⟨c, hc, rfl⟩ := List.mem_map.1 hmem
  rw [hspecial c hc] at h
  cases h

private theorem SetApart.ofNat_notMem (hspecial : SetApart special) (h : n ∉ special.map Char.toNat) :
    Char.ofNat n ∉ special := by
  rw [notMem_iff_code]
  by_cases hvalid : n.isValidChar
  · rw [Char.ofNat, dif_pos hvalid]
    exact h
  · rw [Char.ofNat, dif_neg hvalid]
    exact hspecial.code_notMem (by decide)

end SetApart

end Text

namespace Unicode

open Text (SetApart awayFromOperators awayFromOperators_iff awayFromOperators_of_le notMem_iff_code)

section SetApart

variable {special : List Char} (hspecial : SetApart special)

/-! ### Lower case -/

include hspecial

private theorem toLower_notMem {c : Char} (h : c ∉ special) : c.toLower ∉ special := by
  by_cases hupper : c.val ≥ 'A'.val ∧ c.val ≤ 'Z'.val
  · have hlow : 65 ≤ c.val.toNat := UInt32.le_iff_toNat_le.1 hupper.1
    have hhigh : c.val.toNat ≤ 90 := UInt32.le_iff_toNat_le.1 hupper.2
    have hcode : c.toLower.toNat = (c.val.toNat + 32) % 4294967296 := by
      delta Char.toLower
      rw [dif_pos hupper]
      exact UInt32.toNat_add c.val 32
    rw [Nat.mod_eq_of_lt (by omega)] at hcode
    rw [notMem_iff_code]
    refine hspecial.code_notMem (awayFromOperators_iff.2 ?_)
    omega
  · delta Char.toLower
    rw [dif_neg hupper]
    exact h

private theorem apply_notMem {s : Shift} (hs : s ∈ lowercaseShifts) {n : Nat} (hn : s.moves n = true) :
    s.apply n ∉ special.map Char.toNat := by
  have hall : ∀ s ∈ lowercaseShifts,
      0x80 ≤ s.image ∨ 0x61 ≤ s.image ∧ s.image + (s.last - s.first) ≤ 0x7A := by decide +kernel
  rw [Shift.moves, Bool.and_eq_true, Bool.and_eq_true, decide_eq_true_iff, decide_eq_true_iff] at hn
  refine hspecial.code_notMem (awayFromOperators_iff.2 ?_)
  rw [Shift.apply]
  rcases hall s hs with himage | ⟨hlow, hhigh⟩
  · omega
  · omega

private theorem notMem_of_away {c : Char} (h : awayFromOperators c.toNat = true) : c ∉ special :=
  notMem_iff_code.2 (hspecial.code_notMem h)

private theorem notMem_of_mem_lowercaseChar {c d : Char} (h : c ∉ special) (hd : d ∈ lowercaseChar c) :
    d ∉ special := by
  unfold lowercaseChar at hd
  split at hd
  · rw [List.mem_singleton.1 hd]
    exact toLower_notMem hspecial h
  · split at hd
    · rcases List.mem_cons.1 hd with rfl | hd
      · exact notMem_of_away hspecial (by decide)
      · rw [List.mem_singleton.1 hd]
        exact notMem_of_away hspecial (by decide)
    · rw [List.mem_singleton.1 hd, Shift.image?]
      cases hfind : lowercaseShifts.find? fun s => s.moves c.toNat with
      | none => exact h
      | some s =>
          exact hspecial.ofNat_notMem (apply_notMem hspecial (List.mem_of_find?_eq_some hfind)
            (List.find?_some (p := fun s : Shift => s.moves c.toNat) hfind))

private theorem notMem_of_mem_lowercaseAfter {before text : List Char} (h : ∀ c ∈ text, c ∉ special) :
    ∀ d ∈ lowercaseAfter before text, d ∉ special := by
  induction text generalizing before with
  | nil =>
      intro d hd
      cases hd
  | cons c text ih =>
      intro d hd
      rw [lowercaseAfter, List.mem_append] at hd
      rcases hd with hd | hd
      · split at hd
        · rw [List.mem_singleton.1 hd]
          split
          · exact notMem_of_away hspecial (by decide)
          · exact notMem_of_away hspecial (by decide)
        · exact notMem_of_mem_lowercaseChar hspecial (h c List.mem_cons_self) hd
      · exact ih (fun c hc => h c (List.mem_cons_of_mem _ hc)) d hd

/-! ### Decomposition and composition -/

omit hspecial in
private theorem away_of_decomposition {d : Decomposition} (hd : d ∈ decompositions) :
    awayFromOperators d.whole = true ∧ awayFromOperators d.first = true ∧ awayFromOperators d.second = true := by
  have hall : (decompositions.all fun d => awayFromOperators d.whole && awayFromOperators d.first
      && awayFromOperators d.second) = true := by decide +kernel
  have hparts := List.all_eq_true.1 hall d hd
  rw [Bool.and_eq_true, Bool.and_eq_true] at hparts
  exact ⟨hparts.1.1, hparts.1.2, hparts.2⟩

omit hspecial in
private theorem Hangul.le_of_mem_decompose {n m : Nat} (h : m ∈ decompose n) : 0x80 ≤ m := by
  have hbases : 0x80 ≤ leadBase ∧ 0x80 ≤ vowelBase ∧ 0x80 ≤ tailBase := by decide
  unfold decompose at h
  dsimp only at h
  have hmem : m ∈ [leadBase + (n - syllableBase) / (vowelCount * tailCount),
      vowelBase + (n - syllableBase) % (vowelCount * tailCount) / tailCount,
      tailBase + (n - syllableBase) % tailCount] := by
    split at h
    · exact List.mem_append_left [_] h
    · exact h
  simp only [List.mem_cons, List.not_mem_nil, or_false] at hmem
  rcases hmem with hm | hm | hm
  · exact hm ▸ Nat.le_trans hbases.1 (Nat.le_add_right _ _)
  · exact hm ▸ Nat.le_trans hbases.2.1 (Nat.le_add_right _ _)
  · exact hm ▸ Nat.le_trans hbases.2.2 (Nat.le_add_right _ _)

omit hspecial in
private theorem Hangul.le_of_compose? {a b n : Nat} (h : compose? a b = some n) : 0x80 ≤ n ∧ 0x80 ≤ a ∧ 0x80 ≤ b := by
  have hbases : 0x80 ≤ syllableBase ∧ 0x80 ≤ leadBase ∧ 0x80 ≤ vowelBase ∧ 0x80 ≤ tailBase := by decide
  unfold compose? at h
  split at h
  · rename_i hlead
    simp only [Bool.and_eq_true, decide_eq_true_iff] at hlead
    rw [← Option.some.inj h]
    exact ⟨Nat.le_trans hbases.1 (Nat.le_add_right _ _), Nat.le_trans hbases.2.1 hlead.1.1.1,
      Nat.le_trans hbases.2.2.1 hlead.1.2⟩
  · split at h
    · rename_i hsyllable
      simp only [isSyllable, Bool.and_eq_true, decide_eq_true_iff] at hsyllable
      rw [← Option.some.inj h]
      have ha := Nat.le_trans hbases.1 hsyllable.1.1.1.1
      exact ⟨Nat.le_trans ha (Nat.le_add_right _ _), ha, Nat.le_trans hbases.2.2.2 (Nat.le_of_lt hsyllable.1.2)⟩
    · cases h

private theorem mem_of_decomposeCodePoint {fuel n m : Nat} (h : m ∈ decomposeCodePoint fuel n)
    (hm : m ∈ special.map Char.toNat) : n ∈ special.map Char.toNat := by
  induction fuel generalizing n with
  | zero =>
      rw [decomposeCodePoint, List.mem_singleton] at h
      rwa [← h]
  | succ fuel ih =>
      rw [decomposeCodePoint] at h
      split at h
      · rw [List.mem_singleton] at h
        rwa [← h]
      · split at h
        · exact absurd hm (hspecial.code_notMem (awayFromOperators_of_le (Hangul.le_of_mem_decompose h)))
        · split at h
          · rw [List.mem_singleton] at h
            rwa [← h]
          · rename_i d hfind
            obtain ⟨-, hfirst, hsecond⟩ := away_of_decomposition (List.mem_of_find?_eq_some hfind)
            rcases List.mem_append.1 h with h | h
            · exact absurd (ih h) (hspecial.code_notMem hfirst)
            · split at h
              · cases h
              · exact absurd (ih h) (hspecial.code_notMem hsecond)

private theorem notMem_of_mem_decomposeChar {c d : Char} (h : c ∉ special) (hd : d ∈ decomposeChar c) :
    d ∉ special := by
  obtain ⟨m, hm, rfl⟩ := List.mem_map.1 hd
  refine hspecial.ofNat_notMem fun hmem => ?_
  exact notMem_iff_code.1 h (mem_of_decomposeCodePoint hspecial hm hmem)

omit hspecial in
private theorem mem_insertMark {m c : Char} {text : List Char} (h : c ∈ insertMark m text) : c = m ∨ c ∈ text := by
  induction text with
  | nil => exact .inl (List.mem_singleton.1 h)
  | cons d text ih =>
      rw [insertMark] at h
      split at h
      · exact List.mem_cons.1 h
      · rcases List.mem_cons.1 h with rfl | h
        · exact .inr List.mem_cons_self
        · rcases ih h with rfl | h
          · exact .inl rfl
          · exact .inr (List.mem_cons_of_mem _ h)

omit hspecial in
private theorem mem_orderMarks {c : Char} {run text : List Char} (h : c ∈ orderMarks run text) :
    c ∈ run ∨ c ∈ text := by
  induction text generalizing run with
  | nil => exact .inl h
  | cons d text ih =>
      rw [orderMarks] at h
      split at h
      · rcases List.mem_append.1 h with h | h
        · exact .inl h
        · rcases List.mem_cons.1 h with rfl | h
          · exact .inr List.mem_cons_self
          · rcases ih h with h | h
            · cases h
            · exact .inr (List.mem_cons_of_mem _ h)
      · rcases ih h with h | h
        · rcases mem_insertMark h with rfl | h
          · exact .inr List.mem_cons_self
          · exact .inl h
        · exact .inr (List.mem_cons_of_mem _ h)

private theorem notMem_of_mem_decompose {text : List Char} (h : ∀ c ∈ text, c ∉ special) :
    ∀ d ∈ decompose text, d ∉ special := by
  intro d hd
  rcases mem_orderMarks hd with hd | hd
  · cases hd
  · obtain ⟨c, hc, hd⟩ := List.mem_flatMap.1 hd
    exact notMem_of_mem_decomposeChar hspecial (h c hc) hd

theorem notMem_of_composePair? {a b c : Char} (h : composePair? a b = some c) :
    c ∉ special ∧ a ∉ special ∧ b ∉ special := by
  unfold composePair? at h
  split at h
  · rename_i n hn
    obtain ⟨hwhole, hfirst, hsecond⟩ := Hangul.le_of_compose? hn
    rw [← Option.some.inj h]
    exact ⟨hspecial.ofNat_notMem (hspecial.code_notMem (awayFromOperators_of_le hwhole)),
      notMem_of_away hspecial (awayFromOperators_of_le hfirst),
      notMem_of_away hspecial (awayFromOperators_of_le hsecond)⟩
  · obtain ⟨d, hfind, rfl⟩ := Option.map_eq_some_iff.1 h
    obtain ⟨hwhole, hfirst, hsecond⟩ := away_of_decomposition (List.mem_filter.1 (List.mem_of_find?_eq_some hfind)).1
    have hpair := List.find?_some hfind
    rw [Bool.and_eq_true, decide_eq_true_iff, decide_eq_true_iff] at hpair
    rw [hpair.1] at hfirst
    rw [hpair.2] at hsecond
    exact ⟨hspecial.ofNat_notMem (hspecial.code_notMem hwhole), notMem_of_away hspecial hfirst,
      notMem_of_away hspecial hsecond⟩

omit hspecial in
/-- The next character joins the starter, or is set behind it, or is a starter itself. -/
theorem composeAfter_cons (starter c : Char) (skipped : List Char) : ∃ free : Bool, ∀ text,
    composeAfter starter skipped (c :: text) =
      match if free then composePair? starter c else none with
      | some joined => composeAfter joined skipped text
      | none =>
        if combiningClass c = 0 then starter :: skipped.reverse ++ composeAfter c [] text
        else composeAfter starter (c :: skipped) text := ⟨_, fun _ => rfl⟩

private theorem notMem_of_mem_composeAfter {starter : Char} {skipped text : List Char} (hstarter : starter ∉ special)
    (hskipped : ∀ c ∈ skipped, c ∉ special) (h : ∀ c ∈ text, c ∉ special) :
    ∀ d ∈ composeAfter starter skipped text, d ∉ special := by
  induction text generalizing starter skipped with
  | nil =>
      intro d hd
      rw [composeAfter, List.mem_cons, List.mem_reverse] at hd
      rcases hd with rfl | hd
      · exact hstarter
      · exact hskipped d hd
  | cons c text ih =>
      have hc := h c List.mem_cons_self
      have htext : ∀ c ∈ text, c ∉ special := fun c hc => h c (List.mem_cons_of_mem _ hc)
      obtain ⟨free, hfree⟩ := composeAfter_cons starter c skipped
      rw [hfree]
      cases hjoined : if free then composePair? starter c else none with
      | some joined =>
          refine ih ?_ hskipped htext
          split at hjoined
          · exact (notMem_of_composePair? hspecial hjoined).1
          · cases hjoined
      | none =>
          dsimp only
          split
          · intro d hd
            rcases List.mem_append.1 hd with hd | hd
            · rcases List.mem_cons.1 hd with rfl | hd
              · exact hstarter
              · exact hskipped d (List.mem_reverse.1 hd)
            · exact ih hc (List.forall_mem_nil _) htext d hd
          · exact ih hstarter (List.forall_mem_cons.2 ⟨hc, hskipped⟩) htext

private theorem notMem_of_mem_composeDecomposed {text : List Char} (h : ∀ c ∈ text, c ∉ special) :
    ∀ d ∈ composeDecomposed text, d ∉ special := by
  induction text with
  | nil =>
      intro d hd
      cases hd
  | cons c text ih =>
      have hc := h c List.mem_cons_self
      have htext : ∀ c ∈ text, c ∉ special := fun c hc => h c (List.mem_cons_of_mem _ hc)
      rw [composeDecomposed]
      split
      · exact notMem_of_mem_composeAfter hspecial hc (List.forall_mem_nil _) htext
      · exact List.forall_mem_cons.2 ⟨hc, ih htext⟩

end SetApart

end Unicode

/-! ### The form in which values are indexed -/

namespace Sensitivity

variable {special : List Char} (hspecial : Text.SetApart special) {text : List Char}

include hspecial

theorem notMem_of_mem_stripMarks (h : ∀ c ∈ text, c ∉ special) : ∀ d ∈ stripMarks text, d ∉ special := by
  have hdecomposed : ∀ d ∈ (Unicode.decompose text).filter fun c => !Unicode.isMark c, d ∉ special := by
    intro d hd
    exact Unicode.notMem_of_mem_decompose hspecial h d (List.mem_filter.1 hd).1
  exact Unicode.notMem_of_mem_composeDecomposed hspecial (Unicode.notMem_of_mem_decompose hspecial hdecomposed)

private theorem notMem_of_mem_desensitizeChars (s : Sensitivity) (h : ∀ c ∈ text, c ∉ special) :
    ∀ d ∈ s.desensitizeChars text, d ∉ special := by
  have hstripped := notMem_of_mem_stripMarks hspecial h
  unfold desensitizeChars
  cases s.isDiacriticsSensitive <;> cases s.isCaseSensitive
  · exact Unicode.notMem_of_mem_lowercaseAfter hspecial hstripped
  · exact hstripped
  · exact Unicode.notMem_of_mem_lowercaseAfter hspecial h
  · exact h

end Sensitivity

theorem Sensitivity.isPlain_desensitizeChars (s : Sensitivity) {text : List Char}
    (h : ∀ c ∈ text, Text.IsPlain c) : ∀ d ∈ s.desensitizeChars text, Text.IsPlain d :=
  s.notMem_of_mem_desensitizeChars Text.setApart_operators h

namespace Text

private theorem desensitizeRuns_plain (s : Sensitivity) {run text : List Char} (h : ∀ c ∈ text, IsPlain c) :
    desensitizeRuns s .plain run text = s.desensitizeChars (run.reverse ++ text) := by
  induction text generalizing run with
  | nil => rw [desensitizeRuns, List.append_nil]
  | cons c text ih =>
      have hc : c ≠ '\\' := by
        rintro rfl
        exact h _ List.mem_cons_self (by decide)
      rw [desensitizeRuns, if_neg hc, ih fun c hc => h c (List.mem_cons_of_mem _ hc)]
      simp

theorem desensitizeExpression_plain (s : Sensitivity) {expression : String}
    (h : ∀ c ∈ expression.toList, IsPlain c) :
    desensitizeExpression expression s = s.desensitize expression := by
  unfold desensitizeExpression
  split
  · rename_i hs
    rw [hs, Sensitivity.desensitize]
    simp [Sensitivity.desensitizeChars, Sensitivity.isDiacriticsSensitive, Sensitivity.isCaseSensitive]
  · rw [desensitizeRuns_plain s h]
    rfl

theorem eq_append_of_unsnoc? {text before : List Char} {c : Char} (h : unsnoc? text = some (before, c)) :
    text = before ++ [c] := by
  induction text generalizing before with
  | nil => cases h
  | cons d text ih =>
      cases text with
      | nil =>
          obtain ⟨rfl, rfl⟩ := Prod.mk.inj (Option.some.inj h)
          rfl
      | cons e text =>
          obtain ⟨⟨init, last⟩, hrest, heq⟩ := Option.map_eq_some_iff.1 h
          obtain ⟨rfl, rfl⟩ := Prod.mk.inj heq
          rw [ih hrest]
          rfl

theorem stripAnchors_eq_self {expression : String} (hfirst : expression.toList.head? ≠ some '^')
    (hlast : ∀ before, expression.toList = before ++ ['$'] → endsEscaping before = true) :
    stripAnchors expression = expression := by
  have hbody : expression.toList.dropWhile (fun c => c = '^') = expression.toList := by
    cases htext : expression.toList with
    | nil => rfl
    | cons c text =>
        have hc : c ≠ '^' := by
          rintro rfl
          exact hfirst (congrArg List.head? htext)
        rw [List.dropWhile_cons_of_neg (by simpa using hc)]
  have hstrip : stripAnchorChars expression.toList = expression.toList := by
    rw [stripAnchorChars, hbody]
    split
    · rename_i before hunsnoc
      rw [if_pos (hlast before (eq_append_of_unsnoc? hunsnoc))]
    · rfl
  rw [stripAnchors, hstrip, String.ofList_toList]

theorem stripAnchors_plain {expression : String} (h : ∀ c ∈ expression.toList, IsPlain c) :
    stripAnchors expression = expression := by
  refine stripAnchors_eq_self (fun hfirst => ?_) fun before hlast => ?_
  · exact absurd (by decide) (h '^' (List.mem_of_mem_head? hfirst))
  · have hmem : '$' ∈ expression.toList := by
      rw [hlast]
      simp
    exact absurd (by decide) (h '$' hmem)

end Text

end CorpusSearch
