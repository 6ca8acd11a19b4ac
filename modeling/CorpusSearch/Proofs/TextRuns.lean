import CorpusSearch.Proofs.ExpressionCharacters

/-!
Texts run by run. The characters that are escaped in expressions split a text into runs. Diacritics are stripped from a
text as from each of its runs, since these characters have no part in any composition; lower case looks further only
at a capital sigma, to see whether it ends a word. Main statement: a text and its runs are desensitized alike exactly
if case counts, or if every capital sigma ends a word of the text where it ends one of its run.
-/

set_option autoImplicit false

namespace CorpusSearch

namespace Text

/-- Applies a function to each run of characters that are not escaped; `run` holds the current one in reverse. -/
def mapRuns (f : List Char → List Char) : List Char → List Char → List Char
  | run, [] => f run.reverse
  | run, c :: rest =>
    if c ∈ metaCharacters then f run.reverse ++ c :: mapRuns f [] rest else mapRuns f (c :: run) rest

def firstRun (text : List Char) : List Char := text.takeWhile fun c => c ∉ metaCharacters

def IsRun (text : List Char) : Prop := ∀ c ∈ text, c ∉ metaCharacters

/-- Whether a function takes a text apart at the characters that are escaped, and keeps these. -/
def SplitsRuns (f : List Char → List Char) : Prop :=
  ∀ m ∈ metaCharacters, ∀ before after, f (before ++ m :: after) = f before ++ m :: f after

section

variable {f g : List Char → List Char} {run text before after : List Char} {c m : Char}

theorem IsRun.cons (hc : c ∉ metaCharacters) (h : IsRun text) : IsRun (c :: text) := List.forall_mem_cons.2 ⟨hc, h⟩

theorem IsRun.reverse (h : IsRun text) : IsRun text.reverse := fun c hc => h c (List.mem_reverse.1 hc)

private theorem IsRun.of_cons (h : IsRun (c :: text)) : c ∉ metaCharacters ∧ IsRun text := List.forall_mem_cons.1 h

theorem mapRuns_cons_of_mem (hm : m ∈ metaCharacters) :
    mapRuns f run (m :: text) = f run.reverse ++ m :: mapRuns f [] text := if_pos hm

theorem mapRuns_cons_of_notMem (hc : c ∉ metaCharacters) :
    mapRuns f run (c :: text) = mapRuns f (c :: run) text := if_neg hc

theorem mapRuns_of_splits (h : SplitsRuns f) : mapRuns f run text = f (run.reverse ++ text) := by
  induction text generalizing run with
  | nil => rw [mapRuns, List.append_nil]
  | cons c text ih =>
      by_cases hc : c ∈ metaCharacters
      · rw [mapRuns_cons_of_mem hc, ih, h c hc]
        rfl
      · rw [mapRuns_cons_of_notMem hc, ih]
        simp

private theorem mapRuns_append (hrun : IsRun before) :
    mapRuns f run (before ++ after) = mapRuns f (before.reverse ++ run) after := by
  induction before generalizing run with
  | nil => rfl
  | cons c before ih =>
      obtain ⟨hc, hrun⟩ := hrun.of_cons
      rw [List.cons_append, mapRuns_cons_of_notMem hc, ih hrun]
      simp

private theorem mapRuns_comp (hf : SplitsRuns f) (hclean : ∀ {text}, IsRun text → IsRun (f text)) (hrun : IsRun run) :
    mapRuns (fun text => g (f text)) run text = mapRuns g [] (f (run.reverse ++ text)) := by
  induction text generalizing run with
  | nil =>
      have hend : mapRuns g [] (f run.reverse ++ []) = _ := mapRuns_append (hclean hrun.reverse)
      rw [List.append_nil] at hend
      rw [List.append_nil, hend, mapRuns, mapRuns]
      simp
  | cons c text ih =>
      by_cases hc : c ∈ metaCharacters
      · rw [mapRuns_cons_of_mem hc, ih (List.forall_mem_nil _), hf c hc, mapRuns_append (hclean hrun.reverse),
          mapRuns_cons_of_mem hc]
        simp
      · rw [mapRuns_cons_of_notMem hc, ih (hrun.cons hc)]
        simp

private theorem firstRun_cons_of_mem (hm : m ∈ metaCharacters) : firstRun (m :: text) = [] :=
  List.takeWhile_cons_of_neg (by simpa using hm)

private theorem firstRun_cons_of_notMem (hc : c ∉ metaCharacters) : firstRun (c :: text) = c :: firstRun text :=
  List.takeWhile_cons_of_pos (by simpa using hc)

private theorem firstRun_append (hrun : IsRun before) (hafter : firstRun after = []) :
    firstRun (before ++ after) = before := by
  induction before with
  | nil => exact hafter
  | cons c before ih =>
      obtain ⟨hc, hrun⟩ := hrun.of_cons
      rw [List.cons_append, firstRun_cons_of_notMem hc, ih hrun]

end

end Text

open Text (metaCharacters mapRuns firstRun IsRun SplitsRuns)

/-! ### Decomposition and composition -/

namespace Unicode

variable {m : Char}

private theorem decomposeChar_meta (hm : m ∈ metaCharacters) : decomposeChar m = [m] := by
  have hall : ∀ m ∈ metaCharacters, m.toNat < 0xC0 := by decide
  rw [decomposeChar, decomposeCodePoint, if_pos (hall m hm), List.map_singleton, Char.ofNat_toNat]

private theorem combiningClass_meta (hm : m ∈ metaCharacters) : combiningClass m = 0 := by
  have hall : ∀ m ∈ metaCharacters, m.toNat < 0x300 := by decide
  rw [combiningClass, if_pos (hall m hm)]

private theorem isMark_meta (hm : m ∈ metaCharacters) : isMark m = false := by
  have hall : metaCharacters.all (fun m => !isMark m) = true := by decide +kernel
  simpa using List.all_eq_true.1 hall m hm

private theorem orderMarks_append (hm : combiningClass m = 0) (run before after : List Char) :
    orderMarks run (before ++ m :: after) = orderMarks run before ++ m :: orderMarks [] after := by
  induction before generalizing run with
  | nil =>
      have hstarter : orderMarks run (m :: after) = run ++ m :: orderMarks [] after := if_pos hm
      rw [List.nil_append, hstarter, orderMarks]
  | cons c before ih =>
      rw [List.cons_append, orderMarks, orderMarks]
      split
      · rw [ih]
        simp
      · exact ih _

private theorem splitsRuns_decompose : SplitsRuns decompose := by
  intro m hm before after
  rw [decompose, List.flatMap_append, List.flatMap_cons, decomposeChar_meta hm]
  exact orderMarks_append (combiningClass_meta hm) [] _ _

private theorem composePair?_meta_left (hm : m ∈ metaCharacters) (c : Char) : composePair? m c = none := by
  cases hjoined : composePair? m c with
  | none => rfl
  | some joined => exact absurd hm (notMem_of_composePair? Text.setApart_metaCharacters hjoined).2.1

private theorem composePair?_meta_right (hm : m ∈ metaCharacters) (c : Char) : composePair? c m = none := by
  cases hjoined : composePair? c m with
  | none => rfl
  | some joined => exact absurd hm (notMem_of_composePair? Text.setApart_metaCharacters hjoined).2.2

private theorem composeAfter_meta (hm : m ∈ metaCharacters) (skipped text : List Char) :
    composeAfter m skipped text = m :: skipped.reverse ++ composeDecomposed text := by
  induction text generalizing skipped with
  | nil => rw [composeAfter, composeDecomposed, List.append_nil]
  | cons c text ih =>
      obtain ⟨free, hfree⟩ := composeAfter_cons m c skipped
      rw [hfree, composePair?_meta_left hm, ite_self, composeDecomposed]
      dsimp only
      split
      · rfl
      · rw [ih]
        simp

private theorem composeAfter_append (hm : m ∈ metaCharacters) (starter : Char) (skipped before after : List Char) :
    composeAfter starter skipped (before ++ m :: after) =
      composeAfter starter skipped before ++ m :: composeDecomposed after := by
  induction before generalizing starter skipped with
  | nil =>
      obtain ⟨free, hfree⟩ := composeAfter_cons starter m skipped
      rw [List.nil_append, hfree, composePair?_meta_right hm, ite_self]
      dsimp only
      rw [if_pos (combiningClass_meta hm), composeAfter_meta hm, composeAfter]
      simp
  | cons c before ih =>
      obtain ⟨free, hfree⟩ := composeAfter_cons starter c skipped
      rw [List.cons_append, hfree, hfree]
      split
      · exact ih _ _
      · split
        · rw [ih]
          simp
        · exact ih _ _

private theorem splitsRuns_composeDecomposed : SplitsRuns composeDecomposed := by
  intro m hm before after
  induction before with
  | nil =>
      have hstarter : composeDecomposed (m :: after) = composeAfter m [] after := if_pos (combiningClass_meta hm)
      rw [List.nil_append, hstarter, composeAfter_meta hm, composeDecomposed]
      rfl
  | cons c before ih =>
      rw [List.cons_append, composeDecomposed, composeDecomposed]
      split
      · exact composeAfter_append hm _ _ _ _
      · rw [ih, List.cons_append]

end Unicode

private theorem Sensitivity.splitsRuns_stripMarks : SplitsRuns stripMarks := by
  intro m hm before after
  have hkept : ∀ text, (m :: text).filter (fun c => !Unicode.isMark c) =
      m :: text.filter fun c => !Unicode.isMark c :=
    fun text => List.filter_cons_of_pos (by rw [Unicode.isMark_meta hm]; rfl)
  rw [stripMarks, Unicode.compose, Unicode.splitsRuns_decompose m hm, List.filter_append, hkept,
    Unicode.splitsRuns_decompose m hm, Unicode.splitsRuns_composeDecomposed m hm]
  rfl

/-! ### Lower case -/

namespace Unicode

def capitalSigma : Char := Char.ofNat 0x3A3

def endsWord (before after : List Char) : Bool := startsCased before && !startsCased after

/-- Whether every capital sigma ends a word of a text where it ends one of the run that it stands in. -/
def SigmasSettled (text : List Char) : Prop := ∀ before after, text = before ++ capitalSigma :: after →
  endsWord (firstRun before.reverse) (firstRun after) = endsWord before.reverse after

def lowercaseWith (final : List Char → List Char → Bool) (before : List Char) : List Char → List Char
  | [] => []
  | c :: rest =>
    (if c = capitalSigma then [Char.ofNat (if final before rest then 0x3C2 else 0x3C3)] else lowercaseChar c)
      ++ lowercaseWith final (c :: before) rest

variable {final final' : List Char → List Char → Bool} {before after text run : List Char} {c : Char}

private theorem toNat_eq_sigma : c.toNat = 0x3A3 ↔ c = capitalSigma := by
  constructor
  · intro h
    exact Char.toNat_inj.1 h
  · rintro rfl
    rfl

private theorem lowercaseAfter_eq (before text : List Char) :
    lowercaseAfter before text = lowercaseWith endsWord before text := by
  induction text generalizing before with
  | nil => rfl
  | cons c text ih =>
      rw [lowercaseAfter, lowercaseWith, ih]
      simp only [toNat_eq_sigma]
      rfl

private theorem lowercaseWith_eq_iff : lowercaseWith final before text = lowercaseWith final' before text ↔
    ∀ front back, text = front ++ capitalSigma :: back →
      final (front.reverse ++ before) back = final' (front.reverse ++ before) back := by
  induction text generalizing before with
  | nil =>
      refine iff_of_true rfl fun front back h => ?_
      cases front <;> cases h
  | cons c text ih =>
      have hbehind : (∀ front back, c :: text = front ++ capitalSigma :: back →
          final (front.reverse ++ before) back = final' (front.reverse ++ before) back) ↔
          (c = capitalSigma → final before text = final' before text) ∧ ∀ front back,
            text = front ++ capitalSigma :: back →
              final (front.reverse ++ c :: before) back = final' (front.reverse ++ c :: before) back := by
        constructor
        · intro h
          refine ⟨fun hc => h [] text (by rw [hc]; rfl), fun front back htext => ?_⟩
          have hlater := h (c :: front) back (by rw [htext]; rfl)
          simpa using hlater
        · rintro ⟨hfirst, hlater⟩ front back htext
          cases front with
          | nil =>
              obtain ⟨hc, rfl⟩ := List.cons.inj htext
              exact hfirst hc
          | cons d front =>
              obtain ⟨rfl, hrest⟩ := List.cons.inj htext
              simpa using hlater front back hrest
      rw [hbehind, ← ih, lowercaseWith, lowercaseWith]
      by_cases hc : c = capitalSigma
      · rw [if_pos hc, if_pos hc, List.singleton_append, List.singleton_append, List.cons.injEq]
        refine and_congr ⟨fun h _ => ?_, fun h => by rw [h hc]⟩ Iff.rfl
        revert h
        cases final before text <;> cases final' before text <;> decide
      · rw [if_neg hc, if_neg hc, List.append_cancel_left_eq]
        exact ⟨fun h => ⟨fun h' => absurd h' hc, h⟩, And.right⟩

private theorem lowercaseWith_run (hrun : IsRun text) (hafter : firstRun after = []) :
    lowercaseWith (fun b a => endsWord (firstRun b) (firstRun a)) before (text ++ after) =
      lowercaseWith endsWord (firstRun before) text ++
        lowercaseWith (fun b a => endsWord (firstRun b) (firstRun a)) (text.reverse ++ before) after := by
  induction text generalizing before with
  | nil => rfl
  | cons c text ih =>
      obtain ⟨hc, hrun⟩ := hrun.of_cons
      rw [List.cons_append, lowercaseWith, lowercaseWith, ih hrun, Text.firstRun_append hrun hafter,
        Text.firstRun_cons_of_notMem hc]
      simp

private theorem lowercaseChar_meta {m : Char} (hm : m ∈ metaCharacters) : lowercaseChar m = [m] := by
  have hall : ∀ m ∈ metaCharacters, m.toNat < 0x80 ∧ m.toLower = m := by decide
  rw [lowercaseChar, if_pos (hall m hm).1, (hall m hm).2]

private theorem mapRuns_lowercase (hrun : IsRun run) (hbefore : firstRun before = []) : mapRuns lowercase run text =
    lowercaseWith (fun b a => endsWord (firstRun b) (firstRun a)) before (run.reverse ++ text) := by
  induction text generalizing run before with
  | nil =>
      rw [lowercaseWith_run hrun.reverse rfl, hbefore, mapRuns, lowercase, lowercaseAfter_eq, lowercaseWith,
        List.append_nil]
  | cons c text ih =>
      by_cases hc : c ∈ metaCharacters
      · have hsigma : c ≠ capitalSigma := by
          rintro rfl
          exact absurd hc (by decide)
        have hbehind : firstRun (c :: (run.reverse.reverse ++ before)) = [] := Text.firstRun_cons_of_mem hc
        rw [Text.mapRuns_cons_of_mem hc, lowercaseWith_run hrun.reverse (Text.firstRun_cons_of_mem hc), hbefore,
          lowercaseWith, if_neg hsigma, lowercaseChar_meta hc, lowercase, lowercaseAfter_eq,
          ih (List.forall_mem_nil _) hbehind]
        rfl
      · rw [Text.mapRuns_cons_of_notMem hc, ih (hrun.cons hc) hbefore]
        simp

private theorem mapRuns_lowercase_eq_iff (text : List Char) :
    mapRuns lowercase [] text = lowercase text ↔ SigmasSettled text := by
  have hstart : Text.firstRun [] = [] := rfl
  rw [mapRuns_lowercase (List.forall_mem_nil _) hstart, lowercase, lowercaseAfter_eq, List.reverse_nil,
    List.nil_append, lowercaseWith_eq_iff]
  simp only [List.append_nil]
  rfl

end Unicode

/-! ### Sensitivities -/

namespace Sensitivity

def dropMarks (s : Sensitivity) (text : List Char) : List Char :=
  if s.isDiacriticsSensitive then text else stripMarks text

private theorem desensitizeChars_eq (s : Sensitivity) (text : List Char) : s.desensitizeChars text =
    if s.isCaseSensitive then s.dropMarks text else Unicode.lowercase (s.dropMarks text) := rfl

private theorem splitsRuns_dropMarks (s : Sensitivity) : SplitsRuns s.dropMarks := by
  intro m hm before after
  unfold dropMarks
  split
  · rfl
  · exact splitsRuns_stripMarks m hm before after

private theorem isRun_dropMarks (s : Sensitivity) {text : List Char} (h : IsRun text) : IsRun (s.dropMarks text) := by
  unfold dropMarks
  split
  · exact h
  · exact notMem_of_mem_stripMarks Text.setApart_metaCharacters h

theorem mapRuns_desensitizeChars_eq_iff (s : Sensitivity) (text : List Char) :
    mapRuns s.desensitizeChars [] text = s.desensitizeChars text ↔
      s.isCaseSensitive = true ∨ Unicode.SigmasSettled (s.dropMarks text) := by
  have hform := funext s.desensitizeChars_eq
  cases hcase : s.isCaseSensitive with
  | true =>
      simp only [hcase, if_true] at hform
      rw [hform, Text.mapRuns_of_splits s.splitsRuns_dropMarks]
      exact iff_of_true rfl (.inl rfl)
  | false =>
      simp only [hcase, Bool.false_eq_true, if_false] at hform
      rw [hform, Text.mapRuns_comp s.splitsRuns_dropMarks s.isRun_dropMarks (List.forall_mem_nil _)]
      exact (Unicode.mapRuns_lowercase_eq_iff _).trans (or_iff_right Bool.false_ne_true).symm

end Sensitivity

end CorpusSearch
