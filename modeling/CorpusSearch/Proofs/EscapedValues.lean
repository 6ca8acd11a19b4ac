import CorpusSearch.Proofs.LiteralExpression
import CorpusSearch.Proofs.PlanChecked
import CorpusSearch.Proofs.PlanLookups
import CorpusSearch.Proofs.TextRuns
import CorpusSearch.Proofs.TokenConditions
import CorpusSearch.Proofs.TokenText
import Mathlib.Data.List.Induction

/-!
Values as expressions. A value is searched as it is, desensitized at once, or as the expression that is written for it,
which is desensitized between its escapes. Main statement: the expression stands for the value desensitized run by run,
and both find the same tokens everywhere exactly if that makes no difference.
-/

set_option autoImplicit false

namespace CorpusSearch

open Result (Succeeds)

namespace Text

def escapeChar (c : Char) : List Char := if metaCharacters.contains c then ['\\', c] else [c]

private theorem toList_escape (value : String) : (escape value).toList = value.toList.flatMap escapeChar := by
  rw [escape, String.toList_ofList]
  rfl

private theorem escapeChar_of_mem {c : Char} (hc : c ∈ metaCharacters) : escapeChar c = ['\\', c] :=
  if_pos (List.contains_iff_mem.2 hc)

private theorem escapeChar_of_notMem {c : Char} (hc : c ∉ metaCharacters) : escapeChar c = [c] :=
  if_neg fun h => hc (List.contains_iff_mem.1 h)

/-! ### Anchors and flags -/

private theorem even_trailing_escape (text : List Char) :
    ((text.flatMap escapeChar).reverse.takeWhile fun c => c = '\\').length % 2 = 0 := by
  induction text using List.reverseRecOn with
  | nil => rfl
  | append_singleton text c ih =>
      have hlast : ((text ++ [c]).flatMap escapeChar).reverse =
          (escapeChar c).reverse ++ (text.flatMap escapeChar).reverse := by simp
      rw [hlast]
      by_cases hbackslash : c = '\\'
      · have htwo : ∀ written : List Char, (('\\' :: '\\' :: written).takeWhile fun c => c = '\\').length =
            (written.takeWhile fun c => c = '\\').length + 2 := fun written => by simp
        rw [hbackslash, escapeChar_of_mem (by decide), List.reverse_cons, List.reverse_singleton, List.append_assoc,
          List.singleton_append, List.singleton_append, htwo]
        omega
      · by_cases hc : c ∈ metaCharacters
        · rw [escapeChar_of_mem hc]
          simp [hbackslash]
        · rw [escapeChar_of_notMem hc]
          simp [hbackslash]

private theorem stripAnchors_escape (value : String) : stripAnchors (escape value) = escape value := by
  refine stripAnchors_eq_self ?_ fun before hlast => ?_
  · rw [toList_escape]
    cases value.toList with
    | nil => exact fun h => nomatch h
    | cons c text =>
        by_cases hc : c ∈ metaCharacters
        · rw [List.flatMap_cons, escapeChar_of_mem hc]
          exact fun h => absurd (Option.some.inj h) (by decide)
        · rw [List.flatMap_cons, escapeChar_of_notMem hc]
          intro h
          obtain rfl : c = '^' := Option.some.inj h
          exact hc (by decide)
  · rw [toList_escape] at hlast
    rcases List.eq_nil_or_concat value.toList with hnil | ⟨text, c, htext⟩
    · rw [hnil] at hlast
      exact absurd hlast.symm (by simp)
    · rw [htext, List.concat_eq_append, List.flatMap_append, List.flatMap_singleton] at hlast
      have heven := even_trailing_escape text
      by_cases hc : c ∈ metaCharacters
      · rw [escapeChar_of_mem hc] at hlast
        have hbefore : text.flatMap escapeChar ++ ['\\'] = before := by
          have hsplit : (text.flatMap escapeChar ++ ['\\']) ++ [c] = before ++ ['$'] := by simpa using hlast
          exact (List.append_inj' hsplit rfl).1
        rw [← hbefore, endsEscaping]
        simp only [List.reverse_append, List.reverse_cons, List.reverse_nil, List.nil_append, List.singleton_append,
          decide_true, List.takeWhile_cons_of_pos, List.length_cons]
        rw [decide_eq_true_iff]
        omega
      · rw [escapeChar_of_notMem hc] at hlast
        obtain rfl : c = '$' := by simpa using (List.append_inj' hlast rfl).2
        exact absurd (by decide) hc

private theorem splitForcedSensitivity_escape (value : String) : (splitForcedSensitivity (escape value)).1 = none := by
  have hnone : ∀ flag : List Char, dropStart? ('(' :: flag) (escape value).toList = none := by
    intro flag
    have hhead := head_escape value
    cases htext : (escape value).toList with
    | nil => rfl
    | cons c text =>
        rw [htext] at hhead
        have hc : '(' ≠ c := by
          rintro rfl
          exact hhead rfl
        rw [dropStart?, if_neg hc]
  unfold splitForcedSensitivity
  have hfirst := hnone "?-i)".toList
  have hsecond := hnone "?c)".toList
  have hthird := hnone "?i)".toList
  dsimp only
  simp only [String.reduceToList] at hfirst hsecond hthird ⊢
  rw [hfirst, hsecond, hthird]

/-! ### Desensitizing -/

open Regex (Writes)

private theorem isPlain_of_notMem_metaCharacters {c : Char} (hc : c ∉ metaCharacters) : IsPlain c := by
  have hall : ∀ d ∈ operators, d ∈ metaCharacters := by decide
  exact fun hmem => hc (hall c hmem)

private theorem writes_escape (text : List Char) : Writes (text.flatMap escapeChar) text := by
  induction text with
  | nil => exact .nil
  | cons c text ih =>
      rw [List.flatMap_cons]
      by_cases hc : c ∈ metaCharacters
      · rw [escapeChar_of_mem hc]
        exact .escaped hc ih
      · rw [escapeChar_of_notMem hc]
        exact .plain (isPlain_of_notMem_metaCharacters hc) ih

private theorem writes_desensitizeRuns (s : Sensitivity) {run : List Char} (hrun : IsRun run) (text : List Char) :
    Writes (desensitizeRuns s .plain run (text.flatMap escapeChar)) (mapRuns s.desensitizeChars run text) := by
  have hwritten : ∀ {run}, IsRun run → Writes (s.desensitizeChars run.reverse) (s.desensitizeChars run.reverse) := by
    intro run hrun
    refine Regex.writes_of_plain (s.isPlain_desensitizeChars fun c hc => ?_)
    exact isPlain_of_notMem_metaCharacters (hrun.reverse c hc)
  induction text generalizing run with
  | nil =>
      rw [List.flatMap_nil, desensitizeRuns, mapRuns]
      exact hwritten hrun
  | cons c text ih =>
      rw [List.flatMap_cons]
      by_cases hc : c ∈ metaCharacters
      · have hclass : ¬((c = 'p' || c = 'P') && (text.flatMap escapeChar).head? = some '\x7b') = true := by
          have hletters : 'p' ∉ metaCharacters ∧ 'P' ∉ metaCharacters := by decide
          intro h
          rw [Bool.and_eq_true, Bool.or_eq_true, decide_eq_true_iff, decide_eq_true_iff] at h
          rcases h.1 with rfl | rfl
          · exact hletters.1 hc
          · exact hletters.2 hc
        rw [escapeChar_of_mem hc, mapRuns_cons_of_mem hc, List.cons_append, desensitizeRuns, if_pos rfl,
          List.singleton_append, desensitizeRuns, if_neg hclass]
        exact (hwritten hrun).append (.escaped hc (ih (List.forall_mem_nil _)))
      · have hbackslash : c ≠ '\\' := by
          rintro rfl
          exact hc (by decide)
        rw [escapeChar_of_notMem hc, mapRuns_cons_of_notMem hc, List.singleton_append, desensitizeRuns,
          if_neg hbackslash]
        exact ih (hrun.cons hc)

private theorem writes_desensitizeExpression (s : Sensitivity) (value : String) :
    Writes (desensitizeExpression (escape value) s).toList (mapRuns s.desensitizeChars [] value.toList) := by
  unfold desensitizeExpression
  split
  · rename_i hs
    have hkept : SplitsRuns s.desensitizeChars := by
      rw [hs]
      exact fun m _ before after => rfl
    rw [mapRuns_of_splits hkept, hs, toList_escape]
    exact writes_escape value.toList
  · rw [String.toList_ofList, toList_escape]
    exact writes_desensitizeRuns s (List.forall_mem_nil _) value.toList

end Text

/-! ### Plans -/

private theorem Hit.tokenHits_oneToken {name field layer : String} {s : Sensitivity}
    (hname : Document.readIndexField name = .ok (field, layer, s)) (x : String) (test : String → Bool) :
    tokenHits (Planner.oneToken field layer x) name test =
      .ok (if test (s.desensitize x) then [ofSpan (token 0)] else []) := by
  have hcontent : (Planner.oneToken field layer x).get? field = some (FieldContent.empty.withValues layer [x]) := by
    rw [Planner.oneToken, NameMap.get?_insert, if_pos rfl]
  have hvalue : (NameMap.empty.insert layer x).get? layer = some x := by
    rw [NameMap.get?_insert, if_pos rfl]
  have htokens : (FieldContent.empty.withValues layer [x]).tokens = [NameMap.empty.insert layer x] := rfl
  rw [tokenHits, hname, Result.ok_bind]
  dsimp only
  rw [hcontent, Option.getD_some, htokens, List.zipIdx_singleton, List.filterMap_cons, List.filterMap_nil]
  dsimp only
  rw [hvalue]
  dsimp only
  cases test (s.desensitize x) <;> rfl

namespace SearchScope

variable {field value expression layer name : String} {literal : List Char} {s : Sensitivity}

private theorem hits_regex_of_writes (scope : SearchScope) (h : Regex.Writes expression.toList literal)
    (hcompiled : Succeeds (compileExpression expression)) :
    scope.hits (.regex name expression) = (do
      return Hit.sorted (← Hit.tokenHits scope.document name fun v => decide (v.toList = literal))) := by
  obtain ⟨core, hcore⟩ := hcompiled
  have htest : core.isMatch = fun v => decide (v.toList = literal) :=
    funext (Regex.isMatch_of_writes h (compileExpression_eq_ok.1 hcore))
  rw [hits, hcore, Result.ok_bind, htest]

private theorem hits_term_eq_hits_regex_iff (hname : Document.readIndexField name = .ok (field, layer, s))
    (h : Regex.Writes expression.toList literal) (hcompiled : Succeeds (compileExpression expression)) :
    (∀ scope : SearchScope, scope.hits (.term name (s.desensitize value)) = scope.hits (.regex name expression)) ↔
      literal = s.desensitizeChars value.toList := by
  constructor
  · intro hsame
    have hscope := hsame ⟨Planner.oneToken field layer value, NameMap.empty⟩
    rw [hits_regex_of_writes _ h hcompiled, hits, Hit.tokenHits_oneToken hname, Hit.tokenHits_oneToken hname,
      Result.ok_bind, Result.ok_bind] at hscope
    have hlists := Except.ok.inj hscope
    rw [if_pos (beq_self_eq_true _)] at hlists
    have hfound : Hit.ofSpan (Hit.token 0) ∈ Hit.sorted [Hit.ofSpan (Hit.token 0)] :=
      Hit.mem_sorted.2 List.mem_cons_self
    rw [hlists, Hit.mem_sorted] at hfound
    split at hfound
    · rename_i hvalue
      rw [decide_eq_true_iff, Sensitivity.desensitize, String.toList_ofList] at hvalue
      exact hvalue.symm
    · cases hfound
  · rintro rfl scope
    have htest : ∀ v : String, (v == s.desensitize value) = decide (v.toList = s.desensitizeChars value.toList) := by
      intro v
      rw [Bool.eq_iff_iff, beq_iff_eq, decide_eq_true_iff, ← String.toList_inj, Sensitivity.desensitize,
        String.toList_ofList]
    rw [hits_regex_of_writes scope h hcompiled, hits]
    simp only [htest]

end SearchScope

namespace Planner

private theorem planRegex_escape (p : Planner) (c : Context) (test : TokenTest) :
    p.planRegex c { test with value := Text.escape test.value } = (do
      let d ← c.withLayerAndSensitivity test.layer test.sensitivity
      p.planExpression d (Text.escape test.value)) := by
  have hflag : (Text.splitForcedSensitivity { test with value := Text.escape test.value }.value).1 = none :=
    Text.splitForcedSensitivity_escape test.value
  rw [planRegex_of_none hflag]
  dsimp only
  rw [Text.stripAnchors_escape]

private theorem plans_of_escape {p : Planner} {c : Context} {test : TokenTest} {a b : Plan}
    (ha : planTerm c test = .ok a) (hb : p.planRegex c { test with value := Text.escape test.value } = .ok b) :
    ∃ d s name, valueContext c test = .ok d ∧ d.sensitivity = .ok s ∧ d.indexField = .ok name ∧
      a = .term name (s.desensitize test.value) ∧
      b = .regex name (Text.desensitizeExpression (Text.escape test.value) s) := by
  rw [planRegex_escape] at hb
  obtain ⟨d, hd, ha⟩ := Result.bind_eq_ok.1 ha
  obtain ⟨name, hname, ha⟩ := Result.bind_eq_ok.1 ha
  obtain ⟨text, htext, ha⟩ := Result.bind_eq_ok.1 ha
  obtain ⟨s, hs, htext⟩ := Result.bind_eq_ok.1 htext
  obtain rfl := Except.ok.inj htext
  obtain ⟨d', hd', hb⟩ := Result.bind_eq_ok.1 hb
  obtain rfl := Except.ok.inj (hd.symm.trans hd')
  obtain ⟨_, -, hb⟩ := Result.bind_eq_ok.1 hb
  obtain ⟨name', hname', hb⟩ := Result.bind_eq_ok.1 hb
  obtain rfl := Except.ok.inj (hname.symm.trans hname')
  obtain ⟨s', hs', hb⟩ := Result.bind_eq_ok.1 hb
  obtain rfl := Except.ok.inj (hs.symm.trans hs')
  exact ⟨d, s, name, hd, hs, hname, (Except.ok.inj ha).symm, (Except.ok.inj hb).symm⟩

/--
A value and the expression for it. The expression is a valid one, and whenever there is room to compile it, both find
the same everywhere exactly if case counts or every capital sigma ends a word of the value where it ends one of the run
between escaped characters that it stands in.
-/
theorem term_and_escaped_agree_iff {p : Planner} {c : Context} {test : TokenTest} {a b : Plan}
    (ha : planTerm c test = .ok a) (hb : p.planRegex c { test with value := Text.escape test.value } = .ok b) :
    ∃ d s name, valueContext c test = .ok d ∧ d.sensitivity = .ok s ∧ d.indexField = .ok name ∧
      let expression := Text.desensitizeExpression (Text.escape test.value) s
      a = .term name (s.desensitize test.value) ∧ b = .regex name expression ∧ Regex.IsValid expression ∧
      (∀ scope : SearchScope, Succeeds (scope.hits a)) ∧
      (∀ scope : SearchScope, Succeeds (scope.hits b) ↔ ∃ core, Regex.compileWhole expression = .ok core) ∧
      ∀ core, Regex.compileWhole expression = .ok core →
        ((∀ scope : SearchScope, scope.hits a = scope.hits b) ↔
          s.isCaseSensitive = true ∨ Unicode.SigmasSettled (s.dropMarks test.value.toList)) := by
  obtain ⟨d, s, name, hd, hs, hname, rfl, rfl⟩ := plans_of_escape ha hb
  have hwrites := Text.writes_desensitizeExpression s test.value
  obtain ⟨field, layer, hread⟩ : ∃ field layer, Document.readIndexField name = .ok (field, layer, s) :=
    Context.readIndexField_of_sensitivity hs hname
  have husable : Succeeds (Document.readIndexField name) := ⟨_, hread⟩
  refine ⟨d, s, name, hd, hs, hname, rfl, rfl, Regex.isValid_of_writes hwrites, fun scope => ?_, fun scope => ?_,
    fun core hcore => ?_⟩
  · rw [SearchScope.hits, Result.succeeds_bind_pure, Hit.succeeds_tokenHits_iff]
    exact husable
  · rw [SearchScope.hits, ← succeeds_compileExpression_iff]
    refine Result.succeeds_bind_of_total fun core _ => ?_
    rw [Result.succeeds_bind_pure, Hit.succeeds_tokenHits_iff]
    exact husable
  · rw [SearchScope.hits_term_eq_hits_regex_iff hread hwrites (succeeds_compileExpression_iff.2 ⟨core, hcore⟩)]
    exact s.mapRuns_desensitizeChars_eq_iff test.value.toList

/-- A full stop does not end the word that a capital sigma stands in, an escape does. -/
theorem term_and_escaped_agree_iff_sigma :
    let test : TokenTest := ⟨"ΟΣ.Α", none, some .caseInsensitive⟩
    planTerm wordContext test = .ok (.term "contents%word@ci" "οσ.α") ∧
      standard.planRegex wordContext { test with value := Text.escape test.value } =
        .ok (.regex "contents%word@ci" "ος\\.α") ∧
      ¬∀ scope : SearchScope, scope.hits (.term "contents%word@ci" "οσ.α") =
        scope.hits (.regex "contents%word@ci" "ος\\.α") := by
  intro test
  let moved : Context := { wordContext with requested := .caseInsensitive }
  have hcontext : valueContext wordContext test = .ok moved := rfl
  have hfield : moved.indexField = .ok "contents%word@ci" := by decide
  have hsensitivity : moved.sensitivity = .ok .caseInsensitive := rfl
  have hterm : planTerm wordContext test = .ok (.term "contents%word@ci" "οσ.α") := by
    have hvalue : Sensitivity.desensitize .caseInsensitive test.value = "οσ.α" := by decide +kernel
    rw [planTerm, hcontext, Result.ok_bind, hfield, Result.ok_bind, Context.desensitize, hsensitivity, ← hvalue]
    rfl
  have hregex : standard.planRegex wordContext { test with value := Text.escape test.value } =
      .ok (.regex "contents%word@ci" "ος\\.α") := by
    have hvalue : Text.desensitizeExpression (Text.escape test.value) .caseInsensitive = "ος\\.α" := by decide +kernel
    have hchecked : Regex.check standard.limits.expressionDepth standard.limits.expressionSize
        (Text.escape test.value) = .ok () := by decide +kernel
    have hallowed : standard.checkExpression (Text.escape test.value) = .ok () := by
      rw [checkExpression, hchecked]
    have hmoved : wordContext.withLayerAndSensitivity test.layer test.sensitivity = .ok moved := hcontext
    rw [planRegex_escape, hmoved, Result.ok_bind, planExpression, hallowed, Result.ok_bind, hfield, Result.ok_bind,
      hsensitivity, ← hvalue]
    rfl
  obtain ⟨d, s, name, hd, hs, -, -, hb, -, -, -, hagree⟩ := term_and_escaped_agree_iff hterm hregex
  obtain rfl := Except.ok.inj (hd.symm.trans hcontext)
  obtain rfl := Except.ok.inj (hs.symm.trans hsensitivity)
  obtain ⟨core, hcore⟩ : ∃ core, Regex.compileWhole "ος\\.α" = .ok core := ⟨_, rfl⟩
  refine ⟨hterm, hregex, ?_⟩
  rw [hagree core (by rw [← (Plan.regex.inj hb).2]; exact hcore)]
  rintro (hcase | hsettled)
  · cases hcase
  · have hsplit := hsettled ['Ο'] ['.', 'Α'] (by decide +kernel)
    revert hsplit
    decide +kernel

end Planner

end CorpusSearch
