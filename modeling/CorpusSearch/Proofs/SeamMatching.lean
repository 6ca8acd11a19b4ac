import CorpusSearch.Proofs.Matching

/-!
Matching beside other text. An expression that asks for no end matches a text by itself as it does in front of a colon,
one that asks for no start matches it as behind a colon: a colon is no letter of a word and ends no line. Main
statement: what stands around a text counts only for the conditions on positions that an expression contains.
-/

set_option autoImplicit false

namespace CorpusSearch.Regex

/-- The conditions on a position that an expression contains. -/
def Core.looks : Core → List Look
  | .empty | .chars _ => []
  | .look l => [l]
  | .seq a b | .alt a b => a.looks ++ b.looks
  | .rep _ _ body => body.looks

namespace Look

/-- Whether a condition asks for the end of the text or of a line. -/
def isEnd : Look → Bool
  | textEnd | lineEnd _ => true
  | _ => false

/-- Whether a condition asks for the start of the text or of a line. -/
def isStart : Look → Bool
  | textStart | lineStart _ => true
  | _ => false

private theorem isWord_colon (unicode : Bool) : isWord unicode ':' = false := by
  cases unicode with
  | false => decide
  | true => decide +kernel

private theorem holds_in_front {l : Look} (h : l.isEnd = false) (before after more : List Char) :
    l.holds ⟨before, after ++ ':' :: more⟩ = l.holds ⟨before, after⟩ := by
  cases after with
  | cons c after => cases l <;> rfl
  | nil =>
      cases l with
      | textStart => rfl
      | textEnd => cases h
      | lineStart crlf => cases before <;> rfl
      | lineEnd crlf => cases h
      | word unicode a =>
          show wordHolds a _ (isWord unicode ':') = wordHolds a _ false
          rw [isWord_colon]

private theorem holds_behind {l : Look} (h : l.isStart = false) (before after more : List Char) :
    l.holds ⟨before ++ ':' :: more, after⟩ = l.holds ⟨before, after⟩ := by
  cases before with
  | cons c before => cases l <;> rfl
  | nil =>
      cases l with
      | textStart => cases h
      | textEnd => rfl
      | lineStart crlf => cases h
      | lineEnd crlf => cases after <;> rfl
      | word unicode a =>
          show wordHolds a (isWord unicode ':') _ = wordHolds a false _
          rw [isWord_colon]

end Look

section Contexts

variable {P Q : PieceTest} {before before' text after after' more : List Char} {e : Core}

private theorem joined_congr (hP : ∀ {text rest}, P before text (rest ++ after) ↔ P before' text (rest ++ after'))
    (hQ : ∀ {front text}, Q (front ++ before) text after ↔ Q (front ++ before') text after') :
    Joined P Q before text after ↔ Joined P Q before' text after' := by
  simp only [Joined, hP, hQ]

private theorem matches_congr_context (h : ∀ l ∈ e.looks, ∀ front rest : List Char,
      l.holds ⟨front ++ before, rest ++ after⟩ = l.holds ⟨front ++ before', rest ++ after'⟩) :
    e.Matches before text after ↔ e.Matches before' text after' := by
  have hfront : ∀ {e : Core} {before before' after after' : List Char} (pre post : List Char),
      (∀ l ∈ e.looks, ∀ front rest : List Char,
        l.holds ⟨front ++ before, rest ++ after⟩ = l.holds ⟨front ++ before', rest ++ after'⟩) →
      ∀ l ∈ e.looks, ∀ front rest : List Char, l.holds ⟨front ++ (pre ++ before), rest ++ (post ++ after)⟩ =
        l.holds ⟨front ++ (pre ++ before'), rest ++ (post ++ after')⟩ := by
    intro e before before' after after' pre post h l hl front rest
    simpa only [List.append_assoc] using h l hl (front ++ pre) (rest ++ post)
  induction e generalizing before before' text after after' with
  | empty => exact Iff.rfl
  | chars s => exact Iff.rfl
  | look l =>
      refine and_congr_right fun _ => ?_
      have hself := h l List.mem_cons_self [] []
      rw [List.nil_append, List.nil_append, List.nil_append, List.nil_append] at hself
      rw [hself]
  | seq a b iha ihb =>
      obtain ⟨ha, hb⟩ := List.forall_mem_append.1 h
      exact joined_congr (fun {_ rest} => iha (hfront [] rest ha)) fun {front _} => ihb (hfront front [] hb)
  | alt a b iha ihb =>
      obtain ⟨ha, hb⟩ := List.forall_mem_append.1 h
      exact or_congr (iha ha) (ihb hb)
  | rep min max body ih =>
      have hrow : ∀ (n : Nat) {before before' text after after' : List Char},
          (∀ l ∈ body.looks, ∀ front rest : List Char,
            l.holds ⟨front ++ before, rest ++ after⟩ = l.holds ⟨front ++ before', rest ++ after'⟩) →
          (InRow body.Matches n before text after ↔ InRow body.Matches n before' text after') := by
        intro n
        induction n with
        | zero => exact fun _ => Iff.rfl
        | succ n ihn =>
            intro before before' text after after' h
            exact joined_congr (fun {_ rest} => ih (hfront [] rest h)) fun {front _} => ihn (hfront front [] h)
      exact exists_congr fun n => and_congr_right fun _ => and_congr_right fun _ => hrow n h

theorem matches_in_front (h : ∀ l ∈ e.looks, l.isEnd = false) :
    e.Matches before text (':' :: more) ↔ e.Matches before text [] := by
  refine matches_congr_context fun l hl front rest => ?_
  rw [List.append_nil]
  exact Look.holds_in_front (h l hl) _ rest more

theorem matches_behind (h : ∀ l ∈ e.looks, l.isStart = false) :
    e.Matches (':' :: more) text after ↔ e.Matches [] text after := by
  refine matches_congr_context fun l hl front rest => ?_
  rw [List.append_nil]
  exact Look.holds_behind (h l hl) front _ more

end Contexts

end CorpusSearch.Regex
