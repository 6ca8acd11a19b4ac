import CorpusSearch.Constraint.OfFilter
import CorpusSearch.Proofs.FilterText

/-!
Filters are told apart by their text. A filter that has a text can be read from it, up to the way in which it asks
for equality, if its names are names and its comparisons leave the sensitivity open; and the two ways of asking for
equality stand for the same condition. Main statement: such filters have the same text exactly if they are the same
comparisons, and then they stand for the same condition in every context.
-/

set_option autoImplicit false

namespace CorpusSearch

open QueryText (IsName row)

namespace Filter

/-- The sensitivities that the comparisons of a filter ask for, from left to right. -/
def sensitivities : Filter → List Sensitivity
  | .and a b | .or a b | .implies a b => a.sensitivities ++ b.sensitivities
  | .compare a b _ s | .equals a b s => a.sensitivities ++ b.sensitivities ++ s.toList
  | .not a => a.sensitivities
  | .sameTokens _ _ _ s | .tokenEquals _ _ _ s => s.toList
  | .text _ | .tokenValue _ _ | .call _ _ => []

/-- The names of captures, layers and predicates in a filter, from left to right. -/
def names : Filter → List String
  | .and a b | .or a b | .implies a b | .compare a b _ _ | .equals a b _ => a.names ++ b.names
  | .not a => a.names
  | .sameTokens a b layer _ => [a, b, layer]
  | .tokenValue capture layer | .tokenEquals capture layer _ _ => [capture, layer]
  | .call name capture => [name, capture]
  | .text _ => []

variable {f g : Filter} {written : QueryText} {text : String}

/-- A filter that has a text, of names that are names, with comparisons that leave the sensitivity open. -/
structure IsPlain (f : Filter) : Prop where
  written : Result.Succeeds f.write
  unasked : f.sensitivities = []
  named : ∀ n ∈ f.names, IsName n

theorem IsPlain.operands {a b : Filter} (h : f.IsPlain) {k : QueryText → QueryText → QueryText}
    (hwrite : f.write = do let left ← a.write; return k left (← b.write))
    (hsensitivities : a.sensitivities ++ b.sensitivities <+: f.sensitivities)
    (hnames : f.names = a.names ++ b.names) : a.IsPlain ∧ b.IsPlain := by
  have hwritten := h.written
  rw [hwrite, Result.succeeds_bind_bind_pure] at hwritten
  rw [h.unasked, List.prefix_nil, List.append_eq_nil_iff] at hsensitivities
  have hnamed := h.named
  rw [hnames, List.forall_mem_append] at hnamed
  exact ⟨⟨hwritten.1, hsensitivities.1, hnamed.1⟩, hwritten.2, hsensitivities.2, hnamed.2⟩

private theorem IsPlain.toNamed (h : f.IsPlain) : f.Named := by
  induction f with
  | and a b iha ihb =>
      obtain ⟨ha, hb⟩ := h.operands rfl (List.prefix_refl _) rfl
      exact .and (iha ha) (ihb hb)
  | or a b iha ihb =>
      obtain ⟨ha, hb⟩ := h.operands rfl (List.prefix_refl _) rfl
      exact .or (iha ha) (ihb hb)
  | implies a b iha ihb =>
      obtain ⟨ha, hb⟩ := h.operands rfl (List.prefix_refl _) rfl
      exact .implies (iha ha) (ihb hb)
  | compare a b operator s iha ihb =>
      obtain ⟨ha, hb⟩ := h.operands rfl (List.prefix_append _ _) rfl
      obtain rfl := Option.toList_eq_nil_iff.1 (List.append_eq_nil_iff.1 h.unasked).2
      exact .compare operator (iha ha) (ihb hb)
  | equals a b s iha ihb =>
      obtain ⟨ha, hb⟩ := h.operands rfl (List.prefix_append _ _) rfl
      obtain rfl := Option.toList_eq_nil_iff.1 (List.append_eq_nil_iff.1 h.unasked).2
      exact .equals (iha ha) (ihb hb)
  | not a ih =>
      have hwritten : Result.Succeeds (a.not).write := h.written
      rw [write, Result.succeeds_bind_pure] at hwritten
      exact .not (ih ⟨hwritten, h.unasked, h.named⟩)
  | text value => exact .text value
  | tokenValue capture layer => exact .tokenValue (h.named _ (by simp [names])) (h.named _ (by simp [names]))
  | call name capture => exact .call (h.named _ (by simp [names])) (h.named _ (by simp [names]))
  | sameTokens | tokenEquals => exact absurd h.written (Result.not_succeeds_error _)

private theorem write_normal (f : Filter) : f.normal.write = f.write := by
  induction f with
  | and a b iha ihb | or a b iha ihb | implies a b iha ihb => rw [normal, write, write, iha, ihb]
  | compare a b operator s iha ihb | equals a b s iha ihb => rw [normal, write, write, iha, ihb]
  | not a ih => rw [normal, write, write, ih]
  | sameTokens | text | tokenValue | tokenEquals | call => rfl

private theorem normal_eq_of_text (hf : f.Named) (hg : g.Named) (h : f.toQueryText = .ok text)
    (h' : g.toQueryText = .ok text) : f.normal = g.normal := by
  have hreads : ∀ {f : Filter}, f.Named → f.toQueryText = .ok text →
      QueryText.Reads false text.toList (row f.chunks) := by
    intro f hf h
    obtain ⟨written, hwrite, hreads⟩ := write_of_named hf
    rw [toQueryText, hwrite] at h
    rwa [← Except.ok.inj h]
  have hrow := (hreads hf h).unique (hreads hg h')
  refine normal_eq_of_chunks hf hg (QueryText.row_injective ?_ ?_ hrow)
  · exact fun c hc => ((shape_of_named hf).isChunk c hc).isSeparate
  · exact fun c hc => ((shape_of_named hg).isChunk c hc).isSeparate

end Filter

namespace Constraint

private theorem ofFilter_normal (c : Context) (predicates : NameMap Predicate) (f : Filter) :
    ofFilter c predicates f.normal = ofFilter c predicates f := by
  induction f with
  | and a b iha ihb | or a b iha ihb | implies a b iha ihb => rw [Filter.normal, ofFilter, ofFilter, iha, ihb]
  | compare a b operator s iha ihb | equals a b s iha ihb => rw [Filter.normal, ofFilter, ofFilter, iha, ihb]
  | not a ih => rw [Filter.normal, ofFilter, ofFilter, ih]
  | sameTokens | text | tokenValue | tokenEquals | call => rfl

end Constraint

namespace Filter

variable {f g : Filter} {text : String}

private theorem toQueryText_normal (f : Filter) : f.normal.toQueryText = f.toQueryText := by
  rw [toQueryText, toQueryText, write_normal]

/-- Filters whose names are names and that leave the sensitivity open have the same text exactly if they are the same
up to the way in which they ask for equality, and then they stand for the same condition. -/
theorem same_text_iff (hf : f.sensitivities = []) (hfnames : ∀ n ∈ f.names, IsName n)
    (hg : g.sensitivities = []) (hgnames : ∀ n ∈ g.names, IsName n) (h : f.toQueryText = .ok text) :
    (g.toQueryText = .ok text ↔ f.normal = g.normal) ∧
      (g.toQueryText = .ok text → ∀ (c : Context) (predicates : NameMap Predicate),
        Constraint.ofFilter c predicates f = Constraint.ofFilter c predicates g) := by
  have hplain : ∀ {f : Filter}, f.sensitivities = [] → (∀ n ∈ f.names, IsName n) → f.toQueryText = .ok text →
      f.Named := by
    intro f hf hnames h
    obtain ⟨written, hwrite, -⟩ := Result.bind_eq_ok.1 h
    exact IsPlain.toNamed ⟨⟨written, hwrite⟩, hf, hnames⟩
  have hsame : g.toQueryText = .ok text → f.normal = g.normal := fun h' =>
    normal_eq_of_text (hplain hf hfnames h) (hplain hg hgnames h') h h'
  refine ⟨⟨hsame, fun hnormal => ?_⟩, fun h' c predicates => ?_⟩
  · rw [← toQueryText_normal g, ← hnormal, toQueryText_normal, h]
  · rw [← Constraint.ofFilter_normal c predicates f, hsame h', Constraint.ofFilter_normal]

/-- Operands in parentheses, and a text that looks like an operand. -/
theorem same_text_iff_quotedOperator :
    let word : Filter := .tokenValue "A" "word"
    let noun : Filter := .or (.call "isNoun" "A") (.not (.compare word (.text "B' & C") .notEqual none))
    let f : Filter := .implies (.and noun (.equals word (.text "it's") none)) word
    let g : Filter := .implies (.and noun (.compare word (.text "it's") .equal none)) word
    let text : String := "(isNoun(A) | !(A.word != 'B\\' & C')) & A.word = 'it\\'s' -> A.word"
    f.toQueryText = .ok text ∧ g.toQueryText = .ok text ∧ f.normal = g.normal := by
  intro word noun f g text
  have hnames : ∀ n ∈ f.names, IsName n := by
    show ∀ n ∈ f.names, n.toList ≠ [] ∧ ∀ c ∈ n.toList, QueryText.isNameChar c = true
    decide +kernel
  have hf : f.toQueryText = .ok text := by rfl
  have hg : g.toQueryText = .ok text := by rfl
  exact ⟨hf, hg, (same_text_iff rfl hnames rfl hnames hf).1.1 hg⟩

end Filter

end CorpusSearch
