import CorpusSearch.Proofs.ExpressionCharacters
import CorpusSearch.Text.Integer

/-!
Integers in texts. Blanks, signs and decimal digits are no marks and have no case, none of them is joined with another
character, and of them only two blanks are decomposed, each into another blank. Main statement: a text that writes an
integer writes the same one in whatever form it is indexed.
-/

set_option autoImplicit false

namespace CorpusSearch

namespace Unicode

/-! ### White space -/

private theorem Block.exists_of_find? {blocks : List Block} {n tag : Nat} (h : find? blocks n = some tag) :
    ∃ b ∈ blocks, b.first ≤ n ∧ n ≤ b.last ∧ b.tag = tag := by
  induction blocks with
  | nil => cases h
  | cons b rest ih =>
      rw [find?] at h
      split at h
      · cases h
      · split at h
        · rename_i hfirst hlast
          exact ⟨b, List.mem_cons_self, Nat.le_of_not_lt hfirst, hlast, Option.some.inj h⟩
        · obtain ⟨b', hb', hbounds⟩ := ih h
          exact ⟨b', List.mem_cons_of_mem _ hb', hbounds⟩

def blanks : List Nat :=
  [0x9, 0xA, 0xB, 0xC, 0xD, 0x20, 0x85, 0xA0, 0x1680, 0x2000, 0x2001, 0x2002, 0x2003, 0x2004, 0x2005, 0x2006, 0x2007,
    0x2008, 0x2009, 0x200A, 0x2028, 0x2029, 0x202F, 0x205F, 0x3000]

def Block.IsBlank (b : Block) : Prop := ∀ k < b.last + 1 - b.first, b.first + k ∈ blanks

instance (b : Block) : Decidable b.IsBlank :=
  inferInstanceAs (Decidable (∀ k < b.last + 1 - b.first, b.first + k ∈ blanks))

theorem Block.IsBlank.mem {b : Block} (h : b.IsBlank) {n : Nat} (hfirst : b.first ≤ n) (hlast : n ≤ b.last) :
    n ∈ blanks := by
  have hmem := h (n - b.first) (by omega)
  rwa [Nat.add_sub_cancel' hfirst] at hmem

private theorem Category.tag_of_separator {tag : Nat} (h : (numbered[tag]?).getD unassigned ∈ separators) :
    22 ≤ tag ∧ tag ≤ 24 := by
  have hall : ∀ tag < numbered.size, (numbered[tag]?).getD unassigned ∈ separators → 22 ≤ tag ∧ tag ≤ 24 := by decide
  by_cases htag : tag < numbered.size
  · exact hall tag htag h
  · rw [Array.getElem?_eq_none (Nat.le_of_not_lt htag)] at h
    exact absurd h (by decide)

private theorem mem_blanks_of_separator {n : Nat} (h : Category.ofCodePoint n ∈ Category.separators) : n ∈ blanks := by
  have hall : ∀ b ∈ Category.blocks, 22 ≤ b.tag → b.tag ≤ 24 → b.IsBlank := by decide +kernel
  unfold Category.ofCodePoint at h
  cases hfind : Block.find? Category.blocks n with
  | none =>
      rw [hfind] at h
      exact absurd h (by decide)
  | some tag =>
      rw [hfind] at h
      obtain ⟨b, hb, hfirst, hlast, rfl⟩ := Block.exists_of_find? hfind
      obtain ⟨hlow, hhigh⟩ := Category.tag_of_separator h
      exact (hall b hb hlow hhigh).mem hfirst hlast

private theorem mem_blanks_of_isWhiteSpace {c : Char} (h : isWhiteSpace c = true) : c.toNat ∈ blanks := by
  unfold isWhiteSpace at h
  split at h
  · rcases Bool.or_eq_true_iff.1 h with h | h
    · rw [of_decide_eq_true h]
      decide
    · obtain ⟨hlow, hhigh⟩ := Bool.and_eq_true_iff.1 h
      have hlow : 9 ≤ c.toNat := UInt32.le_iff_toNat_le.1 (of_decide_eq_true hlow)
      have hhigh : c.toNat ≤ 13 := UInt32.le_iff_toNat_le.1 (of_decide_eq_true hhigh)
      have hcontrols : Block.IsBlank ⟨9, 13, 0⟩ := by decide
      exact hcontrols.mem hlow hhigh
  · rcases Bool.or_eq_true_iff.1 h with h | h
    · refine mem_blanks_of_separator ?_
      exact List.contains_iff_mem.1 (Bool.and_eq_true_iff.1 h).1
    · obtain ⟨tag, hfind⟩ := Option.isSome_iff_exists.1 h
      have hall : ∀ b ∈ Property.whiteSpace.added, b.IsBlank := by decide
      obtain ⟨b, hb, hfirst, hlast, -⟩ := Block.exists_of_find? hfind
      exact (hall b hb).mem hfirst hlast

/-! ### Blanks, signs and digits -/

def numerals : List Char := "+-0123456789".toList

def integerCharacters : List Char := blanks.map Char.ofNat ++ numerals

def HoldsThroughout (p : Char → Prop) : Prop := ∀ c ∈ integerCharacters, p c

instance (p : Char → Prop) [DecidablePred p] : Decidable (HoldsThroughout p) := List.decidableBAll _ integerCharacters

/-- The canonical form of white space: two blanks are the same as others of their width. -/
def canonicalBlank (c : Char) : Char :=
  if c.toNat = 0x2000 then Char.ofNat 0x2002 else if c.toNat = 0x2001 then Char.ofNat 0x2003 else c

private theorem isWhiteSpace_canonicalBlank (c : Char) : isWhiteSpace (canonicalBlank c) = isWhiteSpace c := by
  unfold canonicalBlank
  split
  · rename_i h
    rw [← Char.ofNat_toNat c, h]
    decide +kernel
  · split
    · rename_i h
      rw [← Char.ofNat_toNat c, h]
      decide +kernel
    · rfl

private theorem decomposeChar_integer :
    HoldsThroughout fun c => decomposeChar c = [canonicalBlank c] := by decide +kernel

private theorem canonicalBlank_mem : HoldsThroughout fun c => canonicalBlank c ∈ integerCharacters := by decide +kernel

private theorem canonicalBlank_numeral {c : Char} (hc : c ∈ numerals) : canonicalBlank c = c := by
  have hall : (numerals.all fun c => canonicalBlank c = c) = true := by decide
  simpa using List.all_eq_true.1 hall c hc

private theorem canonicalBlank_twice :
    HoldsThroughout fun c => canonicalBlank (canonicalBlank c) = canonicalBlank c := by
  decide +kernel

private theorem combiningClass_integer : HoldsThroughout fun c => combiningClass c = 0 := by decide +kernel

private theorem isMark_integer : HoldsThroughout fun c => isMark c = false := by decide +kernel

private theorem lowercaseChar_integer :
    HoldsThroughout fun c => c.toNat ≠ 0x3A3 ∧ lowercaseChar c = [c] := by decide +kernel

private theorem Hangul.bounds_of_compose? {a b n : Nat} (h : compose? a b = some n) :
    vowelBase ≤ b ∧ b < tailBase + tailCount := by
  unfold compose? at h
  split at h
  · rename_i hlead
    simp only [Bool.and_eq_true, decide_eq_true_iff] at hlead
    have hvowels : vowelBase + vowelCount ≤ tailBase + tailCount := by decide
    exact ⟨hlead.1.2, Nat.lt_of_lt_of_le hlead.2 hvowels⟩
  · split at h
    · rename_i htail
      simp only [Bool.and_eq_true, decide_eq_true_iff] at htail
      have htails : vowelBase ≤ tailBase := by decide
      exact ⟨Nat.le_trans htails (Nat.le_of_lt htail.1.2), htail.2⟩
    · cases h

/-- Ranges of code points that hold whatever is joined with a character before it. -/
def joinable (n : Nat) : Bool :=
  n = 0 || (0x300 ≤ n && n < 0x1680) || (0x1681 ≤ n && n < 0x2000) || 0x3000 < n

private theorem joinable_of_composePair? {a b c : Char} (h : composePair? a b = some c) : joinable b.toNat = true := by
  unfold composePair? at h
  split at h
  · rename_i n hn
    have hrange : 0x300 ≤ Hangul.vowelBase ∧ Hangul.tailBase + Hangul.tailCount ≤ 0x1680 := by decide
    obtain ⟨hlow, hhigh⟩ := Hangul.bounds_of_compose? hn
    simp only [joinable, Bool.or_eq_true, Bool.and_eq_true, decide_eq_true_iff]
    omega
  · have hall : (decompositions.all fun d => joinable d.second) = true := by decide +kernel
    obtain ⟨d, hfind, -⟩ := Option.map_eq_some_iff.1 h
    have hd := (List.mem_filter.1 (List.mem_of_find?_eq_some hfind)).1
    have hpair := List.find?_some hfind
    rw [Bool.and_eq_true, decide_eq_true_iff, decide_eq_true_iff] at hpair
    exact hpair.2 ▸ List.all_eq_true.1 hall d hd

private theorem composePair?_integer (a : Char) {b : Char} (hb : b ∈ integerCharacters) : composePair? a b = none := by
  have hall : HoldsThroughout fun b => joinable b.toNat = false := by decide
  refine Option.eq_none_iff_forall_ne_some.2 fun c hpair => ?_
  have hjoinable := joinable_of_composePair? hpair
  rw [hall b hb] at hjoinable
  cases hjoinable

/-! ### Texts of these -/

variable {text : List Char}

private theorem orderMarks_integer (h : ∀ c ∈ text, c ∈ integerCharacters) : orderMarks [] text = text := by
  induction text with
  | nil => rfl
  | cons c text ih =>
      obtain ⟨hc, htext⟩ := List.forall_mem_cons.1 h
      rw [orderMarks, if_pos (combiningClass_integer c hc), ih htext, List.nil_append]

private theorem decompose_integer (h : ∀ c ∈ text, c ∈ integerCharacters) :
    decompose text = text.map canonicalBlank := by
  have hcharacters : text.flatMap decomposeChar = text.map canonicalBlank := by
    rw [List.map_eq_flatMap, List.flatMap_def, List.flatMap_def,
      List.map_congr_left fun c hc => decomposeChar_integer c (h c hc)]
  have hmapped : ∀ c ∈ text.map canonicalBlank, c ∈ integerCharacters :=
    List.forall_mem_map.2 fun c hc => canonicalBlank_mem c (h c hc)
  rw [decompose, hcharacters, orderMarks_integer hmapped]

private theorem composeAfter_integer {c : Char} (h : ∀ c ∈ text, c ∈ integerCharacters) :
    composeAfter c [] text = c :: text := by
  induction text generalizing c with
  | nil => rfl
  | cons d text ih =>
      obtain ⟨hd, htext⟩ := List.forall_mem_cons.1 h
      obtain ⟨free, hfree⟩ := composeAfter_cons c d []
      rw [hfree, composePair?_integer c hd, ite_self]
      dsimp only
      rw [if_pos (combiningClass_integer d hd), ih htext]
      rfl

private theorem composeDecomposed_integer (h : ∀ c ∈ text, c ∈ integerCharacters) : composeDecomposed text = text := by
  cases text with
  | nil => rfl
  | cons c text =>
      obtain ⟨hc, htext⟩ := List.forall_mem_cons.1 h
      rw [composeDecomposed, if_pos (combiningClass_integer c hc), composeAfter_integer htext]

private theorem lowercaseAfter_integer {before : List Char} (h : ∀ c ∈ text, c ∈ integerCharacters) :
    lowercaseAfter before text = text := by
  induction text generalizing before with
  | nil => rfl
  | cons c text ih =>
      obtain ⟨hc, htext⟩ := List.forall_mem_cons.1 h
      obtain ⟨hsigma, hlower⟩ := lowercaseChar_integer c hc
      rw [lowercaseAfter, if_neg hsigma, hlower, ih htext]
      rfl

end Unicode

open Unicode (integerCharacters numerals canonicalBlank)

namespace Sensitivity

variable {text : List Char}

private theorem stripMarks_integer (h : ∀ c ∈ text, c ∈ integerCharacters) :
    stripMarks text = text.map canonicalBlank := by
  have hmapped : ∀ c ∈ text.map canonicalBlank, c ∈ integerCharacters :=
    List.forall_mem_map.2 fun c hc => Unicode.canonicalBlank_mem c (h c hc)
  have hkept : (text.map canonicalBlank).filter (fun c => !Unicode.isMark c) = text.map canonicalBlank :=
    List.filter_eq_self.2 fun c hc => by rw [Unicode.isMark_integer c (hmapped c hc)]; rfl
  have htwice : (text.map canonicalBlank).map canonicalBlank = text.map canonicalBlank := by
    rw [List.map_map]
    exact List.map_congr_left fun c hc => Unicode.canonicalBlank_twice c (h c hc)
  rw [stripMarks, Unicode.compose, Unicode.decompose_integer h, hkept, Unicode.decompose_integer hmapped, htwice,
    Unicode.composeDecomposed_integer hmapped]

private theorem desensitizeChars_integer (s : Sensitivity) (h : ∀ c ∈ text, c ∈ integerCharacters) :
    s.desensitizeChars text = if s.isDiacriticsSensitive then text else text.map canonicalBlank := by
  have hmapped : ∀ c ∈ text.map canonicalBlank, c ∈ integerCharacters :=
    List.forall_mem_map.2 fun c hc => Unicode.canonicalBlank_mem c (h c hc)
  have hlower : Unicode.lowercase text = text := Unicode.lowercaseAfter_integer h
  have hlowerMapped : Unicode.lowercase (text.map canonicalBlank) = text.map canonicalBlank :=
    Unicode.lowercaseAfter_integer hmapped
  unfold desensitizeChars
  cases s.isDiacriticsSensitive <;> cases s.isCaseSensitive <;>
    simp [stripMarks_integer h, hlower, hlowerMapped]

end Sensitivity

namespace Text

variable {text digits : List Char} {n : Int}

/-! ### Integers -/

private theorem mem_numerals_of_isDigit {c : Char} (h : c.isDigit = true) : c ∈ numerals := by
  obtain ⟨hlow, hhigh⟩ := Bool.and_eq_true_iff.1 h
  have hlow : 48 ≤ c.toNat := UInt32.le_iff_toNat_le.1 (of_decide_eq_true hlow)
  have hhigh : c.toNat ≤ 57 := UInt32.le_iff_toNat_le.1 (of_decide_eq_true hhigh)
  have hall : ∀ k < 10, Char.ofNat (48 + k) ∈ numerals := by decide
  have hmem := hall (c.toNat - 48) (by omega)
  rwa [Nat.add_sub_cancel' hlow, Char.ofNat_toNat] at hmem

private theorem mem_numerals_of_digitsValue? {done value : Nat} (h : digitsValue? done digits = some value) :
    ∀ c ∈ digits, c ∈ numerals := by
  induction digits generalizing done with
  | nil => exact List.forall_mem_nil _
  | cons c digits ih =>
      rw [digitsValue?] at h
      split at h
      · rename_i hc
        exact List.forall_mem_cons.2 ⟨mem_numerals_of_isDigit hc, ih h⟩
      · cases h

private theorem mem_numerals_of_natural? {value : Nat} (h : natural? digits = some value) :
    ∀ c ∈ digits, c ∈ numerals := by
  cases digits with
  | nil => cases h
  | cons c digits => exact mem_numerals_of_digitsValue? h

private theorem mem_numerals_of_integer? (h : integer? text = some n) : ∀ c ∈ text, c ∈ numerals := by
  unfold integer? at h
  obtain ⟨hvalue, -⟩ := Option.filter_eq_some_iff.1 h
  split at hvalue <;> obtain ⟨_, hsigned, -⟩ := Option.map_eq_some_iff.1 hvalue <;>
    obtain ⟨value, hnatural, -⟩ := Option.bind_eq_some_iff.1 hsigned
  · exact List.forall_mem_cons.2 ⟨by decide, mem_numerals_of_natural? hnatural⟩
  · exact List.forall_mem_cons.2 ⟨by decide, mem_numerals_of_natural? hnatural⟩
  · exact mem_numerals_of_natural? hnatural

/-! ### White space around them -/

private theorem mem_trimStart {c : Char} (h : c ∈ text) : Unicode.isWhiteSpace c = true ∨ c ∈ trimStart text := by
  rw [← List.takeWhile_append_dropWhile (p := Unicode.isWhiteSpace) (l := text), List.mem_append] at h
  exact h.imp_left (List.all_eq_true.1 List.all_takeWhile c)

private theorem mem_trim {c : Char} (h : c ∈ text) : Unicode.isWhiteSpace c = true ∨ c ∈ trim text := by
  rcases mem_trimStart h with hblank | hstart
  · exact .inl hblank
  · exact (mem_trimStart (List.mem_reverse.2 hstart)).imp_right List.mem_reverse.2

private theorem trim_map {f : Char → Char} (h : ∀ c, Unicode.isWhiteSpace (f c) = Unicode.isWhiteSpace c) :
    trim (text.map f) = (trim text).map f := by
  have hstart : ∀ text : List Char, trimStart (text.map f) = (trimStart text).map f := by
    intro text
    rw [trimStart, List.dropWhile_map, trimStart]
    exact congrArg (fun p => (text.dropWhile p).map f) (funext h)
  rw [trim, hstart, trimEnd, ← List.map_reverse, hstart, ← List.map_reverse]
  rfl

theorem integer?_desensitizeChars (s : Sensitivity) (h : integer? (trim text) = some n) :
    integer? (trim (s.desensitizeChars text)) = some n := by
  have hnumerals := mem_numerals_of_integer? h
  have hcharacters : ∀ c ∈ text, c ∈ integerCharacters := by
    intro c hc
    rcases mem_trim hc with hblank | hbody
    · exact List.mem_append_left _ (List.mem_map.2 ⟨_, Unicode.mem_blanks_of_isWhiteSpace hblank, Char.ofNat_toNat c⟩)
    · exact List.mem_append_right _ (hnumerals c hbody)
  have hsame : (trim text).map canonicalBlank = trim text := by
    rw [List.map_congr_left fun c hc => Unicode.canonicalBlank_numeral (hnumerals c hc), List.map_id']
  rw [s.desensitizeChars_integer hcharacters]
  split
  · exact h
  · rw [trim_map Unicode.isWhiteSpace_canonicalBlank, hsame]
    exact h

end Text

end CorpusSearch
