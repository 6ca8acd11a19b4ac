import CorpusSearch.Proofs.TextItems
import CorpusSearch.QueryText
import Mathlib.Data.List.Forall2

/-!
Pieces of query text as rows of chunks. The chunks that stand between the operands of a construct are its marks: a
piece of some level has no marks of weaker constructs outside of brackets, and has a mark of its own construct, unless
that binds too strongly to have any. So the level of a piece, and where its operands end, can be seen in its chunks.
Main statements: pieces with the same chunks have the same level, and slots with the same chunks have the same pieces.
-/

set_option autoImplicit false

namespace CorpusSearch.QueryText

/-! ### Names -/

def isNameChar (c : Char) : Bool := Unicode.isAlphanumeric c || c = '_'

def IsName (name : String) : Prop := name.toList ≠ [] ∧ ∀ c ∈ name.toList, isNameChar c = true

def punctuation : List Char := " '()[]<>\x7b\x7d.,:;=!^|&*+?/\\-".toList

theorem isNameChar_eq_false_of_mem {c : Char} (h : c ∈ punctuation) : isNameChar c = false := by
  have hall : punctuation.all (fun c => !isNameChar c) = true := by decide +kernel
  simpa using List.all_eq_true.1 hall c h

theorem isOrdinary_of_isNameChar {c : Char} (h : isNameChar c = true) : IsOrdinary c := by
  have hsub : ∀ d ∈ ['\'', '(', '[', '<', ')', ']', '>'], d ∈ punctuation := by decide
  intro hmem
  rw [isNameChar_eq_false_of_mem (hsub c hmem)] at h
  cases h

namespace IsName

variable {name : String}

theorem notMem (h : IsName name) {c : Char} (hc : c ∈ punctuation) : c ∉ name.toList := by
  intro hmem
  have hname := h.2 c hmem
  rw [isNameChar_eq_false_of_mem hc] at hname
  cases hname

theorem notMem_chars (h : IsName name) {c : Char} (hc : c ∈ punctuation) : .char c ∉ chars name.toList := by
  intro hmem
  obtain ⟨d, hd, heq⟩ := List.mem_map.1 hmem
  obtain rfl := TextItem.char.inj heq
  exact h.notMem hc hd

theorem isOrdinary (h : IsName name) : ∀ c ∈ name.toList, IsOrdinary c :=
  fun c hc => isOrdinary_of_isNameChar (h.2 c hc)

theorem exists_cons (h : IsName name) : ∃ c rest, name.toList = c :: rest ∧ isNameChar c = true := by
  cases htext : name.toList with
  | nil => exact absurd htext h.1
  | cons c rest => exact ⟨c, rest, rfl, h.2 c (htext ▸ List.mem_cons_self)⟩

theorem isChunk (h : IsName name) : IsChunk (chars name.toList) :=
  .chars h.1 (h.notMem (by decide)) fun hlast => h.notMem (c := ',') (by decide) (List.mem_of_getLast? hlast)

/-- A name does not start with punctuation. -/
theorem append_ne_cons (h : IsName name) {c : Char} (hc : c ∈ punctuation) (items items' : List TextItem) :
    chars name.toList ++ items ≠ .char c :: items' := by
  obtain ⟨d, rest, htext, hd⟩ := h.exists_cons
  rw [htext]
  intro heq
  rw [TextItem.char.inj (List.cons.inj heq).1, isNameChar_eq_false_of_mem hc] at hd
  cases hd

end IsName

theorem name_append_inj {name name' : String} {items items' : List TextItem} (h : IsName name) (h' : IsName name')
    (hitems : ∀ c, items.head? = some (.char c) → isNameChar c = false)
    (hitems' : ∀ c, items'.head? = some (.char c) → isNameChar c = false)
    (heq : chars name.toList ++ items = chars name'.toList ++ items') : name = name' ∧ items = items' := by
  have hname : ∀ {n : String}, IsName n → ∀ item ∈ chars n.toList, ∃ c, item = .char c ∧ isNameChar c = true := by
    intro n hn item hitem
    obtain ⟨c, hc, rfl⟩ := List.mem_map.1 hitem
    exact ⟨c, rfl, hn.2 c hc⟩
  have hend : ∀ {items : List TextItem}, (∀ c, items.head? = some (.char c) → isNameChar c = false) →
      ∀ item, items.head? = some item → ¬∃ c, item = .char c ∧ isNameChar c = true := by
    rintro items hitems item hhead ⟨c, rfl, hc⟩
    rw [hitems c hhead] at hc
    cases hc
  obtain ⟨hnames, hrest⟩ := append_inj_of_span (hname h) (hname h') (hend hitems) (hend hitems') heq
  exact ⟨String.toList_inj.1 (chars_injective hnames), hrest⟩

def firstMark : List TextItem → Option TextItem
  | [] => none
  | .char c :: items => if isNameChar c then firstMark items else some (.char c)
  | item :: _ => some item

theorem firstMark_append {text : List Char} (h : ∀ c ∈ text, isNameChar c = true) (items : List TextItem) :
    firstMark (chars text ++ items) = firstMark items := by
  induction text with
  | nil => rfl
  | cons c text ih =>
      have hc := h c List.mem_cons_self
      rw [chars, List.map_cons, List.cons_append, firstMark, if_pos hc]
      exact ih fun c hc => h c (List.mem_cons_of_mem _ hc)

theorem firstMark_punctuation {c : Char} (h : c ∈ punctuation) (items : List TextItem) :
    firstMark (.char c :: items) = some (.char c) := by
  rw [firstMark, isNameChar_eq_false_of_mem h]
  rfl

/-! ### Slots -/

def slot (least level : Nat) (chunks : List Chunk) : List Chunk :=
  if level < least then [[.group .round (row chunks)]] else chunks

def gap : List Chunk → List TextItem
  | [] => [.char ' ']
  | mark :: marks => .char ' ' :: mark ++ gap marks

theorem row_between {left right : List Chunk} (marks : List Chunk) (hleft : left ≠ []) (hright : right ≠ []) :
    row (left ++ (marks ++ right)) = row left ++ gap marks ++ row right := by
  induction marks generalizing left with
  | nil =>
      rw [List.nil_append, row_append hleft hright]
      simp [gap]
  | cons mark marks ih =>
      have hsplit : left ++ (mark :: marks ++ right) = (left ++ [mark]) ++ (marks ++ right) := by simp
      rw [hsplit, ih (by simp), row_append hleft (by simp), row_singleton]
      simp [gap]

private theorem intercalate_ne_nil {marks : List Chunk} {operands : List (List Chunk)} (hne : operands ≠ [])
    (h : ∀ o ∈ operands, o ≠ []) : marks.intercalate operands ≠ [] := by
  cases operands with
  | nil => exact absurd rfl hne
  | cons o operands =>
      have ho := h o List.mem_cons_self
      cases operands <;> simp [List.intercalate_cons_cons, ho]

/-- Operands that are joined by a separator. -/
theorem Reads.join {separator : String} {marks : List Chunk} {texts : List String} {operands : List (List Chunk)}
    (hseparator : Reads false separator.toList (gap marks))
    (h : List.Forall₂ (fun text o => Reads false text.toList (row o)) texts operands) (hne : ∀ o ∈ operands, o ≠ []) :
    Reads false (separator.intercalate texts).toList (row (marks.intercalate operands)) := by
  rw [String.toList_intercalate]
  induction h with
  | nil => exact Reads.nil
  | @cons text o texts operands hfirst hrest ih =>
      have ho := hne o List.mem_cons_self
      have htail : ∀ o ∈ operands, o ≠ [] := fun o ho => hne o (List.mem_cons_of_mem _ ho)
      cases hrest with
      | nil => simpa using hfirst
      | cons hsecond hrest =>
          rw [List.map_cons, List.map_cons, List.intercalate_cons_cons, List.intercalate_cons_cons,
            List.append_assoc o, row_between _ ho (intercalate_ne_nil (by simp) htail)]
          exact (hfirst.append hseparator).append (ih htail)

theorem Reads.inSlot {w : QueryText} {chunks : List Chunk} (h : Reads false w.text.toList (row chunks))
    (least : Nat) : Reads false (w.inSlot least).toList (row (slot least w.level chunks)) := by
  unfold QueryText.inSlot slot
  split
  · have htext : s!"({w.text})".toList = '(' :: w.text.toList ++ [')'] := by
      simp [toString, String.toList_append]
    rw [row_singleton, htext]
    exact h.round
  · exact h

/-! ### Operands and shapes -/

/-- Chunks that can stand where at least the given level is expected: they are no marks of weaker constructs. -/
structure Operand (marks : Nat → Chunk → Prop) (least : Nat) (chunks : List Chunk) : Prop where
  isChunk : ∀ c ∈ chunks, IsChunk c
  ne_nil : chunks ≠ []
  unmarked : ∀ c ∈ chunks, ∀ n < least, ¬marks n c

/-- How the chunks of a piece show its level; `marks` are the chunks between the operands of each level. -/
structure Shape (marks : Nat → Chunk → Prop) (level : Nat) (chunks : List Chunk) : Prop extends
    Operand marks level chunks where
  marked : level < 4 → ∃ c ∈ chunks, marks level c
  /-- Parentheses are only put around operands. -/
  notGroup : ∀ content, chunks ≠ [[.group .round content]]

section

variable {marks : Nat → Chunk → Prop} {level level' least least' n : Nat} {chunks chunks' : List Chunk}

namespace Shape

private theorem level_le (h : Shape marks level chunks) (h' : Shape marks level' chunks) (hlevel : level < 4) :
    level' ≤ level := by
  obtain ⟨c, hc, hmark⟩ := h.marked hlevel
  exact Nat.le_of_not_lt fun hlt => h'.unmarked c hc level hlt hmark

/-- The level of a piece can be seen, as long as it has marks. -/
theorem level_eq (h : Shape marks level chunks) (h' : Shape marks level' chunks) :
    level = level' ∨ 4 ≤ level ∧ 4 ≤ level' := by
  by_cases hlevel : level < 4
  · have hle := h.level_le h' hlevel
    exact .inl (Nat.le_antisymm (h'.level_le h (by omega)) hle)
  · by_cases hlevel' : level' < 4
    · have hle := h'.level_le h hlevel'
      omega
    · exact .inr ⟨by omega, by omega⟩

theorem lt_iff (h : Shape marks level chunks) (h' : Shape marks level' chunks) : level < 4 ↔ level' < 4 := by
  have hlevel := h.level_eq h'
  omega

/-- A chunk without operands beside it. -/
theorem single {c : Chunk} (hlevel : 4 ≤ level) (hchunk : IsChunk c) (hmarks : ∀ m, ¬marks m c)
    (hgroup : ∀ content, c ≠ [.group .round content]) : Shape marks level [c] where
  isChunk := by simpa using hchunk
  ne_nil := List.cons_ne_nil _ _
  unmarked := by simpa using fun m _ => hmarks m
  marked hlt := absurd hlt (by omega)
  notGroup content h := hgroup content (List.cons.inj h).1

theorem slot (h : Shape marks level chunks) (hgroup : ∀ n content, ¬marks n [.group .round content]) (least : Nat) :
    Operand marks least (slot least level chunks) := by
  unfold QueryText.slot
  split
  · exact ⟨by simp [IsChunk.item], by simp, by simp [hgroup]⟩
  · exact ⟨h.isChunk, h.ne_nil, fun c hc n hn => h.unmarked c hc n (by omega)⟩

theorem slot_injective (h : Shape marks level chunks) (h' : Shape marks level' chunks')
    (heq : QueryText.slot least level chunks = QueryText.slot least level' chunks') : chunks = chunks' := by
  unfold QueryText.slot at heq
  split at heq <;> split at heq
  · have hrow := (TextItem.group.inj (List.cons.inj (List.cons.inj heq).1).1).2
    exact row_injective (fun c hc => (h.isChunk c hc).isSeparate) (fun c hc => (h'.isChunk c hc).isSeparate) hrow
  · exact absurd heq.symm (h'.notGroup _)
  · exact absurd heq (h.notGroup _)
  · exact heq

theorem row_slot_injective (h : Shape marks level chunks) (h' : Shape marks level' chunks')
    (hgroup : ∀ n content, ¬marks n [.group .round content])
    (heq : row (QueryText.slot least level chunks) = row (QueryText.slot least level' chunks')) : chunks = chunks' :=
  h.slot_injective h' (row_injective (fun c hc => ((h.slot hgroup least).isChunk c hc).isSeparate)
    (fun c hc => ((h'.slot hgroup least).isChunk c hc).isSeparate) heq)

end Shape

section

variable {α : Type} {levelOf : α → Nat} {chunksOf : α → List Chunk} {ps qs : List α}

/-- Operands between marks of a weaker level are told by their chunks. -/
theorem intercalate_slots_inj {mark : Chunk} (hmark : marks n mark) (hleast : n < least)
    (hgroup : ∀ n content, ¬marks n [.group .round content]) (hps : ∀ p ∈ ps, Shape marks (levelOf p) (chunksOf p))
    (hqs : ∀ q ∈ qs, Shape marks (levelOf q) (chunksOf q)) (hpne : ps ≠ []) (hqne : qs ≠ [])
    (hinj : ∀ p ∈ ps, ∀ q ∈ qs, chunksOf p = chunksOf q → p = q)
    (h : [mark].intercalate (ps.map fun p => slot least (levelOf p) (chunksOf p)) =
      [mark].intercalate (qs.map fun q => slot least (levelOf q) (chunksOf q))) : ps = qs := by
  have hunmarked : ∀ {level : Nat} {chunks : List Chunk}, Shape marks level chunks → mark ∉ slot least level chunks :=
    fun hshape hmem => (hshape.slot hgroup least).unmarked mark hmem n hleast hmark
  have hslots := intercalate_inj (by simpa using fun p hp => hunmarked (hps p hp))
    (by simpa using fun q hq => hunmarked (hqs q hq)) (by simpa using hpne) (by simpa using hqne) h
  exact map_inj_of_mem (fun p hp q hq heq => hinj p hp q hq ((hps p hp).slot_injective (hqs q hq) heq)) hslots

theorem flatten_slots_inj (hps : ∀ p ∈ ps, Shape marks (levelOf p) (chunksOf p))
    (hqs : ∀ q ∈ qs, Shape marks (levelOf q) (chunksOf q))
    (hpsingle : ∀ p ∈ ps, ∃ c, slot least (levelOf p) (chunksOf p) = [c])
    (hqsingle : ∀ q ∈ qs, ∃ c, slot least (levelOf q) (chunksOf q) = [c])
    (hinj : ∀ p ∈ ps, ∀ q ∈ qs, chunksOf p = chunksOf q → p = q)
    (h : (ps.map fun p => slot least (levelOf p) (chunksOf p)).flatten =
      (qs.map fun q => slot least (levelOf q) (chunksOf q)).flatten) : ps = qs := by
  have hlengths : ∀ {xs : List α}, (∀ x ∈ xs, ∃ c, slot least (levelOf x) (chunksOf x) = [c]) →
      (xs.map fun x => slot least (levelOf x) (chunksOf x)).map List.length = List.replicate xs.length 1 := by
    intro xs hxs
    rw [List.eq_replicate_iff]
    refine ⟨by simp, ?_⟩
    simp only [List.forall_mem_map]
    intro x hx
    obtain ⟨c, hc⟩ := hxs x hx
    rw [hc, List.length_singleton]
  have hlength : ps.length = qs.length := by
    have hflat := congrArg List.length h
    rw [List.length_flatten, List.length_flatten, hlengths hpsingle, hlengths hqsingle] at hflat
    simpa using hflat
  have hslots := List.eq_iff_flatten_eq.2 ⟨h, by rw [hlengths hpsingle, hlengths hqsingle, hlength]⟩
  exact map_inj_of_mem (fun p hp q hq heq => hinj p hp q hq ((hps p hp).slot_injective (hqs q hq) heq)) hslots

end

theorem length_le_intercalate {marks : List Chunk} {operands : List (List Chunk)} (h : ∀ o ∈ operands, o ≠ []) :
    operands.length ≤ (marks.intercalate operands).length := by
  induction operands with
  | nil => simp
  | cons o operands ih =>
      have hlength := List.length_pos_iff.2 (h o List.mem_cons_self)
      have htail := ih fun o ho => h o (List.mem_cons_of_mem _ ho)
      cases operands with
      | nil =>
          rw [List.intercalate_singleton, List.length_singleton]
          omega
      | cons o' operands =>
          rw [List.intercalate_cons_cons, List.length_append, List.length_append, List.length_cons]
          omega

private theorem subset_intercalate {marks : List Chunk} {operands : List (List Chunk)} (h : 2 ≤ operands.length) :
    marks ⊆ marks.intercalate operands := by
  match operands, h with
  | o :: o' :: operands, _ =>
      rw [List.intercalate_cons_cons]
      intro mark hmark
      simp [hmark]

namespace Operand

variable {left right : List Chunk} {mark : Chunk}

theorem weaken (h : Operand marks least chunks) (hle : least' ≤ least) : Operand marks least' chunks :=
  ⟨h.isChunk, h.ne_nil, fun c hc n hn => h.unmarked c hc n (by omega)⟩

theorem append (hleft : Operand marks n left) (hright : Operand marks n right) : Operand marks n (left ++ right) where
  isChunk := by simpa [or_imp, forall_and] using And.intro hleft.isChunk hright.isChunk
  ne_nil := by simp [hleft.ne_nil]
  unmarked := by simpa [or_imp, forall_and] using And.intro hleft.unmarked hright.unmarked

theorem single (hchunk : IsChunk mark) (hweaker : ∀ m < n, ¬marks m mark) : Operand marks n [mark] :=
  ⟨by simpa using hchunk, List.cons_ne_nil _ _, by simpa using hweaker⟩

theorem shape (h : Operand marks n chunks) (hmarked : n < 4 → ∃ c ∈ chunks, marks n c) (htwo : 2 ≤ chunks.length) :
    Shape marks n chunks where
  toOperand := h
  marked := hmarked
  notGroup content heq := by
    rw [heq] at htwo
    simp at htwo

/-- Operands with a mark of their level between them. -/
theorem between (hleft : Operand marks n left) (hright : Operand marks n right) (hmark : marks n mark)
    (hchunk : IsChunk mark) (hweaker : ∀ m < n, ¬marks m mark) : Shape marks n (left ++ mark :: right) := by
  have hlength := List.length_pos_iff.2 hleft.ne_nil
  refine (hleft.append ((Operand.single hchunk hweaker).append hright)).shape (fun _ => ⟨mark, by simp, hmark⟩) ?_
  simp only [List.length_append, List.length_cons]
  omega

/-- Operands with the same marks between each two. -/
theorem intercalate {separators : List Chunk} {operands : List (List Chunk)} (hne : operands ≠ [])
    (h : ∀ o ∈ operands, Operand marks n o) (hchunk : ∀ c ∈ separators, IsChunk c)
    (hweaker : ∀ c ∈ separators, ∀ m < n, ¬marks m c) : Operand marks n (separators.intercalate operands) := by
  induction operands with
  | nil => exact absurd rfl hne
  | cons o operands ih =>
      cases operands with
      | nil => simpa using h
      | cons o' operands =>
          have hrest := ih (List.cons_ne_nil _ _) fun o ho => h o (List.mem_cons_of_mem _ ho)
          rw [List.intercalate_cons_cons]
          cases hseparators : separators with
          | nil => simpa [hseparators] using (h o List.mem_cons_self).append (hseparators ▸ hrest)
          | cons c cs =>
              have hseparator : Operand marks n separators := ⟨hchunk, by simp [hseparators], hweaker⟩
              rw [← hseparators]
              exact ((h o List.mem_cons_self).append hseparator).append hrest

/-- Two operands or more are told by the marks between them. -/
theorem join {separators : List Chunk} {operands : List (List Chunk)} (h : ∀ o ∈ operands, Operand marks n o)
    (htwo : 2 ≤ operands.length) (hchunk : ∀ c ∈ separators, IsChunk c)
    (hweaker : ∀ c ∈ separators, ∀ m < n, ¬marks m c) (hmarked : n < 4 → ∃ c ∈ separators, marks n c) :
    Shape marks n (separators.intercalate operands) := by
  have hne : operands ≠ [] := by
    rintro rfl
    simp at htwo
  refine (Operand.intercalate hne h hchunk hweaker).shape ?_ ?_
  · intro hn
    obtain ⟨c, hc, hmark⟩ := hmarked hn
    exact ⟨c, subset_intercalate htwo hc, hmark⟩
  · exact Nat.le_trans htwo (length_le_intercalate fun o ho => (h o ho).ne_nil)

end Operand

end

end CorpusSearch.QueryText
