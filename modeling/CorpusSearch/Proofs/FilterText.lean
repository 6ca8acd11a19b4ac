import CorpusSearch.Filter.QueryText
import CorpusSearch.Proofs.Result
import CorpusSearch.Proofs.TextPieces

/-!
The text of filters can be read in one way only. Implications, disjunctions and conjunctions associate to the left, so
they end at their last mark; comparisons have one mark. The two ways of asking for equality are written alike, and the
sensitivity of a comparison is not written. Main statement: filters whose names are names and that leave the
sensitivity open have the same chunks only if they are equal up to the way in which they ask for equality.
-/

set_option autoImplicit false

namespace CorpusSearch

open QueryText (TextItem Chunk Reads Shape IsChunk IsName chars row slot)

namespace Filter

/-! ### Chunks -/

def Level.marks : Level → List String
  | implication => ["->"]
  | or => ["|"]
  | and => ["&"]
  | comparison => ["=", "!=", "<", "<=", ">", ">="]
  | not | atom => []

def allMarks : List String := ["->", "|", "&", "=", "!=", "<", "<=", ">", ">="]

private theorem mem_allMarks {level : Level} {mark : String} (h : mark ∈ level.marks) : mark ∈ allMarks := by
  cases level with
  | implication | or | and => simp_all [Level.marks, allMarks]
  | comparison => exact List.mem_of_mem_drop (i := 3) h
  | not | atom => cases h

def level : Filter → Level
  | .implies _ _ => .implication
  | .or _ _ => .or
  | .and _ _ => .and
  | .compare _ _ _ _ | .equals _ _ _ => .comparison
  | .not _ => .not
  | .sameTokens _ _ _ _ | .text _ | .tokenValue _ _ | .tokenEquals _ _ _ _ | .call _ _ => .atom

def binaryChunks (level : Level) (mark : String) (left right : Level × List Chunk) : List Chunk :=
  slot level.rank left.1.rank left.2 ++ chars mark.toList :: slot (level.rank + 1) right.1.rank right.2

def comparisonChunks (operator : Comparison) (left right : Level × List Chunk) : List Chunk :=
  slot 4 left.1.rank left.2 ++ chars (Coded.code operator).toList :: slot 4 right.1.rank right.2

def chunks : Filter → List Chunk
  | .implies a b => binaryChunks .implication "->" (a.level, a.chunks) (b.level, b.chunks)
  | .or a b => binaryChunks .or "|" (a.level, a.chunks) (b.level, b.chunks)
  | .and a b => binaryChunks .and "&" (a.level, a.chunks) (b.level, b.chunks)
  | .compare a b operator _ => comparisonChunks operator (a.level, a.chunks) (b.level, b.chunks)
  | .equals a b _ => comparisonChunks .equal (a.level, a.chunks) (b.level, b.chunks)
  | .not a => [.char '!' :: row (slot 4 a.level.rank a.chunks)]
  | .text value => [[.quoted value.toList]]
  | .tokenValue capture layer => [chars (capture.toList ++ '.' :: layer.toList)]
  | .call name capture => [chars name.toList ++ [.group .round (chars capture.toList)]]
  | .sameTokens _ _ _ _ | .tokenEquals _ _ _ _ => []

/-- Filters that can be written without loss: all names are names, and no comparison asks for a sensitivity. -/
inductive Named : Filter → Prop
  | implies {a b : Filter} (ha : Named a) (hb : Named b) : Named (.implies a b)
  | or {a b : Filter} (ha : Named a) (hb : Named b) : Named (.or a b)
  | and {a b : Filter} (ha : Named a) (hb : Named b) : Named (.and a b)
  | compare {a b : Filter} (operator : Comparison) (ha : Named a) (hb : Named b) :
      Named (.compare a b operator none)
  | equals {a b : Filter} (ha : Named a) (hb : Named b) : Named (.equals a b none)
  | not {a : Filter} (ha : Named a) : Named (.not a)
  | text (value : String) : Named (.text value)
  | tokenValue {capture layer : String} (hcapture : IsName capture) (hlayer : IsName layer) :
      Named (.tokenValue capture layer)
  | call {name capture : String} (hname : IsName name) (hcapture : IsName capture) : Named (.call name capture)

/-! ### Shapes -/

def Marks (n : Nat) (c : Chunk) : Prop :=
  ∃ level : Level, level.rank = n ∧ ∃ mark ∈ level.marks, c = chars mark.toList

private theorem not_marks_of_item {n : Nat} {c : Chunk} (item : TextItem) (hitem : item ∈ c)
    (h : ∀ d ∈ ['-', '>', '|', '&', '=', '!', '<'], item ≠ .char d) : ¬Marks n c := by
  rintro ⟨level, -, mark, hmark, rfl⟩
  obtain ⟨d, hd, rfl⟩ := List.mem_map.1 hitem
  refine h d ?_ rfl
  have hall : ∀ mark ∈ allMarks,
      ∀ d ∈ mark.toList, d ∈ ['-', '>', '|', '&', '=', '!', '<'] := by decide
  exact hall mark (mem_allMarks hmark) d hd

private theorem not_marks_group (n : Nat) (content : List TextItem) : ¬Marks n [.group .round content] :=
  not_marks_of_item _ List.mem_cons_self (by simp)

private theorem single_of_named {f : Filter} (hf : Named f) (h : 4 ≤ f.level.rank) : ∃ c, f.chunks = [c] := by
  cases hf with
  | implies | or | and | compare | equals => exact absurd h (by simp [level, Level.rank])
  | not | text | tokenValue | call => exact ⟨_, rfl⟩

theorem slot_single {f : Filter} (hf : Named f) : ∃ c, slot 4 f.level.rank f.chunks = [c] := by
  unfold slot
  split
  · exact ⟨_, rfl⟩
  · exact single_of_named hf (by omega)

private theorem marks_of_mem {level : Level} {mark : String} (h : mark ∈ level.marks) :
    Marks level.rank (chars mark.toList) :=
  ⟨level, rfl, mark, h, rfl⟩

private theorem not_marks_of_mem {level : Level} {mark : String} (h : mark ∈ level.marks) {n : Nat}
    (hn : n ≠ level.rank) : ¬Marks n (chars mark.toList) := by
  rintro ⟨other, rfl, mark', hmark', heq⟩
  obtain rfl : mark = mark' := String.toList_inj.1 (QueryText.chars_injective heq)
  refine hn (congrArg Level.rank ?_)
  cases other <;> cases level <;> simp_all [Level.marks]

private theorem isChunk_of_mem {level : Level} {mark : String} (h : mark ∈ level.marks) :
    IsChunk (chars mark.toList) := by
  have hall : ∀ mark ∈ allMarks, mark.toList ≠ [] ∧ ' ' ∉ mark.toList ∧ mark.toList.getLast? ≠ some ',' := by decide
  obtain ⟨hne, hblank, hcomma⟩ := hall mark (mem_allMarks h)
  exact .chars hne hblank hcomma

private theorem code_mem_marks (operator : Comparison) : Coded.code operator ∈ Level.comparison.marks := by
  cases operator <;> decide

private theorem shape_binary (level : Level) {mark : String} {a b : Filter} (hmark : mark ∈ level.marks)
    (ha : Shape Marks a.level.rank a.chunks) (hb : Shape Marks b.level.rank b.chunks) :
    Shape Marks level.rank (binaryChunks level mark (a.level, a.chunks) (b.level, b.chunks)) :=
  (ha.slot not_marks_group _).between ((hb.slot not_marks_group _).weaken (Nat.le_succ _)) (marks_of_mem hmark)
    (isChunk_of_mem hmark) fun m hm => not_marks_of_mem hmark (by omega)

private theorem shape_comparison {operator : Comparison} {a b : Filter} (ha : Shape Marks a.level.rank a.chunks)
    (hb : Shape Marks b.level.rank b.chunks) :
    Shape Marks Level.comparison.rank (comparisonChunks operator (a.level, a.chunks) (b.level, b.chunks)) :=
  ((ha.slot not_marks_group 4).weaken (by decide)).between ((hb.slot not_marks_group 4).weaken (by decide))
    (marks_of_mem (code_mem_marks operator)) (isChunk_of_mem (code_mem_marks operator))
    fun m hm => not_marks_of_mem (code_mem_marks operator) (by omega)

private theorem not_marks_negated {c : Chunk} (h : ∀ m < 4, ¬Marks m c) (n : Nat) : ¬Marks n (.char '!' :: c) := by
  rintro ⟨level, -, mark, hmark, heq⟩
  have hmarks : mark = "!=" := by
    have hhead : mark.toList.head? = some '!' := by
      cases htext : mark.toList with
      | nil => simp [chars, htext] at heq
      | cons d text =>
          rw [htext] at heq
          rw [TextItem.char.inj (List.cons.inj heq).1]
          rfl
    have hall : ∀ mark ∈ allMarks,
        mark.toList.head? = some '!' → mark = "!=" := by decide
    exact hall mark (mem_allMarks hmark) hhead
  rw [hmarks] at heq
  refine h 3 (by decide) ⟨.comparison, rfl, "=", by decide, ?_⟩
  exact (List.cons.inj heq).2

theorem shape_of_named {f : Filter} (hf : Named f) : Shape Marks f.level.rank f.chunks := by
  induction hf with
  | implies _ _ iha ihb => exact shape_binary .implication List.mem_cons_self iha ihb
  | or _ _ iha ihb => exact shape_binary .or List.mem_cons_self iha ihb
  | and _ _ iha ihb => exact shape_binary .and List.mem_cons_self iha ihb
  | compare _ _ _ iha ihb | equals _ _ iha ihb => exact shape_comparison iha ihb
  | @not a ha ih =>
      obtain ⟨c, hc⟩ := slot_single ha
      have hslot := ih.slot not_marks_group 4
      rw [hc] at hslot
      have hchunk := hslot.isChunk c List.mem_cons_self
      rw [chunks, hc, QueryText.row_singleton]
      refine Shape.single (Nat.le_refl 4) (hchunk.cons (by simp)) ?_ ?_
      · exact not_marks_negated (hslot.unmarked c List.mem_cons_self)
      · simp
  | text value =>
      exact Shape.single (show 4 ≤ 5 by decide) (.item (by simp))
        (fun m => not_marks_of_item _ List.mem_cons_self (by simp)) (by simp)
  | @tokenValue capture layer hcapture hlayer =>
      rw [chunks, QueryText.chars_append]
      refine Shape.single (show 4 ≤ 5 by decide) ?_ ?_ ?_
      · exact (hlayer.isChunk.cons (by simp)).append_left (hcapture.notMem_chars (by decide))
      · intro m
        exact not_marks_of_item (.char '.') (by simp [chars]) (by simp)
      · obtain ⟨d, text, htext, -⟩ := hcapture.exists_cons
        simp [chars, htext]
  | @call name capture hname hcapture =>
      obtain ⟨d, text, htext, -⟩ := hname.exists_cons
      refine Shape.single (show 4 ≤ 5 by decide) ?_ ?_ (by simp [chars, htext])
      · exact (IsChunk.item (by simp)).append_left (hname.notMem_chars (by decide))
      · intro m
        exact not_marks_of_item (.group .round (chars capture.toList)) (by simp) (by simp)

/-! ### Reading -/

private theorem operands_inj {n least least' : Nat} {mark mark' : Chunk} {a b a' b' : Filter} (hmark : Marks n mark)
    (hmark' : Marks n mark') (hleast : n < least')
    (ha : Shape Marks a.level.rank a.chunks) (hb : Shape Marks b.level.rank b.chunks)
    (ha' : Shape Marks a'.level.rank a'.chunks) (hb' : Shape Marks b'.level.rank b'.chunks)
    (h : slot least a.level.rank a.chunks ++ mark :: slot least' b.level.rank b.chunks =
      slot least a'.level.rank a'.chunks ++ mark' :: slot least' b'.level.rank b'.chunks) :
    a.chunks = a'.chunks ∧ mark = mark' ∧ b.chunks = b'.chunks := by
  have hlast : ∀ {f : Filter}, Shape Marks f.level.rank f.chunks →
      ∀ c ∈ slot least' f.level.rank f.chunks, ¬Marks n c :=
    fun hf c hc => (hf.slot not_marks_group _).unmarked c hc n hleast
  obtain ⟨hleft, hmarks, hright⟩ := QueryText.append_cons_inj_of_last (hlast hb) (hlast hb') hmark hmark' h
  exact ⟨ha.slot_injective ha' hleft, hmarks, hb.slot_injective hb' hright⟩

private theorem binaryChunks_inj (level : Level) {mark : String} {a b a' b' : Filter} (hmark : mark ∈ level.marks)
    (ha : Named a) (hb : Named b) (ha' : Named a') (hb' : Named b')
    (h : binaryChunks level mark (a.level, a.chunks) (b.level, b.chunks) =
      binaryChunks level mark (a'.level, a'.chunks) (b'.level, b'.chunks)) :
    a.chunks = a'.chunks ∧ b.chunks = b'.chunks := by
  obtain ⟨hleft, -, hright⟩ := operands_inj (marks_of_mem hmark) (marks_of_mem hmark) (Nat.lt_succ_self _)
    (shape_of_named ha) (shape_of_named hb) (shape_of_named ha') (shape_of_named hb') h
  exact ⟨hleft, hright⟩

private theorem comparisonChunks_inj {operator operator' : Comparison} {a b a' b' : Filter}
    (ha : Named a) (hb : Named b) (ha' : Named a') (hb' : Named b')
    (h : comparisonChunks operator (a.level, a.chunks) (b.level, b.chunks) =
      comparisonChunks operator' (a'.level, a'.chunks) (b'.level, b'.chunks)) :
    a.chunks = a'.chunks ∧ operator = operator' ∧ b.chunks = b'.chunks := by
  obtain ⟨hleft, hmark, hright⟩ := operands_inj (marks_of_mem (code_mem_marks operator))
    (marks_of_mem (code_mem_marks operator')) (Nat.lt_succ_self _)
    (shape_of_named ha) (shape_of_named hb) (shape_of_named ha') (shape_of_named hb') h
  have hcode : ∀ x y : Comparison, Coded.code x = Coded.code y → x = y := by
    intro x y
    cases x <;> cases y <;> first | exact fun _ => rfl | exact fun h => absurd h (by decide)
  exact ⟨hleft, hcode _ _ (String.toList_inj.1 (QueryText.chars_injective hmark)), hright⟩

/-- The filter with every question for equality written as a comparison. -/
def normal : Filter → Filter
  | .implies a b => .implies a.normal b.normal
  | .or a b => .or a.normal b.normal
  | .and a b => .and a.normal b.normal
  | .compare a b operator s => .compare a.normal b.normal operator s
  | .equals a b s => .compare a.normal b.normal .equal s
  | .not a => .not a.normal
  | f => f

private theorem level_eq_of_chunks {f g : Filter} (hf : Named f) (hg : Named g) (h : f.chunks = g.chunks) :
    f.level.rank = g.level.rank ∨ 4 ≤ f.level.rank ∧ 4 ≤ g.level.rank :=
  (shape_of_named hf).level_eq (h ▸ shape_of_named hg)

def sign (f : Filter) : Option TextItem := QueryText.firstMark (row f.chunks)

private theorem sign_not (a : Filter) : (Filter.not a).sign = some (.char '!') :=
  QueryText.firstMark_punctuation (by decide) _

private theorem sign_tokenValue {capture layer : String} (h : IsName capture) :
    (Filter.tokenValue capture layer).sign = some (.char '.') := by
  rw [sign, chunks, QueryText.row_singleton, QueryText.chars_append, QueryText.firstMark_append h.2]
  exact QueryText.firstMark_punctuation (by decide) _

private theorem sign_call {name capture : String} (h : IsName name) :
    (Filter.call name capture).sign = some (.group .round (chars capture.toList)) := by
  rw [sign, chunks, QueryText.row_singleton, QueryText.firstMark_append h.2]
  rfl

private theorem sign_text (value : String) : (Filter.text value).sign = some (.quoted value.toList) := rfl

private theorem sign_eq_of_chunks {f g : Filter} (h : f.chunks = g.chunks) : f.sign = g.sign :=
  congrArg (QueryText.firstMark ∘ row) h

theorem normal_eq_of_chunks {f g : Filter} (hf : Named f) (hg : Named g) (h : f.chunks = g.chunks) :
    f.normal = g.normal := by
  induction hf generalizing g with
  | implies ha hb iha ihb =>
      have hlevel := level_eq_of_chunks (.implies ha hb) hg h
      cases hg with
      | implies ha' hb' =>
          obtain ⟨hleft, hright⟩ := binaryChunks_inj .implication List.mem_cons_self ha hb ha' hb' h
          rw [normal, normal, iha ha' hleft, ihb hb' hright]
      | _ => simp [level, Level.rank] at hlevel
  | or ha hb iha ihb =>
      have hlevel := level_eq_of_chunks (.or ha hb) hg h
      cases hg with
      | or ha' hb' =>
          obtain ⟨hleft, hright⟩ := binaryChunks_inj .or List.mem_cons_self ha hb ha' hb' h
          rw [normal, normal, iha ha' hleft, ihb hb' hright]
      | _ => simp [level, Level.rank] at hlevel
  | and ha hb iha ihb =>
      have hlevel := level_eq_of_chunks (.and ha hb) hg h
      cases hg with
      | and ha' hb' =>
          obtain ⟨hleft, hright⟩ := binaryChunks_inj .and List.mem_cons_self ha hb ha' hb' h
          rw [normal, normal, iha ha' hleft, ihb hb' hright]
      | _ => simp [level, Level.rank] at hlevel
  | compare operator ha hb iha ihb =>
      have hlevel := level_eq_of_chunks (.compare operator ha hb) hg h
      cases hg with
      | compare operator' ha' hb' =>
          obtain ⟨hleft, rfl, hright⟩ := comparisonChunks_inj ha hb ha' hb' h
          rw [normal, normal, iha ha' hleft, ihb hb' hright]
      | equals ha' hb' =>
          obtain ⟨hleft, rfl, hright⟩ := comparisonChunks_inj ha hb ha' hb' h
          rw [normal, normal, iha ha' hleft, ihb hb' hright]
      | _ => simp [level, Level.rank] at hlevel
  | equals ha hb iha ihb =>
      have hlevel := level_eq_of_chunks (.equals ha hb) hg h
      cases hg with
      | compare operator' ha' hb' =>
          obtain ⟨hleft, rfl, hright⟩ := comparisonChunks_inj ha hb ha' hb' h
          rw [normal, normal, iha ha' hleft, ihb hb' hright]
      | equals ha' hb' =>
          obtain ⟨hleft, -, hright⟩ := comparisonChunks_inj ha hb ha' hb' h
          rw [normal, normal, iha ha' hleft, ihb hb' hright]
      | _ => simp [level, Level.rank] at hlevel
  | @not a ha ih =>
      have hlevel := level_eq_of_chunks (.not ha) hg h
      have hsign := sign_eq_of_chunks h
      cases hg with
      | @not b hb =>
          obtain ⟨c, hc⟩ := slot_single ha
          obtain ⟨d, hd⟩ := slot_single hb
          rw [chunks, chunks, hc, hd, QueryText.row_singleton, QueryText.row_singleton] at h
          have hslot : slot 4 a.level.rank a.chunks = slot 4 b.level.rank b.chunks := by
            rw [hc, hd, (List.cons.inj (List.cons.inj h).1).2]
          rw [normal, normal, ih hb ((shape_of_named ha).slot_injective (shape_of_named hb) hslot)]
      | text => simp [sign_not, sign_text] at hsign
      | tokenValue hcapture => simp [sign_not, sign_tokenValue hcapture] at hsign
      | call hname => simp [sign_not, sign_call hname] at hsign
      | _ => simp [level, Level.rank] at hlevel
  | text value =>
      have hlevel := level_eq_of_chunks (.text value) hg h
      have hsign := sign_eq_of_chunks h
      cases hg with
      | text value' =>
          rw [sign_text, sign_text] at hsign
          rw [String.toList_inj.1 (TextItem.quoted.inj (Option.some.inj hsign))]
      | not => simp [sign_not, sign_text] at hsign
      | tokenValue hcapture => simp [sign_text, sign_tokenValue hcapture] at hsign
      | call hname => simp [sign_text, sign_call hname] at hsign
      | _ => simp [level, Level.rank] at hlevel
  | tokenValue hcapture hlayer =>
      have hlevel := level_eq_of_chunks (.tokenValue hcapture hlayer) hg h
      have hsign := sign_eq_of_chunks h
      cases hg with
      | tokenValue hcapture' hlayer' =>
          have htext := QueryText.chars_injective (List.cons.inj h).1
          obtain ⟨hcaptures, -, hlayers⟩ := QueryText.append_cons_inj_of_first (P := (· = '.'))
            (fun c hc heq => hcapture.notMem (c := '.') (by decide) (heq ▸ hc))
            (fun c hc heq => hcapture'.notMem (c := '.') (by decide) (heq ▸ hc)) rfl rfl htext
          rw [String.toList_inj.1 hcaptures, String.toList_inj.1 hlayers]
      | not => simp [sign_not, sign_tokenValue hcapture] at hsign
      | text => simp [sign_text, sign_tokenValue hcapture] at hsign
      | call hname => simp [sign_tokenValue hcapture, sign_call hname] at hsign
      | _ => simp [level, Level.rank] at hlevel
  | call hname hcapture =>
      have hlevel := level_eq_of_chunks (.call hname hcapture) hg h
      have hsign := sign_eq_of_chunks h
      cases hg with
      | call hname' hcapture' =>
          obtain ⟨hnames, hcaptures⟩ := List.append_inj' (List.cons.inj h).1 rfl
          have hcontent := (TextItem.group.inj (List.cons.inj hcaptures).1).2
          rw [String.toList_inj.1 (QueryText.chars_injective hnames),
            String.toList_inj.1 (QueryText.chars_injective hcontent)]
      | not => simp [sign_not, sign_call hname] at hsign
      | text => simp [sign_text, sign_call hname] at hsign
      | tokenValue hcapture' => simp [sign_call hname, sign_tokenValue hcapture'] at hsign
      | _ => simp [level, Level.rank] at hlevel

/-! ### Writing -/

/-- A mark between two blanks. -/
theorem reads_mark {level : Level} {mark : String} (h : mark ∈ level.marks) :
    Reads false (' ' :: mark.toList ++ [' ']) (.char ' ' :: chars mark.toList ++ [.char ' ']) := by
  have hblank : Reads false [' '] [.char ' '] := Reads.ordinary (by decide)
  have hequals : Reads false ['='] [.char '='] := Reads.ordinary (by decide)
  have hall : ∀ mark ∈ allMarks,
      Reads false (' ' :: mark.toList ++ [' ']) (.char ' ' :: chars mark.toList ++ [.char ' ']) := by
    simp only [allMarks, List.forall_mem_cons]
    refine ⟨?_, ?_, ?_, ?_, ?_, ?_, ?_, ?_, ?_, by simp⟩
    · exact hblank.append ((Reads.ordinary (c := '-') (by decide)).append (Reads.greater.append hblank))
    · exact @Reads.chars false " | ".toList (by decide)
    · exact @Reads.chars false " & ".toList (by decide)
    · exact @Reads.chars false " = ".toList (by decide)
    · exact @Reads.chars false " != ".toList (by decide)
    · exact hblank.append (Reads.less (.inl rfl))
    · exact hblank.append ((Reads.less (.inr rfl)).append hblank)
    · exact hblank.append (Reads.greater.append hblank)
    · exact hblank.append (Reads.greater.append (hequals.append hblank))
  exact hall mark (mem_allMarks h)

private theorem reads_operands {a b : Filter} {left right : String} {level : Level} {mark : String} (least least' : Nat)
    (hmark : mark ∈ level.marks) (ha : Shape Marks a.level.rank a.chunks) (hb : Shape Marks b.level.rank b.chunks)
    (hleft : Reads false left.toList (row a.chunks)) (hright : Reads false right.toList (row b.chunks)) :
    Reads false
      ((QueryText.inSlot ⟨left, a.level.rank⟩ least).toList ++ (' ' :: mark.toList ++ [' '])
        ++ (QueryText.inSlot ⟨right, b.level.rank⟩ least').toList)
      (row (slot least a.level.rank a.chunks ++ chars mark.toList :: slot least' b.level.rank b.chunks)) := by
  have hrow := QueryText.row_between [chars mark.toList] (ha.slot not_marks_group least).ne_nil
    (hb.slot not_marks_group least').ne_nil
  rw [List.singleton_append] at hrow
  rw [hrow]
  exact ((Reads.inSlot (w := ⟨left, a.level.rank⟩) hleft least).append (reads_mark hmark)).append
    (Reads.inSlot (w := ⟨right, b.level.rank⟩) hright least')

private theorem reads_binary (level : Level) (mark : String) {operator : String} {a b : Filter} {left right : String}
    (hmark : mark ∈ level.marks) (hoperator : operator.toList = ' ' :: mark.toList ++ [' ']) (ha : Named a)
    (hb : Named b) (hleft : Reads false left.toList (row a.chunks))
    (hright : Reads false right.toList (row b.chunks)) :
    Reads false (binary level operator ⟨left, a.level.rank⟩ ⟨right, b.level.rank⟩).text.toList
      (row (binaryChunks level mark (a.level, a.chunks) (b.level, b.chunks))) := by
  have htext : ∀ x y : QueryText, (binary level operator x y).text.toList =
      (x.inSlot level.rank).toList ++ operator.toList ++ (y.inSlot (level.rank + 1)).toList := by
    intro x y
    simp [binary, piece, toString, String.toList_append]
  rw [htext, hoperator]
  exact reads_operands _ _ hmark (shape_of_named ha) (shape_of_named hb) hleft hright

private theorem reads_comparison (operator : Comparison) {a b : Filter} {left right : String} (ha : Named a)
    (hb : Named b) (hleft : Reads false left.toList (row a.chunks)) (hright : Reads false right.toList (row b.chunks)) :
    Reads false (comparison operator ⟨left, a.level.rank⟩ ⟨right, b.level.rank⟩).text.toList
      (row (comparisonChunks operator (a.level, a.chunks) (b.level, b.chunks))) := by
  have htext : ∀ x y : QueryText, (comparison operator x y).text.toList =
      (x.inSlot 4).toList ++ (' ' :: (Coded.code operator).toList ++ [' ']) ++ (y.inSlot 4).toList := by
    intro x y
    simp [comparison, piece, Level.rank, toString, String.toList_append]
  rw [htext]
  exact reads_operands _ _ (code_mem_marks operator) (shape_of_named ha) (shape_of_named hb) hleft hright

/-- Such filters can be written, and the text is read as their chunks. -/
theorem write_of_named {f : Filter} (hf : Named f) :
    ∃ text, f.write = .ok ⟨text, f.level.rank⟩ ∧ Reads false text.toList (row f.chunks) := by
  induction hf with
  | @implies a b ha hb iha ihb =>
      obtain ⟨left, hwritea, hreada⟩ := iha
      obtain ⟨right, hwriteb, hreadb⟩ := ihb
      refine ⟨_, by rw [write, hwritea, hwriteb]; rfl, ?_⟩
      exact reads_binary .implication "->" List.mem_cons_self rfl ha hb hreada hreadb
  | @or a b ha hb iha ihb =>
      obtain ⟨left, hwritea, hreada⟩ := iha
      obtain ⟨right, hwriteb, hreadb⟩ := ihb
      refine ⟨_, by rw [write, hwritea, hwriteb]; rfl, ?_⟩
      exact reads_binary .or "|" List.mem_cons_self rfl ha hb hreada hreadb
  | @and a b ha hb iha ihb =>
      obtain ⟨left, hwritea, hreada⟩ := iha
      obtain ⟨right, hwriteb, hreadb⟩ := ihb
      refine ⟨_, by rw [write, hwritea, hwriteb]; rfl, ?_⟩
      exact reads_binary .and "&" List.mem_cons_self rfl ha hb hreada hreadb
  | @compare a b operator ha hb iha ihb =>
      obtain ⟨left, hwritea, hreada⟩ := iha
      obtain ⟨right, hwriteb, hreadb⟩ := ihb
      refine ⟨_, by rw [write, hwritea, hwriteb]; rfl, ?_⟩
      exact reads_comparison operator ha hb hreada hreadb
  | @equals a b ha hb iha ihb =>
      obtain ⟨left, hwritea, hreada⟩ := iha
      obtain ⟨right, hwriteb, hreadb⟩ := ihb
      refine ⟨_, by rw [write, hwritea, hwriteb]; rfl, ?_⟩
      exact reads_comparison .equal ha hb hreada hreadb
  | @not a ha ih =>
      obtain ⟨text, hwrite, hread⟩ := ih
      refine ⟨_, by rw [write, hwrite]; rfl, ?_⟩
      have hmark : Reads false ['!'] [.char '!'] := Reads.ordinary (by decide)
      rw [chunks, QueryText.row_singleton]
      have hreads := hmark.append (Reads.inSlot (w := ⟨text, a.level.rank⟩) hread 4)
      simpa [Level.rank, toString, String.toList_append] using hreads
  | text value =>
      refine ⟨_, rfl, ?_⟩
      rw [chunks, QueryText.row_singleton]
      exact Reads.quoted value
  | @tokenValue capture layer hcapture hlayer =>
      refine ⟨_, rfl, ?_⟩
      have hdot : Reads false ['.'] [.char '.'] := Reads.ordinary (by decide)
      rw [chunks, QueryText.row_singleton, QueryText.chars_append]
      change Reads false _ (chars capture.toList ++ .char '.' :: chars layer.toList)
      have hreads := (Reads.chars hcapture.isOrdinary).append (hdot.append (Reads.chars hlayer.isOrdinary))
      simpa [toString, String.toList_append] using hreads
  | @call name capture hname hcapture =>
      refine ⟨_, rfl, ?_⟩
      rw [chunks, QueryText.row_singleton]
      have hcall : Reads false name.toList (chars name.toList) := Reads.chars hname.isOrdinary
      have hreads := hcall.append (Reads.chars hcapture.isOrdinary).round
      simpa [toString, String.toList_append] using hreads

end Filter

end CorpusSearch
