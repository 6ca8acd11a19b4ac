import CorpusSearch.Proofs.TokenText

/-!
The text of single nodes can be read in one way only: words, repetition marks and tags. A word that is a keyword or
ends in a repetition mark looks like something else, and so does a repetition that has no mark. Main statements: a
repetition mark and what stands before it are told apart, and tags with the same items are equal.
-/

set_option autoImplicit false

namespace CorpusSearch

open QueryText (TextItem Chunk Reads IsChunk IsName IsOrdinary chars row)

/-! ### Numbers -/

namespace QueryText

private theorem natText_injective {m n : Nat} (h : (toString m).toList = (toString n).toList) : m = n := by
  have hdigits : Nat.toDigits 10 m = Nat.toDigits 10 n := by
    rw [← Nat.toList_repr, ← Nat.toList_repr]
    exact h
  rw [← Nat.ofDigitChars_toDigits (b := 10) (n := m) (by decide) (by decide), hdigits,
    Nat.ofDigitChars_toDigits (by decide) (by decide)]

private theorem isDigit_of_mem_natText {n : Nat} {c : Char} (h : c ∈ (toString n).toList) : c.isDigit = true := by
  have hrepr : c ∈ n.repr.toList := h
  rw [Nat.toList_repr] at hrepr
  exact Nat.isDigit_of_mem_toDigits (by decide) (by decide) hrepr

private theorem notMem_natText {n : Nat} {c : Char} (hc : c.isDigit = false) : c ∉ (toString n).toList := by
  intro h
  rw [isDigit_of_mem_natText h] at hc
  cases hc

theorem natText_ne_nil (n : Nat) : (toString n).toList ≠ [] := by
  have hrepr : (toString n).toList = Nat.toDigits 10 n := Nat.toList_repr
  rw [hrepr]
  intro hnil
  have hlength := Nat.length_toDigits_pos (b := 10) (n := n)
  rw [hnil] at hlength
  exact Nat.lt_irrefl _ hlength

private theorem intText_ofNat (n : Nat) : (toString (Int.ofNat n)).toList = (toString n).toList := rfl

theorem intText_negSucc (n : Nat) : (toString (Int.negSucc n)).toList = '-' :: (toString n.succ).toList := by
  have htext : toString (Int.negSucc n) = "-" ++ toString n.succ := rfl
  rw [htext, String.toList_append]
  rfl

theorem intText_injective {a b : Int} (h : (toString a).toList = (toString b).toList) : a = b := by
  have hminus : ∀ {m n : Nat}, (toString m).toList ≠ '-' :: (toString n).toList :=
    fun {m n} heq => notMem_natText (c := '-') (n := m) (by decide) (by rw [heq]; exact List.mem_cons_self)
  cases a with
  | ofNat m =>
      cases b with
      | ofNat n => rw [natText_injective h]
      | negSucc n =>
          rw [intText_ofNat, intText_negSucc] at h
          exact absurd h hminus
  | negSucc m =>
      cases b with
      | ofNat n =>
          rw [intText_ofNat, intText_negSucc] at h
          exact absurd h.symm hminus
      | negSucc n =>
          rw [intText_negSucc, intText_negSucc] at h
          rw [Nat.succ.inj (natText_injective (List.cons.inj h).2)]

theorem notMem_intText {a : Int} {c : Char} (hc : c.isDigit = false) (hminus : c ≠ '-') :
    c ∉ (toString a).toList := by
  cases a with
  | ofNat n => exact notMem_natText hc
  | negSucc n =>
      rw [intText_negSucc, List.mem_cons, not_or]
      exact ⟨hminus, notMem_natText hc⟩

/-! ### Repetition marks -/

inductive MarkTail (min : UInt32) : UInt32 → List Char → Prop
  | exactly : MarkTail min min []
  | atLeast : MarkTail min Bound.unlimited [',']
  | between (max : UInt32) : MarkTail min max (',' :: (toString max).toList)

inductive Mark : UInt32 → UInt32 → List Char → Prop
  | once : Mark 1 1 []
  | any : Mark 0 Bound.unlimited ['*']
  | some : Mark 1 Bound.unlimited ['+']
  | optional : Mark 0 1 ['?']
  | braces {min max : UInt32} {tail : List Char} (h : MarkTail min max tail) :
      Mark min max ('\x7b' :: ((toString min).toList ++ tail) ++ ['\x7d'])

theorem mark_repetitionMark (min max : UInt32) : Mark min max (repetitionMark min max).toList := by
  unfold repetitionMark
  split
  · rename_i h
    simp only [Bool.and_eq_true, decide_eq_true_eq] at h
    obtain ⟨rfl, rfl⟩ := h
    exact .once
  · split
    · rename_i h
      subst h
      split
      · rename_i h
        subst h
        exact .any
      · split
        · rename_i h
          subst h
          exact .some
        · simpa [toString, String.toList_append] using Mark.braces (@MarkTail.atLeast min)
    · split
      · rename_i h
        simp only [Bool.and_eq_true, decide_eq_true_eq] at h
        obtain ⟨rfl, rfl⟩ := h
        exact .optional
      · split
        · rename_i h
          subst h
          simpa [toString, String.toList_append] using Mark.braces (@MarkTail.exactly min)
        · simpa [toString, String.toList_append] using Mark.braces (@MarkTail.between min max)

theorem MarkTail.head? {min max : UInt32} {tail : List Char} (h : MarkTail min max tail) {c : Char}
    (hc : tail.head? = some c) : c = ',' := by
  cases h with
  | exactly => cases hc
  | atLeast => exact (Option.some.inj hc).symm
  | between => exact (Option.some.inj hc).symm

private theorem MarkTail.eq_of_append {min max min' max' : UInt32} {tail tail' : List Char} (h : MarkTail min max tail)
    (h' : MarkTail min' max' tail') (heq : (toString min).toList ++ tail = (toString min').toList ++ tail') :
    min = min' ∧ max = max' := by
  have hdigits : ∀ {m n : UInt32}, (toString m).toList = (toString n).toList → m = n :=
    fun h => UInt32.toNat_inj.1 (natText_injective h)
  have hcomma : ∀ n : UInt32, ∀ c ∈ (toString n).toList, c ≠ ',' := by
    rintro n c hc rfl
    exact notMem_natText (n := n.toNat) (by decide) hc
  obtain ⟨hmin, htail⟩ := append_inj_of_span (hcomma min) (hcomma min') (fun c hc hne => hne (h.head? hc))
    (fun c hc hne => hne (h'.head? hc)) heq
  obtain rfl := hdigits hmin
  subst htail
  refine ⟨rfl, ?_⟩
  cases h with
  | exactly =>
      cases h' with
      | exactly => rfl
  | atLeast =>
      generalize htail : [','] = tail' at h'
      cases h' with
      | exactly => cases htail
      | atLeast => rfl
      | between => exact absurd (List.cons.inj htail).2.symm (natText_ne_nil _)
  | between =>
      generalize htail : ',' :: (toString max).toList = tail' at h'
      cases h' with
      | exactly => cases htail
      | atLeast => exact absurd (List.cons.inj htail).2 (natText_ne_nil _)
      | between => exact hdigits (List.cons.inj htail).2

theorem Mark.eq_of_text {min max min' max' : UInt32} {mark : List Char} (h : Mark min max mark)
    (h' : Mark min' max' mark) : min = min' ∧ max = max' := by
  generalize hmark : mark = mark' at h'
  cases h with
  | once => cases h' <;> simp at hmark ⊢
  | any => cases h' <;> simp at hmark ⊢
  | some => cases h' <;> simp at hmark ⊢
  | optional => cases h' <;> simp at hmark ⊢
  | braces htail =>
      cases h' with
      | braces htail' => exact htail.eq_of_append htail' (List.cons.inj (List.append_inj' hmark rfl).1).2
      | _ => simp at hmark

private theorem Mark.form {min max : UInt32} {mark : List Char} (h : Mark min max mark) :
    mark = [] ∨ (∃ c ∈ ['*', '+', '?'], mark = [c]) ∨ ∃ content, mark = '\x7b' :: content ++ ['\x7d'] := by
  cases h with
  | once => exact .inl rfl
  | any => exact .inr (.inl ⟨'*', by decide, rfl⟩)
  | some => exact .inr (.inl ⟨'+', by decide, rfl⟩)
  | optional => exact .inr (.inl ⟨'?', by decide, rfl⟩)
  | braces => exact .inr (.inr ⟨_, rfl⟩)

def endsInMark (c : Chunk) : Bool :=
  match c.getLast? with
  | some (.char d) => "*+?\x7d".toList.contains d
  | _ => false

theorem endsInMark_concat (body : Chunk) (c : Char) :
    endsInMark (body ++ [.char c]) = "*+?\x7d".toList.contains c := by
  simp [endsInMark]

theorem endsInMark_append {min max : UInt32} {mark : List Char} (h : Mark min max mark) (hmark : mark ≠ [])
    (body : Chunk) : endsInMark (body ++ chars mark) = true := by
  rcases h.form with hnil | ⟨c, hc, rfl⟩ | ⟨content, rfl⟩
  · exact absurd hnil hmark
  · have hall : ∀ c ∈ ['*', '+', '?'], "*+?\x7d".toList.contains c = true := by decide
    exact (endsInMark_concat body c).trans (hall c hc)
  · rw [chars_append, ← List.append_assoc]
    exact endsInMark_concat _ _

/-- Chunks that a repetition mark can stand behind. -/
structure Unmarked (body : Chunk) : Prop where
  ends : endsInMark body = false
  noBrace : .char '\x7b' ∉ body

theorem append_mark_inj {min max min' max' : UInt32} {mark mark' : List Char} {body body' : Chunk}
    (h : Mark min max mark) (h' : Mark min' max' mark') (hbody : Unmarked body) (hbody' : Unmarked body')
    (heq : body ++ chars mark = body' ++ chars mark') : body = body' ∧ mark = mark' := by
  by_cases hmark : mark = []
  · by_cases hmark' : mark' = []
    · rw [hmark, hmark'] at heq ⊢
      exact ⟨List.append_cancel_right heq, rfl⟩
    · have hends := endsInMark_append h' hmark' body'
      rw [← heq, hmark, chars, List.map_nil, List.append_nil, hbody.ends] at hends
      cases hends
  · by_cases hmark' : mark' = []
    · have hends := endsInMark_append h hmark body
      rw [heq, hmark', chars, List.map_nil, List.append_nil, hbody'.ends] at hends
      cases hends
    · have hlast : ∀ {x y : Chunk} {c : Char}, c ∈ ['*', '+', '?'] →
          x ++ chars [c] ≠ y ++ [.char '\x7d'] := by
        intro x y c hc hlast
        have hchar := TextItem.char.inj (List.cons.inj (List.append_inj' hlast rfl).2).1
        rw [hchar] at hc
        exact absurd hc (by decide)
      have hbraces : ∀ {y : Chunk} {content : List Char},
          y ++ chars ('\x7b' :: content ++ ['\x7d']) = y ++ chars ('\x7b' :: content) ++ [.char '\x7d'] := by
        intro y content
        rw [chars_append, ← List.append_assoc]
        rfl
      have hbraces' : ∀ {y : Chunk} {content : List Char},
          y ++ chars ('\x7b' :: content ++ ['\x7d']) = y ++ .char '\x7b' :: chars (content ++ ['\x7d']) := rfl
      rcases h.form with hnil | ⟨c, hc, rfl⟩ | ⟨content, rfl⟩
      · exact absurd hnil hmark
      · rcases h'.form with hnil' | ⟨c', hc', rfl⟩ | ⟨content', rfl⟩
        · exact absurd hnil' hmark'
        · obtain ⟨hbodies, hmarks⟩ := List.append_inj' heq rfl
          exact ⟨hbodies, chars_injective hmarks⟩
        · exact absurd (heq.trans hbraces) (hlast hc)
      · rcases h'.form with hnil' | ⟨c', hc', rfl⟩ | ⟨content', rfl⟩
        · exact absurd hnil' hmark'
        · exact absurd (heq.symm.trans hbraces) (hlast hc')
        · have hbrace : ∀ {b : Chunk}, Unmarked b → ∀ item ∈ b, ¬item = .char '\x7b' :=
            fun hb item hitem hitems => hb.noBrace (hitems ▸ hitem)
          obtain ⟨hbodies, -, hmarks⟩ :=
            append_cons_inj_of_first (hbrace hbody) (hbrace hbody') rfl rfl (hbraces'.symm.trans (heq.trans hbraces'))
          exact ⟨hbodies, congrArg (List.cons _) (chars_injective hmarks)⟩

theorem Mark.mem {min max : UInt32} {mark : List Char} (h : Mark min max mark) {c : Char} (hc : c ∈ mark) :
    c.isDigit = true ∨ c ∈ "*+?\x7b,\x7d".toList := by
  have hdigits : ∀ {n : UInt32}, c ∈ (toString n).toList → c.isDigit = true := isDigit_of_mem_natText
  cases h with
  | once => cases hc
  | any | some | optional =>
      rw [List.mem_singleton.1 hc]
      decide
  | braces htail =>
      simp only [List.cons_append, List.append_assoc, List.mem_cons, List.mem_append, List.not_mem_nil,
        or_false] at hc
      rcases hc with rfl | hc | hc | rfl
      · decide
      · exact .inl (hdigits hc)
      · cases htail with
        | exactly => cases hc
        | atLeast =>
            rw [List.mem_singleton.1 hc]
            decide
        | between =>
            rcases List.mem_cons.1 hc with rfl | hc
            · decide
            · exact .inl (hdigits hc)
      · decide

theorem Mark.notMem {min max : UInt32} {mark : List Char} (h : Mark min max mark) {c : Char}
    (hc : c.isDigit = false ∧ c ∉ "*+?\x7b,\x7d".toList) : c ∉ mark := by
  intro hmem
  rcases h.mem hmem with hdigit | hmark
  · rw [hc.1] at hdigit
    cases hdigit
  · exact hc.2 hmark

theorem Mark.reads {min max : UInt32} {mark : List Char} (h : Mark min max mark) :
    Reads false mark (chars mark) := by
  refine Reads.chars fun c hc hmem => h.notMem ?_ hc
  have hall : ∀ c ∈ ['\'', '(', '[', '<', ')', ']', '>'], c.isDigit = false ∧ c ∉ "*+?\x7b,\x7d".toList := by decide
  exact hall c hmem

/-! ### Chunks that bind strongly -/

/-- Chunks that are no marks of other constructs, whatever stands beside them. -/
structure Solid (c : Chunk) : Prop where
  isChunk : IsChunk c
  starts : ∀ d, c.head? = some (.char d) → isNameChar d = true
  noColon : .char ':' ∉ c
  noKeyword : c ≠ chars "within".toList ∧ c ≠ chars "containing".toList

/-- What binds so strongly that a repetition mark can stand behind it. -/
structure Body (c : Chunk) : Prop extends Solid c, Unmarked c

theorem notMem_chars {text : List Char} {c : Char} (h : c ∉ text) : .char c ∉ chars text := by
  intro hmem
  obtain ⟨d, hd, heq⟩ := List.mem_map.1 hmem
  exact h (TextItem.char.inj heq ▸ hd)

private theorem isChunk_append_mark {body : Chunk} (h : IsChunk body) {min max : UInt32} {mark : List Char}
    (hmark : Mark min max mark) : IsChunk (body ++ chars mark) := by
  by_cases hnil : mark = []
  · rw [hnil, chars, List.map_nil, List.append_nil]
    exact h
  · refine (IsChunk.chars hnil (hmark.notMem (by decide)) ?_).append_left h.noBlank
    rcases hmark.form with hnil' | ⟨c, hc, rfl⟩ | ⟨content, rfl⟩
    · exact absurd hnil' hnil
    · intro hcomma
      obtain rfl : c = ',' := Option.some.inj hcomma
      exact absurd hc (by decide)
    · rw [List.getLast?_concat]
      decide

theorem Body.solid_append {body : Chunk} (h : Body body) {min max : UInt32} {mark : List Char}
    (hmark : Mark min max mark) : Solid (body ++ chars mark) := by
  have hne := h.isChunk.ne_nil
  refine ⟨isChunk_append_mark h.isChunk hmark, ?_, ?_, ?_⟩
  · intro d hd
    rw [List.head?_append_of_ne_nil _ hne] at hd
    exact h.starts d hd
  · rw [List.mem_append, not_or]
    exact ⟨h.noColon, notMem_chars (hmark.notMem (by decide))⟩
  · by_cases hnil : mark = []
    · rw [hnil, chars, List.map_nil, List.append_nil]
      exact h.noKeyword
    · have hends := endsInMark_append hmark hnil body
      constructor
      · intro heq
        rw [heq] at hends
        exact absurd hends (by decide)
      · intro heq
        rw [heq] at hends
        exact absurd hends (by decide)

theorem body_item {item : TextItem} (h : ∀ c, item ≠ .char c) : Body [item] := by
  refine ⟨⟨.item h, ?_, ?_, ?_⟩, ⟨?_, ?_⟩⟩
  · intro d hd
    exact absurd (Option.some.inj hd) (h d)
  · simpa [eq_comm] using h ':'
  · simp [chars]
  · cases item with
    | char c => exact absurd rfl (h c)
    | quoted => rfl
    | group => rfl
  · simpa [eq_comm] using h '\x7b'

theorem body_call {name : String} (hname : IsName name) (content : List TextItem) :
    Body (chars name.toList ++ [.group .round content]) := by
  obtain ⟨d, rest, htext, hd⟩ := hname.exists_cons
  refine ⟨⟨?_, ?_, ?_, ?_⟩, ⟨?_, ?_⟩⟩
  · exact (IsChunk.item (by simp)).append_left (hname.notMem_chars (by decide))
  · intro e he
    rw [htext] at he
    rw [← TextItem.char.inj (Option.some.inj he)]
    exact hd
  · simpa using hname.notMem_chars (c := ':') (by decide)
  · have hgroup : ∀ text : List Char, chars name.toList ++ [.group .round content] ≠ chars text := by
      intro text heq
      have hmem : .group .round content ∈ chars text := heq ▸ List.mem_append_right _ List.mem_cons_self
      simp [chars] at hmem
    exact ⟨hgroup _, hgroup _⟩
  · simp [endsInMark]
  · simpa using hname.notMem_chars (c := '\x7b') (by decide)

/-! ### Words -/

private theorem body_chars {first : Char} {rest : List Char} (hfirst : isNameChar first = true)
    (h : ∀ c ∈ rest, isNameChar c = true ∨ c ∈ ".*+?-".toList)
    (hlast : ∀ c, (first :: rest).getLast? = some c → c ∉ ['*', '+', '?'])
    (hkeyword : first :: rest ≠ "within".toList ∧ first :: rest ≠ "containing".toList) :
    Body (chars (first :: rest)) := by
  have hmem : ∀ c ∈ first :: rest, isNameChar c = true ∨ c ∈ ".*+?-".toList :=
    List.forall_mem_cons.2 ⟨.inl hfirst, h⟩
  have hnot : ∀ {c : Char}, c ∈ punctuation ∧ c ∉ ".*+?-".toList → .char c ∉ chars (first :: rest) := by
    intro c hc
    refine notMem_chars fun hc' => ?_
    rcases hmem c hc' with hname | hmark
    · rw [isNameChar_eq_false_of_mem hc.1] at hname
      cases hname
    · exact hc.2 hmark
  have hchunk : IsChunk (chars (first :: rest)) :=
    ⟨List.cons_ne_nil _ _, hnot (by decide), fun hcomma => hnot (c := ',') (by decide) (List.mem_of_getLast? hcomma)⟩
  refine ⟨⟨hchunk, ?_, hnot (by decide), ?_⟩, ⟨?_, hnot (by decide)⟩⟩
  · intro d hd
    exact TextItem.char.inj (Option.some.inj hd) ▸ hfirst
  · exact ⟨fun heq => hkeyword.1 (chars_injective heq), fun heq => hkeyword.2 (chars_injective heq)⟩
  · obtain ⟨init, last, hsplit⟩ : ∃ init last, first :: rest = init ++ [last] :=
      ⟨_, _, (List.dropLast_append_getLast (List.cons_ne_nil first rest)).symm⟩
    have hmark := hlast last (by rw [hsplit, List.getLast?_concat])
    have hbrace : last ≠ '\x7d' := by
      rintro rfl
      exact hnot (c := '\x7d') (by decide) (List.mem_map_of_mem (by rw [hsplit]; simp))
    rw [hsplit, chars_append]
    refine (endsInMark_concat _ _).trans ?_
    simp only [List.mem_cons, List.not_mem_nil, or_false, not_or] at hmark
    simp [hmark, hbrace]

theorem body_placeholder : Body (chars ['_']) :=
  body_chars (by decide +kernel) (by simp) (by simp) (by simp)

/-- Whether a word without quotes looks like nothing else: it is no keyword and does not end in a repetition mark. -/
structure IsDistinct (expression : String) : Prop where
  notWithin : expression ≠ "within"
  notContaining : expression ≠ "containing"
  last : ∀ c, expression.toList.getLast? = some c → c ∉ ['*', '+', '?']

def wordChunk (t : TokenTest) : Chunk :=
  if isPlainWord t.expression then chars t.expression.toList else [.quoted t.expression.toList]

private theorem mem_of_isPlainWord {expression : String} (h : isPlainWord expression = true) :
    ∃ first rest, expression.toList = first :: rest ∧ isNameChar first = true ∧
      ∀ c ∈ rest, isNameChar c = true ∨ c ∈ ".*+?-".toList := by
  unfold isPlainWord at h
  split at h
  · cases h
  · rename_i first rest htext
    simp only [Bool.and_eq_true, List.all_eq_true] at h
    refine ⟨first, rest, htext, by simp [isNameChar, h.1], fun c hc => ?_⟩
    rcases Bool.or_eq_true_iff.1 (h.2 c hc) with hname | hmark
    · exact .inl (by simp [isNameChar, hname])
    · have hall : ∀ c ∈ ".*+?-_".toList, c = '_' ∨ c ∈ ".*+?-".toList := by decide
      rcases hall c (by simpa using hmark) with rfl | hmark
      · exact .inl (by decide +kernel)
      · exact .inr hmark

theorem body_wordChunk {t : TokenTest} (h : isPlainWord t.expression = true → IsDistinct t.expression) :
    Body (wordChunk t) := by
  unfold wordChunk
  split
  · rename_i hplain
    have hdistinct := h hplain
    obtain ⟨first, rest, htext, hfirst, hrest⟩ := mem_of_isPlainWord hplain
    rw [htext]
    refine body_chars hfirst hrest (htext ▸ hdistinct.last) ⟨?_, ?_⟩
    · exact htext ▸ fun heq => hdistinct.notWithin (String.toList_inj.1 heq)
    · exact htext ▸ fun heq => hdistinct.notContaining (String.toList_inj.1 heq)
  · exact body_item (by simp)

theorem wordChunk_inj {t t' : TokenTest} (h : wordChunk t = wordChunk t') : t.expression = t'.expression := by
  unfold wordChunk at h
  have hquoted : ∀ {text text' : List Char}, chars text ≠ [.quoted text'] := by
    intro text text' heq
    have hmem : .quoted text' ∈ chars text := heq ▸ List.mem_cons_self
    simp [chars] at hmem
  split at h <;> split at h
  · exact String.toList_inj.1 (chars_injective h)
  · exact absurd h hquoted
  · exact absurd h.symm hquoted
  · exact String.toList_inj.1 (TextItem.quoted.inj (List.cons.inj h).1)

private theorem isOrdinary_of_isPlainWord {expression : String} (h : isPlainWord expression = true) :
    ∀ c ∈ expression.toList, IsOrdinary c := by
  obtain ⟨first, rest, htext, hfirst, hrest⟩ := mem_of_isPlainWord h
  have hall : ∀ c ∈ ".*+?-".toList, IsOrdinary c := by decide
  rw [htext]
  refine List.forall_mem_cons.2 ⟨isOrdinary_of_isNameChar hfirst, fun c hc => ?_⟩
  rcases hrest c hc with hname | hmark
  · exact isOrdinary_of_isNameChar hname
  · exact hall c hmark

theorem word_eq {p : Pattern} {t : TokenTest} (ht : Pattern.Tests p t) :
    ∃ text, word t = .ok ⟨text, Level.atom.rank⟩ ∧ Reads false text.toList (row [wordChunk t]) := by
  refine ⟨_, by rw [word, ht.flagged]; rfl, ?_⟩
  rw [row_singleton, wordChunk]
  split
  · rename_i hplain
    exact Reads.chars (isOrdinary_of_isPlainWord hplain)
  · exact Reads.quoted _

/-! ### Tags -/

def valueItems : AttributeValue → List TextItem
  | .expression text => [.quoted text.toList]
  | .range min max =>
    [.char 'i', .char 'n', .group .square (chars ((toString min).toList ++ ',' :: (toString max).toList))]

def attributeItems (e : String × AttributeValue) : List TextItem :=
  .char ' ' :: chars e.1.toList ++ .char '=' :: valueItems e.2

def tagContent (tag : TagPattern) : List TextItem :=
  match tag.adjust with
  | .fullTag => chars tag.name.toList ++ (tag.attributes.entries.flatMap attributeItems ++ [.char '/'])
  | .leadingEdge => chars tag.name.toList ++ tag.attributes.entries.flatMap attributeItems
  | .trailingEdge => .char '/' :: chars tag.name.toList

structure TagNamed (tag : TagPattern) : Prop where
  name : IsName tag.name
  attributes : ∀ e ∈ tag.attributes.entries, IsName e.1
  edge : tag.adjust = .trailingEdge → tag.attributes.entries = []

private theorem valueItems_append_inj {v v' : AttributeValue} {rest rest' : List TextItem}
    (h : valueItems v ++ rest = valueItems v' ++ rest') : v = v' ∧ rest = rest' := by
  cases v with
  | expression text =>
      cases v' with
      | expression text' =>
          obtain ⟨hvalue, hrest⟩ := List.cons.inj h
          rw [String.toList_inj.1 (TextItem.quoted.inj hvalue)]
          exact ⟨rfl, hrest⟩
      | range => exact absurd (List.cons.inj h).1 (by simp)
  | range min max =>
      cases v' with
      | expression => exact absurd (List.cons.inj h).1 (by simp)
      | range min' max' =>
          obtain ⟨hgroup, hrest⟩ := List.cons.inj (List.cons.inj (List.cons.inj h).2).2
          have htext := chars_injective (TextItem.group.inj hgroup).2
          have hcomma : ∀ n : Int, ∀ c ∈ (toString n).toList, ¬c = ',' := by
            rintro n c hc rfl
            exact notMem_intText (by decide) (by decide) hc
          obtain ⟨hmin, -, hmax⟩ := append_cons_inj_of_first (hcomma min) (hcomma min') rfl rfl htext
          rw [intText_injective hmin, intText_injective hmax]
          exact ⟨rfl, hrest⟩

private theorem attributeItems_inj {entries entries' : List (String × AttributeValue)} (h : ∀ e ∈ entries, IsName e.1)
    (h' : ∀ e ∈ entries', IsName e.1)
    (heq : entries.flatMap attributeItems = entries'.flatMap attributeItems) : entries = entries' := by
  induction entries generalizing entries' with
  | nil =>
      cases entries' with
      | nil => rfl
      | cons => cases heq
  | cons e entries ih =>
      cases entries' with
      | nil => cases heq
      | cons e' entries' =>
          obtain ⟨name, value⟩ := e
          obtain ⟨name', value'⟩ := e'
          have hequals : ∀ {n : String}, IsName n → ∀ item ∈ chars n.toList, ¬item = .char '=' :=
            fun hn item hitem heq => hn.notMem_chars (c := '=') (by decide) (heq ▸ hitem)
          simp only [List.flatMap_cons, attributeItems, List.cons_append, List.append_assoc, List.cons.injEq,
            true_and] at heq
          obtain ⟨hnames, -, hrest⟩ := append_cons_inj_of_first (hequals (h _ List.mem_cons_self))
            (hequals (h' _ List.mem_cons_self)) rfl rfl heq
          obtain ⟨rfl, hentries⟩ := valueItems_append_inj hrest
          obtain rfl : name = name' := String.toList_inj.1 (chars_injective hnames)
          rw [ih (fun e he => h e (List.mem_cons_of_mem _ he)) (fun e he => h' e (List.mem_cons_of_mem _ he))
            hentries]

private theorem notMem_attributeItems {c : Char} (hc : c ∈ punctuation) (hother : c ≠ ' ' ∧ c ≠ '=' ∧ c ≠ 'i' ∧ c ≠ 'n')
    {entries : List (String × AttributeValue)} (h : ∀ e ∈ entries, IsName e.1) :
    .char c ∉ entries.flatMap attributeItems := by
  intro hmem
  obtain ⟨⟨name, value⟩, he, hitem⟩ := List.mem_flatMap.1 hmem
  have hname := (h _ he).notMem_chars hc
  cases value <;> simp_all [attributeItems, valueItems]

private theorem head_attributeItems {entries : List (String × AttributeValue)} {c : Char} {rest : List TextItem}
    (h : rest.head? = some (.char c) → isNameChar c = false) :
    (entries.flatMap attributeItems ++ rest).head? = some (.char c) → isNameChar c = false := by
  cases entries with
  | nil => exact h
  | cons e entries =>
      intro hhead
      rw [← TextItem.char.inj (Option.some.inj hhead)]
      decide +kernel

theorem TagPattern.eq_of_parts {tag tag' : TagPattern} (hname : tag.name = tag'.name)
    (hattributes : tag.attributes.entries = tag'.attributes.entries) (hadjust : tag.adjust = tag'.adjust)
    (hcapture : tag.capture = tag'.capture) : tag = tag' := by
  obtain ⟨name, ⟨entries, _⟩, adjust, capture⟩ := tag
  obtain ⟨name', ⟨entries', _⟩, adjust', capture'⟩ := tag'
  simp_all

theorem tagContent_inj {tag tag' : TagPattern} (h : TagNamed tag) (h' : TagNamed tag')
    (heq : tagContent tag = tagContent tag') (hcapture : tag.capture = tag'.capture) : tag = tag' := by
  have hslash : ∀ {t : TagPattern}, TagNamed t → .char '/' ∉ t.attributes.entries.flatMap attributeItems :=
    fun ht => notMem_attributeItems (by decide) (by decide) ht.attributes
  have hfull : ∀ (t : TagPattern) c, (t.attributes.entries.flatMap attributeItems ++ [TextItem.char '/']).head? =
      some (.char c) → isNameChar c = false :=
    fun t c => head_attributeItems fun hc => by
      rw [← TextItem.char.inj (Option.some.inj hc)]
      exact isNameChar_eq_false_of_mem (by decide)
  have hleading : ∀ (t : TagPattern) c, (t.attributes.entries.flatMap attributeItems).head? = some (.char c) →
      isNameChar c = false := by
    intro t c hc
    have hhead := @head_attributeItems t.attributes.entries c [] nofun
    rw [List.append_nil] at hhead
    exact hhead hc
  unfold tagContent at heq
  cases hadjust : tag.adjust <;> cases hadjust' : tag'.adjust <;> rw [hadjust, hadjust'] at heq <;> dsimp only at heq
  · obtain ⟨hname, hrest⟩ := name_append_inj h.name h'.name (hfull tag) (hfull tag') heq
    have hentries := attributeItems_inj h.attributes h'.attributes (List.append_cancel_right hrest)
    exact TagPattern.eq_of_parts hname hentries (hadjust.trans hadjust'.symm) hcapture
  · obtain ⟨-, hrest⟩ := name_append_inj h.name h'.name (hfull tag) (hleading tag') heq
    exact absurd (hrest ▸ List.mem_append_right _ List.mem_cons_self) (hslash h')
  · exact absurd heq (h.name.append_ne_cons (by decide) _ _)
  · obtain ⟨-, hrest⟩ := name_append_inj h.name h'.name (hleading tag) (hfull tag') heq
    exact absurd (hrest ▸ List.mem_append_right _ List.mem_cons_self) (hslash h)
  · obtain ⟨hname, hrest⟩ := name_append_inj h.name h'.name (hleading tag) (hleading tag') heq
    have hentries := attributeItems_inj h.attributes h'.attributes hrest
    exact TagPattern.eq_of_parts hname hentries (hadjust.trans hadjust'.symm) hcapture
  · exact absurd heq (h.name.append_ne_cons (by decide) _ _)
  · exact absurd heq.symm (h'.name.append_ne_cons (by decide) _ _)
  · exact absurd heq.symm (h'.name.append_ne_cons (by decide) _ _)
  · have hname := String.toList_inj.1 (chars_injective (List.cons.inj heq).2)
    have hentries := (h.edge hadjust).trans (h'.edge hadjust').symm
    exact TagPattern.eq_of_parts hname hentries (hadjust.trans hadjust'.symm) hcapture

private theorem reads_attribute {e : String × AttributeValue} (hname : IsName e.1) :
    Reads true (attributeText e.1 e.2).toList (attributeItems e) := by
  obtain ⟨name, value⟩ := e
  have hblank : Reads true [' '] [.char ' '] := Reads.ordinary (by decide)
  have hequals : Reads true ['='] [.char '='] := Reads.ordinary (by decide)
  have hopen := hblank.append ((Reads.chars hname.isOrdinary).append hequals)
  cases value with
  | expression text =>
      simpa [attributeText, attributeItems, valueItems, toString, String.toList_append] using
        hopen.append (Reads.quoted text)
  | range min max =>
      have hin : Reads true ['i', 'n'] (chars ['i', 'n']) := Reads.chars (by decide)
      have hbounds : Reads false ((toString min).toList ++ ',' :: (toString max).toList)
          (chars ((toString min).toList ++ ',' :: (toString max).toList)) := by
        refine Reads.chars fun c hc hbracket => ?_
        have hall : ∀ c ∈ ['\'', '(', '[', '<', ')', ']', '>'], c.isDigit = false ∧ c ≠ '-' ∧ c ≠ ',' := by decide
        have hnot := hall c hbracket
        rcases List.mem_append.1 hc with hc | hc
        · exact notMem_intText hnot.1 hnot.2.1 hc
        · rcases List.mem_cons.1 hc with rfl | hc
          · exact hnot.2.2 rfl
          · exact notMem_intText hnot.1 hnot.2.1 hc
      simpa [attributeText, attributeItems, valueItems, toString, String.toList_append, chars] using
        hopen.append (hin.append hbounds.square)

private theorem reads_attributes {entries : List (String × AttributeValue)} (h : ∀ e ∈ entries, IsName e.1) :
    Reads true (String.join (entries.map fun e => attributeText e.1 e.2)).toList
      (entries.flatMap attributeItems) := by
  induction entries with
  | nil => exact Reads.nil
  | cons e entries ih =>
      have hrest := ih fun e he => h e (List.mem_cons_of_mem _ he)
      have hreads := (reads_attribute (h e List.mem_cons_self)).append hrest
      simpa [String.join_cons, String.toList_append] using hreads

def captureItems (capture : Option String) : List TextItem :=
  match capture with
  | some name => chars name.toList ++ [.char ':']
  | none => []

/-- The name of a capture and what it stands before can be told apart. -/
theorem captureItems_append_inj {name name' : String} {items items' : List TextItem} (h : IsName name)
    (h' : IsName name') (heq : captureItems (some name) ++ items = captureItems (some name') ++ items') :
    name = name' ∧ items = items' := by
  have hcolon : ∀ {n : String}, IsName n → ∀ item ∈ chars n.toList, ¬item = .char ':' :=
    fun hn item hitem heq => hn.notMem_chars (c := ':') (by decide) (heq ▸ hitem)
  rw [captureItems, captureItems, List.append_assoc, List.append_assoc] at heq
  obtain ⟨hnames, -, hrest⟩ := append_cons_inj_of_first (hcolon h) (hcolon h') rfl rfl heq
  exact ⟨String.toList_inj.1 (chars_injective hnames), hrest⟩

def tagLevel (tag : TagPattern) : Level := if tag.capture.isSome then .prefixed else .atom

def tagChunk (tag : TagPattern) : Chunk := captureItems tag.capture ++ [.group .angle (tagContent tag)]

theorem reads_captured {capture : String} (h : IsName capture) {text : List Char} {items : List TextItem}
    (hreads : Reads false text items) :
    Reads false (capture.toList ++ ':' :: text) (captureItems (some capture) ++ items) := by
  have hcolon : Reads false [':'] [.char ':'] := Reads.ordinary (by decide)
  have hcapture := ((Reads.chars h.isOrdinary).append hcolon).append hreads
  simpa [captureItems] using hcapture

private theorem tags_eq {tag : TagPattern} (h : TagNamed tag) :
    ∃ markup : String, Reads false markup.toList [.group .angle (tagContent tag)] ∧
      tags tag = match tag.capture with
        | some capture => .ok (piece .prefixed s!"{capture}:{markup}")
        | none => .ok (piece .atom markup) := by
  obtain ⟨first, rest, hfirst, hfirstName⟩ := h.name.exists_cons
  have hstart : first ≠ ' ' ∧ first ≠ '=' := by
    constructor
    · rintro rfl
      rw [isNameChar_eq_false_of_mem (by decide)] at hfirstName
      cases hfirstName
    · rintro rfl
      rw [isNameChar_eq_false_of_mem (by decide)] at hfirstName
      cases hfirstName
  have hname : Reads true tag.name.toList (chars tag.name.toList) := Reads.chars h.name.isOrdinary
  have hattributes := reads_attributes h.attributes
  have hslash : Reads true ['/'] [.char '/'] := Reads.ordinary (by decide)
  unfold tags tagContent
  cases hadjust : tag.adjust with
  | fullTag =>
      refine ⟨_, ?_, by cases tag.capture <;> rfl⟩
      have hcontent := hname.append (hattributes.append hslash)
      rw [hfirst] at hcontent ⊢
      simpa [toString, String.toList_append, hfirst] using Reads.angle hstart.1 hstart.2 hcontent
  | leadingEdge =>
      refine ⟨_, ?_, by cases tag.capture <;> rfl⟩
      have hcontent := hname.append hattributes
      rw [hfirst] at hcontent ⊢
      simpa [toString, String.toList_append, hfirst] using Reads.angle hstart.1 hstart.2 hcontent
  | trailingEdge =>
      rw [h.edge hadjust]
      refine ⟨_, ?_, by cases tag.capture <;> rfl⟩
      simpa [toString, String.toList_append] using Reads.angle (by decide) (by decide) (hslash.append hname)

theorem reads_tag {tag : TagPattern} (h : TagNamed tag) (hcapture : ∀ c, tag.capture = some c → IsName c) :
    ∃ text, tags tag = .ok ⟨text, (tagLevel tag).rank⟩ ∧ Reads false text.toList (row [tagChunk tag]) := by
  obtain ⟨markup, hmarkup, htags⟩ := tags_eq h
  rw [htags, tagChunk, tagLevel, row_singleton]
  cases hname : tag.capture with
  | none => exact ⟨markup, rfl, hmarkup⟩
  | some capture =>
      refine ⟨_, rfl, ?_⟩
      simpa [toString, String.toList_append] using reads_captured (hcapture capture hname) hmarkup

end QueryText

end CorpusSearch
