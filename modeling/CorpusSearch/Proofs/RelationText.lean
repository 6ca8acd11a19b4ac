import CorpusSearch.Proofs.NodeText

/-!
The text of relation operators can be read in one way only, and so can the chunks between the operands of patterns.
The direction of a relation is only written where it is that of root relations. Main statement: relation heads with
the same items are equal, and no chunk that binds strongly is a mark.
-/

set_option autoImplicit false

namespace CorpusSearch

namespace QueryText

/-! ### Relation operators -/

/-- Relation heads that can be written without loss. -/
structure HeadNamed (head : RelationHead) : Prop where
  mode : head.spanMode = usualMode head.operator
  source : head.operator.sourceVersion = none
  direction : head.operator.direction = .root ∨ head.operator.direction = .both
  root : head.operator.isRoot = true → head.operator.negated = false
  type : head.operator.type ≠ "" ∧ ∀ c ∈ head.operator.type.toList, IsOrdinary c ∧ c ≠ ' '
  version : ∀ v, head.operator.targetVersion = some v →
    v ≠ "" ∧ ∀ c ∈ v.toList, RelationOperator.isVersionChar c = true
  capture : ∀ c, head.capture = some c → IsName c

def operatorMark (o : RelationOperator) : List Char := if o.isRoot then ['^'] else if o.negated then ['!'] else []

def operatorDash (o : RelationOperator) : Char := if o.alignment then '=' else '-'

def operatorType (o : RelationOperator) : List Char := if o.type = FieldName.anyType then [] else o.type.toList

def operatorEnd (o : RelationOperator) : List Char :=
  (o.targetVersion.getD "").toList ++ if o.optional then ['?'] else []

theorem toList_toText (o : RelationOperator) : o.toText.toList =
    operatorMark o ++ (operatorDash o :: operatorType o ++ [operatorDash o]) ++ '>' :: operatorEnd o := by
  simp [RelationOperator.toText, operatorMark, operatorDash, operatorType, operatorEnd]

theorem isVersionChar_of_mem {o : RelationOperator} (h : ∀ v, o.targetVersion = some v →
    v ≠ "" ∧ ∀ c ∈ v.toList, RelationOperator.isVersionChar c = true) :
    ∀ c ∈ (o.targetVersion.getD "").toList, RelationOperator.isVersionChar c = true := by
  intro c hc
  cases hversion : o.targetVersion with
  | none =>
      rw [hversion] at hc
      cases hc
  | some v =>
      rw [hversion] at hc
      exact (h v hversion).2 c hc

private theorem isOrdinary_of_isVersionChar {c : Char} (h : RelationOperator.isVersionChar c = true) :
    IsOrdinary c ∧ c ≠ ' ' ∧ c ≠ '?' := by
  have hall : ∀ c ∈ ['\'', '(', '[', '<', ')', ']', '>', ' ', '?'], RelationOperator.isVersionChar c = false := by
    decide
  have hnot : ∀ {d : Char}, d ∈ ['\'', '(', '[', '<', ')', ']', '>', ' ', '?'] → c ≠ d := by
    rintro d hd rfl
    rw [hall c hd] at h
    cases h
  refine ⟨fun hmem => ?_, hnot (by decide), hnot (by decide)⟩
  have hsub : ∀ d ∈ ['\'', '(', '[', '<', ')', ']', '>'], d ∈ ['\'', '(', '[', '<', ')', ']', '>', ' ', '?'] := by
    decide
  exact hnot (hsub c hmem) rfl

namespace HeadNamed

variable {head head' : RelationHead}

private theorem mem_type (h : HeadNamed head) : ∀ c ∈ operatorType head.operator, IsOrdinary c ∧ c ≠ ' ' := by
  unfold operatorType
  split
  · nofun
  · exact h.type.2

private theorem mem_version (h : HeadNamed head) :
    ∀ c ∈ (head.operator.targetVersion.getD "").toList, IsOrdinary c ∧ c ≠ ' ' ∧ c ≠ '?' :=
  fun c hc => isOrdinary_of_isVersionChar (isVersionChar_of_mem h.version c hc)

private theorem operatorType_inj (h : HeadNamed head) (h' : HeadNamed head')
    (heq : operatorType head.operator = operatorType head'.operator) : head.operator.type = head'.operator.type := by
  unfold operatorType at heq
  split at heq <;> split at heq
  · rename_i hany hany'
    rw [hany, hany']
  · exact absurd (String.toList_eq_nil_iff.1 heq.symm) h'.type.1
  · exact absurd (String.toList_eq_nil_iff.1 heq) h.type.1
  · exact String.toList_inj.1 heq

private theorem operatorEnd_inj (h : HeadNamed head) (h' : HeadNamed head')
    (heq : operatorEnd head.operator = operatorEnd head'.operator) :
    head.operator.targetVersion = head'.operator.targetVersion ∧
      head.operator.optional = head'.operator.optional := by
  have hend : ∀ (o : RelationOperator) c, (if o.optional then ['?'] else []).head? = some c → ¬c ≠ '?' := by
    intro o c hc hne
    split at hc
    · exact hne (Option.some.inj hc).symm
    · cases hc
  obtain ⟨hversion, hoptional⟩ := append_inj_of_span (fun c hc => (h.mem_version c hc).2.2)
    (fun c hc => (h'.mem_version c hc).2.2) (hend _) (hend _) heq
  constructor
  · have hempty : ∀ {x : RelationHead}, HeadNamed x → ∀ v, x.operator.targetVersion = some v → v ≠ "" :=
      fun hx v hv => (hx.version v hv).1
    have hversion := String.toList_inj.1 hversion
    cases hleft : head.operator.targetVersion <;> cases hright : head'.operator.targetVersion <;>
      rw [hleft, hright] at hversion
    · exact absurd hversion.symm (hempty h' _ hright)
    · exact absurd hversion (hempty h _ hleft)
    · exact congrArg some hversion
  · cases hleft : head.operator.optional <;> cases hright : head'.operator.optional <;>
      first | rfl | simp [hleft, hright] at hoptional

private theorem operatorStart_inj (h : HeadNamed head) (h' : HeadNamed head')
    (heq : operatorMark head.operator ++
        (operatorDash head.operator :: operatorType head.operator ++ [operatorDash head.operator]) =
      operatorMark head'.operator ++
        (operatorDash head'.operator :: operatorType head'.operator ++ [operatorDash head'.operator])) :
    operatorMark head.operator = operatorMark head'.operator ∧
      head.operator.alignment = head'.operator.alignment ∧ head.operator.type = head'.operator.type := by
  have hmark : ∀ o : RelationOperator, ∀ c ∈ operatorMark o, c = '^' ∨ c = '!' := by
    intro o c hc
    unfold operatorMark at hc
    split at hc
    · exact .inl (List.mem_singleton.1 hc)
    · split at hc
      · exact .inr (List.mem_singleton.1 hc)
      · cases hc
  have hdash : ∀ (o : RelationOperator) c, (operatorDash o :: operatorType o ++ [operatorDash o]).head? = some c →
      ¬(c = '^' ∨ c = '!') := by
    intro o c hc
    rw [← Option.some.inj hc, operatorDash]
    split <;> decide
  obtain ⟨hmarks, hrest⟩ := append_inj_of_span (hmark _) (hmark _) (hdash _) (hdash _) heq
  obtain ⟨hdashes, htypes⟩ := List.cons.inj hrest
  have halignment : head.operator.alignment = head'.operator.alignment := by
    unfold operatorDash at hdashes
    cases hleft : head.operator.alignment <;> cases hright : head'.operator.alignment <;>
      first | rfl | simp [hleft, hright] at hdashes
  exact ⟨hmarks, halignment, h.operatorType_inj h' (List.append_inj' htypes rfl).1⟩

private theorem operatorMark_inj (h : HeadNamed head) (h' : HeadNamed head')
    (heq : operatorMark head.operator = operatorMark head'.operator) :
    head.operator.direction = head'.operator.direction ∧ head.operator.negated = head'.operator.negated := by
  have hroot : ∀ {x : RelationHead}, x.operator.isRoot = true → x.operator.direction = .root := of_decide_eq_true
  have hboth : ∀ {x : RelationHead}, HeadNamed x → x.operator.isRoot = false → x.operator.direction = .both :=
    fun hx hx' => hx.direction.resolve_left (of_decide_eq_false hx')
  unfold operatorMark at heq
  cases hleft : head.operator.isRoot <;> cases hright : head'.operator.isRoot <;> rw [hleft, hright] at heq
  · refine ⟨(hboth h hleft).trans (hboth h' hright).symm, ?_⟩
    cases hnegated : head.operator.negated <;> cases hnegated' : head'.operator.negated <;>
      first | rfl | simp [hnegated, hnegated'] at heq
  · cases hnegated : head.operator.negated <;> simp [hnegated] at heq
  · cases hnegated : head'.operator.negated <;> simp [hnegated] at heq
  · exact ⟨(hroot hleft).trans (hroot hright).symm, (h.root hleft).trans (h'.root hright).symm⟩

private theorem operator_inj (h : HeadNamed head) (h' : HeadNamed head')
    (heq : head.operator.toText.toList = head'.operator.toText.toList) : head.operator = head'.operator := by
  rw [toList_toText, toList_toText] at heq
  have harrow : ∀ {x : RelationHead}, HeadNamed x → ∀ c ∈ operatorMark x.operator ++
      (operatorDash x.operator :: operatorType x.operator ++ [operatorDash x.operator]), ¬c = '>' := by
    rintro x hx c hc rfl
    have hmark : '>' ∉ operatorMark x.operator := by
      unfold operatorMark
      split
      · decide
      · split <;> decide
    have hdash : operatorDash x.operator ≠ '>' := by
      unfold operatorDash
      split <;> decide
    have htype : '>' ∉ operatorType x.operator := fun hmem => (hx.mem_type _ hmem).1 (by decide)
    simp [hmark, hdash.symm, htype] at hc
  obtain ⟨hstart, -, hend⟩ := append_cons_inj_of_first (harrow h) (harrow h') rfl rfl heq
  obtain ⟨hmark, halignment, htype⟩ := h.operatorStart_inj h' hstart
  obtain ⟨hversion, hoptional⟩ := h.operatorEnd_inj h' hend
  obtain ⟨hdirection, hnegated⟩ := h.operatorMark_inj h' hmark
  have hsource := h.source.trans h'.source.symm
  cases hleft : head.operator
  cases hright : head'.operator
  simp_all

end HeadNamed

private theorem start_toText (o : RelationOperator) : ∃ c rest, o.toText.toList = c :: rest ∧
    (c ∈ ['-', '=', '^'] ∨ c = '!' ∧ ∃ d, rest.head? = some d ∧ d ∈ ['-', '=']) := by
  have hdash : operatorDash o ∈ ['-', '='] := by
    unfold operatorDash
    split <;> decide
  have hall : ∀ c ∈ ['-', '='], c ∈ ['-', '=', '^'] := by decide
  rw [toList_toText, operatorMark]
  split
  · refine ⟨'^', operatorDash o :: operatorType o ++ [operatorDash o] ++ '>' :: operatorEnd o, ?_, .inl (by decide)⟩
    simp
  · split
    · refine ⟨'!', operatorDash o :: operatorType o ++ [operatorDash o] ++ '>' :: operatorEnd o, ?_,
        .inr ⟨rfl, operatorDash o, ?_, hdash⟩⟩ <;> simp
    · refine ⟨operatorDash o, operatorType o ++ [operatorDash o] ++ '>' :: operatorEnd o, ?_, .inl (hall _ hdash)⟩
      simp

private theorem start_toText_mem (o : RelationOperator) :
    ∃ c rest, o.toText.toList = c :: rest ∧ c ∈ ['-', '=', '^', '!'] := by
  obtain ⟨c, rest, htext, hc⟩ := start_toText o
  refine ⟨c, rest, htext, ?_⟩
  have hall : ∀ c ∈ ['-', '=', '^'], c ∈ ['-', '=', '^', '!'] := by decide
  rcases hc with hc | ⟨rfl, -⟩
  · exact hall c hc
  · decide

/-! ### Relations before their targets -/

def headChunk (head : RelationHead) : Chunk := captureItems head.capture ++ chars head.operator.toText.toList

namespace HeadNamed

variable {head head' : RelationHead}

private theorem mem_toText (h : HeadNamed head) : ' ' ∉ head.operator.toText.toList := by
  have hmark : ' ' ∉ operatorMark head.operator := by
    unfold operatorMark
    split
    · decide
    · split <;> decide
  have hdash : operatorDash head.operator ≠ ' ' := by
    unfold operatorDash
    split <;> decide
  have htype : ' ' ∉ operatorType head.operator := fun hmem => (h.mem_type _ hmem).2 rfl
  have hversion : ' ' ∉ (head.operator.targetVersion.getD "").toList := fun hmem => (h.mem_version _ hmem).2.1 rfl
  have hoptional : ' ' ∉ (if head.operator.optional then ['?'] else []) := by split <;> decide
  rw [toList_toText, operatorEnd]
  simp [hmark, hdash.symm, htype, hversion, hoptional]

theorem reads_toText (h : HeadNamed head) :
    Reads false head.operator.toText.toList (chars head.operator.toText.toList) := by
  have hmark : ∀ c ∈ operatorMark head.operator, IsOrdinary c := by
    unfold operatorMark
    split
    · decide
    · split <;> decide
  have hdash : IsOrdinary (operatorDash head.operator) := by
    unfold operatorDash
    split <;> decide
  have htype : ∀ c ∈ operatorType head.operator, IsOrdinary c := fun c hc => (h.mem_type c hc).1
  have hend : ∀ c ∈ operatorEnd head.operator, IsOrdinary c := by
    intro c hc
    rcases List.mem_append.1 hc with hc | hc
    · exact (h.mem_version c hc).1
    · split at hc
      · rw [List.mem_singleton.1 hc]
        decide
      · cases hc
  have hdashed : ∀ c ∈ operatorDash head.operator :: operatorType head.operator ++ [operatorDash head.operator],
      IsOrdinary c := by
    simpa [or_imp, forall_and] using And.intro hdash (And.intro htype hdash)
  rw [toList_toText, chars_append, chars_append]
  exact ((Reads.chars hmark).append (Reads.chars hdashed)).append (Reads.greater.append (Reads.chars hend))

theorem isChunk (h : HeadNamed head) : IsChunk (headChunk head) := by
  have hne : head.operator.toText.toList ≠ [] := by
    obtain ⟨c, rest, htext, -⟩ := start_toText head.operator
    rw [htext]
    exact List.cons_ne_nil _ _
  have hend : ∀ c ∈ '>' :: operatorEnd head.operator, c ≠ ',' := by
    have hversion : ',' ∉ (head.operator.targetVersion.getD "").toList :=
      fun hmem => absurd (isVersionChar_of_mem h.version ',' hmem) (by decide)
    rintro c hc rfl
    rcases List.mem_cons.1 hc with hc | hc
    · cases hc
    · rcases List.mem_append.1 hc with hc | hc
      · exact hversion hc
      · split at hc <;> simp at hc
  have hcomma : head.operator.toText.toList.getLast? ≠ some ',' := by
    rw [toList_toText, List.getLast?_append]
    cases hlast : ('>' :: operatorEnd head.operator).getLast? with
    | none => simp at hlast
    | some c => simpa using hend c (List.mem_of_getLast? hlast)
  refine (IsChunk.chars hne h.mem_toText hcomma).append_left ?_
  cases hname : head.capture with
  | none => exact List.not_mem_nil
  | some capture => simpa [captureItems] using (h.capture capture hname).notMem_chars (c := ' ') (by decide)

theorem eq_of_headChunk (h : HeadNamed head) (h' : HeadNamed head') (heq : headChunk head = headChunk head') :
    head = head' := by
  have hoperators : ∀ o : RelationOperator, ∃ c rest, chars o.toText.toList = .char c :: rest ∧ c ∈ punctuation := by
    intro o
    obtain ⟨c, rest, htext, hc⟩ := start_toText_mem o
    have hall : ∀ c ∈ ['-', '=', '^', '!'], c ∈ punctuation := by decide
    exact ⟨c, chars rest, by rw [htext]; rfl, hall c hc⟩
  have hne : ∀ (o : RelationOperator) {name : String} (items : List TextItem), IsName name →
      chars o.toText.toList ≠ chars name.toList ++ items := by
    intro o name items hname heq
    obtain ⟨c, rest, htext, hc⟩ := hoperators o
    exact hname.append_ne_cons hc items rest (heq.symm.trans htext)
  have hparts : head.capture = head'.capture ∧ head.operator.toText.toList = head'.operator.toText.toList := by
    unfold headChunk at heq
    cases hname : head.capture with
    | none =>
        cases hname' : head'.capture with
        | none =>
            rw [hname, hname', captureItems, List.nil_append, List.nil_append] at heq
            exact ⟨rfl, chars_injective heq⟩
        | some capture' =>
            rw [hname, hname', captureItems, captureItems, List.nil_append, List.append_assoc] at heq
            exact absurd heq (hne _ _ (h'.capture capture' hname'))
    | some capture =>
        cases hname' : head'.capture with
        | none =>
            rw [hname, hname', captureItems, captureItems, List.nil_append, List.append_assoc] at heq
            exact absurd heq.symm (hne _ _ (h.capture capture hname))
        | some capture' =>
            rw [hname, hname'] at heq
            obtain ⟨rfl, htext⟩ := captureItems_append_inj (h.capture capture hname) (h'.capture capture' hname') heq
            exact ⟨rfl, chars_injective htext⟩
  have hoperator := h.operator_inj h' hparts.2
  have hmode : head.spanMode = head'.spanMode := by rw [h.mode, h'.mode, hoperator]
  cases head
  cases head'
  simp_all

end HeadNamed

/-! ### The marks of patterns -/

/-- The chunks between the operands of patterns, by the level of what they stand in. -/
inductive PatternMark : Nat → Chunk → Prop
  | constraint : PatternMark 0 (chars "::".toList)
  | keyword {word : String} (h : word ∈ ["within", "containing", ";"]) : PatternMark 1 (chars word.toList)
  | relation {head : RelationHead} (h : HeadNamed head) : PatternMark 1 (headChunk head)
  | or : PatternMark 2 (chars ['|'])
  | and : PatternMark 3 (chars ['&'])

private theorem HeadNamed.headChunk_cases {head : RelationHead} (h : HeadNamed head) :
    (∃ name rest, IsName name ∧ headChunk head = chars name.toList ++ .char ':' :: chars rest ∧
      ∃ c, rest.head? = some c ∧ c ∈ ['-', '=', '^', '!']) ∨
    ∃ c rest, headChunk head = chars (c :: rest) ∧
      (c ∈ ['-', '=', '^'] ∨ c = '!' ∧ ∃ d, rest.head? = some d ∧ d ∈ ['-', '=']) := by
  unfold headChunk
  cases hname : head.capture with
  | none =>
      obtain ⟨c, rest, htext, hc⟩ := start_toText head.operator
      exact .inr ⟨c, rest, by rw [htext]; rfl, hc⟩
  | some capture =>
      obtain ⟨c, rest, htext, hc⟩ := start_toText_mem head.operator
      refine .inl ⟨capture, c :: rest, h.capture capture hname, ?_, c, rfl, hc⟩
      rw [captureItems, htext, List.append_assoc]
      rfl

theorem not_mark_group (n : Nat) (content : List TextItem) : ¬PatternMark n [.group .round content] := by
  have hgroup : ∀ text : List Char, [.group .round content] ≠ chars text := by
    intro text heq
    have hmem : .group .round content ∈ chars text := heq ▸ List.mem_cons_self
    simp [chars] at hmem
  intro hmark
  generalize hc : [TextItem.group .round content] = c at hmark
  cases hmark with
  | constraint | keyword | or | and => exact hgroup _ hc
  | relation h =>
      rcases h.headChunk_cases with ⟨name, rest, hname, hchunk, -⟩ | ⟨c, rest, hchunk, -⟩
      · obtain ⟨d, rest', htext, -⟩ := hname.exists_cons
        simp [hchunk, htext, chars] at hc
      · exact hgroup _ (hc.trans hchunk)

theorem not_mark_of_solid {c : Chunk} (h : Solid c) (n : Nat) : ¬PatternMark n c := by
  have hstart : ∀ {d : Char} {rest : Chunk}, d ∈ punctuation → c ≠ .char d :: rest := by
    rintro d rest hd rfl
    have hname := h.starts d rfl
    rw [isNameChar_eq_false_of_mem hd] at hname
    cases hname
  intro hmark
  cases hmark with
  | constraint => exact h.noColon List.mem_cons_self
  | keyword hword =>
      simp only [List.mem_cons, List.not_mem_nil, or_false] at hword
      rcases hword with rfl | rfl | rfl
      · exact h.noKeyword.1 rfl
      · exact h.noKeyword.2 rfl
      · exact hstart (d := ';') (by decide) rfl
  | relation hhead =>
      rcases hhead.headChunk_cases with ⟨name, rest, -, hchunk, -⟩ | ⟨d, rest, hchunk, hd⟩
      · exact h.noColon (hchunk ▸ List.mem_append_right _ List.mem_cons_self)
      · have hall : ∀ d ∈ ['-', '=', '^'], d ∈ punctuation := by decide
        rcases hd with hd | ⟨rfl, -⟩
        · exact hstart (hall d hd) hchunk
        · exact hstart (d := '!') (by decide) hchunk
  | or => exact hstart (d := '|') (by decide) rfl
  | and => exact hstart (d := '&') (by decide) rfl

theorem not_mark_negated {c : Chunk} (h : Solid c) (n : Nat) : ¬PatternMark n (.char '!' :: c) := by
  intro hmark
  generalize hc : TextItem.char '!' :: c = chunk at hmark
  cases hmark with
  | constraint => simp [chars] at hc
  | keyword hword =>
      simp only [List.mem_cons, List.not_mem_nil, or_false] at hword
      rcases hword with rfl | rfl | rfl <;> simp [chars] at hc
  | relation hhead =>
      rcases hhead.headChunk_cases with ⟨name, rest, hname, hchunk, -⟩ | ⟨d, rest, hchunk, hd⟩
      · exact hname.append_ne_cons (by decide) _ _ (hc.trans hchunk).symm
      · obtain ⟨hd', rfl⟩ := List.cons.inj (hc.trans hchunk)
        rcases hd with hd | ⟨-, e, he, hdash⟩
        · rw [← TextItem.char.inj hd'] at hd
          exact absurd hd (by decide)
        · have hall : ∀ e ∈ ['-', '='], e ∈ punctuation := by decide
          have hname := h.starts e (by rw [List.head?_map, he]; rfl)
          rw [isNameChar_eq_false_of_mem (hall e hdash)] at hname
          cases hname
  | or => simp [chars] at hc
  | and => simp [chars] at hc

theorem not_mark_captured {name : String} (hname : IsName name) {c : Chunk} (h : Solid c) (n : Nat) :
    ¬PatternMark n (captureItems (some name) ++ c) := by
  have hcolon : ∀ {name : String}, IsName name → ∀ item ∈ chars name.toList, ¬item = .char ':' :=
    fun hn item hitem hitems => hn.notMem_chars (c := ':') (by decide) (hitems ▸ hitem)
  have hitems : captureItems (some name) ++ c = chars name.toList ++ .char ':' :: c := by
    rw [captureItems, List.append_assoc]
    rfl
  rw [hitems]
  intro hmark
  generalize hc : chars name.toList ++ TextItem.char ':' :: c = chunk at hmark
  cases hmark with
  | constraint => exact hname.append_ne_cons (c := ':') (by decide) _ _ hc
  | keyword hword =>
      have hmem : .char ':' ∈ chars _ := hc ▸ List.mem_append_right _ List.mem_cons_self
      simp only [List.mem_cons, List.not_mem_nil, or_false] at hword
      rcases hword with rfl | rfl | rfl <;> simp [chars] at hmem
  | relation hhead =>
      rcases hhead.headChunk_cases with ⟨name', rest, hname', hchunk, d, hd, hmem⟩ | ⟨d, rest, hchunk, hd⟩
      · obtain ⟨-, -, rfl⟩ := append_cons_inj_of_first (hcolon hname) (hcolon hname') rfl rfl (hc.trans hchunk)
        have hall : ∀ d ∈ ['-', '=', '^', '!'], d ∈ punctuation := by decide
        have hstart := h.starts d (by rw [chars, List.head?_map, hd]; rfl)
        rw [isNameChar_eq_false_of_mem (hall d hmem)] at hstart
        cases hstart
      · have hall : ∀ d ∈ ['-', '=', '^'], d ∈ punctuation := by decide
        have hd : d ∈ punctuation := by
          rcases hd with hd | ⟨rfl, -⟩
          · exact hall d hd
          · decide
        exact hname.append_ne_cons hd _ _ (hc.trans hchunk)
  | or => exact hname.append_ne_cons (c := '|') (by decide) _ _ hc
  | and => exact hname.append_ne_cons (c := '&') (by decide) _ _ hc

theorem PatternMark.isChunk {n : Nat} {c : Chunk} (h : PatternMark n c) : IsChunk c := by
  cases h with
  | relation h => exact h.isChunk
  | keyword hword =>
      simp only [List.mem_cons, List.not_mem_nil, or_false] at hword
      rcases hword with rfl | rfl | rfl <;> exact .chars (by simp) (by simp) (by simp)
  | _ => exact .chars (by simp) (by simp) (by simp)

private theorem HeadNamed.headChunk_ne {head : RelationHead} (h : HeadNamed head) {c : Char}
    (hc : c ∈ [':', '|', '&', ';']) (rest : Chunk) : headChunk head ≠ .char c :: rest := by
  have hall : ∀ c ∈ [':', '|', '&', ';'], c ∈ punctuation ∧ c ∉ ['-', '=', '^'] ∧ c ≠ '!' := by decide
  intro heq
  rcases h.headChunk_cases with ⟨name, text, hname, hchunk, -⟩ | ⟨d, text, hchunk, hd⟩
  · exact hname.append_ne_cons (hall c hc).1 _ _ (hchunk.symm.trans heq)
  · have hchar := TextItem.char.inj (List.cons.inj (hchunk.symm.trans heq)).1
    rw [hchar] at hd
    rcases hd with hd | ⟨hd, -⟩
    · exact (hall c hc).2.1 hd
    · exact (hall c hc).2.2 hd

theorem mem_headChunk (head : RelationHead) : .char '>' ∈ headChunk head := by
  have htext : '>' ∈ head.operator.toText.toList := by
    rw [toList_toText]
    simp
  exact List.mem_append_right _ (List.mem_map_of_mem htext)

theorem headChunk_ne_keyword (head : RelationHead) {word : String} (hword : word ∈ ["within", "containing", ";"]) :
    headChunk head ≠ chars word.toList := by
  have hall : ∀ word ∈ ["within", "containing", ";"], '>' ∉ word.toList := by decide
  intro heq
  exact notMem_chars (hall word hword) (heq ▸ mem_headChunk head)

theorem PatternMark.not_weaker {n : Nat} {c : Chunk} (h : PatternMark n c) : ∀ m < n, ¬PatternMark m c := by
  have hword : ∀ {word : String} {d : Char} {rest : List Char}, word ∈ ["within", "containing", ";"] →
      d ∈ [':', '|', '&'] → chars word.toList ≠ chars (d :: rest) := by
    intro word d rest hword hd heq
    have hall : ∀ word ∈ ["within", "containing", ";"], ∀ d ∈ [':', '|', '&'], word.toList.head? ≠ some d := by decide
    exact hall word hword d hd (by rw [chars_injective heq]; rfl)
  intro m hm hmark
  cases h with
  | constraint => omega
  | keyword h =>
      generalize hc : chars _ = c at hmark
      cases hmark with
      | constraint => exact hword h (by decide) hc
      | _ => omega
  | relation h =>
      generalize hc : headChunk _ = c at hmark
      cases hmark with
      | constraint => exact h.headChunk_ne (by decide) _ hc
      | _ => omega
  | or =>
      generalize hc : chars _ = c at hmark
      cases hmark with
      | constraint => simp [chars] at hc
      | keyword h => exact hword h (by decide) hc.symm
      | relation h => exact h.headChunk_ne (by decide) _ hc.symm
      | _ => omega
  | and =>
      generalize hc : chars _ = c at hmark
      cases hmark with
      | constraint => simp [chars] at hc
      | keyword h => exact hword h (by decide) hc.symm
      | relation h => exact h.headChunk_ne (by decide) _ hc.symm
      | or => simp [chars] at hc
      | and => omega

theorem PatternMark.of_mem_separators {connective : Connective} {c : Chunk} (h : c ∈ connective.separators) :
    PatternMark (connectiveLevel connective).rank c := by
  cases connective with
  | and =>
      rw [List.mem_singleton.1 h]
      exact .and
  | or =>
      rw [List.mem_singleton.1 h]
      exact .or
  | sequence => cases h

end QueryText

end CorpusSearch
