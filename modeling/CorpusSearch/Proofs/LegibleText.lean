import CorpusSearch.Proofs.PatternText

/-!
Writing legible patterns. Each construct puts its own characters around the texts of its parts, so its items are put
together from their items. Main statement: a legible pattern can be written, and its text is read as its chunks.
-/

set_option autoImplicit false

namespace CorpusSearch

open QueryText (TextKind Level PatternMark Reads Shape IsName HeadNamed chars row slot captureItems headChunk)

namespace Pattern

/-- The text of a pattern, with its level and its chunks. -/
structure Writes (p : Pattern) (text : String) : Prop where
  eq : QueryText.ofPattern p = .ok ⟨text, p.textLevel⟩
  reads : Reads false text.toList (row p.textChunks)

variable {p : Pattern} {t : TokenTest} {text : String}

theorem Writes.inSlot (h : Writes p text) (least : Nat) :
    Reads false ((⟨text, p.textLevel⟩ : QueryText).inSlot least).toList
      (row (slot least p.textLevel p.textChunks)) :=
  Reads.inSlot (w := ⟨text, p.textLevel⟩) h.reads least

/-! ### Nodes without operands -/

theorem InBrackets.exists_writes (h : InBrackets p) : ∃ text, Writes p text := by
  obtain ⟨text, hpart, hreads⟩ := h.bracketPart
  refine ⟨s!"[{text}]", ?_, ?_⟩
  · rw [QueryText.ofPattern.eq_def, if_pos h.isBracketQuery, hpart, textLevel, h.textKind]
    rfl
  · rw [h.textChunks, QueryText.row_singleton]
    simpa [toString, String.toList_append] using hreads.square

theorem Tests.exists_writes (h : Tests p t) (hlayer : t.layer = none) : ∃ text, Writes p text := by
  obtain ⟨text, hword, hreads⟩ := QueryText.word_eq h
  have hbrackets : ¬p.isBracketQuery = true := by simp [h.isBracketQuery, hlayer]
  refine ⟨text, ?_, by rwa [h.textChunks hlayer]⟩
  rw [QueryText.ofPattern.eq_def, if_neg hbrackets, textLevel, h.textKind hlayer]
  cases h with
  | literal => exact hword
  | expression => exact hword

private theorem exists_writes_anyToken (min max : UInt32) : ∃ text, Writes (.anyToken min max) text := by
  have hmark := QueryText.mark_repetitionMark min max
  refine ⟨s!"[]{QueryText.repetitionMark min max}", ?_, ?_⟩
  · have hempty : (QueryText.repetitionMark min max).isEmpty = true ↔ min = 1 ∧ max = 1 := by
      rw [String.isEmpty_iff, ← String.toList_eq_nil_iff]
      constructor
      · exact fun hnil => (hnil ▸ hmark).eq_of_text .once
      · rintro ⟨rfl, rfl⟩
        rfl
    have hlevel : (if (QueryText.repetitionMark min max).isEmpty then Level.atom else Level.postfixed) =
        (Pattern.anyToken min max).textKind.level := by
      rw [textKind_anyToken]
      by_cases honce : min = 1 ∧ max = 1
      · rw [if_pos honce, if_pos (hempty.2 honce)]
        rfl
      · rw [if_neg honce, if_neg (mt hempty.1 honce)]
        rfl
    rw [textLevel, ← hlevel]
    rfl
  · have hopen : Reads false ['[', ']'] [.group .square []] := Reads.nil.square
    rw [textChunks_anyToken, QueryText.row_singleton]
    simpa [toString, String.toList_append] using hopen.append hmark.reads

private theorem exists_writes_tags {tag : TagPattern} (h : QueryText.TagNamed tag)
    (hcapture : ∀ c, tag.capture = some c → IsName c) : ∃ text, Writes (.tags tag) text := by
  obtain ⟨text, htags, hreads⟩ := QueryText.reads_tag h hcapture
  have hlevel : QueryText.tagLevel tag = (Pattern.tags tag).textKind.level := by
    rw [textKind_tags, QueryText.tagLevel]
    split <;> rfl
  refine ⟨text, ?_, by rwa [textChunks_tags]⟩
  rw [textLevel, ← hlevel, ← htags]
  rfl

/-! ### Operands -/

private theorem ofPatterns_eq {clauses : List Pattern} (least : Nat) (h : ∀ p ∈ clauses, ∃ text, Writes p text) :
    ∃ texts, QueryText.ofPatterns least clauses = .ok texts ∧
      List.Forall₂ (fun text o => Reads false text.toList (row o)) texts
        (clauses.map fun p => slot least p.textLevel p.textChunks) := by
  induction clauses with
  | nil => exact ⟨[], by rw [QueryText.ofPatterns], .nil⟩
  | cons p clauses ih =>
      obtain ⟨text, hwrite⟩ := h p List.mem_cons_self
      obtain ⟨texts, hwrites, hreads⟩ := ih fun p hp => h p (List.mem_cons_of_mem _ hp)
      refine ⟨_, by rw [QueryText.ofPatterns, hwrite.eq, Result.ok_bind, hwrites]; rfl, ?_⟩
      exact .cons (hwrite.inSlot least) hreads

private theorem exists_writes_join {connective : Connective} {clauses : List Pattern}
    (hbrackets : (Pattern.join connective clauses).isBracketQuery = false)
    (hshape : ∀ p ∈ clauses, Shape PatternMark p.textLevel p.textChunks)
    (h : ∀ p ∈ clauses, ∃ text, Writes p text) : ∃ text, Writes (.join connective clauses) text := by
  obtain ⟨texts, hwrites, hreads⟩ := ofPatterns_eq (QueryText.connectiveLevel connective).above h
  refine ⟨(QueryText.connectiveMark connective).intercalate texts, ?_, ?_⟩
  · simp only [QueryText.ofPattern, hbrackets, Bool.false_eq_true, if_false, hwrites, Result.ok_bind,
      textLevel_join hbrackets]
    rfl
  · rw [textChunks_join hbrackets]
    refine Reads.join connective.reads_mark hreads ?_
    simp only [List.forall_mem_map]
    exact fun p hp => ((hshape p hp).slot QueryText.not_mark_group _).ne_nil

theorem Writes.not {clause : Pattern} (hbrackets : clause.isBracketQuery = false) (h : Writes clause text) :
    ∃ text, Writes (.modify .not clause) text := by
  have hmark : Reads false ['!'] [.char '!'] := Reads.ordinary (by decide)
  have hbrackets' : (Pattern.modify .not clause).isBracketQuery = false := hbrackets
  refine ⟨_, by rw [QueryText.ofPattern, hbrackets', h.eq, textLevel_not hbrackets]; rfl, ?_⟩
  rw [textChunks_not hbrackets, QueryText.row_singleton]
  simpa [Level.above, Level.rank, toString, String.toList_append] using hmark.append (h.inSlot 6)

theorem Writes.repeated {clause : Pattern} (min max : UInt32) (h : Writes clause text) :
    ∃ text, Writes (.modify (.repeated min max) clause) text := by
  have hmark := QueryText.mark_repetitionMark min max
  refine ⟨_, by rw [QueryText.ofPattern, h.eq]; rfl, ?_⟩
  rw [textChunks_repeated, QueryText.row_singleton]
  simpa [Level.above, Level.rank, toString, String.toList_append] using (h.inSlot 7).append hmark.reads

theorem Writes.capture {clause : Pattern} {name : String} (hname : IsName name) (h : Writes clause text) :
    ∃ text, Writes (.modify (.capture name) clause) text := by
  refine ⟨_, by rw [QueryText.ofPattern, h.eq]; rfl, ?_⟩
  rw [textChunks_capture, QueryText.row_singleton]
  simpa [Level.above, Level.rank, toString, String.toList_append] using QueryText.reads_captured hname (h.inSlot 6)

theorem Writes.constrained {clause : Pattern} {filter : Filter} (hfilter : filter.Named)
    (hshape : Shape PatternMark clause.textLevel clause.textChunks) (h : Writes clause text) :
    ∃ text, Writes (.modify (.constrained filter) clause) text := by
  obtain ⟨condition, hcondition, hreads⟩ := Filter.write_of_named hfilter
  have hmark : Reads false " :: ".toList (.char ' ' :: chars "::".toList ++ [.char ' ']) :=
    @Reads.chars false " :: ".toList (by decide)
  have hrow := QueryText.row_between [chars "::".toList] (hshape.slot QueryText.not_mark_group 1).ne_nil
    (Filter.shape_of_named hfilter).ne_nil
  rw [List.singleton_append] at hrow
  have hfilter : filter.toQueryText = .ok condition := by rw [Filter.toQueryText, hcondition]; rfl
  refine ⟨_, by rw [QueryText.ofPattern, h.eq, QueryText.modified, Result.ok_bind, hfilter]; rfl, ?_⟩
  rw [textChunks_constrained, hrow]
  simpa [QueryText.gap, Level.above, Level.rank, toString, String.toList_append] using
    ((h.inSlot 1).append hmark).append hreads

/-! ### Position filters -/

private theorem positionWord_eq {test : PositionTest} (h : HasKeyword test) :
    QueryText.positionWord test = .ok (positionKeyword test) := by
  have hadjusted :
      (test.inverted || decide (test.adjustLeading ≠ 0) || decide (test.adjustTrailing ≠ 0)) = false := by
    simp [h.inverted, h.adjustLeading, h.adjustTrailing]
  rw [QueryText.positionWord, hadjusted, positionKeyword]
  rcases h.operation with hoperation | hoperation <;> rw [hoperation] <;> rfl

private theorem reads_keyword {word : String} (h : word ∈ ["within", "containing", ";"]) :
    Reads false (' ' :: word.toList ++ [' ']) (QueryText.gap [chars word.toList]) := by
  simp only [List.mem_cons, List.not_mem_nil, or_false] at h
  rcases h with rfl | rfl | rfl
  · exact @Reads.chars false " within ".toList (by decide)
  · exact @Reads.chars false " containing ".toList (by decide)
  · exact @Reads.chars false " ; ".toList (by decide)

theorem Writes.positionFilter {test : PositionTest} {producer filter : Pattern} {text text' : String}
    (htest : HasKeyword test) (hproducer : Shape PatternMark producer.textLevel producer.textChunks)
    (hfilter : Shape PatternMark filter.textLevel filter.textChunks) (h : Writes producer text)
    (h' : Writes filter text') : ∃ text, Writes (.positionFilter test producer filter) text := by
  have hkeyword := reads_keyword (keyword_mem test)
  have hrow := QueryText.row_between [chars (positionKeyword test).toList]
    (hproducer.slot QueryText.not_mark_group 2).ne_nil (hfilter.slot QueryText.not_mark_group 2).ne_nil
  rw [List.singleton_append] at hrow
  refine ⟨_, by rw [QueryText.ofPattern, positionWord_eq htest, h.eq, h'.eq]; rfl, ?_⟩
  rw [textChunks_positionFilter, hrow]
  simpa [Level.above, Level.rank, toString, String.toList_append] using
    ((h.inSlot 2).append hkeyword).append (h'.inSlot 2)

/-! ### Relations -/

private theorem checkHead_eq {head : RelationHead} (h : HeadNamed head) : QueryText.checkHead head = .ok () := by
  rw [QueryText.checkHead, if_neg (not_not.2 h.mode), h.source]
  rfl

private theorem reads_relation {head : RelationHead} {target : Pattern} (hhead : HeadNamed head)
    (hshape : Shape PatternMark target.textLevel target.textChunks) (h : Writes target text) :
    Reads false (QueryText.relation head ⟨text, target.textLevel⟩).toList (row (targetChunk (head, target))) := by
  have hrow : row (targetChunk (head, target)) =
      headChunk head ++ .char ' ' :: row (slot 5 target.textLevel target.textChunks) := by
    have happend := QueryText.row_append (List.cons_ne_nil (headChunk head) [])
      (hshape.slot QueryText.not_mark_group 5).ne_nil
    rwa [QueryText.row_singleton] at happend
  have hblank : Reads false [' '] [.char ' '] := Reads.ordinary (by decide)
  have htarget := hblank.append (h.inSlot 5)
  rw [hrow, headChunk, QueryText.relation]
  cases hcapture : head.capture with
  | none =>
      simpa [captureItems, Level.above, Level.rank, toString, String.toList_append] using
        hhead.reads_toText.append htarget
  | some name =>
      have hcaptured := QueryText.reads_captured (hhead.capture name hcapture) hhead.reads_toText
      simpa [Level.above, Level.rank, toString, String.toList_append] using hcaptured.append htarget

private theorem ofTargets_eq {targets : List (RelationHead × Pattern)} (hheads : ∀ t ∈ targets, HeadNamed t.1)
    (hshape : ∀ t ∈ targets, Shape PatternMark t.2.textLevel t.2.textChunks)
    (h : ∀ t ∈ targets, ∃ text, Writes t.2 text) :
    ∃ texts, QueryText.ofTargets targets = .ok texts ∧
      List.Forall₂ (fun text o => Reads false text.toList (row o)) texts (targets.map targetChunk) := by
  induction targets with
  | nil => exact ⟨[], by rw [QueryText.ofTargets], .nil⟩
  | cons t targets ih =>
      obtain ⟨head, target⟩ := t
      obtain ⟨text, hwrite⟩ := h _ List.mem_cons_self
      obtain ⟨texts, hwrites, hreads⟩ := ih (fun t ht => hheads t (List.mem_cons_of_mem _ ht))
        (fun t ht => hshape t (List.mem_cons_of_mem _ ht)) (fun t ht => h t (List.mem_cons_of_mem _ ht))
      have hhead := hheads _ List.mem_cons_self
      refine ⟨_, by rw [QueryText.ofTargets, checkHead_eq hhead, hwrite.eq, hwrites]; rfl, ?_⟩
      exact .cons (reads_relation hhead (hshape _ List.mem_cons_self) hwrite) hreads

private theorem toList_relations {texts : List String} (hne : texts ≠ []) :
    (" ;".intercalate (texts.map fun text => s!" {text}")).toList = ' ' :: (" ; ".intercalate texts).toList := by
  rw [String.toList_intercalate, String.toList_intercalate]
  induction texts with
  | nil => exact absurd rfl hne
  | cons text texts ih =>
      cases texts with
      | nil => simp [toString, String.toList_append]
      | cons text' texts =>
          have hrest := ih (List.cons_ne_nil _ _)
          simp only [List.map_cons] at hrest ⊢
          rw [List.intercalate_cons_cons, List.intercalate_cons_cons, hrest]
          simp [toString, String.toList_append]

theorem Writes.relationTarget {head : RelationHead} {target : Pattern} (hhead : HeadNamed head)
    (hshape : Shape PatternMark target.textLevel target.textChunks) (h : Writes target text) :
    ∃ text, Writes (.relationTarget head target) text := by
  have hplaceholder : Reads false ['_', ' '] [.char '_', .char ' '] := @Reads.chars false ['_', ' '] (by decide)
  have hrow : row (chars ['_'] :: targetChunk (head, target)) =
      .char '_' :: .char ' ' :: row (targetChunk (head, target)) := by
    have happend := QueryText.row_append (List.cons_ne_nil (chars ['_']) []) (operand_target hhead hshape).ne_nil
    rwa [QueryText.row_singleton] at happend
  refine ⟨_, by rw [QueryText.ofPattern, checkHead_eq hhead, h.eq]; rfl, ?_⟩
  rw [textChunks_relationTarget, hrow]
  simpa [toString, String.toList_append] using hplaceholder.append (reads_relation hhead hshape h)

section

variable {targets : List (RelationHead × Pattern)}

private theorem reads_targets {texts : List String}
    (h : List.Forall₂ (fun text o => Reads false text.toList (row o)) texts (targets.map targetChunk)) :
    Reads false (" ; ".intercalate texts).toList (row ([chars [';']].intercalate (targets.map targetChunk))) := by
  have hseparator : Reads false " ; ".toList (QueryText.gap [chars [';']]) := @reads_keyword ";" (by decide)
  refine Reads.join hseparator h ?_
  simp only [List.forall_mem_map]
  exact fun t _ => List.cons_ne_nil _ _

private theorem exists_writes_rootRelations (hheads : ∀ t ∈ targets, HeadNamed t.1)
    (hshape : ∀ t ∈ targets, Shape PatternMark t.2.textLevel t.2.textChunks)
    (h : ∀ t ∈ targets, ∃ text, Writes t.2 text) : ∃ text, Writes (.rootRelations targets) text := by
  obtain ⟨texts, hwrites, hreads⟩ := ofTargets_eq hheads hshape h
  refine ⟨_, by rw [QueryText.ofPattern, hwrites]; rfl, ?_⟩
  rw [textChunks_rootRelations]
  exact reads_targets hreads

theorem Writes.relationMatch {parent : Pattern} (hne : targets ≠ []) (hheads : ∀ t ∈ targets, HeadNamed t.1)
    (hparent : Shape PatternMark parent.textLevel parent.textChunks)
    (hshape : ∀ t ∈ targets, Shape PatternMark t.2.textLevel t.2.textChunks) (h : Writes parent text)
    (h' : ∀ t ∈ targets, ∃ text, Writes t.2 text) : ∃ text, Writes (.relationMatch parent targets) text := by
  obtain ⟨texts, hwrites, hreads⟩ := ofTargets_eq hheads hshape h'
  have htexts : texts ≠ [] := by
    rintro rfl
    cases targets with
    | nil => exact hne rfl
    | cons => cases hreads
  have hblank : Reads false [' '] [.char ' '] := Reads.ordinary (by decide)
  have htargets := hblank.append (reads_targets hreads)
  refine ⟨_, by rw [QueryText.ofPattern, hwrites, h.eq]; rfl, ?_⟩
  rw [textChunks_relationMatch, QueryText.row_append (hparent.slot QueryText.not_mark_group 5).ne_nil
    (operand_targets hne hheads hshape).ne_nil]
  change Reads false (QueryText.inSlot ⟨text, parent.textLevel⟩ 5 ++ " ;".intercalate (texts.map _)).toList _
  rw [String.toList_append, toList_relations htexts]
  exact (h.inSlot 5).append htargets

end

/-! ### Calls -/

private theorem ofArguments_eq {arguments : List (Argument Pattern)}
    (h : ∀ p, Argument.pattern p ∈ arguments → ∃ text, Writes p text) :
    ∃ texts, QueryText.ofArguments arguments = .ok texts ∧
      List.Forall₂ (fun text a => Reads false text.toList (row a)) texts (arguments.map argumentChunk) := by
  induction arguments with
  | nil => exact ⟨[], by rw [QueryText.ofArguments], .nil⟩
  | cons a arguments ih =>
      obtain ⟨texts, hwrites, hreads⟩ := ih fun p hp => h p (List.mem_cons_of_mem _ hp)
      cases a with
      | pattern p =>
          obtain ⟨text, hwrite⟩ := h p List.mem_cons_self
          exact ⟨_, by rw [QueryText.ofArguments, hwrite.eq, hwrites]; rfl, .cons hwrite.reads hreads⟩
      | text value =>
          refine ⟨_, by rw [QueryText.ofArguments, hwrites]; rfl, .cons ?_ hreads⟩
          rw [argumentChunk, QueryText.row_singleton]
          exact Reads.quoted value
      | number n =>
          refine ⟨_, by rw [QueryText.ofArguments, hwrites]; rfl, .cons ?_ hreads⟩
          rw [argumentChunk, QueryText.row_singleton]
          refine Reads.chars fun c hc hbracket => ?_
          have hall : ∀ c ∈ ['\'', '(', '[', '<', ')', ']', '>'], c.isDigit = false ∧ c ≠ '-' := by decide
          exact QueryText.notMem_intText (hall c hbracket).1 (hall c hbracket).2 hc

private theorem exists_writes_call {name : String} {arguments : List (Argument Pattern)} (hname : IsName name)
    (hshape : ∀ p, Argument.pattern p ∈ arguments → Shape PatternMark p.textLevel p.textChunks)
    (h : ∀ p, Argument.pattern p ∈ arguments → ∃ text, Writes p text) :
    ∃ text, Writes (.call name arguments) text := by
  obtain ⟨texts, hwrites, hreads⟩ := ofArguments_eq h
  have hne : ∀ a ∈ arguments.map argumentChunk, a ≠ [] := by
    simp only [List.forall_mem_map]
    intro a ha
    cases a with
    | pattern p => exact (hshape p ha).ne_nil
    | text => exact List.cons_ne_nil _ _
    | number => exact List.cons_ne_nil _ _
  have hcall : Reads false name.toList (chars name.toList) := Reads.chars hname.isOrdinary
  refine ⟨_, by rw [QueryText.ofPattern, hwrites]; rfl, ?_⟩
  rw [textChunks_call, QueryText.row_singleton]
  simpa [toString, String.toList_append] using hcall.append (QueryText.reads_arguments hreads hne).round

theorem LegibleAs.exists_writes {kind : TextKind} (h : LegibleAs kind p) : ∃ text, Writes p text := by
  induction h with
  | brackets h => exact h.exists_writes
  | word ht hlayer => exact ht.exists_writes hlayer
  | anyToken => exact exists_writes_anyToken 1 1
  | anyTokens => exact exists_writes_anyToken _ _
  | tags h hcapture => exact exists_writes_tags h (by simp [hcapture])
  | capturedTags h hcapture hname => exact exists_writes_tags h (by simpa [hcapture] using hname)
  | defaultValue => exact ⟨"_", rfl, @Reads.chars false ['_'] (by decide)⟩
  | join hbrackets _ h ih => exact exists_writes_join hbrackets (fun p hp => (h p hp).shape) ih
  | not hbrackets _ ih =>
      obtain ⟨text, hwrite⟩ := ih
      exact hwrite.not hbrackets
  | repeated _ _ _ ih =>
      obtain ⟨text, hwrite⟩ := ih
      exact hwrite.repeated _ _
  | capture hname _ _ ih =>
      obtain ⟨text, hwrite⟩ := ih
      exact hwrite.capture hname
  | constrained hfilter _ h ih =>
      obtain ⟨text, hwrite⟩ := ih
      exact hwrite.constrained hfilter h.shape
  | positionFilter htest hproducer hfilter ihproducer ihfilter =>
      obtain ⟨text, hwrite⟩ := ihproducer
      obtain ⟨text', hwrite'⟩ := ihfilter
      exact hwrite.positionFilter htest hproducer.shape hfilter.shape hwrite'
  | relationTarget hhead h ih =>
      obtain ⟨text, hwrite⟩ := ih
      exact hwrite.relationTarget hhead h.shape
  | relationMatch _ hne hheads hparent h ihparent ih =>
      obtain ⟨text, hwrite⟩ := ihparent
      exact hwrite.relationMatch hne hheads hparent.shape (fun t ht => (h t ht).shape) ih
  | rootRelations _ hheads h ih => exact exists_writes_rootRelations hheads (fun t ht => (h t ht).shape) ih
  | call hname _ h ih => exact exists_writes_call hname (fun p hp => (h p hp).shape) ih

end Pattern

end CorpusSearch
