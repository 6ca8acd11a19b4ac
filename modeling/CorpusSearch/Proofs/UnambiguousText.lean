import CorpusSearch.Pattern.Build
import CorpusSearch.Proofs.LegibleText
import CorpusSearch.Proofs.RefusedText
import CorpusSearch.Proofs.SimplifiedSearch

/-!
Query text is unambiguous where patterns are legible. The kind of a pattern can be seen in its chunks, and within a
kind the marks show where its operands are, so equal chunks have equal operands. Main statements: legible patterns
with the same chunks are equal, and so are legible patterns with the same text.
-/

set_option autoImplicit false

namespace CorpusSearch

open QueryText (TextItem TextKind Chunk PatternMark Shape IsChunk IsName HeadNamed TagNamed chars row slot
  captureItems tagChunk wordChunk)

namespace Pattern

def IsDetermined (p : Pattern) : Prop := ∀ q, Legible q → p.textChunks = q.textChunks → p = q

variable {p q : Pattern} {kind : TextKind}

/-! ### Tests and repetitions -/

private theorem InBrackets.eq_of_textChunks (hp : InBrackets p) (hq : InBrackets q) (h : p.textChunks = q.textChunks) :
    p = q := by
  rw [hp.textChunks, hq.textChunks] at h
  have hrow := (TextItem.group.inj (List.cons.inj (List.cons.inj h).1).1).2
  refine hp.eq_of_chunks hq (QueryText.row_injective ?_ ?_ hrow)
  · exact fun c hc => (hp.shape.isChunk c hc).isSeparate
  · exact fun c hc => (hq.shape.isChunk c hc).isSeparate

private theorem Tests.eq_of_textChunks {t t' : TokenTest} (hp : Tests p t) (hq : Tests q t') (hlayer : t.layer = none)
    (hlayer' : t'.layer = none) (h : p.textChunks = q.textChunks) : p = q := by
  rw [hp.textChunks hlayer, hq.textChunks hlayer'] at h
  exact hp.eq_of_expression hq (hlayer.trans hlayer'.symm) (QueryText.wordChunk_inj (List.cons.inj h).1)

private theorem repeated_inj {min max min' max' : UInt32} (hp : Legible p) (hq : Legible q)
    (h : [row (slot 7 p.textLevel p.textChunks) ++ chars (QueryText.repetitionMark min max).toList] =
      [row (slot 7 q.textLevel q.textChunks) ++ chars (QueryText.repetitionMark min' max').toList]) :
    min = min' ∧ max = max' ∧ p.textChunks = q.textChunks := by
  have hmark := QueryText.mark_repetitionMark min max
  have hmark' := QueryText.mark_repetitionMark min' max'
  obtain ⟨c, hslot, hc⟩ := QueryText.exists_bodySlot hp.chunkOf
  obtain ⟨c', hslot', hc'⟩ := QueryText.exists_bodySlot hq.chunkOf
  rw [textLevel, textLevel, hslot, hslot', QueryText.row_singleton, QueryText.row_singleton] at h
  obtain ⟨rfl, hmarks⟩ := QueryText.append_mark_inj hmark hmark' hc.toUnmarked hc'.toUnmarked (List.cons.inj h).1
  obtain ⟨rfl, rfl⟩ := (hmarks ▸ hmark).eq_of_text hmark'
  exact ⟨rfl, rfl, hp.shape.slot_injective hq.shape (hslot.trans hslot'.symm)⟩

private theorem textChunks_anyTokens (min max : UInt32) :
    (Pattern.anyToken min max).textChunks = (Pattern.modify (.repeated min max) (.anyToken 1 1)).textChunks := by
  have hslot : slot 7 (Pattern.anyToken 1 1).textLevel (Pattern.anyToken 1 1).textChunks =
      [[.group .square []]] := rfl
  rw [textChunks_anyToken, textChunks_repeated, hslot, QueryText.row_singleton]

private theorem LegibleAs.of_chunks (hp : LegibleAs kind p) (hq : Legible q) (h : p.textChunks = q.textChunks) :
    LegibleAs kind q := by
  rw [hp.kind_eq hq h]
  exact hq

private theorem eq_anyToken_of_chunks (hp : Legible p) (h : p.textChunks = (Pattern.anyToken 1 1).textChunks) :
    p = .anyToken 1 1 := by
  cases LegibleAs.anyToken.of_chunks hp h.symm with
  | anyToken => rfl

/-! ### Names before chunks -/

private theorem captured_inj {name name' : String} (hname : IsName name) (hname' : IsName name') (hp : Legible p)
    (hq : Legible q)
    (h : [captureItems (some name) ++ row (slot 6 p.textLevel p.textChunks)] =
      [captureItems (some name') ++ row (slot 6 q.textLevel q.textChunks)]) :
    name = name' ∧ p.textChunks = q.textChunks := by
  obtain ⟨hnames, hrows⟩ := QueryText.captureItems_append_inj hname hname' (List.cons.inj h).1
  exact ⟨hnames, hp.shape.row_slot_injective hq.shape QueryText.not_mark_group hrows⟩

private theorem legibleAs_uncaptured {tag : TagPattern} (h : TagNamed tag) :
    LegibleAs .tags (.tags { tag with capture := none }) :=
  .tags ⟨h.name, h.attributes, h.edge⟩ rfl

private theorem textChunks_capturedTags {tag : TagPattern} {name : String} (h : tag.capture = some name) :
    (Pattern.tags tag).textChunks =
      (Pattern.modify (.capture name) (.tags { tag with capture := none })).textChunks := by
  have hslot : slot 6 (Pattern.tags { tag with capture := none }).textLevel
      (Pattern.tags { tag with capture := none }).textChunks = [[.group .angle (QueryText.tagContent tag)]] := rfl
  rw [textChunks_tags, textChunks_capture, hslot, QueryText.row_singleton, QueryText.tagChunk, h]

/-! ### Relations -/

structure AreLegible (targets : List (RelationHead × Pattern)) : Prop where
  ne_nil : targets ≠ []
  named : ∀ t ∈ targets, HeadNamed t.1
  legible : ∀ t ∈ targets, Legible t.2

section

variable {left left' right : List Chunk} {targets targets' : List (RelationHead × Pattern)}

private theorem AreLegible.targets_inj (h : AreLegible targets) (h' : AreLegible targets')
    (hinj : ∀ t ∈ targets, IsDetermined t.2)
    (heq : [chars [';']].intercalate (targets.map targetChunk) =
      [chars [';']].intercalate (targets'.map targetChunk)) : targets = targets' := by
  have hsemicolon : ∀ {t : RelationHead × Pattern}, Legible t.2 → chars [';'] ∉ targetChunk t := by
    intro t ht hmem
    rcases List.mem_cons.1 hmem with hhead | htarget
    · exact @QueryText.headChunk_ne_keyword t.1 ";" (by decide) hhead.symm
    · refine (ht.shape.slot QueryText.not_mark_group 5).unmarked _ htarget 1 (by decide) ?_
      exact @PatternMark.keyword ";" (by decide)
  have hchunks := QueryText.intercalate_inj (List.forall_mem_map.2 fun t ht => hsemicolon (h.legible t ht))
    (List.forall_mem_map.2 fun t ht => hsemicolon (h'.legible t ht)) (by simpa using h.ne_nil)
    (by simpa using h'.ne_nil) heq
  refine QueryText.map_inj_of_mem (fun t ht t' ht' heq => ?_) hchunks
  obtain ⟨hhead, hslot⟩ := List.cons.inj heq
  have htarget := hinj t ht t'.2 (h'.legible t' ht')
    ((h.legible t ht).shape.slot_injective (h'.legible t' ht').shape hslot)
  exact Prod.ext ((h.named t ht).eq_of_headChunk (h'.named t' ht') hhead) htarget

private theorem AreLegible.left_inj (h : AreLegible targets) (h' : AreLegible targets')
    (hleft : ∀ c ∈ left, ¬PatternMark 1 c) (hleft' : ∀ c ∈ left', ¬PatternMark 1 c)
    (heq : left ++ [chars [';']].intercalate (targets.map targetChunk) =
      left' ++ [chars [';']].intercalate (targets'.map targetChunk)) :
    left = left' ∧ [chars [';']].intercalate (targets.map targetChunk) =
      [chars [';']].intercalate (targets'.map targetChunk) := by
  obtain ⟨t, ht, rest, htargets⟩ := exists_targets h.ne_nil
  obtain ⟨t', ht', rest', htargets'⟩ := exists_targets h'.ne_nil
  rw [htargets, htargets', targetChunk, targetChunk, List.cons_append, List.cons_append] at heq ⊢
  obtain ⟨rfl, hhead, hrest⟩ := QueryText.append_cons_inj_of_first hleft hleft' (.relation (h.named t ht))
    (.relation (h'.named t' ht')) heq
  exact ⟨rfl, by rw [hhead, hrest]⟩

private theorem AreLegible.keyword_ne (h : AreLegible targets) {word : String}
    (hword : word ∈ ["within", "containing", ";"])
    (hleft : ∀ c ∈ left, ¬PatternMark 1 c) (hleft' : ∀ c ∈ left', ¬PatternMark 1 c) :
    left ++ chars word.toList :: right ≠ left' ++ [chars [';']].intercalate (targets.map targetChunk) := by
  obtain ⟨t, ht, rest, htargets⟩ := exists_targets h.ne_nil
  rw [htargets, targetChunk, List.cons_append]
  intro heq
  obtain ⟨-, hmark, -⟩ := QueryText.append_cons_inj_of_first hleft hleft' (.keyword hword)
    (.relation (h.named t ht)) heq
  exact QueryText.headChunk_ne_keyword t.1 hword hmark.symm

private theorem Legible.slot_unmarked (h : Legible p) {least : Nat} (hleast : 1 < least) :
    ∀ c ∈ slot least p.textLevel p.textChunks, ¬PatternMark 1 c :=
  fun c hc => (h.shape.slot QueryText.not_mark_group least).unmarked c hc 1 hleast

/-- Patterns of relations, by what stands before the first relation. -/
inductive Related : Pattern → List Chunk → List (RelationHead × Pattern) → Prop
  | target (head : RelationHead) (target : Pattern) :
      Related (.relationTarget head target) [chars ['_']] [(head, target)]
  | ofParent {parent : Pattern} (hdefault : parent ≠ .defaultValue) (h : Legible parent)
      (targets : List (RelationHead × Pattern)) :
      Related (.relationMatch parent targets) (slot 5 parent.textLevel parent.textChunks) targets
  | root (targets : List (RelationHead × Pattern)) : Related (.rootRelations targets) [] targets

namespace Related

theorem textChunks (h : Related p left targets) :
    p.textChunks = left ++ [chars [';']].intercalate (targets.map targetChunk) := by
  cases h with
  | target =>
      rw [textChunks_relationTarget, List.map_singleton, List.intercalate_singleton]
      rfl
  | ofParent => exact textChunks_relationMatch _ _
  | root => exact textChunks_rootRelations _

theorem unmarked (h : Related p left targets) : ∀ c ∈ left, ¬PatternMark 1 c := by
  cases h with
  | target => simpa using QueryText.not_mark_of_solid QueryText.body_placeholder.toSolid 1
  | ofParent _ hparent => exact hparent.slot_unmarked (by decide)
  | root => nofun

private theorem slot_ne_placeholder (h : Legible p) (hdefault : p ≠ .defaultValue) :
    slot 5 p.textLevel p.textChunks ≠ [chars ['_']] := by
  have hslot : slot 5 Pattern.defaultValue.textLevel Pattern.defaultValue.textChunks = [chars ['_']] := rfl
  intro heq
  have hchunks := h.shape.slot_injective LegibleAs.defaultValue.shape (heq.trans hslot.symm)
  cases LegibleAs.defaultValue.of_chunks h hchunks.symm with
  | defaultValue => exact hdefault rfl

private theorem slot_ne_nil (h : Legible p) (least : Nat) : slot least p.textLevel p.textChunks ≠ [] :=
  (h.shape.slot QueryText.not_mark_group least).ne_nil

private theorem eq_of_left (h : Related p left targets) (h' : Related q left targets)
    (hinj : ∀ parent, p = .relationMatch parent targets → IsDetermined parent) : p = q := by
  generalize hleft : left = left' at h'
  cases h with
  | target head target =>
      cases h' with
      | target => rfl
      | ofParent hdefault hparent => exact absurd hleft.symm (slot_ne_placeholder hparent hdefault)
      | root => cases hleft
  | ofParent hdefault hparent =>
      cases h' with
      | target => exact absurd hleft (slot_ne_placeholder hparent hdefault)
      | ofParent _ hparent' =>
          rw [hinj _ rfl _ hparent' (hparent.shape.slot_injective hparent'.shape hleft)]
      | root => exact absurd hleft (slot_ne_nil hparent 5)
  | root =>
      cases h' with
      | target => cases hleft
      | ofParent _ hparent => exact absurd hleft.symm (slot_ne_nil hparent 5)
      | root => rfl

end Related

private theorem LegibleAs.position_cases (h : LegibleAs .position p) :
    (∃ test producer filter, p = .positionFilter test producer filter ∧ HasKeyword test ∧ Legible producer ∧
      Legible filter) ∨ ∃ left targets, Related p left targets ∧ AreLegible targets := by
  cases h with
  | positionFilter htest hproducer hfilter => exact .inl ⟨_, _, _, rfl, htest, hproducer, hfilter⟩
  | relationTarget hhead h =>
      exact .inr ⟨_, _, .target _ _, List.cons_ne_nil _ _, by simpa using hhead, by simpa using h.legible⟩
  | relationMatch hdefault hne hheads hparent h => exact .inr ⟨_, _, .ofParent hdefault hparent _, hne, hheads, h⟩
  | rootRelations hne hheads h => exact .inr ⟨_, _, .root _, hne, hheads, h⟩

private theorem IsDetermined.of_related (hp : LegibleAs .position p) (h : Related p left targets)
    (htargets : AreLegible targets) (hinj : ∀ t ∈ targets, IsDetermined t.2)
    (hparent : ∀ parent, p = .relationMatch parent targets → IsDetermined parent) : IsDetermined p := by
  intro q hq heq
  rcases (hp.of_chunks hq heq).position_cases with
    ⟨test, producer, filter, rfl, -, hproducer, -⟩ | ⟨left', targets', h', htargets'⟩
  · rw [h.textChunks, textChunks_positionFilter] at heq
    exact absurd heq.symm (htargets.keyword_ne (keyword_mem test) (hproducer.slot_unmarked (by decide)) h.unmarked)
  · rw [h.textChunks, h'.textChunks] at heq
    obtain ⟨rfl, hchunks⟩ := htargets.left_inj htargets' h.unmarked h'.unmarked heq
    obtain rfl := htargets.targets_inj htargets' hinj hchunks
    exact h.eq_of_left h' hparent

end

/-! ### Keywords and constraints -/

theorem IsDetermined.positionFilter {test : PositionTest} {producer filter : Pattern} (htest : HasKeyword test)
    (hproducer : Legible producer) (hfilter : Legible filter) (hinjProducer : IsDetermined producer)
    (hinjFilter : IsDetermined filter) : IsDetermined (.positionFilter test producer filter) := by
  intro q hq heq
  have hleft : ∀ {p : Pattern}, Legible p → ∀ c ∈ slot 2 p.textLevel p.textChunks, ¬PatternMark 1 c :=
    fun hp => hp.slot_unmarked (by decide)
  rcases ((LegibleAs.positionFilter htest hproducer hfilter).of_chunks hq heq).position_cases with
    ⟨test', producer', filter', rfl, htest', hproducer', hfilter'⟩ | ⟨left, targets, h, htargets⟩
  · rw [textChunks_positionFilter, textChunks_positionFilter] at heq
    obtain ⟨hproducers, hmark, hfilters⟩ := QueryText.append_cons_inj_of_first (hleft hproducer) (hleft hproducer')
      (.keyword (keyword_mem test)) (.keyword (keyword_mem test')) heq
    rw [htest.eq_of_keyword htest' (String.toList_inj.1 (QueryText.chars_injective hmark)),
      hinjProducer _ hproducer' (hproducer.shape.slot_injective hproducer'.shape hproducers),
      hinjFilter _ hfilter' (hfilter.shape.slot_injective hfilter'.shape hfilters)]
  · rw [textChunks_positionFilter, h.textChunks] at heq
    exact absurd heq (htargets.keyword_ne (keyword_mem test) (hleft hproducer) h.unmarked)

theorem IsDetermined.constrained {clause : Pattern} {filter : Filter} (hfilter : filter.Named)
    (hnormal : filter.normal = filter) (h : Legible clause) (hinj : IsDetermined clause) :
    IsDetermined (.modify (.constrained filter) clause) := by
  intro q hq heq
  cases (LegibleAs.constrained hfilter hnormal h).of_chunks hq heq with
  | constrained hfilter' hnormal' h' =>
      have hunmarked : ∀ {p : Pattern}, Legible p → ∀ c ∈ slot 1 p.textLevel p.textChunks, ¬PatternMark 0 c :=
        fun hp c hc => (hp.shape.slot QueryText.not_mark_group 1).unmarked c hc 0 (by decide)
      rw [textChunks_constrained, textChunks_constrained] at heq
      obtain ⟨hclause, -, hchunks⟩ := QueryText.append_cons_inj_of_first (hunmarked h) (hunmarked h') .constraint
        .constraint heq
      rw [hinj _ h' (h.shape.slot_injective h'.shape hclause), ← hnormal, ← hnormal',
        Filter.normal_eq_of_chunks hfilter hfilter' hchunks]

/-! ### Arguments -/

private theorem Legible.exists_word (h : Legible p) {c : Chunk} (hchunks : p.textChunks = [c])
    (hmark : ∀ n, ¬PatternMark n c) (hkind : QueryText.kindOf c = .word) :
    ∃ t, Tests p t ∧ t.layer = none ∧ wordChunk t = c := by
  have hword : p.textKind = .word := (h.chunkOf_of_single hchunks hmark).kindOf.symm.trans hkind
  unfold Legible at h
  rw [hword] at h
  cases h with
  | @word _ t ht hlayer =>
      rw [ht.textChunks hlayer] at hchunks
      exact ⟨t, ht, hlayer, (List.cons.inj hchunks).1⟩

private theorem textChunks_ne_quoted (h : Legible p) (hargument : IsArgument p) (text : List Char) :
    p.textChunks ≠ [[.quoted text]] := by
  intro hchunks
  have hsolid : QueryText.Solid [.quoted text] := (QueryText.body_item (by simp)).toSolid
  obtain ⟨t, ht, hlayer, hword⟩ := h.exists_word hchunks (QueryText.not_mark_of_solid hsolid) rfl
  rw [wordChunk, if_pos (hargument t ht hlayer).1] at hword
  have hmem : .quoted text ∈ chars t.expression.toList := hword ▸ List.mem_cons_self
  simp [chars] at hmem

private theorem textChunks_ne_intText (h : Legible p) (hargument : IsArgument p) (n : Int) :
    p.textChunks ≠ [chars (toString n).toList] := by
  intro hchunks
  obtain ⟨t, ht, hlayer, hword⟩ := h.exists_word hchunks (QueryText.not_mark_intText n) (QueryText.kindOf_intText n)
  rw [wordChunk, if_pos (hargument t ht hlayer).1] at hword
  exact (hargument t ht hlayer).2 n (String.toList_inj.1 (QueryText.chars_injective hword))

private theorem quoted_ne_chars (text text' : List Char) : [.quoted text] ≠ chars text' := by
  intro heq
  have hmem : .quoted text ∈ chars text' := heq ▸ List.mem_cons_self
  simp [chars] at hmem

def IsShown (a : Argument Pattern) : Prop := ∀ p, a = .pattern p → Legible p ∧ IsArgument p

private theorem argumentChunk_inj {a b : Argument Pattern} (ha : IsShown a) (hb : IsShown b)
    (hinj : ∀ p, a = .pattern p → IsDetermined p) (h : argumentChunk a = argumentChunk b) : a = b := by
  cases a with
  | pattern p =>
      obtain ⟨hp, hargument⟩ := ha p rfl
      cases b with
      | pattern q => rw [hinj p rfl q (hb q rfl).1 h]
      | text value => exact absurd h (textChunks_ne_quoted hp hargument _)
      | number n => exact absurd h (textChunks_ne_intText hp hargument n)
  | text value =>
      cases b with
      | pattern q => exact absurd h.symm (textChunks_ne_quoted (hb q rfl).1 (hb q rfl).2 _)
      | text value' => rw [String.toList_inj.1 (TextItem.quoted.inj (List.cons.inj (List.cons.inj h).1).1)]
      | number n => exact absurd (List.cons.inj h).1 (quoted_ne_chars _ _)
  | number n =>
      cases b with
      | pattern q => exact absurd h.symm (textChunks_ne_intText (hb q rfl).1 (hb q rfl).2 n)
      | text value => exact absurd (List.cons.inj h).1.symm (quoted_ne_chars _ _)
      | number n' => rw [QueryText.intText_injective (QueryText.chars_injective (List.cons.inj h).1)]

private theorem argumentChunk_isChunk {a : Argument Pattern} (ha : IsShown a) :
    argumentChunk a ≠ [] ∧ ∀ c ∈ argumentChunk a, IsChunk c := by
  cases a with
  | pattern p => exact ⟨(ha p rfl).1.shape.ne_nil, (ha p rfl).1.shape.isChunk⟩
  | text value => exact ⟨List.cons_ne_nil _ _, by simpa [argumentChunk] using IsChunk.item (by simp)⟩
  | number n => exact ⟨List.cons_ne_nil _ _, by simpa [argumentChunk] using QueryText.isChunk_intText n⟩

private theorem arguments_inj {arguments arguments' : List (Argument Pattern)} (h : ∀ a ∈ arguments, IsShown a)
    (h' : ∀ a ∈ arguments', IsShown a) (hinj : ∀ p, .pattern p ∈ arguments → IsDetermined p)
    (heq : row (QueryText.argumentRow (arguments.map argumentChunk)) =
      row (QueryText.argumentRow (arguments'.map argumentChunk))) : arguments = arguments' := by
  have hchunks : ∀ {as : List (Argument Pattern)}, (∀ a ∈ as, IsShown a) →
      ∀ chunks ∈ as.map argumentChunk, chunks ≠ [] ∧ ∀ c ∈ chunks, IsChunk c :=
    fun has => List.forall_mem_map.2 fun a ha => argumentChunk_isChunk (has a ha)
  have hrows := QueryText.row_injective
    (QueryText.argumentRow_isSeparate fun chunks hmem => (hchunks h chunks hmem).2)
    (QueryText.argumentRow_isSeparate fun chunks hmem => (hchunks h' chunks hmem).2) heq
  refine QueryText.map_inj_of_mem (fun a ha b hb => argumentChunk_inj (h a ha) (h' b hb) ?_)
    (QueryText.argumentRow_injective (hchunks h) (hchunks h') hrows)
  rintro p rfl
  exact hinj p ha

/-! ### Reading -/

theorem IsDetermined.join {connective : Connective} {clauses : List Pattern}
    (hbrackets : (Pattern.join connective clauses).isBracketQuery = false) (htwo : 2 ≤ clauses.length)
    (h : ∀ p ∈ clauses, Legible p) (hinj : ∀ p ∈ clauses, IsDetermined p) :
    IsDetermined (.join connective clauses) := by
  intro q hq heq
  cases (LegibleAs.join hbrackets htwo h).of_chunks hq heq with
  | @join _ clauses' hbrackets' htwo' h' =>
      have hshape : ∀ {ps : List Pattern}, (∀ p ∈ ps, Legible p) →
          ∀ p ∈ ps, Shape PatternMark p.textLevel p.textChunks := fun hps p hp => (hps p hp).shape
      have hne : ∀ {ps : List Pattern}, 2 ≤ ps.length → ps ≠ [] := by
        rintro ps hlength rfl
        simp at hlength
      have hclauses : ∀ p ∈ clauses, ∀ q ∈ clauses', p.textChunks = q.textChunks → p = q :=
        fun p hp q hq => hinj p hp q (h' q hq)
      rw [textChunks_join hbrackets, textChunks_join hbrackets'] at heq
      cases connective with
      | and =>
          rw [QueryText.intercalate_slots_inj .and (Nat.lt_succ_self 3) QueryText.not_mark_group (hshape h)
            (hshape h') (hne htwo) (hne htwo') hclauses heq]
      | or =>
          rw [QueryText.intercalate_slots_inj .or (Nat.lt_succ_self 2) QueryText.not_mark_group (hshape h)
            (hshape h') (hne htwo) (hne htwo') hclauses heq]
      | sequence =>
          have hsingle : ∀ {ps : List Pattern}, (∀ p ∈ ps, Legible p) →
              ∀ p ∈ ps, ∃ c, slot 5 p.textLevel p.textChunks = [c] := by
            intro ps hps p hp
            unfold slot
            split
            · exact ⟨_, rfl⟩
            · rename_i hlevel
              obtain ⟨c, hchunks, -⟩ := (hps p hp).chunkOf (Nat.le_of_not_lt hlevel)
              exact ⟨c, hchunks⟩
          rw [Connective.separators, QueryText.nil_intercalate, QueryText.nil_intercalate] at heq
          rw [QueryText.flatten_slots_inj (hshape h) (hshape h') (hsingle h) (hsingle h') hclauses heq]

private theorem LegibleAs.isDetermined (h : LegibleAs kind p) : IsDetermined p := by
  induction h with
  | brackets hp =>
      intro q hq heq
      cases (LegibleAs.brackets hp).of_chunks hq heq with
      | brackets hq => exact hp.eq_of_textChunks hq heq
  | word ht hlayer hdistinct =>
      intro q hq heq
      cases (LegibleAs.word ht hlayer hdistinct).of_chunks hq heq with
      | word ht' hlayer' => exact ht.eq_of_textChunks ht' hlayer hlayer' heq
  | anyToken =>
      intro q hq heq
      exact (eq_anyToken_of_chunks hq heq.symm).symm
  | @anyTokens min max honce =>
      intro q hq heq
      cases (LegibleAs.anyTokens honce).of_chunks hq heq with
      | @anyTokens min' max' =>
          rw [textChunks_anyTokens, textChunks_anyTokens, textChunks_repeated, textChunks_repeated] at heq
          obtain ⟨rfl, rfl, -⟩ := repeated_inj LegibleAs.anyToken.legible LegibleAs.anyToken.legible heq
          rfl
      | repeated _ hany h' =>
          rw [textChunks_anyTokens, textChunks_repeated, textChunks_repeated] at heq
          obtain ⟨-, -, hclause⟩ := repeated_inj LegibleAs.anyToken.legible h' heq
          exact absurd (eq_anyToken_of_chunks h' hclause.symm) hany
  | tags ht hcapture =>
      intro q hq heq
      cases (LegibleAs.tags ht hcapture).of_chunks hq heq with
      | tags ht' hcapture' =>
          rw [textChunks_tags, textChunks_tags, tagChunk, tagChunk, hcapture, hcapture'] at heq
          have hcontent := (TextItem.group.inj (List.cons.inj (List.cons.inj heq).1).1).2
          rw [QueryText.tagContent_inj ht ht' hcontent (hcapture.trans hcapture'.symm)]
  | @capturedTags tag name ht hcapture hname =>
      intro q hq heq
      cases (LegibleAs.capturedTags ht hcapture hname).of_chunks hq heq with
      | capturedTags ht' hcapture' hname' =>
          rw [textChunks_tags, textChunks_tags, tagChunk, tagChunk, hcapture, hcapture'] at heq
          obtain ⟨rfl, hgroup⟩ := QueryText.captureItems_append_inj hname hname' (List.cons.inj heq).1
          have hcontent := (TextItem.group.inj (List.cons.inj hgroup).1).2
          rw [QueryText.tagContent_inj ht ht' hcontent (hcapture.trans hcapture'.symm)]
      | capture hname' htag h' =>
          rw [textChunks_capturedTags hcapture, textChunks_capture, textChunks_capture] at heq
          obtain ⟨-, hclause⟩ := captured_inj hname hname' (legibleAs_uncaptured ht).legible h' heq
          exact absurd ((legibleAs_uncaptured ht).kind_eq h' hclause).symm htag
  | defaultValue =>
      intro q hq heq
      cases LegibleAs.defaultValue.of_chunks hq heq with
      | defaultValue => rfl
  | join hbrackets htwo h ih => exact IsDetermined.join hbrackets htwo h ih
  | not hbrackets h ih =>
      intro q hq heq
      cases (LegibleAs.not hbrackets h).of_chunks hq heq with
      | not hbrackets' h' =>
          rw [textChunks_not hbrackets, textChunks_not hbrackets'] at heq
          have hrow := (List.cons.inj (List.cons.inj heq).1).2
          rw [ih _ h' (h.shape.row_slot_injective h'.shape QueryText.not_mark_group hrow)]
  | repeated honce hany h ih =>
      intro q hq heq
      cases (LegibleAs.repeated honce hany h).of_chunks hq heq with
      | anyTokens honce' =>
          rw [textChunks_anyTokens, textChunks_repeated, textChunks_repeated] at heq
          obtain ⟨-, -, hclause⟩ := repeated_inj h LegibleAs.anyToken.legible heq
          exact absurd (eq_anyToken_of_chunks h hclause) hany
      | repeated _ _ h' =>
          rw [textChunks_repeated, textChunks_repeated] at heq
          obtain ⟨rfl, rfl, hclause⟩ := repeated_inj h h' heq
          rw [ih _ h' hclause]
  | capture hname htag h ih =>
      intro q hq heq
      cases (LegibleAs.capture hname htag h).of_chunks hq heq with
      | capturedTags ht' hcapture' hname' =>
          rw [textChunks_capturedTags hcapture', textChunks_capture, textChunks_capture] at heq
          obtain ⟨-, hclause⟩ := captured_inj hname hname' h (legibleAs_uncaptured ht').legible heq
          exact absurd ((legibleAs_uncaptured ht').kind_eq h hclause.symm).symm htag
      | capture hname' _ h' =>
          rw [textChunks_capture, textChunks_capture] at heq
          obtain ⟨rfl, hclause⟩ := captured_inj hname hname' h h' heq
          rw [ih _ h' hclause]
  | constrained hfilter hnormal h ih => exact IsDetermined.constrained hfilter hnormal h ih
  | positionFilter htest hproducer hfilter ihproducer ihfilter =>
      exact IsDetermined.positionFilter htest hproducer hfilter ihproducer ihfilter
  | relationTarget hhead h ih =>
      exact IsDetermined.of_related (.relationTarget hhead h) (.target _ _)
        ⟨List.cons_ne_nil _ _, by simpa using hhead, by simpa using h.legible⟩ (by simpa using ih) (by rintro _ ⟨⟩)
  | relationMatch hdefault hne hheads hparent h ihparent ih =>
      refine IsDetermined.of_related (.relationMatch hdefault hne hheads hparent h) (.ofParent hdefault hparent _)
        ⟨hne, hheads, h⟩ ih ?_
      rintro _ ⟨⟩
      exact ihparent
  | rootRelations hne hheads h ih =>
      exact IsDetermined.of_related (.rootRelations hne hheads h) (.root _) ⟨hne, hheads, h⟩ ih (by rintro _ ⟨⟩)
  | call hname hshown h ih =>
      intro q hq heq
      cases (LegibleAs.call hname hshown h).of_chunks hq heq with
      | call hname' hshown' h' =>
          rw [textChunks_call, textChunks_call] at heq
          obtain ⟨hnames, hgroup⟩ := List.append_inj' (List.cons.inj heq).1 rfl
          have hcontent := (TextItem.group.inj (List.cons.inj hgroup).1).2
          rw [String.toList_inj.1 (QueryText.chars_injective hnames), arguments_inj ?_ ?_ ih hcontent]
          · rintro a ha p rfl
            exact ⟨h p ha, hshown p ha⟩
          · rintro a ha p rfl
            exact ⟨h' p ha, hshown' p ha⟩

/-- Legible patterns with the same text are equal. -/
theorem Legible.eq_of_text (hp : Legible p) (hq : Legible q) {text : String} (h : p.toQueryText = .ok text)
    (h' : q.toQueryText = .ok text) : p = q := by
  have hwrites : ∀ {p : Pattern}, Legible p → p.toQueryText = .ok text → Writes p text := by
    intro p hp h
    obtain ⟨written, hwrite⟩ := hp.exists_writes
    rw [toQueryText, hwrite.eq] at h
    obtain rfl : written = text := Except.ok.inj h
    exact hwrite
  have hrow := (hwrites hp h).reads.unique (hwrites hq h').reads
  refine hp.isDetermined q hq (QueryText.row_injective ?_ ?_ hrow)
  · exact fun c hc => (hp.shape.isChunk c hc).isSeparate
  · exact fun c hc => (hq.shape.isChunk c hc).isSeparate

end Pattern

namespace Planner

/-- A pattern without query text is refused because the query language has no words for it, a legible pattern has a
query text, and legible patterns with the same text are planned alike and find the same spans in every index. -/
theorem text_is_faithful (x y : Pattern) :
    x.toQueryText.OnlyUnsupported ∧ (x.Legible → x.toQueryText.Succeeds) ∧
      (x.Legible → y.Legible → ∀ text, x.toQueryText = .ok text → y.toQueryText = .ok text →
        x = y ∧ ∀ (p : Planner) (c : Context) (a b : Plan), p.plan c x = .ok a → p.plan c y = .ok b →
          ∀ (index : Index) (field : String), index.search a field = index.search b field) := by
  refine ⟨x.onlyUnsupported_toQueryText, fun hx => ?_, fun hx hy text hxtext hytext => ?_⟩
  · obtain ⟨text, hwrite⟩ := hx.exists_writes
    exact ⟨text, by rw [Pattern.toQueryText, hwrite.eq]; rfl⟩
  · obtain rfl := hx.eq_of_text hy hxtext hytext
    refine ⟨rfl, fun p c a b ha hb index field => ?_⟩
    rw [Except.ok.inj (ha.symm.trans hb)]

/-- Two words with flags within some tokens, and the same built of a sequence in a sequence. -/
theorem text_is_faithful_withinTokens :
    let words : Pattern :=
      .join .sequence [.term ⟨"big", none, some .sensitive⟩, .term ⟨"Cat", none, some .sensitive⟩]
    let x : Pattern := .positionFilter ⟨.within, false, 0, 0⟩ words (.anyToken 2 5)
    let nested : Result Pattern := do
      return Build.positionFilter (← Build.join .sequence [words]) (← Build.anyToken 2 5) ⟨.within, false, 0, 0⟩
    let plan : Plan := .positionFilter ⟨.within, false, 0, 0⟩
      (.join .sequence [.term "contents%word@s" "big", .term "contents%word@s" "Cat"]) (.anyToken "contents" 2 5)
    ∃ y, nested = .ok y ∧ x.Legible ∧ y.Legible ∧
      x.toQueryText = .ok "'(?-i)big' '(?-i)Cat' within []\x7b2,5\x7d" ∧
      y.toQueryText = .ok "'(?-i)big' '(?-i)Cat' within []\x7b2,5\x7d" ∧
      standard.plain.plan wordContext x = .ok plan ∧ standard.plain.plan wordContext y = .ok plan ∧ x = y ∧
      Index.search ⟨[quickFox], NameMap.empty⟩ plan "contents" =
        Index.search ⟨[quickFox], NameMap.empty⟩ plan "contents" := by
  intro words x nested plan
  have hquoted : isPlainWord "(?-i)big" = false ∧ isPlainWord "(?-i)Cat" = false := by decide +kernel
  have hwords : words.Legible := by
    refine .join rfl (by decide) (List.forall_mem_cons.2 ⟨?_, List.forall_mem_singleton.2 ?_⟩)
    · exact .word (.literal ⟨_, rfl⟩) rfl fun h => absurd (hquoted.1.symm.trans h) (by decide)
    · exact .word (.literal ⟨_, rfl⟩) rfl fun h => absurd (hquoted.2.symm.trans h) (by decide)
  have hx : x.Legible := .positionFilter ⟨.inl rfl, rfl, rfl, rfl⟩ hwords (.anyTokens (by decide))
  have htext : x.toQueryText = .ok "'(?-i)big' '(?-i)Cat' within []\x7b2,5\x7d" := by rfl
  have hplan : standard.plain.plan wordContext x = .ok plan := by rfl
  obtain ⟨y, hnested, hy, hytext, hyplan⟩ : ∃ y, nested = .ok y ∧ y.Legible ∧
      y.toQueryText = .ok "'(?-i)big' '(?-i)Cat' within []\x7b2,5\x7d" ∧
      standard.plain.plan wordContext y = .ok plan := ⟨_, by rfl, hx, by rfl, by rfl⟩
  obtain ⟨hsame, hsearch⟩ := (text_is_faithful x y).2.2 hx hy _ htext hytext
  exact ⟨y, hnested, hx, hy, htext, hytext, hplan, hyplan, hsame, hsearch _ _ _ _ hplan hyplan _ _⟩

end Planner

end CorpusSearch
