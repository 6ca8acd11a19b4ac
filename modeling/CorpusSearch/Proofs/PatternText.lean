import CorpusSearch.Proofs.ChunkKinds
import CorpusSearch.Proofs.FilterText

/-!
The text of patterns, as chunks. A pattern is legible if its parts look like nothing else: names are names, words are
no keywords, nothing is said that has no place in the text, and what can be written in two ways is written in the
usual one. Main statements: the chunks of a legible pattern show how strongly it binds, and of which kind it is.
-/

set_option autoImplicit false

namespace CorpusSearch

open QueryText (TextKind Chunk ChunkOf Level PatternMark Shape Operand IsName IsDistinct TagNamed HeadNamed
  chars row slot captureItems headChunk tagChunk wordChunk)

namespace Pattern

/-! ### Chunks -/

def textKind (p : Pattern) : TextKind :=
  if p.isBracketQuery then .brackets
  else
    match p with
    | .anyToken min max => if min = 1 ∧ max = 1 then .anyToken else .repeated
    | .tags tag => if tag.capture.isSome then .named else .tags
    | .defaultValue => .placeholder
    | .join connective _ => .joined connective
    | .modify .not _ => .negation
    | .modify (.repeated _ _) _ => .repeated
    | .modify (.capture _) _ => .named
    | .modify (.constrained _) _ => .constrained
    | .positionFilter _ _ _ | .relationTarget _ _ | .relationMatch _ _ | .rootRelations _ => .position
    | .call _ _ => .call
    | _ => .word

def textLevel (p : Pattern) : Nat := p.textKind.level.rank

/-- The word between the producer and the filter of a position filter. -/
def positionKeyword (test : PositionTest) : String :=
  if test.operation = .containing then "containing" else "within"

mutual

def textChunks (p : Pattern) : List Chunk :=
  if p.isBracketQuery then [[.group .square (row p.bracketChunks)]]
  else
    match p with
    | .term test => [wordChunk test.escaped]
    | .regex test => [wordChunk test]
    | .anyToken min max => [[.group .square []] ++ chars (QueryText.repetitionMark min max).toList]
    | .tags tag => [tagChunk tag]
    | .defaultValue => [chars ['_']]
    | .join connective clauses =>
      connective.separators.intercalate (operandChunks (QueryText.connectiveLevel connective).above clauses)
    | .modify .not clause => [.char '!' :: row (slot 6 clause.textLevel clause.textChunks)]
    | .modify (.repeated min max) clause =>
      [row (slot 7 clause.textLevel clause.textChunks) ++ chars (QueryText.repetitionMark min max).toList]
    | .modify (.capture name) clause =>
      [captureItems (some name) ++ row (slot 6 clause.textLevel clause.textChunks)]
    | .modify (.constrained filter) clause =>
      slot 1 clause.textLevel clause.textChunks ++ chars "::".toList :: filter.chunks
    | .positionFilter test producer filter =>
      slot 2 producer.textLevel producer.textChunks ++
        chars (positionKeyword test).toList :: slot 2 filter.textLevel filter.textChunks
    | .relationTarget head target => chars ['_'] :: headChunk head :: slot 5 target.textLevel target.textChunks
    | .relationMatch parent targets =>
      slot 5 parent.textLevel parent.textChunks ++ [chars [';']].intercalate (targetChunks targets)
    | .rootRelations targets => [chars [';']].intercalate (targetChunks targets)
    | .call name arguments =>
      [chars name.toList ++ [.group .round (row (QueryText.argumentRow (argumentChunks arguments)))]]
    | _ => []

def operandChunks (least : Nat) : List Pattern → List (List Chunk)
  | [] => []
  | p :: ps => slot least p.textLevel p.textChunks :: operandChunks least ps

def targetChunks : List (RelationHead × Pattern) → List (List Chunk)
  | [] => []
  | (head, target) :: targets =>
    (headChunk head :: slot 5 target.textLevel target.textChunks) :: targetChunks targets

def argumentChunks : List (Argument Pattern) → List (List Chunk)
  | [] => []
  | .pattern p :: arguments => p.textChunks :: argumentChunks arguments
  | .text value :: arguments => [[.quoted value.toList]] :: argumentChunks arguments
  | .number n :: arguments => [chars (toString n).toList] :: argumentChunks arguments

end

def argumentChunk : Argument Pattern → List Chunk
  | .pattern p => p.textChunks
  | .text value => [[.quoted value.toList]]
  | .number n => [chars (toString n).toList]

private theorem operandChunks_eq_map (least : Nat) (ps : List Pattern) :
    operandChunks least ps = ps.map fun p => slot least p.textLevel p.textChunks := by
  induction ps with
  | nil => rw [operandChunks, List.map_nil]
  | cons p ps ih => rw [operandChunks, ih, List.map_cons]

def targetChunk (t : RelationHead × Pattern) : List Chunk :=
  headChunk t.1 :: slot 5 t.2.textLevel t.2.textChunks

private theorem targetChunks_eq_map (targets : List (RelationHead × Pattern)) :
    targetChunks targets = targets.map targetChunk := by
  induction targets with
  | nil => rw [targetChunks, List.map_nil]
  | cons t targets ih => rw [targetChunks, ih, List.map_cons, targetChunk]

private theorem argumentChunks_eq_map (arguments : List (Argument Pattern)) :
    argumentChunks arguments = arguments.map argumentChunk := by
  induction arguments with
  | nil => rw [argumentChunks, List.map_nil]
  | cons a arguments ih => cases a <;> rw [argumentChunks, ih, List.map_cons, argumentChunk]

/-! ### Legible patterns -/

/-- Position filters that the query language has a word for. -/
structure HasKeyword (test : PositionTest) : Prop where
  operation : test.operation = .within ∨ test.operation = .containing
  inverted : test.inverted = false
  adjustLeading : test.adjustLeading = 0
  adjustTrailing : test.adjustTrailing = 0

theorem HasKeyword.eq_of_keyword {test test' : PositionTest} (h : HasKeyword test) (h' : HasKeyword test')
    (heq : positionKeyword test = positionKeyword test') : test = test' := by
  have hoperation : test.operation = test'.operation := by
    unfold positionKeyword at heq
    rcases h.operation with hleft | hleft <;> rcases h'.operation with hright | hright <;>
      simp [hleft, hright] at heq ⊢
  cases test
  cases test'
  have hother := And.intro h.inverted (And.intro h.adjustLeading h.adjustTrailing)
  have hother' := And.intro h'.inverted (And.intro h'.adjustLeading h'.adjustTrailing)
  simp_all

/-- Whether a pattern does not look like a text or a number where it is an argument. -/
def IsArgument (p : Pattern) : Prop :=
  ∀ t, Tests p t → t.layer = none → isPlainWord t.expression = true ∧ ∀ n : Int, t.expression ≠ toString n

/-- Patterns whose text shows what they are, by their kind. -/
inductive LegibleAs : TextKind → Pattern → Prop
  | brackets {p : Pattern} (h : InBrackets p) : LegibleAs .brackets p
  | word {p : Pattern} {t : TokenTest} (ht : Tests p t) (hlayer : t.layer = none)
      (hdistinct : isPlainWord t.expression = true → IsDistinct t.expression) : LegibleAs .word p
  | anyToken : LegibleAs .anyToken (.anyToken 1 1)
  | anyTokens {min max : UInt32} (honce : ¬(min = 1 ∧ max = 1)) : LegibleAs .repeated (.anyToken min max)
  | tags {tag : TagPattern} (h : TagNamed tag) (hcapture : tag.capture = none) : LegibleAs .tags (.tags tag)
  | capturedTags {tag : TagPattern} {name : String} (h : TagNamed tag) (hcapture : tag.capture = some name)
      (hname : IsName name) : LegibleAs .named (.tags tag)
  | defaultValue : LegibleAs .placeholder .defaultValue
  | join {connective : Connective} {clauses : List Pattern}
      (hbrackets : (Pattern.join connective clauses).isBracketQuery = false) (htwo : 2 ≤ clauses.length)
      (h : ∀ p ∈ clauses, LegibleAs p.textKind p) : LegibleAs (.joined connective) (.join connective clauses)
  | not {clause : Pattern} (hbrackets : clause.isBracketQuery = false) (h : LegibleAs clause.textKind clause) :
      LegibleAs .negation (.modify .not clause)
  | repeated {clause : Pattern} {min max : UInt32} (honce : ¬(min = 1 ∧ max = 1)) (hany : clause ≠ .anyToken 1 1)
      (h : LegibleAs clause.textKind clause) : LegibleAs .repeated (.modify (.repeated min max) clause)
  | capture {clause : Pattern} {name : String} (hname : IsName name) (htag : clause.textKind ≠ .tags)
      (h : LegibleAs clause.textKind clause) : LegibleAs .named (.modify (.capture name) clause)
  | constrained {clause : Pattern} {filter : Filter} (hfilter : filter.Named) (hnormal : filter.normal = filter)
      (h : LegibleAs clause.textKind clause) : LegibleAs .constrained (.modify (.constrained filter) clause)
  | positionFilter {test : PositionTest} {producer filter : Pattern} (htest : HasKeyword test)
      (hproducer : LegibleAs producer.textKind producer) (hfilter : LegibleAs filter.textKind filter) :
      LegibleAs .position (.positionFilter test producer filter)
  | relationTarget {head : RelationHead} {target : Pattern} (hhead : HeadNamed head)
      (h : LegibleAs target.textKind target) : LegibleAs .position (.relationTarget head target)
  | relationMatch {parent : Pattern} {targets : List (RelationHead × Pattern)} (hdefault : parent ≠ .defaultValue)
      (hne : targets ≠ []) (hheads : ∀ t ∈ targets, HeadNamed t.1) (hparent : LegibleAs parent.textKind parent)
      (h : ∀ t ∈ targets, LegibleAs t.2.textKind t.2) : LegibleAs .position (.relationMatch parent targets)
  | rootRelations {targets : List (RelationHead × Pattern)} (hne : targets ≠ [])
      (hheads : ∀ t ∈ targets, HeadNamed t.1) (h : ∀ t ∈ targets, LegibleAs t.2.textKind t.2) :
      LegibleAs .position (.rootRelations targets)
  | call {name : String} {arguments : List (Argument Pattern)} (hname : IsName name)
      (hshown : ∀ p, Argument.pattern p ∈ arguments → IsArgument p)
      (h : ∀ p, Argument.pattern p ∈ arguments → LegibleAs p.textKind p) : LegibleAs .call (.call name arguments)

/-- Patterns whose text shows what they are. -/
def Legible (p : Pattern) : Prop := LegibleAs p.textKind p

variable {p : Pattern} {t : TokenTest} {kind : TextKind}

/-! ### Single chunks -/

theorem Tests.isBracketQuery (h : Tests p t) : p.isBracketQuery = t.layer.isSome := by
  cases h with
  | literal => rfl
  | expression => rfl

theorem InBrackets.isBracketQuery (h : InBrackets p) : p.isBracketQuery = true := by
  induction h with
  | test ht hlayer =>
      cases ht with
      | plain ht => rw [ht.isBracketQuery, hlayer, Option.isSome_some]
      | negated ht => rw [Pattern.isBracketQuery, ht.isBracketQuery, hlayer, Option.isSome_some]
  | @join connective clauses hconnective _ _ ih =>
      have hall : isBracketQuery.allBracketQueries clauses = true := by
        clear * - ih
        induction clauses with
        | nil => rfl
        | cons p clauses ihs =>
            rw [isBracketQuery.allBracketQueries, ih p List.mem_cons_self,
              ihs fun p hp => ih p (List.mem_cons_of_mem _ hp), Bool.and_self]
      cases connective with
      | and => exact hall
      | or => exact hall
      | sequence => contradiction
  | not _ _ ih => exact ih

theorem InBrackets.textKind (h : InBrackets p) : p.textKind = .brackets := by
  rw [Pattern.textKind.eq_def, if_pos h.isBracketQuery]

theorem InBrackets.textChunks (h : InBrackets p) : p.textChunks = [[.group .square (row p.bracketChunks)]] := by
  rw [Pattern.textChunks.eq_def, if_pos h.isBracketQuery]

theorem Tests.textKind (h : Tests p t) (hlayer : t.layer = none) : p.textKind = .word := by
  have hbrackets : ¬p.isBracketQuery = true := by simp [h.isBracketQuery, hlayer]
  rw [Pattern.textKind.eq_def, if_neg hbrackets]
  cases h with
  | literal => rfl
  | expression => rfl

theorem Tests.textChunks (h : Tests p t) (hlayer : t.layer = none) : p.textChunks = [wordChunk t] := by
  have hbrackets : ¬p.isBracketQuery = true := by simp [h.isBracketQuery, hlayer]
  rw [Pattern.textChunks.eq_def, if_neg hbrackets]
  cases h with
  | literal => rfl
  | expression => rfl

theorem textKind_anyToken (min max : UInt32) :
    (Pattern.anyToken min max).textKind = if min = 1 ∧ max = 1 then .anyToken else .repeated := rfl

theorem textKind_tags (tag : TagPattern) :
    (Pattern.tags tag).textKind = if tag.capture.isSome then .named else .tags := rfl

private theorem textKind_join {connective : Connective} {clauses : List Pattern}
    (h : (Pattern.join connective clauses).isBracketQuery = false) :
    (Pattern.join connective clauses).textKind = .joined connective := by
  rw [textKind.eq_def, h]
  rfl

private theorem textKind_not {clause : Pattern} (h : clause.isBracketQuery = false) :
    (Pattern.modify .not clause).textKind = .negation := by
  have hbrackets : (Pattern.modify .not clause).isBracketQuery = false := h
  rw [textKind.eq_def, hbrackets]
  rfl

theorem textLevel_join {connective : Connective} {clauses : List Pattern}
    (h : (Pattern.join connective clauses).isBracketQuery = false) :
    (Pattern.join connective clauses).textLevel = (QueryText.connectiveLevel connective).rank := by
  rw [textLevel, textKind_join h]
  rfl

theorem textLevel_not {clause : Pattern} (h : clause.isBracketQuery = false) :
    (Pattern.modify .not clause).textLevel = Level.prefixed.rank := by
  rw [textLevel, textKind_not h]
  rfl

theorem textChunks_anyToken (min max : UInt32) : (Pattern.anyToken min max).textChunks =
    [[.group .square []] ++ chars (QueryText.repetitionMark min max).toList] := by
  rw [textChunks]
  rfl

theorem textChunks_tags (tag : TagPattern) : (Pattern.tags tag).textChunks = [tagChunk tag] := by
  rw [textChunks]
  rfl

theorem textChunks_join {connective : Connective} {clauses : List Pattern}
    (h : (Pattern.join connective clauses).isBracketQuery = false) :
    (Pattern.join connective clauses).textChunks = connective.separators.intercalate
      (clauses.map fun p => slot (QueryText.connectiveLevel connective).above p.textLevel p.textChunks) := by
  rw [textChunks.eq_def, h, ← operandChunks_eq_map]
  rfl

theorem textChunks_not {clause : Pattern} (h : clause.isBracketQuery = false) :
    (Pattern.modify .not clause).textChunks = [.char '!' :: row (slot 6 clause.textLevel clause.textChunks)] := by
  have hbrackets : (Pattern.modify .not clause).isBracketQuery = false := h
  rw [textChunks.eq_def, hbrackets]
  rfl

theorem textChunks_capture (name : String) (clause : Pattern) : (Pattern.modify (.capture name) clause).textChunks =
    [captureItems (some name) ++ row (slot 6 clause.textLevel clause.textChunks)] := by
  rw [textChunks]
  rfl

theorem textChunks_repeated (min max : UInt32) (clause : Pattern) :
    (Pattern.modify (.repeated min max) clause).textChunks =
      [row (slot 7 clause.textLevel clause.textChunks) ++ chars (QueryText.repetitionMark min max).toList] := by
  rw [textChunks]
  rfl

theorem textChunks_call (name : String) (arguments : List (Argument Pattern)) :
    (Pattern.call name arguments).textChunks =
      [chars name.toList ++ [.group .round (row (QueryText.argumentRow (arguments.map argumentChunk)))]] := by
  rw [textChunks, argumentChunks_eq_map]
  rfl

theorem LegibleAs.textKind (h : LegibleAs kind p) : p.textKind = kind := by
  cases h with
  | brackets h => exact h.textKind
  | word ht hlayer => exact ht.textKind hlayer
  | anyTokens honce => rw [textKind_anyToken, if_neg honce]
  | tags _ hcapture => rw [textKind_tags, hcapture]; rfl
  | capturedTags _ hcapture => rw [textKind_tags, hcapture]; rfl
  | join hbrackets => exact textKind_join hbrackets
  | not hbrackets => exact textKind_not hbrackets
  | _ => rfl

theorem LegibleAs.legible (h : LegibleAs kind p) : Legible p := by
  rw [Legible, h.textKind]
  exact h

theorem LegibleAs.chunkOf (h : LegibleAs kind p) (hlevel : 5 ≤ kind.level.rank) :
    ∃ c, p.textChunks = [c] ∧ ChunkOf kind c := by
  induction h with
  | @brackets p h =>
      rw [h.textChunks]
      refine ⟨_, rfl, .brackets ?_⟩
      have hchunks : ∀ c ∈ p.bracketChunks, QueryText.IsSeparate c := fun c hc => (h.shape.isChunk c hc).isSeparate
      exact fun hnil => h.shape.ne_nil ((QueryText.row_eq_nil hchunks).1 hnil)
  | word ht hlayer hdistinct =>
      rw [ht.textChunks hlayer]
      exact ⟨_, rfl, QueryText.chunkOf_wordChunk hdistinct⟩
  | anyToken => exact ⟨_, rfl, .anyToken⟩
  | @anyTokens min max honce =>
      have hmark := QueryText.mark_repetitionMark min max
      rw [textChunks_anyToken]
      refine ⟨_, rfl, .repeated (QueryText.body_item (by simp)) hmark fun hnil => honce ?_⟩
      exact (hnil ▸ hmark).eq_of_text .once
  | tags h hcapture =>
      rw [textChunks_tags, tagChunk, hcapture]
      exact ⟨_, rfl, .tags _⟩
  | capturedTags h hcapture hname =>
      rw [textChunks_tags, tagChunk, hcapture]
      exact ⟨_, rfl, .named hname (QueryText.body_item (by simp)).toSolid⟩
  | defaultValue => exact ⟨_, rfl, .placeholder⟩
  | @join connective => cases connective <;> exact absurd hlevel (by decide)
  | @not clause hbrackets _ ih =>
      obtain ⟨c, hslot, hc⟩ := QueryText.exists_solidSlot ih
      rw [textChunks_not hbrackets, textLevel, hslot, QueryText.row_singleton]
      exact ⟨_, rfl, .negation hc⟩
  | @repeated clause min max honce _ _ ih =>
      obtain ⟨c, hslot, hc⟩ := QueryText.exists_bodySlot ih
      have hmark := QueryText.mark_repetitionMark min max
      rw [textChunks_repeated, textLevel, hslot, QueryText.row_singleton]
      exact ⟨_, rfl, .repeated hc hmark fun hnil => honce ((hnil ▸ hmark).eq_of_text .once)⟩
  | @capture clause name hname _ _ ih =>
      obtain ⟨c, hslot, hc⟩ := QueryText.exists_solidSlot ih
      rw [textChunks_capture, textLevel, hslot, QueryText.row_singleton]
      exact ⟨_, rfl, .named hname hc⟩
  | call hname =>
      rw [textChunks_call]
      exact ⟨_, rfl, .call hname _⟩
  | _ => exact absurd hlevel (by decide)

/-! ### Shapes -/

theorem textChunks_constrained (filter : Filter) (clause : Pattern) :
    (Pattern.modify (.constrained filter) clause).textChunks =
      slot 1 clause.textLevel clause.textChunks ++ chars "::".toList :: filter.chunks := by
  rw [textChunks]
  rfl

theorem textChunks_positionFilter (test : PositionTest) (producer filter : Pattern) :
    (Pattern.positionFilter test producer filter).textChunks =
      slot 2 producer.textLevel producer.textChunks ++
        chars (positionKeyword test).toList :: slot 2 filter.textLevel filter.textChunks := by
  rw [textChunks]
  rfl

theorem textChunks_relationTarget (head : RelationHead) (target : Pattern) :
    (Pattern.relationTarget head target).textChunks = chars ['_'] :: targetChunk (head, target) := by
  rw [textChunks]
  rfl

theorem textChunks_relationMatch (parent : Pattern) (targets : List (RelationHead × Pattern)) :
    (Pattern.relationMatch parent targets).textChunks =
      slot 5 parent.textLevel parent.textChunks ++ [chars [';']].intercalate (targets.map targetChunk) := by
  rw [textChunks, targetChunks_eq_map]
  rfl

theorem textChunks_rootRelations (targets : List (RelationHead × Pattern)) :
    (Pattern.rootRelations targets).textChunks = [chars [';']].intercalate (targets.map targetChunk) := by
  rw [textChunks, targetChunks_eq_map]
  rfl

theorem keyword_mem (test : PositionTest) : positionKeyword test ∈ ["within", "containing", ";"] := by
  unfold positionKeyword
  split <;> decide

theorem operand_target {head : RelationHead} {target : Pattern} (hhead : HeadNamed head)
    (h : Shape PatternMark target.textLevel target.textChunks) : Operand PatternMark 1 (targetChunk (head, target)) :=
  (Operand.single hhead.isChunk (PatternMark.relation hhead).not_weaker).append
    ((h.slot QueryText.not_mark_group 5).weaken (by decide))

theorem operand_targets {targets : List (RelationHead × Pattern)} (hne : targets ≠ [])
    (hheads : ∀ t ∈ targets, HeadNamed t.1)
    (h : ∀ t ∈ targets, Shape PatternMark t.2.textLevel t.2.textChunks) :
    Operand PatternMark 1 ([chars [';']].intercalate (targets.map targetChunk)) := by
  have hmark : PatternMark 1 (chars [';']) := @PatternMark.keyword ";" (by decide)
  refine Operand.intercalate (by simpa using hne) ?_ (by simpa using hmark.isChunk) (by simpa using hmark.not_weaker)
  simp only [List.forall_mem_map]
  exact fun t ht => operand_target (hheads t ht) (h t ht)

theorem exists_targets {targets : List (RelationHead × Pattern)} (hne : targets ≠ []) :
    ∃ t ∈ targets, ∃ rest, [chars [';']].intercalate (targets.map targetChunk) = targetChunk t ++ rest := by
  cases targets with
  | nil => exact absurd rfl hne
  | cons t targets =>
      refine ⟨t, List.mem_cons_self, ?_⟩
      cases targets with
      | nil => exact ⟨[], by rw [List.map_singleton, List.intercalate_singleton, List.append_nil]⟩
      | cons t' targets =>
          exact ⟨_, by rw [List.map_cons, List.map_cons, List.intercalate_cons_cons, List.append_assoc]⟩

private theorem LegibleAs.shape_single (h : LegibleAs kind p) (hlevel : 5 ≤ kind.level.rank) :
    Shape PatternMark kind.level.rank p.textChunks := by
  obtain ⟨c, hchunks, hc⟩ := h.chunkOf hlevel
  rw [hchunks]
  exact hc.shape

/-- The chunks of a legible pattern show how strongly it binds. -/
theorem LegibleAs.shape (h : LegibleAs kind p) : Shape PatternMark kind.level.rank p.textChunks := by
  induction h with
  | @join connective clauses hbrackets htwo h ih =>
      rw [textChunks_join hbrackets]
      refine Operand.join ?_ (by simpa using htwo) connective.isChunk ?_ ?_
      · simp only [List.forall_mem_map]
        exact fun p hp => ((ih p hp).slot QueryText.not_mark_group _).weaken (Nat.le_succ _)
      · exact fun c hc => (PatternMark.of_mem_separators hc).not_weaker
      · intro hrank
        cases connective with
        | and => exact ⟨_, List.mem_cons_self, .and⟩
        | or => exact ⟨_, List.mem_cons_self, .or⟩
        | sequence => exact absurd hrank (by decide)
  | @constrained clause filter hfilter _ _ ih =>
      have hoperand : Operand PatternMark 0 filter.chunks :=
        ⟨(Filter.shape_of_named hfilter).isChunk, (Filter.shape_of_named hfilter).ne_nil, nofun⟩
      rw [textChunks_constrained]
      exact ((ih.slot QueryText.not_mark_group 1).weaken (Nat.zero_le _)).between hoperand .constraint
        PatternMark.constraint.isChunk nofun
  | @positionFilter test producer filter htest _ _ ihproducer ihfilter =>
      have hmark := PatternMark.keyword (keyword_mem test)
      rw [textChunks_positionFilter]
      exact ((ihproducer.slot QueryText.not_mark_group 2).weaken (show 1 ≤ 2 by decide)).between
        ((ihfilter.slot QueryText.not_mark_group 2).weaken (show 1 ≤ 2 by decide)) hmark hmark.isChunk
        hmark.not_weaker
  | @relationTarget head target hhead _ ih =>
      have hmark := PatternMark.relation hhead
      rw [textChunks_relationTarget]
      have hplaceholder : Operand PatternMark 1 [chars ['_']] :=
        Operand.single QueryText.body_placeholder.isChunk fun m _ =>
          QueryText.not_mark_of_solid QueryText.body_placeholder.toSolid m
      exact hplaceholder.between ((ih.slot QueryText.not_mark_group 5).weaken (show 1 ≤ 5 by decide)) hmark
        hmark.isChunk hmark.not_weaker
  | @relationMatch parent targets _ hne hheads _ _ ihparent ih =>
      obtain ⟨t, ht, rest, htargets⟩ := exists_targets hne
      have hparent := (ihparent.slot QueryText.not_mark_group 5).weaken (show 1 ≤ 5 by decide)
      rw [textChunks_relationMatch]
      refine (hparent.append (operand_targets hne hheads ih)).shape ?_ ?_
      · exact fun _ => ⟨headChunk t.1, by simp [htargets, targetChunk], .relation (hheads t ht)⟩
      · have hlength := List.length_pos_iff.2 hparent.ne_nil
        rw [List.length_append, htargets, targetChunk, List.cons_append, List.length_cons]
        omega
  | @rootRelations targets hne hheads _ ih =>
      obtain ⟨t, ht, rest, htargets⟩ := exists_targets hne
      rw [textChunks_rootRelations]
      refine (operand_targets hne hheads ih).shape ?_ ?_
      · exact fun _ => ⟨headChunk t.1, by simp [htargets, targetChunk], .relation (hheads t ht)⟩
      · have hlength : 0 < (slot 5 t.2.textLevel t.2.textChunks).length :=
          List.length_pos_iff.2 ((ih t ht).slot QueryText.not_mark_group 5).ne_nil
        rw [htargets, targetChunk, List.cons_append, List.length_cons, List.length_append]
        omega
  | brackets h => exact (LegibleAs.brackets h).shape_single (by decide)
  | word ht hlayer hdistinct => exact (LegibleAs.word ht hlayer hdistinct).shape_single (by decide)
  | anyToken => exact LegibleAs.anyToken.shape_single (by decide)
  | anyTokens honce => exact (LegibleAs.anyTokens honce).shape_single (by decide)
  | tags h hcapture => exact (LegibleAs.tags h hcapture).shape_single (by decide)
  | capturedTags h hcapture hname => exact (LegibleAs.capturedTags h hcapture hname).shape_single (by decide)
  | defaultValue => exact LegibleAs.defaultValue.shape_single (by decide)
  | not hbrackets h => exact (LegibleAs.not hbrackets h).shape_single (by decide)
  | repeated honce hany h => exact (LegibleAs.repeated honce hany h).shape_single (by decide)
  | capture hname htag h => exact (LegibleAs.capture hname htag h).shape_single (by decide)
  | call hname hshown h => exact (LegibleAs.call hname hshown h).shape_single (by decide)

private theorem LegibleAs.length_sequence (h : LegibleAs (.joined .sequence) p) : 2 ≤ p.textChunks.length := by
  cases h with
  | join hbrackets htwo h =>
      rw [textChunks_join hbrackets]
      refine Nat.le_trans (by simpa using htwo) (QueryText.length_le_intercalate ?_)
      simp only [List.forall_mem_map]
      exact fun p hp => ((h p hp).shape.slot QueryText.not_mark_group _).ne_nil

private theorem LegibleAs.five_le (h : LegibleAs kind p) {c : Chunk} (hchunks : p.textChunks = [c])
    (hlevel : 4 ≤ kind.level.rank) : 5 ≤ kind.level.rank := by
  refine Nat.lt_of_le_of_ne hlevel fun hrank => ?_
  have hsequence : (TextKind.joined .sequence).level.rank = kind.level.rank := hrank
  obtain rfl := TextKind.eq_of_level (by decide) hsequence
  have hlength := h.length_sequence
  rw [hchunks] at hlength
  simp at hlength

theorem LegibleAs.chunkOf_of_single (h : LegibleAs kind p) {c : Chunk} (hchunks : p.textChunks = [c])
    (hmark : ∀ n, ¬PatternMark n c) : ChunkOf kind c := by
  have hlevel : 4 ≤ kind.level.rank := by
    refine Nat.le_of_not_lt fun hlt => ?_
    obtain ⟨d, hd, hmarked⟩ := h.shape.marked hlt
    rw [hchunks, List.mem_singleton] at hd
    exact hmark _ (hd ▸ hmarked)
  obtain ⟨d, hd, hc⟩ := h.chunkOf (h.five_le hchunks hlevel)
  obtain rfl : c = d := (List.cons.inj (hchunks.symm.trans hd)).1
  exact hc

private theorem LegibleAs.kind_eq_of_single {kind' : TextKind} {q : Pattern} (hp : LegibleAs kind p)
    (hq : LegibleAs kind' q) (h : p.textChunks = q.textChunks) (hlevel : 5 ≤ kind.level.rank) : kind = kind' := by
  obtain ⟨c, hchunks, hc⟩ := hp.chunkOf hlevel
  have hlevels := hp.shape.level_eq (h ▸ hq.shape)
  obtain ⟨c', hchunks', hc'⟩ := hq.chunkOf (hq.five_le (h.symm.trans hchunks) (by omega))
  obtain rfl : c = c' := (List.cons.inj (hchunks.symm.trans (h.trans hchunks'))).1
  exact hc.kindOf.symm.trans hc'.kindOf

theorem LegibleAs.kind_eq {kind' : TextKind} {q : Pattern} (hp : LegibleAs kind p) (hq : LegibleAs kind' q)
    (h : p.textChunks = q.textChunks) : kind = kind' := by
  by_cases hlevel : 5 ≤ kind.level.rank
  · exact hp.kind_eq_of_single hq h hlevel
  · by_cases hlevel' : 5 ≤ kind'.level.rank
    · exact (hq.kind_eq_of_single hp h.symm hlevel').symm
    · have hlevels := hp.shape.level_eq (h ▸ hq.shape)
      exact TextKind.eq_of_level (by omega) (by omega)

end Pattern

end CorpusSearch
