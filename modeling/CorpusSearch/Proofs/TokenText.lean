import CorpusSearch.Pattern.QueryText
import CorpusSearch.Proofs.Result
import CorpusSearch.Proofs.TextPieces

/-!
The text of tests of single tokens, alone and within token brackets, can be read in one way only. A literal value is
written as the expression that matches it, and a sensitivity as a flag, so expressions that are literal values or that
start with a flag look like something else. Main statement: bracket queries whose tests show what they are have the
same chunks only if they are equal.
-/

set_option autoImplicit false

namespace CorpusSearch

open QueryText (TextItem Chunk Reads Shape Operand IsChunk IsName chars row slot)

/-! ### Escapes and flags -/

namespace Text

private theorem escapeChars_injective {text text' : List Char}
    (h : (text.flatMap fun c => if metaCharacters.contains c then ['\\', c] else [c]) =
      text'.flatMap fun c => if metaCharacters.contains c then ['\\', c] else [c]) : text = text' := by
  have hbackslash : metaCharacters.contains '\\' = true := by decide
  induction text generalizing text' with
  | nil =>
      cases text' with
      | nil => rfl
      | cons d text' =>
          rw [List.flatMap_cons] at h
          split at h <;> simp at h
  | cons c text ih =>
      cases text' with
      | nil =>
          rw [List.flatMap_cons] at h
          split at h <;> simp at h
      | cons d text' =>
          rw [List.flatMap_cons, List.flatMap_cons] at h
          split at h <;> split at h
          · obtain ⟨rfl, hrest⟩ := List.cons.inj (List.cons.inj h).2
            rw [ih hrest]
          · rename_i hd
            obtain ⟨rfl, -⟩ := List.cons.inj h
            exact absurd hbackslash hd
          · rename_i hc _
            obtain ⟨rfl, -⟩ := List.cons.inj h
            exact absurd hbackslash hc
          · obtain ⟨rfl, hrest⟩ := List.cons.inj h
            rw [ih hrest]

private theorem escape_injective {text text' : String} (h : escape text = escape text') : text = text' := by
  rw [escape, escape, String.ofList_inj] at h
  exact String.toList_inj.1 (escapeChars_injective h)

theorem head_escape (text : String) : (escape text).toList.head? ≠ some '(' := by
  rw [escape, String.toList_ofList]
  cases text.toList with
  | nil => simp
  | cons c rest =>
      rw [List.flatMap_cons]
      split
      · simp
      · rename_i hc
        have hparen : metaCharacters.contains '(' = true := by decide
        simp only [List.cons_append, List.head?_cons, ne_eq, Option.some.injEq]
        rintro rfl
        exact hc hparen

end Text

def Sensitivity.flag : Option Sensitivity → String
  | some .sensitive => "(?-i)"
  | some .insensitive => "(?i)"
  | _ => ""

private theorem Sensitivity.flags_cases {s : Option Sensitivity} (h : Result.Succeeds (Sensitivity.flags s)) :
    s = none ∨ s = some .sensitive ∨ s = some .insensitive := by
  obtain ⟨text, htext⟩ := h
  unfold Sensitivity.flags at htext
  split at htext
  · exact .inl rfl
  · exact .inr (.inl rfl)
  · exact .inr (.inr rfl)
  · cases htext

private theorem Sensitivity.flags_eq {s : Option Sensitivity} (h : Result.Succeeds (Sensitivity.flags s)) :
    Sensitivity.flags s = .ok (Sensitivity.flag s) := by
  rcases Sensitivity.flags_cases h with rfl | rfl | rfl <;> rfl

/-- Whether an expression starts with a flag that stands for a sensitivity. -/
def Text.IsFlagged (expression : String) : Prop :=
  "(?-i)".toList <+: expression.toList ∨ "(?i)".toList <+: expression.toList

private theorem Text.not_isFlagged_escape (text : String) : ¬Text.IsFlagged (Text.escape text) := by
  have hhead := Text.head_escape text
  rintro (⟨rest, hrest⟩ | ⟨rest, hrest⟩)
  · rw [← hrest] at hhead
    exact hhead rfl
  · rw [← hrest] at hhead
    exact hhead rfl

private theorem Sensitivity.flag_append_inj {s s' : Option Sensitivity} {value value' : String}
    (hs : Result.Succeeds (Sensitivity.flags s)) (hs' : Result.Succeeds (Sensitivity.flags s'))
    (hvalue : ¬Text.IsFlagged value) (hvalue' : ¬Text.IsFlagged value')
    (h : Sensitivity.flag s ++ value = Sensitivity.flag s' ++ value') : s = s' ∧ value = value' := by
  have htext := congrArg String.toList h
  rw [String.toList_append, String.toList_append] at htext
  rcases Sensitivity.flags_cases hs with rfl | rfl | rfl <;>
    rcases Sensitivity.flags_cases hs' with rfl | rfl | rfl
  · exact ⟨rfl, String.toList_inj.1 htext⟩
  · exact absurd (.inl ⟨_, htext.symm⟩) hvalue
  · exact absurd (.inr ⟨_, htext.symm⟩) hvalue
  · exact absurd (.inl ⟨_, htext⟩) hvalue'
  · exact ⟨rfl, String.toList_inj.1 (List.append_cancel_left htext)⟩
  · simp [Sensitivity.flag] at htext
  · exact absurd (.inr ⟨_, htext⟩) hvalue'
  · simp [Sensitivity.flag] at htext
  · exact ⟨rfl, String.toList_inj.1 (List.append_cancel_left htext)⟩

/-! ### Tests -/

theorem TokenTest.eq_of_parts {t t' : TokenTest} (hvalue : t.value = t'.value) (hlayer : t.layer = t'.layer)
    (hsensitivity : t.sensitivity = t'.sensitivity) : t = t' := by
  cases t
  cases t'
  simp_all

def TokenTest.expression (test : TokenTest) : String := Sensitivity.flag test.sensitivity ++ test.value

namespace Pattern

/-- Patterns that test a token, by the test of an expression that is written; each shows what it is. -/
inductive Tests : Pattern → TokenTest → Prop
  | literal {test : TokenTest} (hflags : Result.Succeeds (Sensitivity.flags test.sensitivity)) :
      Tests (.term test) test.escaped
  | expression {test : TokenTest} (hflags : Result.Succeeds (Sensitivity.flags test.sensitivity))
      (hliteral : ∀ text, Text.escape text ≠ test.value) (hflagged : ¬Text.IsFlagged test.value) :
      Tests (.regex test) test

variable {p q : Pattern} {t t' : TokenTest}

theorem Tests.flags (h : Tests p t) : Result.Succeeds (Sensitivity.flags t.sensitivity) := by
  cases h with
  | literal hflags => exact hflags
  | expression hflags => exact hflags

private theorem Tests.not_isFlagged (h : Tests p t) : ¬Text.IsFlagged t.value := by
  cases h with
  | literal => exact Text.not_isFlagged_escape _
  | expression _ _ hflagged => exact hflagged

theorem Tests.flagged (h : Tests p t) : t.flagged = .ok t.expression := by
  rw [TokenTest.flagged, Sensitivity.flags_eq h.flags]
  rfl

theorem Tests.eq_of_expression (h : Tests p t) (h' : Tests q t') (hlayer : t.layer = t'.layer)
    (hexpression : t.expression = t'.expression) : p = q := by
  obtain ⟨hsensitivity, hvalue⟩ :=
    Sensitivity.flag_append_inj h.flags h'.flags h.not_isFlagged h'.not_isFlagged hexpression
  cases h with
  | literal =>
      cases h' with
      | literal => rw [TokenTest.eq_of_parts (Text.escape_injective hvalue) hlayer hsensitivity]
      | expression _ hliteral => exact absurd hvalue (hliteral _)
  | expression _ hliteral =>
      cases h' with
      | literal => exact absurd hvalue.symm (hliteral _)
      | expression => rw [TokenTest.eq_of_parts hvalue hlayer hsensitivity]

end Pattern

/-! ### Token brackets -/

def Connective.separators : Connective → List Chunk
  | .and => [chars ['&']]
  | .or => [chars ['|']]
  | .sequence => []

theorem Connective.isChunk (connective : Connective) : ∀ c ∈ connective.separators, IsChunk c := by
  cases connective with
  | and | or => simpa [Connective.separators] using IsChunk.chars (by simp) (by simp) (by simp)
  | sequence => nofun

theorem Connective.reads_mark (connective : Connective) :
    Reads false (QueryText.connectiveMark connective).toList (QueryText.gap connective.separators) := by
  cases connective with
  | and => exact @Reads.chars false " & ".toList (by decide)
  | or => exact @Reads.chars false " | ".toList (by decide)
  | sequence => exact @Reads.chars false " ".toList (by decide)

private theorem Connective.rank_lt {connective : Connective} (h : connective ≠ .sequence) :
    (QueryText.connectiveLevel connective).rank < 4 := by
  cases connective with
  | and => decide
  | or => decide
  | sequence => contradiction

private theorem Connective.eq_of_rank {connective connective' : Connective}
    (h : (QueryText.connectiveLevel connective).rank = (QueryText.connectiveLevel connective').rank) :
    connective = connective' := by
  cases connective <;> cases connective' <;> first | rfl | cases h

namespace Pattern

def bracketLevel : Pattern → QueryText.Level
  | .join connective _ => QueryText.connectiveLevel connective
  | .modify .not (.term _) | .modify .not (.regex _) => .atom
  | .modify .not _ => .prefixed
  | _ => .atom

def testChunk (operator : List Char) (t : TokenTest) : Chunk :=
  chars ((t.layer.getD "").toList ++ operator) ++ [.quoted t.expression.toList]

mutual

def bracketChunks : Pattern → List Chunk
  | .term test => [testChunk ['='] test.escaped]
  | .regex test => [testChunk ['='] test]
  | .join connective clauses =>
    connective.separators.intercalate (bracketOperands (QueryText.connectiveLevel connective).above clauses)
  | .modify .not (.term test) => [testChunk ['!', '='] test.escaped]
  | .modify .not (.regex test) => [testChunk ['!', '='] test]
  | .modify .not clause => [.char '!' :: row (slot 6 clause.bracketLevel.rank (bracketChunks clause))]
  | _ => []

def bracketOperands (least : Nat) : List Pattern → List (List Chunk)
  | [] => []
  | p :: ps => slot least p.bracketLevel.rank (bracketChunks p) :: bracketOperands least ps

end

private theorem bracketOperands_eq_map (least : Nat) (ps : List Pattern) :
    bracketOperands least ps = ps.map fun p => slot least p.bracketLevel.rank p.bracketChunks := by
  induction ps with
  | nil => rfl
  | cons p ps ih => rw [bracketOperands, ih, List.map_cons]

/-- A test within brackets, or its negation, which has an operator of its own. -/
inductive BracketTest : Pattern → Bool → TokenTest → Prop
  | plain {p : Pattern} {t : TokenTest} (h : Tests p t) : BracketTest p false t
  | negated {p : Pattern} {t : TokenTest} (h : Tests p t) : BracketTest (.modify .not p) true t

def testOperator (negated : Bool) : List Char := if negated then ['!', '='] else ['=']

/-- Bracket queries that can be written without loss: all layers are names, all tests show what they are, and joins
have two clauses or more. -/
inductive InBrackets : Pattern → Prop
  | test {p : Pattern} {negated : Bool} {t : TokenTest} {layer : String} (ht : BracketTest p negated t)
      (hlayer : t.layer = some layer) (hname : IsName layer) : InBrackets p
  | join {connective : Connective} {clauses : List Pattern} (hconnective : connective ≠ .sequence)
      (htwo : 2 ≤ clauses.length) (h : ∀ p ∈ clauses, InBrackets p) : InBrackets (.join connective clauses)
  | not {clause : Pattern} (htest : ∀ t, ¬Tests clause t) (h : InBrackets clause) : InBrackets (.modify .not clause)

theorem BracketTest.chunks {p : Pattern} {negated : Bool} {t : TokenTest} (h : BracketTest p negated t) :
    p.bracketLevel = .atom ∧ p.bracketChunks = [testChunk (testOperator negated) t] := by
  cases h with
  | plain h =>
      cases h with
      | literal => exact ⟨rfl, by rw [bracketChunks]; rfl⟩
      | expression => exact ⟨rfl, by rw [bracketChunks]; rfl⟩
  | negated h =>
      cases h with
      | literal => exact ⟨rfl, by rw [bracketChunks]; rfl⟩
      | expression => exact ⟨rfl, by rw [bracketChunks]; rfl⟩

theorem BracketTest.eq_of_expression {p q : Pattern} {negated : Bool} {t t' : TokenTest}
    (h : BracketTest p negated t) (h' : BracketTest q negated t') (hlayer : t.layer = t'.layer)
    (hexpression : t.expression = t'.expression) : p = q := by
  cases h with
  | plain h =>
      cases h' with
      | plain h' => exact h.eq_of_expression h' hlayer hexpression
  | negated h =>
      cases h' with
      | negated h' => rw [h.eq_of_expression h' hlayer hexpression]

private theorem InBrackets.bracketChunks_not {clause : Pattern} (htest : ∀ t, ¬Tests clause t) (h : InBrackets clause) :
    (Pattern.modify .not clause).bracketLevel = .prefixed ∧
      (Pattern.modify .not clause).bracketChunks =
        [.char '!' :: row (slot 6 clause.bracketLevel.rank clause.bracketChunks)] := by
  cases h with
  | test ht =>
      cases ht with
      | plain ht => exact absurd ht (htest _)
      | negated => exact ⟨rfl, by rw [Pattern.bracketChunks] <;> simp⟩
  | join => exact ⟨rfl, by simp only [Pattern.bracketChunks]⟩
  | not => exact ⟨rfl, by rw [Pattern.bracketChunks] <;> simp⟩

/-! ### Shapes -/

def BracketMarks (n : Nat) (c : Chunk) : Prop := n = 2 ∧ c = chars ['|'] ∨ n = 3 ∧ c = chars ['&']

private theorem not_bracketMarks_cons {n : Nat} {item : TextItem} {c : Chunk} (h : ∀ d ∈ ['|', '&'], item ≠ .char d) :
    ¬BracketMarks n (item :: c) := by
  rintro (⟨-, heq⟩ | ⟨-, heq⟩)
  · exact h '|' (by simp) (List.cons.inj heq).1
  · exact h '&' (by simp) (List.cons.inj heq).1

private theorem not_bracketMarks_group (n : Nat) (content : List TextItem) : ¬BracketMarks n [.group .round content] :=
  not_bracketMarks_cons (by simp)

private theorem testChunk_eq {t : TokenTest} {layer : String} (hlayer : t.layer = some layer) (operator : List Char) :
    testChunk operator t = chars layer.toList ++ (chars operator ++ [.quoted t.expression.toList]) := by
  rw [testChunk, hlayer, Option.getD_some, QueryText.chars_append, List.append_assoc]

private theorem shape_testChunk {t : TokenTest} {layer : String} (hlayer : t.layer = some layer) (hname : IsName layer)
    {operator : List Char} (hoperator : ' ' ∉ operator) : Shape BracketMarks 7 [testChunk operator t] := by
  obtain ⟨d, rest, htext, hd⟩ := hname.exists_cons
  rw [testChunk_eq hlayer]
  refine Shape.single (by decide) ?_ ?_ (by simp [chars, htext])
  · have hoperator' : .char ' ' ∉ chars operator := by simpa [chars] using hoperator
    exact ((IsChunk.item (by simp)).append_left hoperator').append_left (hname.notMem_chars (by decide))
  · intro n
    rw [htext]
    refine not_bracketMarks_cons fun e he heq => ?_
    obtain rfl := TextItem.char.inj heq
    rw [QueryText.isNameChar_eq_false_of_mem] at hd
    · cases hd
    · revert he
      have hall : ∀ e ∈ ['|', '&'], e ∈ QueryText.punctuation := by decide
      exact hall d

/-- What binds more strongly than a sequence is a single chunk. -/
theorem InBrackets.single {p : Pattern} (hp : InBrackets p) (h : 4 ≤ p.bracketLevel.rank) :
    ∃ c, p.bracketChunks = [c] := by
  cases hp with
  | test ht => exact ⟨_, ht.chunks.2⟩
  | @join connective =>
      cases connective with
      | and => exact absurd h (by simp [bracketLevel, QueryText.connectiveLevel, QueryText.Level.rank])
      | or => exact absurd h (by simp [bracketLevel, QueryText.connectiveLevel, QueryText.Level.rank])
      | sequence => contradiction
  | not htest hclause => exact ⟨_, (hclause.bracketChunks_not htest).2⟩

theorem InBrackets.slot_single {p : Pattern} (hp : InBrackets p) :
    ∃ c, slot 6 p.bracketLevel.rank p.bracketChunks = [c] := by
  unfold slot
  split
  · exact ⟨_, rfl⟩
  · exact hp.single (by omega)

theorem InBrackets.shape {p : Pattern} (hp : InBrackets p) :
    Shape BracketMarks p.bracketLevel.rank p.bracketChunks := by
  induction hp with
  | @test _ negated _ _ ht hlayer hname =>
      rw [ht.chunks.1, ht.chunks.2]
      exact shape_testChunk hlayer hname (by cases negated <;> decide)
  | @join connective clauses hconnective htwo _ ih =>
      rw [bracketChunks, bracketOperands_eq_map]
      refine Operand.join ?_ (by simpa using htwo) ?_ ?_ ?_
      · simp only [List.forall_mem_map]
        intro p hp
        exact ((ih p hp).slot not_bracketMarks_group _).weaken (Nat.le_succ _)
      · exact connective.isChunk
      · cases connective <;> simp [Connective.separators, bracketLevel, QueryText.connectiveLevel,
          QueryText.Level.rank, BracketMarks, chars] <;> omega
      · cases connective <;> simp_all [Connective.separators, bracketLevel, QueryText.connectiveLevel,
          QueryText.Level.rank, BracketMarks]
  | not htest hclause ih =>
      obtain ⟨c, hc⟩ := hclause.slot_single
      have hchunk := (hc ▸ ih.slot not_bracketMarks_group 6).isChunk c List.mem_cons_self
      rw [(hclause.bracketChunks_not htest).1, (hclause.bracketChunks_not htest).2, hc, QueryText.row_singleton]
      refine Shape.single (show 4 ≤ 5 by decide) (hchunk.cons (by simp)) ?_ (by simp)
      intro n
      exact not_bracketMarks_cons (by simp)

/-! ### Reading -/

private theorem testChunk_inj {t t' : TokenTest} {layer layer' : String} {operator : List Char}
    (hlayer : t.layer = some layer) (hlayer' : t'.layer = some layer')
    (h : testChunk operator t = testChunk operator t') : t.layer = t'.layer ∧ t.expression = t'.expression := by
  obtain ⟨htext, hquoted⟩ := List.append_inj' h rfl
  have hlayers := List.append_cancel_right (QueryText.chars_injective htext)
  rw [hlayer, hlayer', Option.getD_some, Option.getD_some] at hlayers
  rw [hlayer, hlayer', String.toList_inj.1 hlayers]
  exact ⟨rfl, String.toList_inj.1 (TextItem.quoted.inj (List.cons.inj hquoted).1)⟩

private theorem firstMark_testChunk {t : TokenTest} {layer : String} (hlayer : t.layer = some layer)
    (hname : IsName layer) (negated : Bool) :
    QueryText.firstMark (testChunk (testOperator negated) t) = some (.char (if negated then '!' else '=')) := by
  rw [testChunk_eq hlayer, QueryText.firstMark_append hname.2]
  cases negated with
  | false => exact QueryText.firstMark_punctuation (by decide) _
  | true => exact QueryText.firstMark_punctuation (by decide) _

private theorem InBrackets.join_inj {connective : Connective} {ps qs : List Pattern}
    (hconnective : connective ≠ .sequence)
    (hptwo : 2 ≤ ps.length) (hqtwo : 2 ≤ qs.length) (hp : ∀ p ∈ ps, InBrackets p) (hq : ∀ q ∈ qs, InBrackets q)
    (ih : ∀ p ∈ ps, ∀ {q : Pattern}, InBrackets q → p.bracketChunks = q.bracketChunks → p = q)
    (h : (Pattern.join connective ps).bracketChunks = (Pattern.join connective qs).bracketChunks) : ps = qs := by
  obtain ⟨mark, hmark, hmarks⟩ : ∃ mark, connective.separators = [mark] ∧
      BracketMarks (QueryText.connectiveLevel connective).rank mark := by
    cases connective with
    | and => exact ⟨_, rfl, .inr ⟨rfl, rfl⟩⟩
    | or => exact ⟨_, rfl, .inl ⟨rfl, rfl⟩⟩
    | sequence => contradiction
  rw [bracketChunks, bracketChunks, bracketOperands_eq_map, bracketOperands_eq_map, hmark] at h
  exact QueryText.intercalate_slots_inj hmarks (Nat.lt_succ_self _) not_bracketMarks_group
    (fun p hp' => (hp p hp').shape) (fun q hq' => (hq q hq').shape) (by rintro rfl; simp at hptwo)
    (by rintro rfl; simp at hqtwo) (fun p hp' q hq' => ih p hp' (hq q hq')) h

private theorem testChunk_ne_negation {t : TokenTest} {layer : String} (hlayer : t.layer = some layer)
    (hname : IsName layer) (operator : List Char) (c : Chunk) : testChunk operator t ≠ .char '!' :: c := by
  rw [testChunk_eq hlayer]
  exact hname.append_ne_cons (by decide) _ _

theorem InBrackets.eq_of_chunks {p q : Pattern} (hp : InBrackets p) (hq : InBrackets q)
    (h : p.bracketChunks = q.bracketChunks) : p = q := by
  induction hp generalizing q with
  | @test p negated t layer ht hlayer hname =>
      have hlevel := (InBrackets.shape (.test ht hlayer hname)).lt_iff (h ▸ hq.shape)
      rw [ht.chunks.1] at hlevel
      rw [ht.chunks.2] at h
      cases hq with
      | @test _ negated' t' layer' ht' hlayer' hname' =>
          rw [ht'.chunks.2] at h
          have hsign := congrArg QueryText.firstMark (List.cons.inj h).1
          rw [firstMark_testChunk hlayer hname, firstMark_testChunk hlayer' hname'] at hsign
          obtain rfl : negated = negated' := by
            cases negated <;> cases negated' <;> first | rfl | simp at hsign
          obtain ⟨hlayers, hexpression⟩ := testChunk_inj hlayer hlayer' (List.cons.inj h).1
          exact ht.eq_of_expression ht' hlayers hexpression
      | @join connective _ hconnective =>
          exact absurd (hlevel.2 (Connective.rank_lt hconnective)) (by decide)
      | not htest hclause =>
          rw [(hclause.bracketChunks_not htest).2] at h
          exact absurd (List.cons.inj h).1 (testChunk_ne_negation hlayer hname _ _)
  | @join connective clauses hconnective htwo hclauses ih =>
      have hshape := InBrackets.shape (.join hconnective htwo hclauses)
      have hlevel := hshape.lt_iff (h ▸ hq.shape)
      have hlt := Connective.rank_lt hconnective
      cases hq with
      | test ht' =>
          rw [ht'.chunks.1] at hlevel
          exact absurd (hlevel.1 hlt) (by decide)
      | @join connective' clauses' hconnective' htwo' hclauses' =>
          obtain rfl : connective = connective' := by
            have hshape' := InBrackets.shape (.join hconnective' htwo' hclauses')
            rcases hshape.level_eq (h ▸ hshape') with heq | ⟨hge, -⟩
            · exact Connective.eq_of_rank heq
            · exact absurd hlt (Nat.not_lt.2 hge)
          rw [InBrackets.join_inj hconnective htwo htwo' hclauses hclauses' (fun p hp _ => ih p hp) h]
      | not htest hclause =>
          rw [(hclause.bracketChunks_not htest).1] at hlevel
          exact absurd (hlevel.1 hlt) (by decide)
  | @not clause htest hclause ih =>
      have hlevel := (InBrackets.shape (.not htest hclause)).lt_iff (h ▸ hq.shape)
      rw [(hclause.bracketChunks_not htest).1] at hlevel
      rw [(hclause.bracketChunks_not htest).2] at h
      cases hq with
      | test ht' hlayer' hname' =>
          rw [ht'.chunks.2] at h
          exact absurd (List.cons.inj h).1.symm (testChunk_ne_negation hlayer' hname' _ _)
      | @join connective _ hconnective =>
          exact absurd (hlevel.2 (Connective.rank_lt hconnective)) (by decide)
      | @not clause' htest' hclause' =>
          obtain ⟨c, hc⟩ := hclause.slot_single
          obtain ⟨d, hd⟩ := hclause'.slot_single
          rw [(hclause'.bracketChunks_not htest').2, hc, hd, QueryText.row_singleton, QueryText.row_singleton] at h
          have hslot : slot 6 clause.bracketLevel.rank clause.bracketChunks =
              slot 6 clause'.bracketLevel.rank clause'.bracketChunks := by
            rw [hc, hd, (List.cons.inj (List.cons.inj h).1).2]
          rw [ih hclause' (hclause.shape.slot_injective hclause'.shape hslot)]

/-! ### Writing -/

private theorem bracketTest_eq {p : Pattern} {t : TokenTest} (ht : Tests p t) {layer : String}
    (hlayer : t.layer = some layer)
    (hname : IsName layer) (operator : String) (hoperator : ∀ c ∈ operator.toList, QueryText.IsOrdinary c) :
    ∃ text, QueryText.bracketTest operator t = .ok ⟨text, QueryText.Level.atom.rank⟩ ∧
      Reads false text.toList (row [testChunk operator.toList t]) := by
  refine ⟨_, by rw [QueryText.bracketTest, ht.flagged]; rfl, ?_⟩
  have hlayerText : Reads false layer.toList (chars layer.toList) := Reads.chars hname.isOrdinary
  have hreads := (hlayerText.append (Reads.chars hoperator)).append (Reads.quoted t.expression)
  rw [QueryText.row_singleton, testChunk_eq hlayer, hlayer, ← List.append_assoc]
  simpa [toString, String.toList_append] using hreads

theorem BracketTest.bracketPart {p : Pattern} {negated : Bool} {t : TokenTest} (ht : BracketTest p negated t)
    {layer : String} (hlayer : t.layer = some layer) (hname : IsName layer) :
    ∃ text, QueryText.bracketPart p = .ok ⟨text, QueryText.Level.atom.rank⟩ ∧
      Reads false text.toList (row [testChunk (testOperator negated) t]) := by
  cases ht with
  | plain ht =>
      obtain ⟨text, htext, hread⟩ := bracketTest_eq ht hlayer hname "=" (by decide)
      refine ⟨text, ?_, hread⟩
      cases ht with
      | literal => rw [QueryText.bracketPart, htext]
      | expression => rw [QueryText.bracketPart, htext]
  | negated ht =>
      obtain ⟨text, htext, hread⟩ := bracketTest_eq ht hlayer hname "!=" (by decide)
      refine ⟨text, ?_, hread⟩
      cases ht with
      | literal => rw [QueryText.bracketPart, htext]
      | expression => rw [QueryText.bracketPart, htext]

private theorem InBrackets.bracketPart_not {clause : Pattern} (htest : ∀ t, ¬Tests clause t) (h : InBrackets clause)
    {part : QueryText} (hpart : QueryText.bracketPart clause = .ok part) :
    QueryText.bracketPart (.modify .not clause) = .ok (QueryText.piece .prefixed s!"!{part.inSlot 6}") := by
  cases h with
  | test ht =>
      cases ht with
      | plain ht => exact absurd ht (htest _)
      | negated =>
          rw [QueryText.bracketPart, hpart]
          · rfl
          · simp
          · simp
  | join =>
      simp only [QueryText.bracketPart] at hpart ⊢
      rw [hpart]
      rfl
  | not =>
      rw [QueryText.bracketPart, hpart]
      · rfl
      · simp
      · simp

private theorem bracketParts_eq {clauses : List Pattern} (least : Nat)
    (h : ∀ p ∈ clauses, ∃ text, QueryText.bracketPart p = .ok ⟨text, p.bracketLevel.rank⟩ ∧
      Reads false text.toList (row p.bracketChunks)) :
    ∃ texts, QueryText.bracketParts least clauses = .ok texts ∧
      List.Forall₂ (fun text o => Reads false text.toList (row o)) texts (bracketOperands least clauses) := by
  induction clauses with
  | nil => exact ⟨[], rfl, .nil⟩
  | cons p clauses ih =>
      obtain ⟨text, hwrite, hread⟩ := h p List.mem_cons_self
      obtain ⟨texts, hwrites, hreads⟩ := ih fun p hp => h p (List.mem_cons_of_mem _ hp)
      refine ⟨_, by rw [QueryText.bracketParts, hwrite, Result.ok_bind, hwrites]; rfl, ?_⟩
      exact .cons (Reads.inSlot (w := ⟨text, p.bracketLevel.rank⟩) hread least) hreads

/-- Such bracket queries can be written, and the text is read as their chunks. -/
theorem InBrackets.bracketPart {p : Pattern} (hp : InBrackets p) :
    ∃ text, QueryText.bracketPart p = .ok ⟨text, p.bracketLevel.rank⟩ ∧
      Reads false text.toList (row p.bracketChunks) := by
  induction hp with
  | test ht hlayer hname =>
      rw [ht.chunks.1, ht.chunks.2]
      exact ht.bracketPart hlayer hname
  | @join connective clauses hconnective htwo hclauses ih =>
      obtain ⟨texts, hwrites, hreads⟩ := bracketParts_eq (QueryText.connectiveLevel connective).above ih
      refine ⟨(QueryText.connectiveMark connective).intercalate texts, ?_, ?_⟩
      · cases connective with
        | and =>
            have hclauses : QueryText.bracketParts QueryText.Level.and.above clauses = .ok texts := hwrites
            rw [QueryText.bracketPart, hclauses]
            rfl
        | or =>
            have hclauses : QueryText.bracketParts QueryText.Level.or.above clauses = .ok texts := hwrites
            rw [QueryText.bracketPart, hclauses]
            rfl
        | sequence => contradiction
      · rw [bracketChunks]
        refine Reads.join connective.reads_mark hreads ?_
        rw [bracketOperands_eq_map]
        simpa using fun p hp => ((hclauses p hp).shape.slot not_bracketMarks_group _).ne_nil
  | @not clause htest hclause ih =>
      obtain ⟨text, hwrite, hread⟩ := ih
      rw [(hclause.bracketChunks_not htest).1, (hclause.bracketChunks_not htest).2]
      refine ⟨_, hclause.bracketPart_not htest hwrite, ?_⟩
      have hmark : Reads false ['!'] [.char '!'] := Reads.ordinary (by decide)
      have hreads := hmark.append (Reads.inSlot (w := ⟨text, clause.bracketLevel.rank⟩) hread 6)
      rw [QueryText.row_singleton]
      simpa [toString, String.toList_append] using hreads

end Pattern

end CorpusSearch
