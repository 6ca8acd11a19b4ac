import CorpusSearch.Pattern.QueryText
import CorpusSearch.Proofs.PatternInvariant
import CorpusSearch.Proofs.Result

/-!
Why a pattern has no query text. Each part of a pattern lists what the query language has no words for in it; each
step of writing goes on if the parts it writes list nothing, and otherwise stops at something that they list. Main
statement: a pattern is refused exactly if one of its nodes lists something, and for no other reason.
-/

set_option autoImplicit false

namespace CorpusSearch

/-- Whether a result is only missing because the query language has no words for it. -/
def Result.OnlyUnsupported {α : Type} (x : Result α) : Prop :=
  ∀ e, x = .error e → ∃ fault, e = .unsupported fault

/-- A result that is missing for one of the listed faults, and only if faults are listed. -/
inductive Result.Reports {α : Type} : Result α → List WritingFault → Prop
  | ok (a : α) : Reports (.ok a) []
  | unsupported {fault : WritingFault} {faults : List WritingFault} (h : fault ∈ faults) :
      Reports (QueryText.unsupported fault) faults

namespace Result.Reports

variable {α β : Type} {x : Result α} {faults more : List WritingFault}

theorem one (fault : WritingFault) : Reports (QueryText.unsupported fault : Result α) [fault] :=
  unsupported List.mem_cons_self

theorem map (h : x.Reports faults) (g : α → β) : Reports (x >>= fun a => pure (g a)) faults := by
  cases h with
  | ok a => exact ok (g a)
  | unsupported h => exact unsupported h

/-- Two steps report the faults of both, although the first one keeps the second from being taken. -/
theorem bind {f : α → Result β} (hx : x.Reports faults) (hf : ∀ a, (f a).Reports more) :
    (x >>= f).Reports (faults ++ more) := by
  cases hx with
  | ok a => exact hf a
  | unsupported h => exact unsupported (List.mem_append_left _ h)

private theorem of_mem_iff (h : x.Reports faults) (hmore : ∀ fault, fault ∈ more ↔ fault ∈ faults) :
    x.Reports more := by
  cases h with
  | ok a =>
      have hnone : more = [] := List.eq_nil_iff_forall_not_mem.2 fun fault => by simp [hmore]
      exact hnone ▸ ok a
  | unsupported h => exact unsupported ((hmore _).2 h)

private theorem swap (h : x.Reports (faults ++ more)) : x.Reports (more ++ faults) :=
  h.of_mem_iff fun _ => by simp only [List.mem_append, or_comm]

private theorem exists_error_iff (h : x.Reports faults) : (∃ e, x = .error e) ↔ ∃ fault, fault ∈ faults := by
  cases h with
  | ok a => simp
  | unsupported h => exact ⟨fun _ => ⟨_, h⟩, fun _ => ⟨_, rfl⟩⟩

private theorem exists_fault (h : x.Reports faults) {e : QueryError} (he : x = .error e) :
    ∃ fault ∈ faults, e = .unsupported fault := by
  cases h with
  | ok a => cases he
  | unsupported h =>
      cases he
      exact ⟨_, h, rfl⟩

private theorem onlyUnsupported (h : x.Reports faults) : x.OnlyUnsupported := by
  intro e he
  obtain ⟨fault, -, rfl⟩ := h.exists_fault he
  exact ⟨fault, rfl⟩

end Result.Reports

/-! ### What has no words -/

def TokenTest.faults (test : TokenTest) : List WritingFault :=
  match test.sensitivity with
  | none | some .sensitive | some .insensitive => []
  | some s => [.sensitivity s]

def TagPattern.faults (tag : TagPattern) : List WritingFault :=
  if tag.adjust = .trailingEdge ∧ tag.attributes.entries ≠ [] then [.trailingEdgeAttributes] else []

/-- The operator of a relation stands for one span mode, and it has no place for a source version. -/
def RelationHead.faults (head : RelationHead) : List WritingFault :=
  (if head.spanMode = QueryText.usualMode head.operator then [] else [.spanMode head.spanMode]) ++
    if head.operator.sourceVersion.isSome then [.sourceVersion] else []

def PositionTest.faults (test : PositionTest) : List WritingFault :=
  (if test.inverted ∨ test.adjustLeading ≠ 0 ∨ test.adjustTrailing ≠ 0 then [.adjustedPositionFilter] else []) ++
    match test.operation with
    | .within | .containing => []
    | operation => [.positionOperation operation]

def Filter.faults : Filter → List WritingFault
  | .implies a b | .or a b | .and a b | .compare a b _ _ | .equals a b _ => a.faults ++ b.faults
  | .not a => a.faults
  | .text _ | .tokenValue _ _ | .call _ _ => []
  | .sameTokens _ _ _ _ => [.sameTokens]
  | .tokenEquals _ _ _ _ => [.layerEquals]

def Modifier.faults (modifier : Modifier) : List WritingFault :=
  match modifier with
  | .not | .repeated _ _ | .expanded _ _ _ | .capture _ => []
  | .constrained filter => filter.faults
  | .edge _ | .filteredNGrams _ _ _ | .settings _ | .version _ => [.node modifier.kind]

/-! No part lists that it stands in token brackets: only what can be written there is put there. -/

section InBrackets

variable (kind : String)

private theorem TokenTest.inBrackets_notMem_faults (test : TokenTest) : .inBrackets kind ∉ test.faults := by
  unfold faults
  split <;> simp

private theorem TagPattern.inBrackets_notMem_faults (tag : TagPattern) : .inBrackets kind ∉ tag.faults := by
  unfold faults
  split <;> simp

private theorem RelationHead.inBrackets_notMem_faults (head : RelationHead) : .inBrackets kind ∉ head.faults := by
  unfold faults
  split <;> split <;> simp

private theorem PositionTest.inBrackets_notMem_faults (test : PositionTest) : .inBrackets kind ∉ test.faults := by
  unfold faults
  split <;> split <;> simp

private theorem Filter.inBrackets_notMem_faults (f : Filter) : .inBrackets kind ∉ f.faults := by
  induction f <;> simp_all [faults]

private theorem Modifier.inBrackets_notMem_faults (modifier : Modifier) : .inBrackets kind ∉ modifier.faults := by
  cases modifier with
  | constrained filter => exact filter.inBrackets_notMem_faults kind
  | _ => simp [faults]

end InBrackets

namespace Pattern

/-- What the query language has no words for in a node itself. -/
def ownFaults (p : Pattern) : List WritingFault :=
  match p with
  | term test | regex test => test.faults
  | anyToken _ _ | defaultValue | join _ _ | call _ _ => []
  | fixedSpan _ => [.node p.kind]
  | tags tag => tag.faults
  | modify modifier _ => modifier.faults
  | positionFilter test _ _ => test.faults
  | relationTarget head _ => head.faults
  | relationMatch _ targets => targets.flatMap (·.1.faults)
  | rootRelations targets => targets.flatMap (·.1.faults)

private theorem inBrackets_notMem_ownFaults (kind : String) (p : Pattern) : .inBrackets kind ∉ p.ownFaults := by
  cases p with
  | term test | regex test => exact test.inBrackets_notMem_faults kind
  | tags tag => exact tag.inBrackets_notMem_faults kind
  | modify modifier => exact modifier.inBrackets_notMem_faults kind
  | positionFilter test => exact test.inBrackets_notMem_faults kind
  | relationTarget head => exact head.inBrackets_notMem_faults kind
  | relationMatch _ targets | rootRelations targets =>
      simp only [ownFaults, List.mem_flatMap, not_exists, not_and]
      exact fun t _ => t.1.inBrackets_notMem_faults kind
  | _ => simp [ownFaults]

def faults (p : Pattern) : List WritingFault := p.walk.flatMap ownFaults

private theorem faults_eq (p : Pattern) : p.faults = p.ownFaults ++ p.children.flatMap faults := by
  rw [faults, walk_eq, List.flatMap_cons, List.flatMap_assoc]
  rfl

@[simp] theorem faults_term (test : TokenTest) : (term test).faults = test.faults := by
  rw [faults_eq, ownFaults, children, List.flatMap_nil, List.append_nil]

@[simp] theorem faults_regex (test : TokenTest) : (regex test).faults = test.faults := by
  rw [faults_eq, ownFaults, children, List.flatMap_nil, List.append_nil]

private theorem faults_join (connective : Connective) (clauses : List Pattern) :
    (join connective clauses).faults = clauses.flatMap faults := by
  rw [faults_eq, ownFaults, children, List.nil_append]

private theorem faults_modify (modifier : Modifier) (clause : Pattern) :
    (modify modifier clause).faults = modifier.faults ++ clause.faults := by
  rw [faults_eq, ownFaults, children, List.flatMap_singleton]

private theorem mem_targetFaults {fault : WritingFault} {targets : List (RelationHead × Pattern)} :
    fault ∈ (targets.flatMap fun t => t.1.faults ++ t.2.faults) ↔
      fault ∈ targets.flatMap (·.1.faults) ∨ fault ∈ (targets.map (·.2)).flatMap faults := by
  rw [List.flatMap_map]
  simp only [List.mem_flatMap, List.mem_append, and_or_left, exists_or]

end Pattern

namespace QueryText

open Result
open Pattern (faults_term faults_regex faults_join faults_modify mem_targetFaults)

/-! ### Nodes -/

private theorem reports_flagged (test : TokenTest) : test.flagged.Reports test.faults := by
  refine Reports.map ?_ _
  unfold Sensitivity.flags TokenTest.faults
  rcases test.sensitivity with _ | _ | _ | _ | _
  · exact .ok _
  · exact .ok _
  · exact .ok _
  · exact .one _
  · exact .one _

private theorem reports_bracketTest (operator : String) (test : TokenTest) :
    (bracketTest operator test).Reports test.faults :=
  (reports_flagged test).map _

private theorem reports_write (f : Filter) : f.write.Reports f.faults := by
  induction f with
  | implies a b iha ihb | or a b iha ihb | and a b iha ihb => exact iha.bind fun _ => ihb.map _
  | compare a b _ _ iha ihb | equals a b _ iha ihb => exact iha.bind fun _ => ihb.map _
  | not a ih => exact ih.map _
  | text | tokenValue | call => exact .ok _
  | sameTokens | tokenEquals => exact .one _

private theorem attributes_isEmpty (entries : List (String × AttributeValue)) :
    (String.join (entries.map fun e => attributeText e.1 e.2)).isEmpty = decide (entries = []) := by
  cases entries with
  | nil => rfl
  | cons e entries =>
      have hne : attributeText e.1 e.2 ≠ "" := by
        cases e.2 <;> simp [attributeText, ← String.toList_inj, toString, String.toList_append]
      simp [String.join_cons, hne]

private theorem reports_tags (tag : TagPattern) : (tags tag).Reports tag.faults := by
  unfold tags TagPattern.faults
  cases tag.adjust with
  | fullTag => cases tag.capture <;> exact .ok _
  | leadingEdge => cases tag.capture <;> exact .ok _
  | trailingEdge =>
      simp only [attributes_isEmpty, decide_eq_true_eq, true_and]
      by_cases hnone : tag.attributes.entries = []
      · rw [if_pos hnone, if_neg (not_not.2 hnone)]
        cases tag.capture <;> exact .ok _
      · rw [if_neg hnone, if_pos hnone]
        exact .one _

private theorem reports_checkHead (head : RelationHead) : (checkHead head).Reports head.faults := by
  unfold checkHead RelationHead.faults
  by_cases hmode : head.spanMode = usualMode head.operator
  · by_cases hversion : head.operator.sourceVersion.isSome
    · simpa [hmode, hversion] using Reports.one _
    · simpa [hmode, hversion] using Reports.ok ()
  · simpa [hmode] using Reports.unsupported List.mem_cons_self

private theorem reports_positionWord (test : PositionTest) : (positionWord test).Reports test.faults := by
  unfold positionWord PositionTest.faults
  by_cases hadjusted : test.inverted ∨ test.adjustLeading ≠ 0 ∨ test.adjustTrailing ≠ 0
  · have hguard : (test.inverted || test.adjustLeading ≠ 0 || test.adjustTrailing ≠ 0) = true := by
      simpa [or_assoc] using hadjusted
    rw [if_pos hguard, if_pos hadjusted]
    exact .unsupported List.mem_cons_self
  · have hguard : ¬(test.inverted || test.adjustLeading ≠ 0 || test.adjustTrailing ≠ 0) = true := by
      simpa [or_assoc] using hadjusted
    rw [if_neg hguard, if_neg hadjusted, List.nil_append]
    cases test.operation with
    | within | containing => exact .ok _
    | _ => exact .one _

private theorem reports_modified (modifier : Modifier) {clause : Result QueryText} {faults : List WritingFault}
    (h : clause.Reports faults) : (modified modifier clause).Reports (modifier.faults ++ faults) := by
  cases modifier with
  | not | repeated | capture => exact h.map _
  | expanded direction => cases direction <;> exact h.map _
  | constrained filter => exact .swap (h.bind fun _ => ((reports_write filter).map _).map _)
  | edge | filteredNGrams | settings | version => exact .unsupported List.mem_cons_self

/-! ### Token brackets -/

mutual

private theorem reports_bracketPart (p : Pattern) (h : p.isBracketQuery = true) : (bracketPart p).Reports p.faults := by
  unfold bracketPart
  split
  · rw [faults_term]
    exact reports_bracketTest _ _
  · rw [faults_regex]
    exact reports_bracketTest _ _
  · rw [faults_join]
    exact (reports_bracketParts _ _ (by simpa only [Pattern.isBracketQuery] using h)).map _
  · rw [faults_join]
    exact (reports_bracketParts _ _ (by simpa only [Pattern.isBracketQuery] using h)).map _
  · rw [faults_modify, faults_term]
    exact reports_bracketTest _ _
  · rw [faults_modify, faults_regex]
    exact reports_bracketTest _ _
  · rw [faults_modify]
    exact (reports_bracketPart _ (by simpa only [Pattern.isBracketQuery] using h)).map _
  · unfold Pattern.isBracketQuery at h
    split at h <;> simp_all

private theorem reports_bracketParts (least : Nat) (ps : List Pattern)
    (h : Pattern.isBracketQuery.allBracketQueries ps = true) :
    (bracketParts least ps).Reports (ps.flatMap Pattern.faults) := by
  cases ps with
  | nil => exact .ok _
  | cons p ps =>
      rw [Pattern.isBracketQuery.allBracketQueries, Bool.and_eq_true] at h
      rw [bracketParts]
      exact (reports_bracketPart p h.1).bind fun _ => (reports_bracketParts least ps h.2).map _

end

/-! ### Patterns -/

mutual

private theorem reports_ofPattern (p : Pattern) : (ofPattern p).Reports p.faults := by
  rw [ofPattern.eq_def]
  split
  · rename_i hbrackets
    exact (reports_bracketPart p hbrackets).map _
  · rw [Pattern.faults_eq]
    cases p with
    | term test | regex test =>
        rw [Pattern.children, List.flatMap_nil, List.append_nil]
        exact (reports_flagged _).map _
    | anyToken | defaultValue => exact .ok _
    | tags tag =>
        rw [Pattern.children, List.flatMap_nil, List.append_nil]
        exact reports_tags tag
    | join connective clauses => exact (reports_ofPatterns _ clauses).map _
    | modify modifier clause =>
        rw [Pattern.children, List.flatMap_singleton]
        exact reports_modified modifier (reports_ofPattern clause)
    | positionFilter test producer filter =>
        rw [Pattern.children, List.flatMap_cons, List.flatMap_singleton]
        exact (reports_positionWord test).bind fun _ => (reports_ofPattern producer).bind fun _ =>
          (reports_ofPattern filter).map _
    | relationTarget head target =>
        rw [Pattern.children, List.flatMap_singleton]
        exact (reports_checkHead head).bind fun _ => (reports_ofPattern target).map _
    | relationMatch parent targets =>
        refine .of_mem_iff ((reports_ofTargets targets).bind fun _ => (reports_ofPattern parent).map _) fun fault => ?_
        simp only [Pattern.ownFaults, Pattern.children, List.flatMap_cons, List.mem_append, mem_targetFaults]
        tauto
    | rootRelations targets =>
        refine .of_mem_iff ((reports_ofTargets targets).map _) fun fault => ?_
        simp only [Pattern.ownFaults, Pattern.children, List.mem_append, mem_targetFaults]
    | call name arguments => exact (reports_ofArguments arguments).map _
    | fixedSpan => exact .one _

private theorem reports_ofPatterns (least : Nat) (ps : List Pattern) :
    (ofPatterns least ps).Reports (ps.flatMap Pattern.faults) := by
  cases ps with
  | nil => exact .ok _
  | cons p ps =>
      rw [ofPatterns]
      exact (reports_ofPattern p).bind fun _ => (reports_ofPatterns least ps).map _

private theorem reports_ofTargets (targets : List (RelationHead × Pattern)) :
    (ofTargets targets).Reports (targets.flatMap fun t => t.1.faults ++ t.2.faults) := by
  cases targets with
  | nil => exact .ok _
  | cons t targets =>
      obtain ⟨head, target⟩ := t
      rw [ofTargets, List.flatMap_cons, List.append_assoc]
      exact (reports_checkHead head).bind fun _ => (reports_ofPattern target).bind fun _ =>
        (reports_ofTargets targets).map _

private theorem reports_ofArguments (arguments : List (Argument Pattern)) :
    (ofArguments arguments).Reports ((arguments.filterMap Argument.pattern?).flatMap Pattern.faults) := by
  cases arguments with
  | nil => exact .ok _
  | cons a arguments =>
      cases a with
      | pattern p =>
          rw [ofArguments]
          exact (reports_ofPattern p).bind fun _ => (reports_ofArguments arguments).map _
      | text | number =>
          rw [ofArguments]
          exact (reports_ofArguments arguments).map _

end

end QueryText

/-! ### Refusal -/

namespace Pattern

private theorem reports_toQueryText (p : Pattern) :
    p.toQueryText.Reports p.faults := (QueryText.reports_ofPattern p).map _

theorem onlyUnsupported_toQueryText (p : Pattern) : Result.OnlyUnsupported p.toQueryText :=
  p.reports_toQueryText.onlyUnsupported

/-- A pattern has no query text exactly if some node of it has no words; the error is the one of such a node, and
never that a node cannot stand in token brackets. -/
theorem toQueryText_error_iff (p : Pattern) :
    ((∃ e, p.toQueryText = .error e) ↔ ∃ q ∈ p.walk, q.ownFaults ≠ []) ∧
      ∀ e, p.toQueryText = .error e → ∃ q ∈ p.walk, ∃ fault ∈ q.ownFaults,
        e = .unsupported fault ∧ ∀ kind, fault ≠ .inBrackets kind := by
  constructor
  · rw [p.reports_toQueryText.exists_error_iff]
    constructor
    · rintro ⟨fault, hfault⟩
      obtain ⟨q, hq, hown⟩ := List.mem_flatMap.1 hfault
      exact ⟨q, hq, List.ne_nil_of_mem hown⟩
    · rintro ⟨q, hq, hne⟩
      obtain ⟨fault, hown⟩ := List.exists_mem_of_ne_nil _ hne
      exact ⟨fault, List.mem_flatMap.2 ⟨q, hq, hown⟩⟩
  · intro e he
    obtain ⟨fault, hfault, heq⟩ := p.reports_toQueryText.exists_fault he
    obtain ⟨q, hq, hown⟩ := List.mem_flatMap.1 hfault
    refine ⟨q, hq, fault, hown, heq, fun kind hkind => ?_⟩
    exact inBrackets_notMem_ownFaults kind q (hkind ▸ hown)

/-- A lemma without regard to case, written in token brackets within the argument of a function. -/
theorem toQueryText_error_iff_caseInsensitive :
    let test : TokenTest := ⟨"fox", some "lemma", some .caseInsensitive⟩
    let p : Pattern := .call "f" [.text "x", .pattern (.join .sequence [.anyToken 1 1, .modify .not (.term test)])]
    (∃ e, p.toQueryText = .error e) ∧ ∃ q ∈ p.walk, ∃ fault ∈ q.ownFaults,
      QueryError.unsupported (.sensitivity .caseInsensitive) = .unsupported fault ∧
        ∀ kind, fault ≠ .inBrackets kind := by
  intro test p
  have hwalk : Pattern.term test ∈ p.walk := List.mem_of_getLast? (by rfl)
  have hwrite : p.toQueryText = .error (.unsupported (.sensitivity .caseInsensitive)) := by rfl
  exact ⟨(toQueryText_error_iff p).1.2 ⟨_, hwalk, by simp [ownFaults, TokenTest.faults, test]⟩,
    (toQueryText_error_iff p).2 _ hwrite⟩

end Pattern

end CorpusSearch
