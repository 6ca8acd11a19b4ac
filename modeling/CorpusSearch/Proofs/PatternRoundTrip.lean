import CorpusSearch.Proofs.FilterRoundTrip
import CorpusSearch.Proofs.PatternInvariant

/-!
Patterns read back from the JSON that they are written as. The functions that build nodes change nothing about
parts that are sound already, so reading, which builds each node anew, gives well-formed patterns back. Main
statement: every pattern that can be made, every filter, and every pattern that was itself read is read back.
-/

set_option autoImplicit false

namespace CorpusSearch

/-! ### Building a node of sound parts -/

namespace Build

variable {values : AttributeValue → Prop} {p q : Pattern} {min max : UInt32}

private theorem checkBounds_of_le {node : String} (h : min ≤ max) : checkBounds node min max = .ok () := by
  rw [checkBounds, if_neg (by simpa using h)]

private theorem checkNonEmpty_of_le {node : String} (h : min ≤ max) (hmax : 1 ≤ max) :
    checkNonEmpty node min max = .ok () := by
  have hne : max ≠ 0 := by
    rintro rfl
    exact absurd hmax (by decide)
  rw [checkNonEmpty, checkBounds_of_le h, Result.ok_bind, if_neg hne]
  rfl

private theorem anyToken_of_sound (h : (Pattern.anyToken min max).NodeSound values) :
    anyToken min max = .ok (.anyToken min max) := by
  rw [anyToken, checkNonEmpty_of_le h.1 h.2]
  rfl

theorem clausesFor_of_ne {c : Connective} (h : ∀ nested, q ≠ .join c nested) : clausesFor c q = [q] := by
  unfold clausesFor
  split
  · rename_i d nested
    rw [if_neg fun e => h nested (by rw [e])]
  · rfl

private theorem join_of_sound {c : Connective} {clauses : List Pattern}
    (h : (Pattern.join c clauses).NodeSound values) : join c clauses = .ok (.join c clauses) := by
  have hflat : clauses.flatMap (clausesFor c) = clauses := by
    have hsingle : ∀ q ∈ clauses, clausesFor c q = [q] := fun q hq => clausesFor_of_ne (h.2 q hq)
    rw [List.flatMap_congr hsingle]
    simp
  rw [join, if_neg (by simpa using h.1), hflat]

private theorem not_of_sound (h : Modifier.Sound q .not) : not q = .ok (.modify .not q) := by
  unfold not
  rcases h with h | h <;> simp [h]

private theorem repetition_of_sound (h : Modifier.Sound q (.repeated min max)) :
    repetition q min max = .ok (.modify (.repeated min max) q) := by
  rw [repetition, checkNonEmpty_of_le h.1 h.2.1, Result.ok_bind, if_neg (by simpa using h.2.2)]
  rfl

private theorem expansion_of_sound {direction : ExpansionDirection}
    (h : Modifier.Sound q (.expanded direction min max)) :
    expansion q direction min max = .ok (.modify (.expanded direction min max) q) := by
  rw [expansion, checkBounds_of_le h]
  rfl

private theorem filterNGrams_of_sound {operation : PositionOperation}
    (h : Modifier.Sound q (.filteredNGrams operation min max)) :
    filterNGrams q operation min max = .ok (.modify (.filteredNGrams operation min max) q) := by
  rw [filterNGrams, checkBounds_of_le h]
  rfl

private theorem capture_of_sound {name : String} (h : Modifier.Sound q (.capture name)) :
    capture q name = .ok (.modify (.capture name) q) := by
  rw [capture, if_neg (by simpa [Modifier.Sound] using h)]

private theorem version_of_sound {name : String} (h : Modifier.Sound q (.version name)) :
    version q name = .ok (.modify (.version name) q) := by
  rw [version, if_neg (by simpa [Modifier.Sound] using h)]

private theorem fixedSpan_of_sound {span : Span} (h : (Pattern.fixedSpan span).NodeSound values) :
    fixedSpan span.start span.stop = .ok (.fixedSpan span) := by
  rw [fixedSpan, if_neg (by simpa [Pattern.NodeSound] using h)]

private theorem attributeRange_of_ordered {min max : Int} (h : (AttributeValue.range min max).Ordered) :
    attributeRange min max = .ok (.range min max) := by
  have hle : min ≤ max := h
  rw [attributeRange, if_neg (by omega)]

private theorem tags_of_sound {tag : TagPattern} (h : tag.Sound values) :
    tags tag.name tag.attributes tag.adjust tag.capture = .ok (.tags tag) := by
  rw [tags, if_neg (by simpa using h.name), RelationOperator.nonEmpty?_eq_self h.capture]

private theorem relationHead_of_sound {head : RelationHead} (h : head.Sound) :
    relationHead head.operator head.spanMode head.capture = .ok head := by
  have hroot : ¬(head.operator.isRoot && decide (head.spanMode = .source)) = true := by
    intro e
    simp only [RelationOperator.isRoot, Bool.and_eq_true, decide_eq_true_eq] at e
    exact h.rootMode e.1 e.2
  rw [relationHead, if_neg hroot, RelationOperator.nonEmpty?_eq_self h.capture]

private theorem relationMatch_of_sound {parent : Pattern} {targets : List (RelationHead × Pattern)}
    (h : (Pattern.relationMatch parent targets).NodeSound values) :
    relationMatch parent targets = .ok (.relationMatch parent targets) := by
  have hroot : ¬(targets.any fun t => t.1.operator.isRoot) = true := by
    intro e
    obtain ⟨t, ht, hisRoot⟩ := List.any_eq_true.1 e
    exact (h.2 t ht).2 (by simpa [RelationOperator.isRoot] using hisRoot)
  rw [relationMatch, if_neg (by simpa using h.1), if_neg hroot]

private theorem rootRelations_of_sound {targets : List (RelationHead × Pattern)}
    (h : (Pattern.rootRelations targets).NodeSound values) :
    rootRelations targets = .ok (.rootRelations targets) := by
  have hroot : ¬(targets.any fun t => !t.1.operator.isRoot || t.1.spanMode ≠ .target) = true := by
    intro e
    obtain ⟨t, ht, hother⟩ := List.any_eq_true.1 e
    have htarget := (h.2 t ht).2
    simp [RelationOperator.isRoot, htarget.1, htarget.2] at hother
  rw [rootRelations, if_neg (by simpa using h.1), if_neg hroot]

private theorem call_of_sound {name : String} {arguments : List (Argument Pattern)}
    (h : (Pattern.call name arguments).NodeSound values) : call name arguments = .ok (.call name arguments) := by
  rw [call, if_neg (by simpa using h.1)]

end Build

private theorem RelationOperator.build_of_sound {o : RelationOperator} (h : o.Sound) :
    build o.type o.direction o.targetVersion o.negated o.alignment o.optional =
      .ok { o with sourceVersion := none } := by
  have hboth : ¬(o.alignment && o.negated) = true := by
    intro e
    rw [Bool.and_eq_true] at e
    exact h.notBoth ⟨e.2, e.1⟩
  have hoptional : ¬(o.optional && !o.alignment) = true := by
    intro e
    rw [Bool.and_eq_true] at e
    simp [h.optionalAlignment e.1] at e
  have hroot : ¬(o.direction = .root && (o.alignment || o.negated)) = true := by
    intro e
    simp only [Bool.and_eq_true, decide_eq_true_eq] at e
    have hplain := h.plainRoot e.1
    simp [hplain.1, hplain.2] at e
  have htype : typeOrAny o.type = o.type := by
    rw [typeOrAny, if_neg (by simpa using h.type)]
  rw [build, if_neg hboth, if_neg hoptional, if_neg hroot, htype, nonEmpty?_eq_self h.targetVersion]

private theorem RelationOperator.withSourceVersion_of_sound {o : RelationOperator} (h : o.Sound) :
    RelationOperator.withSourceVersion { o with sourceVersion := none } o.sourceVersion = o := by
  rw [withSourceVersion, nonEmpty?_eq_self h.sourceVersion]

/-! ### Parts of a node -/

namespace Pattern

open NodeReader
open NodeFields (node)

/-- Reading gives a pattern back if it looks as deep as the JSON of the pattern is nested. -/
def ReadsBack (p : Pattern) : Prop :=
  ∀ fuel, p.toJson.depth < fuel → ofJsonWithin fuel p.toJson = .ok p

section Parts

variable {type name : String} {fields : NodeFields} {fuel : Nat} {q : Pattern}

private theorem ofJsonWithin_node (h : fields.get? "type" = none) :
    ofJsonWithin (fuel + 1) (node type fields) =
      readNode (ofJsonWithin fuel) (node type fields) (ofNode type fields) := by
  rw [ofJsonWithin, ofJson_node h, Result.ok_bind]

private theorem ReadsBack.of_node {p : Pattern} (hp : p.toJson = node type fields) (htype : fields.get? "type" = none)
    (h : ∀ fuel, (node type fields).depth ≤ fuel →
      readNode (ofJsonWithin fuel) (node type fields) (ofNode type fields) = .ok p) : p.ReadsBack := by
  intro fuel hfuel
  rw [hp] at hfuel ⊢
  cases fuel with
  | zero => omega
  | succ fuel =>
      rw [ofJsonWithin_node htype]
      exact h fuel (Nat.le_of_lt_succ hfuel)

private theorem clause_ofNode (hq : q.ReadsBack) (hname : name ≠ "type")
    (hv : fields.get? name = some q.toJson) (h : (node type fields).depth ≤ fuel) :
    ((ofNode type fields).value name >>= ofJsonWithin fuel) = .ok q := by
  have hdepth : q.toJson.depth < (node type fields).depth := NodeFields.depth_lt_node hname hv
  rw [value_ofNode hname hv, Result.ok_bind, hq fuel (by omega)]

private theorem readTest_ofNode (test : TokenTest) : readTest (ofNode type test.fields) = .ok test := by
  rw [readTest, str_ofNode (by decide) (s := test.value) (by simp [TokenTest.fields]), Result.ok_bind,
    str?_ofNode (by decide) (s := test.layer) (by simp [TokenTest.fields]), Result.ok_bind,
    sensitivity_ofNode (s := test.sensitivity) (by simp [TokenTest.fields])]
  rfl

private theorem readAttribute_toJson (r : NodeReader) {v : AttributeValue} (h : v.Sound ∧ v.Ordered) :
    readAttribute r v.toJson = .ok v := by
  cases v with
  | expression text => rfl
  | range min max =>
      have hmin : Text.fitsInt64 min = true := h.1.1
      have hmax : Text.fitsInt64 max = true := h.1.2
      have hlow : Entries.get? "min"
          ([("min", Json.int min), ("max", Json.int max)].foldl
            (fun entries f => Entries.insert f.1 f.2 entries) []) = some (.int min) := by
        rw [NodeFields.get?_foldl_insert]
        simp
      have hhigh : Entries.get? "max"
          ([("min", Json.int min), ("max", Json.int max)].foldl
            (fun entries f => Entries.insert f.1 f.2 entries) []) = some (.int max) := by
        rw [NodeFields.get?_foldl_insert]
        simp
      rw [AttributeValue.toJson, Json.object, readAttribute, hlow, hhigh, Option.bind_some,
        Option.bind_some, int64?_of_fits hmin, int64?_of_fits hmax]
      exact Build.attributeRange_of_ordered h.2

private theorem mapM_readAttribute (r : NodeReader) {entries : List (String × AttributeValue)}
    (h : ∀ e ∈ entries, e.2.Sound ∧ e.2.Ordered) :
    (entries.map fun e => (e.1, e.2.toJson)).mapM (fun f =>
      (do return (f.1, ← readAttribute r f.2) : Result (String × AttributeValue))) = .ok entries := by
  rw [Result.mapM_eq_ok, List.forall₂_map_left_iff, List.forall₂_same]
  intro e he
  simp only [readAttribute_toJson _ (h e he), Result.ok_bind, Result.pure_eq_ok]

private theorem readAttributes_ofNode {attributes : NameMap AttributeValue}
    (hv : fields.get? "attributes" =
      if attributes.entries = [] then none
      else some (.obj (attributes.entries.map fun e => (e.1, e.2.toJson))))
    (h : ∀ e ∈ attributes.entries, e.2.Sound ∧ e.2.Ordered) :
    readAttributes (ofNode type fields) = .ok attributes := by
  rw [readAttributes, value?_ofNode (by decide), hv]
  by_cases hempty : attributes.entries = []
  · rw [if_pos hempty]
    exact congrArg Except.ok (NameMap.eq_of_entries hempty.symm)
  · rw [if_neg hempty]
    show (List.mapM (m := Result) _ (attributes.entries.map fun e => (e.1, e.2.toJson)) >>= _) = _
    rw [mapM_readAttribute _ h, Result.ok_bind, NameMap.ofList_entries]
    rfl

private theorem readSettings_ofNode {m : NameMap String}
    (hv : fields.get? "settings" = some (.obj (m.entries.map fun e => (e.1, .str e.2)))) :
    readSettings (ofNode type fields) = .ok m := by
  have htexts : ((m.entries.map fun e => (e.1, Json.str e.2)).map fun f =>
      (f.1, f.2.str?.getD f.2.write)) = m.entries := by
    simp [Function.comp_def, Json.str?]
  rw [readSettings, value_ofNode (by decide) hv]
  show Except.ok (NameMap.ofList _) = _
  rw [htexts, NameMap.ofList_entries]

theorem allToJson_eq (ps : List Pattern) : allToJson ps = ps.map toJson := by
  induction ps with
  | nil => rfl
  | cons p ps ih => rw [allToJson, ih, List.map_cons]

private theorem clauses_ofNode {ps : List Pattern} (hps : ∀ p ∈ ps, p.ReadsBack)
    (hv : fields.get? "clauses" = some (.arr (allToJson ps)))
    (h : (node type fields).depth ≤ fuel) :
    ((ofNode type fields).arr "clauses" >>= fun items => items.mapM (ofJsonWithin fuel)) = .ok ps := by
  rw [arr_ofNode (by decide) hv, Result.ok_bind, allToJson_eq, Result.mapM_eq_ok,
    List.forall₂_map_left_iff, List.forall₂_same]
  intro p hp
  have hmem : p.toJson ∈ allToJson ps := by
    rw [allToJson_eq]
    exact List.mem_map_of_mem hp
  have hdepth : p.toJson.depth + 1 < (node type fields).depth :=
    NodeFields.depth_lt_node_of_mem (by decide) hv hmem
  exact hps p hp fuel (by omega)

private theorem readTarget_toJson {head : RelationHead} (hhead : head.Sound) (hq : q.ReadsBack)
    (h : (head.toJson q.toJson).depth ≤ fuel) :
    readTarget (ofJsonWithin fuel) (head.toJson q.toJson) = .ok (head, q) := by
  have hdepth : q.toJson.depth < (head.toJson q.toJson).depth := by
    rw [RelationHead.toJson]
    exact NodeFields.depth_lt_node (show "clause" ≠ "type" by decide) (by simp)
  have hclause := hq fuel (by omega)
  rw [RelationHead.toJson, readTarget, ofJson_node (by simp), Result.ok_bind, if_neg (by simp [ofNode]),
    str?_ofNode (by decide) (s := some head.operator.type) (by simp), Result.ok_bind,
    codeOr_ofNode (by decide) (x := head.operator.direction) (by simp), Result.ok_bind,
    str?_ofNode (by decide) (s := head.operator.targetVersion) (by simp), Result.ok_bind,
    flag_ofNode (by decide) (b := head.operator.negated) (by simp), Result.ok_bind,
    flag_ofNode (by decide) (b := head.operator.alignment) (by simp), Result.ok_bind,
    flag_ofNode (by decide) (b := head.operator.optional) (by simp), Result.ok_bind]
  show (RelationOperator.build head.operator.type _ _ _ _ _ >>= _) = _
  rw [RelationOperator.build_of_sound hhead.operator, Result.ok_bind,
    str?_ofNode (by decide) (s := head.operator.sourceVersion) (by simp), Result.ok_bind,
    RelationOperator.withSourceVersion_of_sound hhead.operator]
  dsimp only
  rw [value_ofNode (by decide) (v := q.toJson) (by simp), Result.ok_bind, hclause, Result.ok_bind,
    codeOr_ofNode (by decide) (x := head.spanMode) (by simp), Result.ok_bind,
    str?_ofNode (by decide) (s := head.capture) (by simp), Result.ok_bind,
    Build.relationHead_of_sound hhead]
  rfl

theorem targetsToJson_eq (targets : List (RelationHead × Pattern)) :
    targetsToJson targets = targets.map fun t => t.1.toJson t.2.toJson := by
  induction targets with
  | nil => rfl
  | cons t targets ih => rw [targetsToJson, ih, List.map_cons]

private theorem targets_ofNode {targets : List (RelationHead × Pattern)} (hheads : ∀ t ∈ targets, t.1.Sound)
    (htargets : ∀ t ∈ targets, t.2.ReadsBack)
    (hv : fields.get? "children" = some (.arr (targetsToJson targets)))
    (h : (node type fields).depth ≤ fuel) :
    (targetsToJson targets).mapM (readTarget (ofJsonWithin fuel)) = .ok targets := by
  rw [targetsToJson_eq, Result.mapM_eq_ok, List.forall₂_map_left_iff, List.forall₂_same]
  intro t ht
  have hmem : t.1.toJson t.2.toJson ∈ targetsToJson targets := by
    rw [targetsToJson_eq]
    exact List.mem_map_of_mem ht
  have hdepth : (t.1.toJson t.2.toJson).depth + 1 < (node type fields).depth :=
    NodeFields.depth_lt_node_of_mem (by decide) hv hmem
  exact readTarget_toJson (hheads t ht) (htargets t ht) (by omega)

theorem exists_toJson_eq_obj (p : Pattern) : ∃ fields, p.toJson = .obj fields := by
  cases p with
  | modify m clause => cases m <;> exact ⟨_, rfl⟩
  | _ => exact ⟨_, rfl⟩

private theorem forall₂_argumentsToJson (r : NodeReader) {arguments : List (Argument Pattern)}
    (hsound : ∀ a ∈ arguments, a.Sound)
    (harguments : ∀ a ∈ arguments, ∀ q, a.pattern? = some q → ofJsonWithin fuel q.toJson = .ok q) :
    List.Forall₂ (fun v a => readArgument (ofJsonWithin fuel) r v = .ok a)
      (argumentsToJson arguments) arguments := by
  induction arguments with
  | nil => exact .nil
  | cons a arguments ih =>
      have hrest := ih (fun b hb => hsound b (List.mem_cons_of_mem _ hb))
        (fun b hb => harguments b (List.mem_cons_of_mem _ hb))
      have ha := harguments a List.mem_cons_self
      have hnumber := hsound a List.mem_cons_self
      cases a with
      | pattern q =>
          rw [argumentsToJson]
          refine .cons ?_ hrest
          have hq := ha q rfl
          obtain ⟨fields, hfields⟩ := exists_toJson_eq_obj q
          rw [hfields] at hq ⊢
          simp only [readArgument, hq, Result.ok_bind, Result.pure_eq_ok]
      | text s =>
          rw [argumentsToJson]
          exact .cons rfl hrest
      | number n =>
          rw [argumentsToJson]
          refine .cons ?_ hrest
          simp only [readArgument, int_of_fits r hnumber, Result.ok_bind, Result.pure_eq_ok]

theorem mem_argumentsToJson {arguments : List (Argument Pattern)} {a : Argument Pattern}
    (ha : a ∈ arguments) (hq : a.pattern? = some q) : q.toJson ∈ argumentsToJson arguments := by
  induction arguments with
  | nil => simp at ha
  | cons b arguments ih =>
      rcases List.mem_cons.1 ha with rfl | hrest
      · cases a with
        | pattern p =>
            obtain rfl := Option.some.inj hq
            exact List.mem_cons_self
        | text s => simp [Argument.pattern?] at hq
        | number n => simp [Argument.pattern?] at hq
      · cases b <;> exact List.mem_cons_of_mem _ (ih hrest)

end Parts

/-! ### Nodes -/

section Nodes

variable {values : AttributeValue → Prop} {q : Pattern}

private theorem readsBack_term (test : TokenTest) : (term test).ReadsBack := by
  refine .of_node rfl (by simp [TokenTest.fields]) fun fuel h => ?_
  show (readTest (ofNode "term" test.fields) >>= _) = _
  rw [readTest_ofNode]
  rfl

private theorem readsBack_regex (test : TokenTest) : (regex test).ReadsBack := by
  refine .of_node rfl (by simp [TokenTest.fields]) fun fuel h => ?_
  show (readTest (ofNode "regex" test.fields) >>= _) = _
  rw [readTest_ofNode]
  rfl

private theorem readsBack_anyToken {low high : UInt32} (hsound : (anyToken low high).NodeSound values) :
    (anyToken low high).ReadsBack := by
  refine .of_node rfl (by simp) fun fuel h => ?_
  show ((ofNode "anytoken" _).min >>= _) = _
  rw [min_ofNode (n := low) (by simp), Result.ok_bind, max_ofNode (n := high) (by simp)]
  exact Build.anyToken_of_sound hsound

private theorem readsBack_fixedSpan {span : Span} (hsound : (fixedSpan span).NodeSound values) :
    (fixedSpan span).ReadsBack := by
  refine .of_node rfl (by simp) fun fuel h => ?_
  show ((ofNode "fixedspan" _).value "start" >>= _) = _
  rw [value_ofNode (by decide) (v := .int (Int.ofNat span.start.toNat)) (by simp), Result.ok_bind,
    bound_toNat, Result.ok_bind,
    value_ofNode (by decide) (v := .int (Int.ofNat span.stop.toNat)) (by simp), Result.ok_bind,
    bound_toNat]
  exact Build.fixedSpan_of_sound hsound

private theorem readsBack_tags {tag : TagPattern} (hsound : tag.Sound AttributeValue.Ordered) :
    (tags tag).ReadsBack := by
  refine .of_node rfl (by simp [TagPattern.fields]) fun fuel h => ?_
  have hattributes : tag.fields.get? "attributes" =
      if tag.attributes.entries = [] then none
      else some (.obj (tag.attributes.entries.map fun e => (e.1, e.2.toJson))) := by
    by_cases hempty : tag.attributes.entries = [] <;> simp [TagPattern.fields, hempty]
  show ((ofNode "tags" tag.fields).str "name" >>= _) = _
  rw [str_ofNode (by decide) (s := tag.name) (by simp [TagPattern.fields]), Result.ok_bind,
    readAttributes_ofNode hattributes hsound.attributes, Result.ok_bind,
    codeOr_ofNode (by decide) (x := tag.adjust) (by simp [TagPattern.fields]), Result.ok_bind,
    str?_ofNode (by decide) (s := tag.capture) (by simp [TagPattern.fields]), Result.ok_bind]
  exact Build.tags_of_sound hsound

private theorem readsBack_defaultValue : defaultValue.ReadsBack := by
  refine .of_node rfl (by simp) fun fuel h => ?_
  rfl

private theorem readsBack_join {c : Connective} {clauses : List Pattern} (hsound : (join c clauses).NodeSound values)
    (hclauses : ∀ q ∈ clauses, q.ReadsBack) : (join c clauses).ReadsBack := by
  refine .of_node rfl (by simp) fun fuel h => ?_
  have hread := clauses_ofNode hclauses (by simp) h
  cases c with
  | and =>
      show (((ofNode "and" _).arr "clauses" >>= fun items => items.mapM (ofJsonWithin fuel)) >>= _) = _
      rw [show (Connective.and).jsonType = "and" from rfl] at hread
      rw [hread]
      exact Build.join_of_sound hsound
  | or =>
      show (((ofNode "or" _).arr "clauses" >>= fun items => items.mapM (ofJsonWithin fuel)) >>= _) = _
      rw [show (Connective.or).jsonType = "or" from rfl] at hread
      rw [hread]
      exact Build.join_of_sound hsound
  | sequence =>
      show (((ofNode "sequence" _).arr "clauses" >>= fun items =>
        items.mapM (ofJsonWithin fuel)) >>= _) = _
      rw [show (Connective.sequence).jsonType = "sequence" from rfl] at hread
      rw [hread]
      exact Build.join_of_sound hsound

private theorem readsBack_modify {m : Modifier} (hsound : m.Sound q) (hq : q.ReadsBack) :
    (modify m q).ReadsBack := by
  cases m with
  | not =>
      refine .of_node rfl (by simp) fun fuel h => ?_
      have hclause := clause_ofNode hq (show "clause" ≠ "type" by decide) (by simp) h
      show (((ofNode "not" _).value "clause" >>= ofJsonWithin fuel) >>= _) = _
      rw [hclause]
      exact Build.not_of_sound hsound
  | repeated low high =>
      refine .of_node rfl (by simp) fun fuel h => ?_
      have hclause := clause_ofNode hq (show "clause" ≠ "type" by decide) (by simp) h
      show (((ofNode "repeat" _).value "clause" >>= ofJsonWithin fuel) >>= _) = _
      rw [hclause, Result.ok_bind, min_ofNode (n := low) (by simp), Result.ok_bind,
        max_ofNode (n := high) (by simp)]
      exact Build.repetition_of_sound hsound
  | expanded direction low high =>
      refine .of_node rfl (by simp) fun fuel h => ?_
      have hclause := clause_ofNode hq (show "clause" ≠ "type" by decide) (by simp) h
      show (((ofNode "expansion" _).value "clause" >>= ofJsonWithin fuel) >>= _) = _
      rw [hclause, Result.ok_bind, code_ofNode (by decide) (x := direction) (by simp), Result.ok_bind,
        min_ofNode (n := low) (by simp), Result.ok_bind, max_ofNode (n := high) (by simp)]
      exact Build.expansion_of_sound hsound
  | filteredNGrams operation low high =>
      refine .of_node rfl (by simp) fun fuel h => ?_
      have hclause := clause_ofNode hq (show "clause" ≠ "type" by decide) (by simp) h
      show (((ofNode "filterngrams" _).value "clause" >>= ofJsonWithin fuel) >>= _) = _
      rw [hclause, Result.ok_bind, code_ofNode (by decide) (x := operation) (by simp), Result.ok_bind,
        min_ofNode (n := low) (by simp), Result.ok_bind, max_ofNode (n := high) (by simp)]
      exact Build.filterNGrams_of_sound hsound
  | capture name =>
      refine .of_node rfl (by simp) fun fuel h => ?_
      have hclause := clause_ofNode hq (show "clause" ≠ "type" by decide) (by simp) h
      show (((ofNode "capture" _).value "clause" >>= ofJsonWithin fuel) >>= _) = _
      rw [hclause, Result.ok_bind, str_ofNode (by decide) (s := name) (by simp)]
      exact Build.capture_of_sound hsound
  | constrained f =>
      refine .of_node rfl (by simp) fun fuel h => ?_
      have hclause := clause_ofNode hq (show "clause" ≠ "type" by decide) (by simp) h
      show (((ofNode "constrained" _).value "clause" >>= ofJsonWithin fuel) >>= _) = _
      rw [hclause, Result.ok_bind, value_ofNode (by decide) (v := f.toJson) (by simp), Result.ok_bind,
        Filter.ofJson_toJson]
      rfl
  | edge trailing =>
      refine .of_node rfl (by simp) fun fuel h => ?_
      have hclause := clause_ofNode hq (show "clause" ≠ "type" by decide) (by simp) h
      show (((ofNode "edge" _).value "clause" >>= ofJsonWithin fuel) >>= _) = _
      rw [hclause, Result.ok_bind, bool_ofNode (by decide) (b := trailing) (by simp)]
      rfl
  | version name =>
      refine .of_node rfl (by simp) fun fuel h => ?_
      have hclause := clause_ofNode hq (show "clause" ≠ "type" by decide) (by simp) h
      show (((ofNode "docversion" _).value "clause" >>= ofJsonWithin fuel) >>= _) = _
      rw [hclause, Result.ok_bind, str_ofNode (by decide) (s := name) (by simp)]
      exact Build.version_of_sound hsound
  | settings values =>
      refine .of_node rfl (by simp) fun fuel h => ?_
      have hclause := clause_ofNode hq (show "clause" ≠ "type" by decide) (by simp) h
      show (((ofNode "settings" _).value "clause" >>= ofJsonWithin fuel) >>= _) = _
      rw [hclause, Result.ok_bind, readSettings_ofNode (m := values) (by simp)]
      rfl

private theorem readsBack_positionFilter {test : PositionTest} {producer filter : Pattern}
    (hsound : test.Sound) (hproducer : producer.ReadsBack) (hfilter : filter.ReadsBack) :
    (positionFilter test producer filter).ReadsBack := by
  refine .of_node rfl (by simp) fun fuel h => ?_
  have hp := clause_ofNode hproducer (show "producer" ≠ "type" by decide) (by simp) h
  have hf := clause_ofNode hfilter (show "filter" ≠ "type" by decide) (by simp) h
  show (((ofNode "posfilter" _).value "producer" >>= ofJsonWithin fuel) >>= _) = _
  rw [hp, Result.ok_bind]
  show (((ofNode "posfilter" _).value "filter" >>= ofJsonWithin fuel) >>= _) = _
  rw [hf, Result.ok_bind, code_ofNode (by decide) (x := test.operation) (by simp), Result.ok_bind,
    flag_ofNode (by decide) (b := test.inverted) (by simp), Result.ok_bind,
    offset_ofNode (by decide) hsound.leading (by simp), Result.ok_bind,
    offset_ofNode (by decide) hsound.trailing (by simp), Result.ok_bind]
  rfl

private theorem readsBack_relationTarget {head : RelationHead} (hhead : head.Sound) (hq : q.ReadsBack) :
    (relationTarget head q).ReadsBack := by
  refine .of_node rfl (by simp) fun fuel h => ?_
  show (readTarget (ofJsonWithin fuel) (head.toJson q.toJson) >>= _) = _
  rw [readTarget_toJson hhead hq h]
  rfl

private theorem readsBack_relationMatch {parent : Pattern} {targets : List (RelationHead × Pattern)}
    (hsound : (relationMatch parent targets).NodeSound values) (hparent : parent.ReadsBack)
    (htargets : ∀ t ∈ targets, t.2.ReadsBack) : (relationMatch parent targets).ReadsBack := by
  refine .of_node rfl (by simp) fun fuel h => ?_
  have hchildren := targets_ofNode (fun t ht => (hsound.2 t ht).1) htargets (by simp) h
  have hdepth : parent.toJson.depth < fuel := by
    refine Nat.lt_of_lt_of_le ?_ h
    exact NodeFields.depth_lt_node (show "parent" ≠ "type" by decide) (by simp)
  obtain ⟨fields, hfields⟩ := exists_toJson_eq_obj parent
  have hread := hparent fuel hdepth
  show ((ofNode "relmatch" _).arr "children" >>= _) = _
  rw [arr_ofNode (by decide) (l := targetsToJson targets) (by simp), Result.ok_bind, hchildren, Result.ok_bind,
    value?_ofNode (by decide)]
  rw [hfields] at hread
  simp [hfields, Option.filter, Json.isNull, hread, Build.relationMatch_of_sound hsound]

private theorem readsBack_rootRelations {targets : List (RelationHead × Pattern)}
    (hsound : (rootRelations targets).NodeSound values) (htargets : ∀ t ∈ targets, t.2.ReadsBack) :
    (rootRelations targets).ReadsBack := by
  refine .of_node rfl (by simp) fun fuel h => ?_
  have hchildren := targets_ofNode (fun t ht => (hsound.2 t ht).1) htargets (by simp) h
  show ((ofNode "relmatch" _).arr "children" >>= _) = _
  rw [arr_ofNode (by decide) (l := targetsToJson targets) (by simp), Result.ok_bind, hchildren, Result.ok_bind,
    value?_ofNode (by decide)]
  simp [Build.rootRelations_of_sound hsound]

private theorem readsBack_call {name : String} {arguments : List (Argument Pattern)}
    (hsound : (call name arguments).NodeSound values)
    (harguments : ∀ a ∈ arguments, ∀ q, a.pattern? = some q → q.ReadsBack) :
    (call name arguments).ReadsBack := by
  refine .of_node rfl (by simp) fun fuel h => ?_
  have hread : ∀ a ∈ arguments, ∀ q, a.pattern? = some q → ofJsonWithin fuel q.toJson = .ok q := by
    intro a ha q hq
    have hdepth : q.toJson.depth + 1 < fuel := by
      refine Nat.lt_of_lt_of_le ?_ h
      exact NodeFields.depth_lt_node_of_mem (show "args" ≠ "type" by decide) (by simp)
        (mem_argumentsToJson ha hq)
    exact harguments a ha q hq fuel (by omega)
  show ((ofNode "callfunc" _).str "name" >>= _) = _
  rw [str_ofNode (by decide) (s := name) (by simp), Result.ok_bind,
    arr_ofNode (by decide) (l := argumentsToJson arguments) (by simp), Result.ok_bind,
    Result.mapM_eq_ok.2 (forall₂_argumentsToJson _ hsound.2 hread)]
  exact Build.call_of_sound hsound

end Nodes

theorem WellFormed.readsBack {p : Pattern} (h : p.WellFormed AttributeValue.Ordered) : p.ReadsBack := by
  induction h with
  | @node p sound _ ih =>
      cases p with
      | term test => exact readsBack_term test
      | regex test => exact readsBack_regex test
      | anyToken low high => exact readsBack_anyToken sound
      | fixedSpan span => exact readsBack_fixedSpan sound
      | tags tag => exact readsBack_tags sound
      | defaultValue => exact readsBack_defaultValue
      | join c clauses => exact readsBack_join sound ih
      | modify m q => exact readsBack_modify sound (ih q List.mem_cons_self)
      | positionFilter test producer filter =>
          exact readsBack_positionFilter sound (ih producer List.mem_cons_self)
            (ih filter (List.mem_cons_of_mem _ List.mem_cons_self))
      | relationTarget head q => exact readsBack_relationTarget sound (ih q List.mem_cons_self)
      | relationMatch parent targets =>
          refine readsBack_relationMatch sound (ih parent List.mem_cons_self) ?_
          exact fun t ht => ih t.2 (List.mem_cons_of_mem _ (List.mem_map_of_mem ht))
      | rootRelations targets =>
          exact readsBack_rootRelations sound fun t ht => ih t.2 (List.mem_map_of_mem ht)
      | call name arguments =>
          refine readsBack_call sound ?_
          exact fun a ha q hq => ih q (List.mem_filterMap.2 ⟨a, ha, hq⟩)

theorem WellFormed.ofJson_toJson {p : Pattern} (h : p.WellFormed AttributeValue.Ordered) : ofJson p.toJson = .ok p :=
  h.readsBack _ (Nat.lt_succ_self _)

/-- Writing and reading again changes nothing: not about a pattern that can be made, not about a filter, and
not about what was read from any value. -/
theorem reading_inverts_writing :
    (∀ p : Pattern, p.Made AttributeValue.Ordered → ofJson p.toJson = .ok p) ∧
      (∀ f : Filter, Filter.ofJson f.toJson = .ok f) ∧
      ∀ (v : Json) (p : Pattern), ofJson v = .ok p → ofJson p.toJson = .ok p := by
  refine ⟨?_, Filter.ofJson_toJson, ?_⟩
  · intro p h
    exact (wellFormed_of_made_ordered h).ofJson_toJson
  · intro v p h
    exact (wellFormed_of_ofJson h).ofJson_toJson

/-- A sequence in a sequence, which is taken apart when it is read and written without the inner one. -/
theorem reading_inverts_writing_nested_sequence :
    (join .sequence [anyToken 1 1, anyToken 0 2]).Made AttributeValue.Ordered ∧
      ofJson (node "sequence" [("clauses", .arr
        [node "sequence" [("clauses", .arr
          [node "anytoken" [("min", .int 1), ("max", .int 1)],
            node "anytoken" [("min", .int 0), ("max", .int 2)]])]])]) =
        .ok (join .sequence [anyToken 1 1, anyToken 0 2]) ∧
      ofJson (join .sequence [anyToken 1 1, anyToken 0 2]).toJson =
        .ok (join .sequence [anyToken 1 1, anyToken 0 2]) := by
  have hread : ofJson (node "sequence" [("clauses", .arr
      [node "sequence" [("clauses", .arr
        [node "anytoken" [("min", .int 1), ("max", .int 1)],
          node "anytoken" [("min", .int 0), ("max", .int 2)]])]])]) =
      .ok (join .sequence [anyToken 1 1, anyToken 0 2]) := by rfl
  refine ⟨.json hread, hread, ?_⟩
  exact reading_inverts_writing.1 _ (.json hread)

end Pattern

end CorpusSearch
