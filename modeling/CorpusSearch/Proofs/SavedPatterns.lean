import CorpusSearch.Proofs.JsonText
import CorpusSearch.Proofs.NestingLimit
import CorpusSearch.Proofs.PatternRoundTrip

/-!
Patterns saved as text. Their JSON has no floating-point numbers, and of its numbers each is an integer of 64 bits. A
level of a pattern is written as one to three levels of JSON, and text nested too deep is not read. Main statement: a
pattern is read back from its text if its JSON keeps to that limit, and otherwise the text is refused; so a pattern
that is nested no deeper than patterns may be can still be lost.
-/

set_option autoImplicit false

namespace CorpusSearch

/-! ### Values and fields -/

namespace Json

def Within (n : Nat) (v : Json) : Prop := v.Plain ∧ v.depth ≤ n

variable {n : Nat}

@[simp] theorem within_str (s : String) : (str s).Within n := ⟨.str s, Nat.zero_le n⟩

@[simp] theorem within_bool (b : Bool) : (bool b).Within n := ⟨.bool b, Nat.zero_le n⟩

@[simp] theorem within_bound (value : UInt32) : (int (value.toNat : Int)).Within n := by
  have hlt := value.toNat_lt
  exact ⟨.int (by omega) (by omega), Nat.zero_le n⟩

private theorem within_int {m : Int} (h : Text.fitsInt64 m = true) : (int m).Within n := by
  simp only [Text.fitsInt64, Bool.and_eq_true, decide_eq_true_eq] at h
  exact ⟨.int (by omega) (by omega), Nat.zero_le n⟩

theorem Within.mono {v : Json} {m : Nat} (h : v.Within n) (hle : n ≤ m) : v.Within m := ⟨h.1, h.2.trans hle⟩

private theorem within_arr {items : List Json} (h : ∀ v ∈ items, v.Within n) : (arr items).Within (n + 1) := by
  refine ⟨.arr fun v hv => (h v hv).1, Nat.succ_le_succ ?_⟩
  induction items with
  | nil => exact Nat.zero_le n
  | cons v items ih =>
      obtain ⟨hv, hitems⟩ := List.forall_mem_cons.1 h
      exact Nat.max_le.2 ⟨hv.2, ih hitems⟩

private theorem within_obj {fields : List (String × Json)} (hordered : Entries.Ordered fields)
    (h : ∀ f ∈ fields, f.2.Within n) : (obj fields).Within (n + 1) := by
  refine ⟨.obj hordered fun f hf => (h f hf).1, Nat.succ_le_succ ?_⟩
  clear hordered
  induction fields with
  | nil => exact Nat.zero_le n
  | cons f fields ih =>
      obtain ⟨hf, hfields⟩ := List.forall_mem_cons.1 h
      exact Nat.max_le.2 ⟨hf.2, ih hfields⟩

private theorem within_object {fields : List (String × Json)} (h : ∀ f ∈ fields, f.2.Within n) :
    (object fields).Within (n + 1) := by
  have hentries : (NameMap.ofList fields).entries = fields.foldl (fun m f => Entries.insert f.1 f.2 m) [] :=
    NameMap.entries_foldl_insert fields NameMap.empty
  rw [object, ← hentries]
  exact within_obj (NameMap.ofList fields).ordered fun f hf => h f (NameMap.mem_ofList hf)

private theorem within_entries {α : Type} {m : NameMap α} {write : α → Json}
    (h : ∀ e ∈ m.entries, (write e.2).Within n) : (obj (m.entries.map fun e => (e.1, write e.2))).Within (n + 1) := by
  refine within_obj (List.pairwise_map.2 m.ordered) fun f hf => ?_
  obtain ⟨e, he, rfl⟩ := List.mem_map.1 hf
  exact h e he

end Json

namespace NodeFields

def Within (n : Nat) (fields : NodeFields) : Prop := ∀ f ∈ fields, f.2.Within n

variable {n : Nat} {name type : String} {fields more : NodeFields}

@[simp] theorem within_nil : Within n [] := List.forall_mem_nil _

@[simp] theorem within_cons {v : Json} : Within n ((name, v) :: fields) ↔ v.Within n ∧ Within n fields :=
  List.forall_mem_cons

@[simp] theorem within_append : Within n (fields ++ more) ↔ Within n fields ∧ Within n more := List.forall_mem_append

private theorem within_ite {p : Prop} [Decidable p] (hfields : Within n fields) (hmore : Within n more) :
    Within n (if p then fields else more) := by
  split
  · exact hfields
  · exact hmore

@[simp] theorem within_text? (value : Option String) : Within n (text? name value) := by
  cases value <;> simp [text?, optional]

@[simp] theorem within_sensitivity (value : Option Sensitivity) : Within n (sensitivity value) := by
  cases value <;> simp [sensitivity, optional]

@[simp] theorem within_flag (value : Bool) : Within n (flag name value) := within_ite (by simp) within_nil

@[simp] theorem within_bound (value : UInt32) : Within n (bound name value) :=
  within_cons.2 ⟨Json.within_bound value, within_nil⟩

@[simp] theorem within_max (value : UInt32) : Within n (max value) := within_ite within_nil (within_bound value)

@[simp] theorem within_codeUnless {α : Type} [Coded α] [DecidableEq α] (usual value : α) :
    Within n (codeUnless name usual value) := within_ite within_nil (by simp)

private theorem within_node (h : Within n fields) : (node type fields).Within (n + 1) :=
  Json.within_object (within_cons.2 ⟨Json.within_str type, h⟩)

end NodeFields

open NodeFields (within_node)

/-! ### Constraints -/

namespace Filter

def nesting : Filter → Nat
  | and a b | or a b | implies a b | compare a b _ _ | equals a b _ => max a.nesting b.nesting + 1
  | not a => a.nesting + 1
  | _ => 1

private theorem within_pair {f g : Filter} {m n : Nat} (hf : f.toJson.Within (2 * m)) (hg : g.toJson.Within (2 * n)) :
    (Json.arr [f.toJson, g.toJson]).Within (2 * max m n + 1) := by
  refine Json.within_arr (List.forall_mem_cons.2 ⟨hf.mono ?_, List.forall_mem_singleton.2 (hg.mono ?_)⟩)
  · omega
  · omega

private theorem within_toJson (f : Filter) : f.toJson.Within (2 * f.nesting) := by
  induction f with
  | and a b iha ihb => exact within_node (n := 2 * max a.nesting b.nesting + 1) (by simp [within_pair iha ihb])
  | or a b iha ihb => exact within_node (n := 2 * max a.nesting b.nesting + 1) (by simp [within_pair iha ihb])
  | implies a b iha ihb => exact within_node (n := 2 * max a.nesting b.nesting + 1) (by simp [within_pair iha ihb])
  | compare a b _ _ iha ihb =>
      exact within_node (n := 2 * max a.nesting b.nesting + 1) (by simp [within_pair iha ihb])
  | equals a b _ iha ihb =>
      exact within_node (n := 2 * max a.nesting b.nesting + 1) (by simp [within_pair iha ihb])
  | not a ih => exact within_node (n := 2 * a.nesting + 1) (by simp [ih.mono (Nat.le_succ _)])
  | sameTokens a b layer s =>
      have hcaptures : (Json.arr [.str a, .str b]).Within 1 := Json.within_arr (by simp)
      exact within_node (n := 1) (by simp [hcaptures])
  | text value => exact within_node (n := 1) (by simp)
  | tokenValue capture layer => exact within_node (n := 1) (by simp)
  | tokenEquals capture layer value s => exact within_node (n := 1) (by simp)
  | call name capture => exact within_node (n := 1) (by simp)

end Filter

/-! ### Patterns -/

private theorem AttributeValue.within_toJson {v : AttributeValue} (h : v.Sound) : v.toJson.Within 1 := by
  cases v with
  | expression text => exact Json.within_str text
  | range min max =>
      refine Json.within_object (n := 0) (NodeFields.within_cons.2 ⟨Json.within_int h.1, ?_⟩)
      exact NodeFields.within_cons.2 ⟨Json.within_int h.2, NodeFields.within_nil⟩

private theorem TagPattern.within_fields {values : AttributeValue → Prop} {tag : TagPattern} (h : tag.Sound values) :
    NodeFields.Within 2 tag.fields := by
  have hattributes : (Json.obj (tag.attributes.entries.map fun e => (e.1, e.2.toJson))).Within 2 :=
    Json.within_entries fun e he => AttributeValue.within_toJson (h.attributes e he).1
  simp [TagPattern.fields, NodeFields.within_ite, hattributes]

private theorem RelationHead.within_toJson (head : RelationHead) {target : Json} {n : Nat} (h : target.Within n) :
    (head.toJson target).Within (n + 1) := within_node (by simp [h])

private theorem Json.within_offset {name : String} {m : Int} {n : Nat} (h : Text.fitsInt32 m = true) :
    NodeFields.Within n (if m = 0 then [] else [(name, .int m)]) :=
  NodeFields.within_ite NodeFields.within_nil
    (NodeFields.within_cons.2 ⟨Json.within_int (NodeReader.fitsInt64_of_fitsInt32 h), NodeFields.within_nil⟩)

namespace Pattern

def constraintNesting : Pattern → Nat
  | modify (.constrained f) _ => f.nesting
  | _ => 0

/-- How deep the constraints of a pattern are nested. -/
def deepestConstraint (p : Pattern) : Nat := (p.walk.map constraintNesting).foldr max 0

private theorem constraintNesting_le (p : Pattern) : p.constraintNesting ≤ p.deepestConstraint := by
  refine foldr_max_le_iff.1 (Nat.le_refl _) _ (List.mem_map_of_mem ?_)
  rw [walk_eq]
  exact List.mem_cons_self

private theorem deepestConstraint_le {p q : Pattern} (h : q ∈ p.children) :
    q.deepestConstraint ≤ p.deepestConstraint := by
  refine foldr_max_le_iff.2 fun m hm => ?_
  obtain ⟨y, hy, rfl⟩ := List.mem_map.1 hm
  refine foldr_max_le_iff.1 (Nat.le_refl _) _ (List.mem_map_of_mem ?_)
  rw [walk_eq]
  exact List.mem_cons_of_mem _ (List.mem_flatMap.2 ⟨q, h, hy⟩)

private theorem within_argumentsToJson {arguments : List (Argument Pattern)} {n : Nat}
    (hsound : ∀ a ∈ arguments, a.Sound) (h : ∀ a ∈ arguments, ∀ q, a.pattern? = some q → q.toJson.Within n) :
    ∀ v ∈ argumentsToJson arguments, v.Within n := by
  induction arguments with
  | nil => exact List.forall_mem_nil _
  | cons a arguments ih =>
      obtain ⟨hsound, hothers⟩ := List.forall_mem_cons.1 hsound
      have hrest := ih hothers fun b hb => h b (List.mem_cons_of_mem _ hb)
      cases a with
      | pattern q => exact List.forall_mem_cons.2 ⟨h _ List.mem_cons_self q rfl, hrest⟩
      | text s => exact List.forall_mem_cons.2 ⟨Json.within_str s, hrest⟩
      | number m => exact List.forall_mem_cons.2 ⟨Json.within_int hsound, hrest⟩

private theorem within_targetsToJson {targets : List (RelationHead × Pattern)} {n : Nat}
    (h : ∀ t ∈ targets, t.2.toJson.Within n) : ∀ v ∈ targetsToJson targets, v.Within (n + 1) := by
  rw [targetsToJson_eq, List.forall_mem_map]
  exact fun t ht => t.1.within_toJson (h t ht)

private theorem within_toJson_modify {m : Modifier} {q : Pattern} {n : Nat} (hq : q.toJson.Within n)
    (hconstraint : 2 * (modify m q).constraintNesting ≤ n) (hn : 0 < n) : (modify m q).toJson.Within (n + 1) := by
  cases m with
  | constrained f =>
      have hf : f.toJson.Within n := f.within_toJson.mono hconstraint
      exact within_node (by simp [hq, hf])
  | settings values =>
      have hvalues : (Json.obj (values.entries.map fun e => (e.1, .str e.2))).Within n :=
        (Json.within_entries (n := 0) fun e _ => Json.within_str e.2).mono hn
      exact within_node (by simp [hq, hvalues])
  | _ => exact within_node (by simp [hq])

private theorem within_toJson_node {values : AttributeValue → Prop} {p : Pattern} {n : Nat} (sound : p.NodeSound values)
    (h : ∀ q ∈ p.children, q.toJson.Within n) (hconstraint : 2 * p.constraintNesting ≤ n) :
    p.toJson.Within (n + 3) := by
  have hclause : ∀ q ∈ p.children, q.toJson.Within (n + 2) := fun q hq => (h q hq).mono (by omega)
  cases p with
  | term test => exact within_node (by simp [TokenTest.fields])
  | regex test => exact within_node (by simp [TokenTest.fields])
  | anyToken low high => exact within_node (by simp)
  | fixedSpan span => exact within_node (by simp)
  | tags tag => exact (within_node (TagPattern.within_fields sound)).mono (by omega)
  | defaultValue => exact within_node NodeFields.within_nil
  | join c clauses =>
      have hclauses : (Json.arr (allToJson clauses)).Within (n + 1) := by
        rw [allToJson_eq]
        exact Json.within_arr (List.forall_mem_map.2 h)
      exact within_node (by simp [hclauses.mono (Nat.le_succ _)])
  | modify m q =>
      exact within_toJson_modify (hclause q List.mem_cons_self) (hconstraint.trans (by omega)) (by omega)
  | positionFilter test producer filter =>
      have hproducer := hclause producer List.mem_cons_self
      have hfilter := hclause filter (List.mem_cons_of_mem _ List.mem_cons_self)
      refine within_node ?_
      simp [hproducer, hfilter, Json.within_offset sound.leading, Json.within_offset sound.trailing]
  | relationTarget head q => exact head.within_toJson (hclause q List.mem_cons_self)
  | relationMatch parent targets =>
      have hparent := hclause parent List.mem_cons_self
      have htargets : (Json.arr (targetsToJson targets)).Within (n + 2) :=
        Json.within_arr (within_targetsToJson fun t ht => h t.2 (List.mem_cons_of_mem _ (List.mem_map_of_mem ht)))
      exact within_node (by simp [hparent, htargets])
  | rootRelations targets =>
      have htargets : (Json.arr (targetsToJson targets)).Within (n + 2) :=
        Json.within_arr (within_targetsToJson fun t ht => h t.2 (List.mem_map_of_mem ht))
      exact within_node (by simp [htargets])
  | call name arguments =>
      have harguments : (Json.arr (argumentsToJson arguments)).Within (n + 1) :=
        Json.within_arr (within_argumentsToJson sound.2 fun a ha q hq => h q (List.mem_filterMap.2 ⟨a, ha, hq⟩))
      exact within_node (by simp [harguments.mono (Nat.le_succ _)])

private theorem WellFormed.within_toJson {values : AttributeValue → Prop} {p : Pattern} (h : p.WellFormed values) :
    p.toJson.Within (3 * p.nesting + 2 * p.deepestConstraint) := by
  induction h with
  | @node p sound _ ih =>
      obtain ⟨n, hn⟩ : ∃ n, p.nesting = n + 1 := Nat.exists_eq_succ_of_ne_zero (Nat.ne_of_gt p.nesting_pos)
      have hchildren : ∀ q ∈ p.children, q.toJson.Within (3 * n + 2 * p.deepestConstraint) := by
        intro q hq
        have hnesting := nesting_le_succ_iff.1 (Nat.le_of_eq hn) q hq
        have hdeepest := deepestConstraint_le hq
        exact (ih q hq).mono (by omega)
      have hconstraint := p.constraintNesting_le
      exact (within_toJson_node sound hchildren (by omega)).mono (by omega)

private theorem depth_lt_relationHead (head : RelationHead) (q : Pattern) :
    q.toJson.depth < (head.toJson q.toJson).depth := by
  rw [RelationHead.toJson]
  exact NodeFields.depth_lt_node (show "clause" ≠ "type" by decide) (by simp)

private theorem depth_lt_of_mem_targets {targets : List (RelationHead × Pattern)} {type : String} {fields : NodeFields}
    {q : Pattern} (h : q ∈ targets.map Prod.snd) (hv : fields.get? "children" = some (.arr (targetsToJson targets))) :
    q.toJson.depth < (NodeFields.node type fields).depth := by
  obtain ⟨t, ht, rfl⟩ := List.mem_map.1 h
  have hmem : t.1.toJson t.2.toJson ∈ targetsToJson targets := by
    rw [targetsToJson_eq]
    exact List.mem_map_of_mem ht
  have hlt := depth_lt_relationHead t.1 t.2
  have htarget : (t.1.toJson t.2.toJson).depth + 1 < (NodeFields.node type fields).depth :=
    NodeFields.depth_lt_node_of_mem (by decide) hv hmem
  omega

private theorem depth_lt_of_mem_children {p q : Pattern} (h : q ∈ p.children) : q.toJson.depth < p.toJson.depth := by
  cases p with
  | term test => cases h
  | regex test => cases h
  | anyToken low high => cases h
  | fixedSpan span => cases h
  | tags tag => cases h
  | defaultValue => cases h
  | join c clauses =>
      have hmem : q.toJson ∈ allToJson clauses := by
        rw [allToJson_eq]
        exact List.mem_map_of_mem h
      exact Nat.lt_of_succ_lt (NodeFields.depth_lt_node_of_mem (show "clauses" ≠ "type" by decide) (by simp) hmem)
  | modify m clause =>
      obtain rfl := List.mem_singleton.1 h
      cases m <;> exact NodeFields.depth_lt_node (show "clause" ≠ "type" by decide) (by simp)
  | positionFilter test producer filter =>
      rcases List.mem_pair.1 h with rfl | rfl
      · exact NodeFields.depth_lt_node (show "producer" ≠ "type" by decide) (by simp)
      · exact NodeFields.depth_lt_node (show "filter" ≠ "type" by decide) (by simp)
  | relationTarget head target =>
      obtain rfl := List.mem_singleton.1 h
      exact depth_lt_relationHead head q
  | relationMatch parent targets =>
      rcases List.mem_cons.1 h with rfl | h
      · exact NodeFields.depth_lt_node (show "parent" ≠ "type" by decide) (by simp)
      · exact depth_lt_of_mem_targets h (by simp)
  | rootRelations targets => exact depth_lt_of_mem_targets h (by simp)
  | call name arguments =>
      obtain ⟨a, ha, hq⟩ := List.mem_filterMap.1 h
      have hmem := mem_argumentsToJson ha hq
      exact Nat.lt_of_succ_lt (NodeFields.depth_lt_node_of_mem (show "args" ≠ "type" by decide) (by simp) hmem)

private theorem nesting_le_depth (p : Pattern) : p.nesting ≤ p.toJson.depth := by
  induction p using children_induction with
  | step p ih =>
      obtain ⟨n, hn⟩ : ∃ n, p.toJson.depth = n + 1 := by
        obtain ⟨fields, hfields⟩ := exists_toJson_eq_obj p
        exact ⟨_, by rw [hfields, Json.depth]⟩
      rw [hn, nesting_le_succ_iff]
      intro q hq
      have hlt := depth_lt_of_mem_children hq
      exact (ih q hq).trans (by omega)

/--
A pattern whose attribute ranges are ordered is read back from its text if the text is nested as deep as text may be,
and is not read otherwise. A level of the pattern takes one to three levels of the text, a level of a constraint at most
two.
-/
theorem ofText_toText_eq {p : Pattern} (h : p.Made AttributeValue.Ordered) :
    ofText p.toText = (if p.toJson.depth ≤ Json.queryDepth then .ok p else .error .malformedJson) ∧
      p.nesting ≤ p.toJson.depth ∧ p.toJson.depth ≤ 3 * p.nesting + 2 * p.deepestConstraint := by
  have hwell := wellFormed_of_made_ordered h
  obtain ⟨hplain, hdepth⟩ := hwell.within_toJson
  refine ⟨?_, p.nesting_le_depth, hdepth⟩
  rw [ofText, toText, Json.readWithin_write hplain]
  by_cases hlimit : p.toJson.depth ≤ Json.queryDepth
  · rw [if_pos hlimit, if_pos hlimit]
    exact hwell.ofJson_toJson
  · rw [if_neg hlimit, if_neg hlimit]

/-! ### Nested captures -/

def nestedCaptures : Nat → Pattern
  | 0 => .term ⟨"fox", none, some .sensitive⟩
  | n + 1 => .modify (.capture "A") (nestedCaptures n)

private theorem made_nestedCaptures (n : Nat) : (nestedCaptures n).Made AttributeValue.Ordered := by
  induction n with
  | zero => exact .term _
  | succ n ih =>
      have hbuild : Build.capture (nestedCaptures n) "A" = .ok (nestedCaptures (n + 1)) := rfl
      exact .capture ih hbuild

private theorem lt_depth_nestedCaptures (n : Nat) : n < (nestedCaptures n).toJson.depth := by
  induction n with
  | zero => decide
  | succ n ih => exact Nat.lt_of_le_of_lt ih (depth_lt_of_mem_children List.mem_cons_self)

open Planner in
private theorem run_nestedCaptures {n depth : Nat} (h : n ≤ depth) (names : CaptureNames) :
    ∃ plan, (standard.planWithin (depth + 1) wordContext (nestedCaptures n)).run names = .ok (plan, names) := by
  induction n generalizing depth with
  | zero => exact ⟨.term "contents%word@s" "fox", rfl⟩
  | succ n ih =>
      obtain ⟨depth, rfl⟩ : ∃ d, depth = d + 1 := ⟨depth - 1, by omega⟩
      obtain ⟨plan, hplan⟩ := ih (Nat.le_of_succ_le_succ h)
      refine ⟨.modify (.capture "A") plan, ?_⟩
      rw [planWithin_of_simplest rfl]
      show (standard.planWithin (depth + 1) wordContext (nestedCaptures n)).run names >>= _ = _
      rw [hplan]
      rfl

open Planner in
private theorem plan_nestedCaptures {n : Nat} (h : n < Limits.standard.patternDepth) :
    ∃ plan, standard.plan wordContext (nestedCaptures n) = .ok plan := by
  obtain ⟨plan, hplan⟩ := run_nestedCaptures (Nat.le_of_lt_succ h)
    ((nestedCaptures n).captureNames.foldl CaptureNames.reserve CaptureNames.empty)
  refine ⟨plan, ?_⟩
  rw [Planner.plan]
  show (standard.planWithin (249 + 1) wordContext (nestedCaptures n)).run _ >>= _ = _
  rw [hplan]
  rfl

open Planner in
/-- Half as many captures as a pattern may be nested deep are too many for its text. -/
theorem ofText_toText_eq_nestedCaptures :
    let x := nestedCaptures 127
    x.Made AttributeValue.Ordered ∧ (∃ plan, standard.plan wordContext x = .ok plan) ∧
      ofText x.toText = .error .malformedJson ∧ x.nesting ≤ x.toJson.depth := by
  intro x
  have hx : x.Made AttributeValue.Ordered := made_nestedCaptures 127
  obtain ⟨htext, hnesting, -⟩ := ofText_toText_eq hx
  refine ⟨hx, plan_nestedCaptures (by decide), ?_, hnesting⟩
  exact htext.trans (if_neg (Nat.not_le.2 (lt_depth_nestedCaptures 127)))

end Pattern

end CorpusSearch
