import CorpusSearch.Json.Node
import CorpusSearch.Proofs.Result
import CorpusSearch.Sensitivity
import CorpusSearch.Span

/-!
The fields of a node, read back as they were written. Main statements: reading the object of a node looks each
field up among the fields that it was written from, and a field that is left out for its usual value is read as
that value.
-/

set_option autoImplicit false

namespace CorpusSearch

class LawfulCoded (α : Type) [Coded α] : Prop where
  ofCode?_code : ∀ x : α, Coded.ofCode? (Coded.code x) = some x

instance : LawfulCoded Sensitivity := ⟨fun x => by cases x <;> rfl⟩

instance : LawfulCoded PositionOperation := ⟨fun x => by cases x <;> rfl⟩

instance : LawfulCoded ExpansionDirection := ⟨fun x => by cases x <;> rfl⟩

instance : LawfulCoded TagAdjust := ⟨fun x => by cases x <;> rfl⟩

instance : LawfulCoded RelationDirection := ⟨fun x => by cases x <;> rfl⟩

instance : LawfulCoded SpanMode := ⟨fun x => by cases x <;> rfl⟩

/-! ### Fields -/

namespace NodeFields

/-- The value of a field; of fields with one name the last counts. -/
def get? (name : String) : NodeFields → Option Json
  | [] => none
  | (n, v) :: rest => (get? name rest).or (if name = n then some v else none)

variable {name other : String} {fields : NodeFields}

theorem get?_foldl_insert (entries : List (String × Json)) :
    Entries.get? name (fields.foldl (fun m f => Entries.insert f.1 f.2 m) entries) =
      (get? name fields).or (Entries.get? name entries) := by
  induction fields generalizing entries with
  | nil => simp [get?]
  | cons f rest ih =>
      rw [List.foldl_cons, ih, Entries.get?_insert]
      by_cases h : name = f.1 <;> simp [get?, h]

@[simp] theorem get?_nil : get? name [] = none := rfl

@[simp] theorem get?_cons (value : Json) :
    get? name ((other, value) :: fields) =
      (get? name fields).or (if name = other then some value else none) := rfl

@[simp] theorem get?_append (more : NodeFields) :
    get? name (fields ++ more) = (get? name more).or (get? name fields) := by
  induction fields with
  | nil => simp
  | cons f rest ih =>
      obtain ⟨n, v⟩ := f
      simp [ih, Option.or_assoc]

@[simp] theorem get?_optional (value : Option Json) :
    get? name (optional other value) = if name = other then value else none := by
  cases value <;> simp [optional]

@[simp] theorem get?_text? (value : Option String) :
    get? name (text? other value) = if name = other then value.map .str else none := by
  simp [text?]

@[simp] theorem get?_sensitivity (value : Option Sensitivity) :
    get? name (sensitivity value) =
      if name = "sensitivity" then value.map fun s => .str (Coded.code s) else none := by
  simp [sensitivity]

@[simp] theorem get?_flag (value : Bool) :
    get? name (flag other value) = if name = other ∧ value = true then some (.bool true) else none := by
  cases value <;> simp [flag]

@[simp] theorem get?_bound (value : UInt32) :
    get? name (bound other value) =
      if name = other then some (.int (Int.ofNat value.toNat)) else none := by
  simp [bound]

@[simp] theorem get?_max (value : UInt32) :
    get? name (max value) =
      if name = "max" ∧ value ≠ Bound.unlimited then some (.int (Int.ofNat value.toNat)) else none := by
  unfold max
  split <;> simp [*]

@[simp] theorem get?_codeUnless {α : Type} [Coded α] [DecidableEq α] (usual value : α) :
    get? name (codeUnless other usual value) =
      if name = other ∧ value ≠ usual then some (.str (Coded.code value)) else none := by
  unfold codeUnless
  split <;> simp [*]

@[simp] theorem get?_ite {c : Prop} [Decidable c] (more : NodeFields) :
    get? name (if c then fields else more) = if c then get? name fields else get? name more := by
  split <;> rfl

end NodeFields

/-! ### Reading a node that was written -/

def NodeReader.ofNode (type : String) (fields : NodeFields) : NodeReader :=
  ⟨type, (("type", Json.str type) :: fields).foldl (fun m f => Entries.insert f.1 f.2 m) []⟩

namespace NodeReader

variable {type name : String} {fields : NodeFields}

theorem ofJson_node (h : fields.get? "type" = none) :
    ofJson (NodeFields.node type fields) = .ok (ofNode type fields) := by
  have htype : Entries.get? "type" (ofNode type fields).fields = some (.str type) := by
    rw [ofNode, NodeFields.get?_foldl_insert]
    simp [h, Entries.get?]
  unfold ofNode at htype
  unfold ofJson NodeFields.node Json.object
  simp only [htype, Option.bind_some, Json.str?]
  rfl

private theorem get?_ofNode (h : name ≠ "type") :
    Entries.get? name (ofNode type fields).fields = fields.get? name := by
  rw [ofNode, NodeFields.get?_foldl_insert]
  simp [h, Entries.get?]

theorem value_ofNode (h : name ≠ "type") {v : Json} (hv : fields.get? name = some v) :
    (ofNode type fields).value name = .ok v := by
  rw [value, get?_ofNode h, hv]

theorem value?_ofNode (h : name ≠ "type") :
    (ofNode type fields).value? name = (fields.get? name).filter fun v => !v.isNull := by
  rw [value?, get?_ofNode h]

theorem str_ofNode (h : name ≠ "type") {s : String} (hs : fields.get? name = some (.str s)) :
    (ofNode type fields).str name = .ok s := by
  rw [str, value_ofNode h hs]
  rfl

theorem str?_ofNode (h : name ≠ "type") {s : Option String} (hs : fields.get? name = s.map .str) :
    (ofNode type fields).str? name = .ok s := by
  rw [str?, value?_ofNode h, hs]
  cases s <;> rfl

theorem arr_ofNode (h : name ≠ "type") {l : List Json} (hl : fields.get? name = some (.arr l)) :
    (ofNode type fields).arr name = .ok l := by
  rw [arr, value_ofNode h hl]
  rfl

theorem pair_ofNode (h : name ≠ "type") {a b : Json} (hv : fields.get? name = some (.arr [a, b])) :
    (ofNode type fields).pair name = .ok (a, b) := by
  rw [pair, arr_ofNode h hv]
  rfl

theorem flag_ofNode (h : name ≠ "type") {b : Bool}
    (hb : fields.get? name = if b = true then some (.bool true) else none) :
    (ofNode type fields).flag name = .ok b := by
  rw [flag, value?_ofNode h, hb]
  cases b <;> rfl

theorem bool_ofNode (h : name ≠ "type") {b : Bool} (hb : fields.get? name = some (.bool b)) :
    (ofNode type fields).flag name = .ok b := by
  rw [flag, value?_ofNode h, hb]
  rfl

theorem int64?_of_fits {n : Int} (h : Text.fitsInt64 n = true) : (Json.int n).int64? = some n := by
  have hfits : (-9223372036854775808 ≤ n && n ≤ 9223372036854775807) = true := h
  rw [Json.int64?, if_pos]
  simpa using hfits

theorem fitsInt64_of_fitsInt32 {n : Int} (h : Text.fitsInt32 n = true) : Text.fitsInt64 n = true := by
  simp only [Text.fitsInt32, Text.fitsInt64, Bool.and_eq_true, decide_eq_true_eq] at h ⊢
  omega

variable (r : NodeReader)

theorem int_of_fits {n : Int} (h : Text.fitsInt64 n = true) : r.int name (.int n) = .ok n := by
  rw [int, int64?_of_fits h]
  rfl

theorem bound_toNat (n : UInt32) : r.bound name (.int (Int.ofNat n.toNat)) = .ok n := by
  have hlt : n.toNat < 4294967296 := n.toNat_lt
  have hfits : Text.fitsInt64 (Int.ofNat n.toNat) = true := by
    simp only [Text.fitsInt64, Bool.and_eq_true, decide_eq_true_eq, Int.ofNat_eq_natCast]
    omega
  rw [bound, int_of_fits r hfits]
  simp only [Result.ok_bind, Int.ofNat_eq_natCast]
  rw [if_neg (by omega), if_pos (by omega)]
  simp

theorem decode_code {α : Type} [Coded α] [LawfulCoded α] (x : α) :
    r.decode α (Coded.code x) = .ok x := by
  rw [decode, LawfulCoded.ofCode?_code]

variable {r}

theorem min_ofNode {n : UInt32} (hn : fields.get? "min" = some (.int (Int.ofNat n.toNat))) :
    (ofNode type fields).min = .ok n := by
  rw [min, value_ofNode (by decide) hn]
  exact bound_toNat _ n

theorem max_ofNode {n : UInt32}
    (hn : fields.get? "max" = if n ≠ Bound.unlimited then some (.int (Int.ofNat n.toNat)) else none) :
    (ofNode type fields).max = .ok n := by
  rw [max, value?_ofNode (by decide), hn]
  by_cases h : n = Bound.unlimited
  · simp [h]
  · rw [if_pos h]
    exact bound_toNat _ n

theorem offset_ofNode (h : name ≠ "type") {n : Int} (hfits : Text.fitsInt32 n = true)
    (hn : fields.get? name = if n = 0 then none else some (.int n)) :
    (ofNode type fields).offset name = .ok n := by
  rw [offset, value?_ofNode h, hn]
  by_cases hzero : n = 0
  · simp [hzero]
  · rw [if_neg hzero]
    show ((ofNode type fields).int name (.int n) >>= _) = _
    rw [int_of_fits _ (fitsInt64_of_fitsInt32 hfits), Result.ok_bind, if_pos hfits]
    rfl

theorem code_ofNode {α : Type} [Coded α] [LawfulCoded α] (h : name ≠ "type") {x : α}
    (hx : fields.get? name = some (.str (Coded.code x))) : (ofNode type fields).code α name = .ok x := by
  rw [code, str_ofNode h hx]
  exact decode_code _ x

theorem codeOr_ofNode {α : Type} [Coded α] [LawfulCoded α] [DecidableEq α] (h : name ≠ "type")
    {usual x : α} (hx : fields.get? name = if x ≠ usual then some (.str (Coded.code x)) else none) :
    (ofNode type fields).codeOr name usual = .ok x := by
  by_cases hu : x = usual
  · rw [codeOr, str?_ofNode h (s := none) (by simp [hx, hu])]
    simp [hu]
  · rw [codeOr, str?_ofNode h (s := some (Coded.code x)) (by simp [hx, hu])]
    exact decode_code _ x

theorem sensitivity_ofNode {s : Option Sensitivity}
    (hs : fields.get? "sensitivity" = s.map fun s => .str (Coded.code s)) :
    (ofNode type fields).sensitivity = .ok s := by
  rw [sensitivity, str?_ofNode (by decide) (s := s.map Coded.code) (by simp [hs, Function.comp_def])]
  cases s with
  | none => rfl
  | some s =>
      show ((ofNode type fields).decode Sensitivity (Coded.code s) >>= _) = _
      rw [decode_code]
      rfl

end NodeReader

/-! ### Depth -/

namespace Json

private theorem depth_le_of_get? {name : String} {v : Json} {entries : List (String × Json)}
    (h : Entries.get? name entries = some v) : v.depth ≤ fieldsDepth entries := by
  induction entries with
  | nil => simp [Entries.get?] at h
  | cons e rest ih =>
      obtain ⟨n, w⟩ := e
      rw [Entries.get?] at h
      rw [fieldsDepth]
      split at h
      · obtain rfl := Option.some.inj h
        exact Nat.le_max_left _ _
      · exact Nat.le_trans (ih h) (Nat.le_max_right _ _)

private theorem depth_le_of_mem {v : Json} {items : List Json} (h : v ∈ items) :
    v.depth ≤ itemsDepth items := by
  induction items with
  | nil => simp at h
  | cons w items ih =>
      rw [itemsDepth]
      rcases List.mem_cons.1 h with rfl | h
      · exact Nat.le_max_left _ _
      · exact Nat.le_trans (ih h) (Nat.le_max_right _ _)

end Json

namespace NodeFields

variable {type name : String} {fields : NodeFields}

/-- What stands in a field is nested less deep than the node. -/
theorem depth_lt_node (h : name ≠ "type") {v : Json} (hv : fields.get? name = some v) :
    v.depth < (node type fields).depth := by
  have hget : Entries.get? name (NodeReader.ofNode type fields).fields = some v := by
    rw [NodeReader.get?_ofNode h, hv]
  exact Nat.lt_succ_of_le (Json.depth_le_of_get? hget)

theorem depth_lt_node_of_mem (h : name ≠ "type") {items : List Json}
    (hv : fields.get? name = some (.arr items)) {v : Json} (hmem : v ∈ items) :
    v.depth + 1 < (node type fields).depth := by
  have hitems : v.depth + 1 ≤ (Json.arr items).depth :=
    Nat.succ_le_succ (Json.depth_le_of_mem hmem)
  exact Nat.lt_of_le_of_lt hitems (depth_lt_node h hv)

end NodeFields

end CorpusSearch
