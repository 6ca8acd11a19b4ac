import CorpusSearch.Filter.Json
import CorpusSearch.Proofs.NodeFields

/-!
Filters read back from the JSON that they are written as. Main statement: reading gives every filter back.
-/

set_option autoImplicit false

namespace CorpusSearch

instance : LawfulCoded Comparison := ⟨fun x => by cases x <;> rfl⟩

namespace Filter

open NodeReader

/-- Reading gives a filter back if it looks as deep as the JSON of the filter is nested. -/
def ReadsBack (f : Filter) : Prop :=
  ∀ fuel, f.toJson.depth < fuel → ofJsonWithin fuel f.toJson = .ok f

theorem ReadsBack.of_succ {f : Filter}
    (h : ∀ fuel, f.toJson.depth ≤ fuel → ofJsonWithin (fuel + 1) f.toJson = .ok f) : f.ReadsBack := by
  intro fuel hfuel
  cases fuel with
  | zero => omega
  | succ fuel => exact h fuel (Nat.le_of_lt_succ hfuel)

section Clauses

variable {type : String} {fields : NodeFields} {fuel : Nat} {a b : Filter}

private theorem readClauses_ofNode (hv : fields.get? "clauses" = some (.arr [a.toJson, b.toJson]))
    (iha : a.ReadsBack) (ihb : b.ReadsBack) (h : (NodeFields.node type fields).depth ≤ fuel) :
    readClauses (ofJsonWithin fuel) (ofNode type fields) = .ok (a, b) := by
  have ha : a.toJson.depth + 1 < (NodeFields.node type fields).depth :=
    NodeFields.depth_lt_node_of_mem (by decide) hv List.mem_cons_self
  have hb : b.toJson.depth + 1 < (NodeFields.node type fields).depth :=
    NodeFields.depth_lt_node_of_mem (by decide) hv (List.mem_cons_of_mem _ List.mem_cons_self)
  rw [readClauses, pair_ofNode (by decide) hv]
  simp only [Result.ok_bind, Result.pure_eq_ok, iha fuel (by omega), ihb fuel (by omega)]

end Clauses

theorem readsBack (f : Filter) : f.ReadsBack := by
  refine .of_succ ?_
  induction f with
  | and a b iha ihb =>
      intro fuel h
      rw [toJson, ofJsonWithin, ofJson_node (by simp), Result.ok_bind,
        readClauses_ofNode (by simp) (.of_succ iha) (.of_succ ihb) h]
      rfl
  | or a b iha ihb =>
      intro fuel h
      rw [toJson, ofJsonWithin, ofJson_node (by simp), Result.ok_bind,
        readClauses_ofNode (by simp) (.of_succ iha) (.of_succ ihb) h]
      rfl
  | implies a b iha ihb =>
      intro fuel h
      rw [toJson, ofJsonWithin, ofJson_node (by simp), Result.ok_bind,
        readClauses_ofNode (by simp) (.of_succ iha) (.of_succ ihb) h]
      rfl
  | not a iha =>
      intro fuel h
      have ha : a.toJson.depth < (toJson (.not a)).depth :=
        NodeFields.depth_lt_node (by decide)
          (show NodeFields.get? "clause" [("clause", a.toJson)] = some a.toJson by simp)
      have hread := ReadsBack.of_succ iha fuel (by omega)
      rw [toJson, ofJsonWithin, ofJson_node (by simp), Result.ok_bind]
      show ((ofNode "mf-not" [("clause", a.toJson)]).value "clause" >>= _) = _
      rw [value_ofNode (by decide) (v := a.toJson) (by simp), Result.ok_bind, hread]
      rfl
  | compare a b operator s iha ihb =>
      intro fuel h
      rw [toJson, ofJsonWithin, ofJson_node (by simp), Result.ok_bind,
        readClauses_ofNode (by simp) (.of_succ iha) (.of_succ ihb) h]
      show ((ofNode "mf-compare" _).str "operation" >>= _) = _
      rw [str_ofNode (by decide) (s := Coded.code operator) (by simp), Result.ok_bind,
        LawfulCoded.ofCode?_code]
      show ((ofNode "mf-compare" _).sensitivity >>= _) = _
      rw [sensitivity_ofNode (s := s) (by simp)]
      rfl
  | equals a b s iha ihb =>
      intro fuel h
      rw [toJson, ofJsonWithin, ofJson_node (by simp), Result.ok_bind,
        readClauses_ofNode (by simp) (.of_succ iha) (.of_succ ihb) h]
      show ((ofNode "mf-equals" _).sensitivity >>= _) = _
      rw [sensitivity_ofNode (s := s) (by simp)]
      rfl
  | sameTokens a b layer s =>
      intro fuel h
      rw [toJson, ofJsonWithin, ofJson_node (by simp), Result.ok_bind]
      show ((ofNode "mf-token-annotation-equal" _).pair "captures" >>= _) = _
      rw [pair_ofNode (by decide) (a := .str a) (b := .str b) (by simp)]
      show ((ofNode "mf-token-annotation-equal" _).str "annotation" >>= _) = _
      rw [str_ofNode (by decide) (s := layer) (by simp), Result.ok_bind,
        sensitivity_ofNode (s := s) (by simp)]
      rfl
  | text value =>
      intro fuel h
      rw [toJson, ofJsonWithin, ofJson_node (by simp), Result.ok_bind]
      show ((ofNode "mf-string" _).str "value" >>= _) = _
      rw [str_ofNode (by decide) (s := value) (by simp)]
      rfl
  | tokenValue capture layer =>
      intro fuel h
      rw [toJson, ofJsonWithin, ofJson_node (by simp), Result.ok_bind]
      show ((ofNode "mf-token-annotation" _).str "capture" >>= _) = _
      rw [str_ofNode (by decide) (s := capture) (by simp), Result.ok_bind,
        str_ofNode (by decide) (s := layer) (by simp)]
      rfl
  | tokenEquals capture layer value s =>
      intro fuel h
      rw [toJson, ofJsonWithin, ofJson_node (by simp), Result.ok_bind]
      show ((ofNode "mf-token-annotation-string" _).str "capture" >>= _) = _
      rw [str_ofNode (by decide) (s := capture) (by simp), Result.ok_bind,
        str_ofNode (by decide) (s := layer) (by simp), Result.ok_bind,
        str_ofNode (by decide) (s := value) (by simp), Result.ok_bind,
        sensitivity_ofNode (s := s) (by simp)]
      rfl
  | call name capture =>
      intro fuel h
      rw [toJson, ofJsonWithin, ofJson_node (by simp), Result.ok_bind]
      show ((ofNode "mf-callfunc" _).str "name" >>= _) = _
      rw [str_ofNode (by decide) (s := name) (by simp), Result.ok_bind,
        str_ofNode (by decide) (s := capture) (by simp)]
      rfl

theorem ofJson_toJson (f : Filter) : ofJson f.toJson = .ok f :=
  readsBack f _ (Nat.lt_succ_self _)

end Filter

end CorpusSearch
