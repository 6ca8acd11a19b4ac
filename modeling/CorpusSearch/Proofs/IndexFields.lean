import CorpusSearch.Context
import CorpusSearch.Evaluation
import CorpusSearch.Proofs.NodeFields

/-!
Index field names, taken apart again. Main statement: the name of every index field that a context can ask for
splits, and ends in the code of a sensitivity.
-/

set_option autoImplicit false

namespace CorpusSearch

open Result (Succeeds)

namespace Text

private theorem dropStart?_single (separator c : Char) (text : List Char) :
    dropStart? [separator] (c :: text) = if separator = c then some text else none := by
  rw [dropStart?]
  rfl

private theorem splitFirst?_append (separator : Char) (before after : List Char) :
    ∃ first rest, splitFirst? [separator] (before ++ separator :: after) = some (first, rest ++ after) := by
  induction before with
  | nil => exact ⟨[], [], by simp [splitFirst?, dropStart?_single]⟩
  | cons c before ih =>
      by_cases hc : separator = c
      · exact ⟨[], before ++ [separator], by simp [splitFirst?, dropStart?_single, hc]⟩
      · obtain ⟨first, rest, hsplit⟩ := ih
        exact ⟨c :: first, rest, by simp [splitFirst?, dropStart?_single, hc, hsplit]⟩

private theorem splitFirst?_append_of_not_mem {separator : Char} {before : List Char} (h : separator ∉ before)
    (after : List Char) :
    splitFirst? [separator] (before ++ separator :: after) = some (before, after) := by
  induction before with
  | nil => simp [splitFirst?, dropStart?_single]
  | cons c before ih =>
      rw [List.mem_cons, not_or] at h
      simp [splitFirst?, dropStart?_single, h.1, ih h.2]

theorem splitLast?_none {separator : Char} {after : List Char} (h : separator ∉ after) :
    splitLast? [separator] after = none := by
  induction after with
  | nil => rfl
  | cons c after ih =>
      rw [List.mem_cons, not_or] at h
      simp [splitLast?, dropStart?_single, ih h.2, h.1]

theorem splitLast?_append {separator : Char} {after : List Char} (before : List Char)
    (h : separator ∉ after) :
    splitLast? [separator] (before ++ separator :: after) = some (before, after) := by
  induction before with
  | nil => simp [splitLast?, splitLast?_none h, dropStart?_single]
  | cons c before ih => simp [splitLast?, ih]

end Text

private theorem Sensitivity.separator_not_mem_code (s : Sensitivity) :
    FieldName.sensitivitySeparator ∉ (Coded.code s).toList := by
  cases s <;> decide

theorem FieldName.toList_indexField (field layer : String) (s : Sensitivity) :
    (indexField field layer s).toList = field.toList ++ layerSeparator ::
      (layer.toList ++ sensitivitySeparator :: (Coded.code s).toList) := by
  simp [indexField]

private theorem FieldName.splitIndexField?_indexField (field layer : String) (s : Sensitivity) :
    ∃ first second, splitIndexField? (indexField field layer s) = some (first, second, Coded.code s) := by
  have hfirst := Text.splitFirst?_append layerSeparator field.toList
    (layer.toList ++ sensitivitySeparator :: (Coded.code s).toList)
  obtain ⟨first, rest, hfirst⟩ := hfirst
  have hlast := Text.splitLast?_append (rest ++ layer.toList) s.separator_not_mem_code
  rw [List.append_assoc] at hlast
  refine ⟨String.ofList first, String.ofList (rest ++ layer.toList), ?_⟩
  simp only [splitIndexField?, toList_indexField, hfirst, hlast, bind, Option.bind, pure, String.ofList_toList]

private theorem FieldName.splitIndexField?_of_not_mem {field : String} (h : layerSeparator ∉ field.toList)
    (layer : String) (s : Sensitivity) :
    splitIndexField? (indexField field layer s) = some (field, layer, Coded.code s) := by
  have hfirst := Text.splitFirst?_append_of_not_mem h
    (layer.toList ++ sensitivitySeparator :: (Coded.code s).toList)
  have hlast := Text.splitLast?_append layer.toList s.separator_not_mem_code
  simp only [splitIndexField?, toList_indexField, hfirst, hlast, bind, Option.bind, pure, String.ofList_toList]

theorem Document.readIndexField_of_not_mem {field : String} (h : FieldName.layerSeparator ∉ field.toList)
    (layer : String) (s : Sensitivity) :
    readIndexField (FieldName.indexField field layer s) = .ok (field, layer, s) := by
  rw [readIndexField, FieldName.splitIndexField?_of_not_mem h]
  simp [Coded.ofCode, LawfulCoded.ofCode?_code]

theorem Context.readIndexField_of_sensitivity {c : Context} {s : Sensitivity} {name : String}
    (hs : c.sensitivity = .ok s) (h : c.indexField = .ok name) :
    ∃ field layer, Document.readIndexField name = .ok (field, layer, s) := by
  obtain ⟨s', hs', hname⟩ := Result.bind_eq_ok.1 h
  obtain rfl := Except.ok.inj (hs.symm.trans hs')
  obtain rfl := Except.ok.inj hname
  obtain ⟨field, layer, hsplit⟩ := FieldName.splitIndexField?_indexField c.fieldName c.layer s
  refine ⟨field, layer, ?_⟩
  rw [Document.readIndexField, hsplit]
  simp [Coded.ofCode, LawfulCoded.ofCode?_code]

theorem Context.usable_indexField {c : Context} {name : String} (h : c.indexField = .ok name) :
    Succeeds (Document.readIndexField name) := by
  obtain ⟨s, hs, -⟩ := Result.bind_eq_ok.1 h
  obtain ⟨field, layer, hread⟩ := readIndexField_of_sensitivity hs h
  exact ⟨_, hread⟩

end CorpusSearch
