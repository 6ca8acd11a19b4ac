import CorpusSearch.Proofs.FieldVersions
import CorpusSearch.Proofs.RelationHits
import CorpusSearch.Proofs.VisitedNodes

/-!
What is read back of the name of an index field. The name is cut at its first layer separator and at its last
sensitivity separator, so that a layer may have both of them in its own name. Main statement: a name is read as the
field, the layer and the sensitivity that it was made of, and as nothing else; the tokens that are looked at are those
of this field and their values in this layer; and the names in a plan are read as what the query resolves to.
-/

set_option autoImplicit false

namespace CorpusSearch

variable {field layer name code : String} {s : Sensitivity}

private theorem Coded.code_of_ofCode? {α : Type} [Coded α] {text : String} {a : α}
    (h : (ofCode? text : Option α) = some a) : Coded.code a = text := by
  have hcode := List.find?_some h
  exact beq_iff_eq.1 hcode

namespace FieldName

private theorem toList_of_splitIndexField? (h : splitIndexField? name = some (field, layer, code)) :
    name.toList = field.toList ++ layerSeparator :: (layer.toList ++ sensitivitySeparator :: code.toList) := by
  obtain ⟨⟨before, rest⟩, hfirst, h⟩ := Option.bind_eq_some_iff.1 h
  obtain ⟨⟨within, after⟩, hlast, h⟩ := Option.bind_eq_some_iff.1 h
  simp only [pure, Option.some.injEq, Prod.mk.injEq] at h
  obtain ⟨rfl, rfl, rfl⟩ := h
  rw [Text.eq_append_of_splitFirst? hfirst, (Text.splitLast?_eq_some_iff.1 hlast).1]
  simp

end FieldName

namespace Document

private theorem eq_indexField_of_readIndexField (h : readIndexField name = .ok (field, layer, s)) :
    name = FieldName.indexField field layer s := by
  rw [readIndexField] at h
  split at h
  · cases h
  · rename_i field layer code hsplit
    obtain ⟨s, hs, h⟩ := Result.bind_eq_ok.1 h
    obtain ⟨rfl, rfl, rfl⟩ := h
    rw [Coded.ofCode] at hs
    split at hs
    · rename_i hcode
      obtain rfl := Except.ok.inj hs
      rw [← String.toList_inj, FieldName.toList_indexField, Coded.code_of_ofCode? hcode]
      exact FieldName.toList_of_splitIndexField? hsplit
    · cases hs

end Document

namespace Context

variable {c moved : Context}

/-- Whether a name is read as the field, the layer and the sensitivity in which a context searches. -/
def ReadBack (c : Context) (name : String) : Prop :=
  ∃ s, c.sensitivity = .ok s ∧ Document.readIndexField name = .ok (c.fieldName, c.layer, s)

private theorem readBack_of_indexField (hname : FieldName.layerSeparator ∉ c.fieldName.toList)
    (h : c.indexField = .ok name) : c.ReadBack name := by
  obtain ⟨s, hs, h⟩ := Result.bind_eq_ok.1 h
  obtain rfl := Except.ok.inj h
  exact ⟨s, hs, Document.readIndexField_of_not_mem hname c.layer s⟩

private theorem fieldName_of_withRelations (h : c.withRelations = .ok moved) : moved.fieldName = c.fieldName := by
  obtain ⟨_, _, h⟩ := Result.bind_eq_ok.1 h
  split at h
  · obtain rfl := Except.ok.inj h
    rfl
  · cases h

end Context

namespace Planner

variable {p : Planner} {c : Context} {x : Pattern} {plan : Plan}

private theorem values_of_mem_mentions (hfunctions : p.extensions.Name Context.Names) (hplan : p.plan c x = .ok plan)
    (h : .values name ∈ plan.mentions) : ∃ d test requested e,
      (p.Visits c x d (.term test) ∨ p.Visits c x d (.regex test)) ∧
        d.withLayerAndSensitivity test.layer (some requested) = .ok e ∧ e.indexField = .ok name := by
  obtain ⟨d, y, hvisits, hnames⟩ := exists_visits_of_mem_mentions hfunctions hplan h
  cases hnames with
  | value requested hy hmoved hindex =>
      refine ⟨d, _, requested, _, ?_, Result.bind_eq_ok.2 ⟨_, hmoved, rfl⟩, hindex⟩
      rcases hy with rfl | rfl
      · exact .inl hvisits
      · exact .inr hvisits
  | context _ hm => cases hm
  | call hm => cases hm

private theorem relations_of_mem_mentions (hfunctions : p.extensions.Name Context.Names) (hplan : p.plan c x = .ok plan)
    (h : .relations name ∈ plan.mentions) :
    ∃ d e, c.Reaches d ∧ d.withRelations = .ok e ∧ e.indexField = .ok name := by
  obtain ⟨d, y, hvisits, hnames⟩ := exists_visits_of_mem_mentions hfunctions hplan h
  have hfield : ∀ e : Context, e.Names (.relations name) → ∃ moved, e.withRelations = .ok moved ∧
      moved.indexField = .ok name := by
    rintro e ⟨⟩
    rename_i h
    exact Result.bind_eq_ok.1 h
  cases hnames with
  | context hreaches hm =>
      obtain ⟨moved, hmoved, hindex⟩ := hfield _ hm
      exact ⟨_, moved, hvisits.reaches.trans hreaches, hmoved, hindex⟩
  | call hm =>
      obtain ⟨moved, hmoved, hindex⟩ := hfield _ hm
      exact ⟨d, moved, hvisits.reaches, hmoved, hindex⟩

/--
The name of an index field is read as the field, the layer and the sensitivity that it was made of, and is the only
name that is. What is looked at then is the field of this name, and of its tokens the values in this layer. In a plan
the names of values are read as what the test of a visited node resolves to, and the others as relations.
-/
theorem index_fields_are_read_as_resolved (h : FieldName.layerSeparator ∉ field.toList) (layer : String)
    (s : Sensitivity) :
    Document.readIndexField (FieldName.indexField field layer s) = .ok (field, layer, s) ∧
      (∀ name, Document.readIndexField name = .ok (field, layer, s) → name = FieldName.indexField field layer s) ∧
      (∀ (d : Document) (accepts : String → Bool),
        d.contentAt (FieldName.indexField field layer s) = .ok ((d.get? field).getD .empty) ∧
          ∃ hs, Hit.tokenHits d (FieldName.indexField field layer s) accepts = .ok hs ∧
            ∀ a, a ∈ hs ↔ ∃ p values x, ((d.get? field).getD .empty).tokens[p]? = some values ∧
              values.get? layer = some x ∧ accepts (s.desensitize x) = true ∧ Hit.ofSpan (Hit.token p) = a) ∧
      ∀ (p : Planner) (c : Context) (x : Pattern) (plan : Plan), p.extensions.Name Context.Names →
        p.plan c x = .ok plan →
          (∀ name, .values name ∈ plan.mentions → ∃ d test requested e,
            (p.Visits c x d (.term test) ∨ p.Visits c x d (.regex test)) ∧
              d.withLayerAndSensitivity test.layer (some requested) = .ok e ∧
              (d.fieldName = field → e.ReadBack name)) ∧
          ∀ name, .relations name ∈ plan.mentions → ∃ d e, c.Reaches d ∧ d.withRelations = .ok e ∧
            (d.fieldName = field → e.ReadBack name) := by
  have hread := Document.readIndexField_of_not_mem h layer s
  refine ⟨hread, fun _ => Document.eq_indexField_of_readIndexField, fun d accepts => ⟨?_, ?_⟩, ?_⟩
  · rw [Document.contentAt, hread]
    rfl
  · have hhits : ∃ hs, Hit.tokenHits d (FieldName.indexField field layer s) accepts = .ok hs := by
      rw [Hit.tokenHits, hread]
      exact ⟨_, rfl⟩
    obtain ⟨hs, hhits⟩ := hhits
    exact ⟨hs, hhits, fun a => Hit.mem_tokenHits h hhits⟩
  · intro p c x plan hfunctions hplan
    refine ⟨fun name hm => ?_, fun name hm => ?_⟩
    · obtain ⟨d, test, requested, e, hvisits, he, hindex⟩ := values_of_mem_mentions hfunctions hplan hm
      refine ⟨d, test, requested, e, hvisits, he, fun hfield => Context.readBack_of_indexField ?_ hindex⟩
      rwa [Context.fieldName_of_withLayerAndSensitivity he, hfield]
    · obtain ⟨d, e, hreaches, he, hindex⟩ := relations_of_mem_mentions hfunctions hplan hm
      refine ⟨d, e, hreaches, he, fun hfield => Context.readBack_of_indexField ?_ hindex⟩
      rwa [Context.fieldName_of_withRelations he, hfield]

/-- A field with one layer, which has both separators in its name, each of them twice. -/
def separatedLayer : Context :=
  let layers := NameMap.empty.insert "@a%b@c%" Layer.standard
  ⟨⟨NameMap.empty.insert "contents" ⟨true, layers⟩⟩, "contents", none, "@a%b@c%", .sensitive, false,
    FieldName.anyClass⟩

/-- A word in a layer with separators in its name, behind a markup span. -/
theorem index_fields_are_read_as_resolved_separated :
    let x : Pattern := .join .sequence [.tags ⟨"s", NameMap.empty, .leadingEdge, some "sentence"⟩,
      .term ⟨"Fox", none, none⟩]
    let plan : Plan := .join .sequence [.tags ⟨"contents%_relation@s", "(__tag)::(s)", NameMap.empty, .leadingEdge,
      "sentence"⟩, .term "contents%@a%b@c%@s" "Fox"]
    FieldName.layerSeparator ∉ "contents".toList ∧ standard.plan separatedLayer x = .ok plan ∧
      Document.readIndexField "contents%@a%b@c%@s" = .ok ("contents", "@a%b@c%", .sensitive) ∧
      ∃ d test requested e,
        (standard.Visits separatedLayer x d (.term test) ∨ standard.Visits separatedLayer x d (.regex test)) ∧
          d.withLayerAndSensitivity test.layer (some requested) = .ok e ∧
          (d.fieldName = "contents" → e.ReadBack "contents%@a%b@c%@s") := by
  intro x plan
  have hfield : FieldName.layerSeparator ∉ "contents".toList := by decide
  have hplan : standard.plan separatedLayer x = .ok plan := by rfl
  have hname : FieldName.indexField "contents" "@a%b@c%" .sensitive = "contents%@a%b@c%@s" := by decide
  have hmentioned : .values "contents%@a%b@c%@s" ∈ plan.mentions := by
    simp [plan, Plan.mentions, Plan.mentionsOf]
  have hread := index_fields_are_read_as_resolved hfield "@a%b@c%" .sensitive
  rw [hname] at hread
  obtain ⟨hback, -, -, hplans⟩ := hread
  have hvalues := (hplans standard separatedLayer x plan Extensions.name_standard hplan).1
  exact ⟨hfield, hplan, hback, hvalues _ hmentioned⟩

end Planner

end CorpusSearch
