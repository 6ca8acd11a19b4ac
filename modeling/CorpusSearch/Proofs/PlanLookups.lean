import CorpusSearch.Evaluation
import CorpusSearch.Proofs.Result

/-!
What a plan looks up in an index, and how its evaluation depends on it. Main statement: if the attribute
expressions of a plan compile, it has hits in a document exactly if everything it looks up can be looked up,
whatever the document holds.
-/

set_option autoImplicit false

namespace CorpusSearch

open Result (Succeeds)

/-- Something that a plan looks up, as a text that an index has to understand. -/
inductive PlanLookup where
  /-- The name of an index field. -/
  | field (name : String)
  /-- An expression for the values of tokens. -/
  | tokenExpression (text : String)
  /-- An expression for the full types of markup. -/
  | tagType (text : String)
  /-- An expression for the values of a markup attribute. -/
  | attributeExpression (text : String)
  /-- An expression for the full types of relations. -/
  | relationType (text : String)

def PlanLookup.Usable : PlanLookup → Prop
  | field name => Succeeds (Document.readIndexField name)
  | tokenExpression text | tagType text | attributeExpression text | relationType text =>
    Succeeds (compileExpression text)

def TagQuery.attributeLookups (query : TagQuery) : List PlanLookup :=
  query.attributes.entries.filterMap fun e =>
    match e.2 with
    | .expression text => some (.attributeExpression text)
    | .range _ _ => none

def PlanModifier.lookups : PlanModifier → List PlanLookup
  | relationsWithin query => [.field query.field, .relationType query.type]
  | _ => []

namespace Plan

mutual

def lookups : Plan → List PlanLookup
  | term field _ => [.field field]
  | regex field expression => [.field field, .tokenExpression expression]
  | anyToken _ _ _ | fixedSpan _ _ => []
  | tags query => .field query.field :: .tagType query.type :: query.attributeLookups
  | relations query => [.field query.field, .relationType query.type]
  | join _ clauses => lookupsOf clauses
  | modify modifier clause => modifier.lookups ++ clause.lookups
  | positionFilter _ producer filter => producer.lookups ++ filter.lookups
  | align source targets => source.lookups ++ targetLookups targets

def lookupsOf : List Plan → List PlanLookup
  | [] => []
  | plan :: plans => plan.lookups ++ lookupsOf plans

def targetLookups : List (AlignmentHead × Plan) → List PlanLookup
  | [] => []
  | (head, target) :: targets =>
    .field head.field :: .relationType head.type :: (target.lookups ++ targetLookups targets)

end

end Plan

/-! ### Single look-ups -/

namespace Document

theorem succeeds_contentAt_iff {d : Document} {name : String} :
    Succeeds (d.contentAt name) ↔ Succeeds (readIndexField name) := by
  rw [contentAt]
  exact Result.succeeds_bind_pure

end Document

namespace Hit

theorem succeeds_tokenHits_iff {d : Document} {name : String} {test : String → Bool} :
    Succeeds (tokenHits d name test) ↔ Succeeds (Document.readIndexField name) := by
  rw [tokenHits]
  exact Result.succeeds_bind_pure

private theorem succeeds_relationHits_iff {d : Document} {query : RelationQuery} :
    Succeeds (relationHits d query) ↔
      Succeeds (Document.readIndexField query.field) ∧ Succeeds (compileExpression query.type) := by
  rw [relationHits, Result.succeeds_bind_iff, and_comm]
  intro type _
  rw [← Document.succeeds_contentAt_iff]
  exact Result.succeeds_bind_pure

private theorem succeeds_withinRelations_iff {d : Document} {query : WithinQuery} :
    Succeeds (withinRelations d query) ↔
      Succeeds (Document.readIndexField query.field) ∧ Succeeds (compileExpression query.type) := by
  rw [withinRelations, Result.succeeds_bind_iff, and_comm]
  intro type _
  rw [← Document.succeeds_contentAt_iff]
  exact Result.succeeds_bind_pure

private theorem succeeds_alignmentRelations_iff {d : Document} {head : AlignmentHead} :
    Succeeds (alignmentRelations d head) ↔
      Succeeds (Document.readIndexField head.field) ∧ Succeeds (compileExpression head.type) := by
  rw [alignmentRelations, Result.succeeds_bind_iff, and_comm]
  intro type _
  rw [← Document.succeeds_contentAt_iff]
  exact Result.succeeds_bind_pure

private theorem succeeds_attributesHold {tag : Tag} {attributes : List (String × AttributeValue)}
    (h : ∀ e ∈ attributes, ∀ text, e.2 = .expression text → Succeeds (compileExpression text)) :
    Succeeds (attributesHold tag attributes) := by
  induction attributes with
  | nil => exact Result.succeeds_ok _
  | cons e rest ih =>
      obtain ⟨name, expected⟩ := e
      have hrest := ih fun e he => h e (List.mem_cons_of_mem _ he)
      have hfirst : Succeeds (attributeHolds (tag.attributes.get? name) expected) := by
        cases hvalue : tag.attributes.get? name with
        | none => exact Result.succeeds_ok _
        | some v =>
            cases expected with
            | expression text =>
                obtain ⟨core, hcore⟩ := h _ List.mem_cons_self text rfl
                simp [attributeHolds, hcore]
            | range low high =>
                rw [attributeHolds]
                split <;> exact Result.succeeds_ok _
      rw [attributesHold]
      refine (Result.succeeds_bind_of_total fun held _ => ?_).2 hfirst
      cases held
      · exact Result.succeeds_ok _
      · exact hrest

private theorem succeeds_matchingTags {query : TagQuery} {type : Regex.Core} {tags : List Tag}
    (h : ∀ tag, Succeeds (attributesHold tag query.attributes.entries)) :
    Succeeds (matchingTags query type tags) := by
  induction tags with
  | nil => exact Result.succeeds_ok _
  | cons tag rest ih =>
      obtain ⟨others, hothers⟩ := ih
      obtain ⟨held, hheld⟩ := h tag
      rw [matchingTags, hothers, hheld]
      cases type.isMatch (tagType tag) <;> cases held <;> exact Result.succeeds_ok _

private theorem succeeds_tagHits_iff {d : Document} {query : TagQuery}
    (h : ∀ l ∈ query.attributeLookups, l.Usable) :
    Succeeds (tagHits d query) ↔
      Succeeds (Document.readIndexField query.field) ∧ Succeeds (compileExpression query.type) := by
  have hattributes : ∀ tag, Succeeds (attributesHold tag query.attributes.entries) := by
    refine fun tag => succeeds_attributesHold fun e he text htext => ?_
    exact h (.attributeExpression text) (List.mem_filterMap.2 ⟨e, he, by rw [htext]⟩)
  rw [tagHits, Result.succeeds_bind_iff, and_comm]
  intro type _
  rw [← Document.succeeds_contentAt_iff]
  exact Result.succeeds_bind_of_total fun content _ => succeeds_matchingTags hattributes

end Hit

/-! ### Plans -/

namespace SearchScope

variable {scope : SearchScope}

private theorem succeeds_prepare_iff {modifier : PlanModifier} :
    Succeeds (scope.prepare modifier) ↔ ∀ l ∈ modifier.lookups, l.Usable := by
  cases modifier with
  | relationsWithin query =>
      rw [prepare, Hit.succeeds_withinRelations_iff]
      simp [PlanModifier.lookups, PlanLookup.Usable]
  | _ => simp [prepare, PlanModifier.lookups]

def AttributesUsable (lookups : List PlanLookup) : Prop :=
  ∀ text, .attributeExpression text ∈ lookups → Succeeds (compileExpression text)

-- A part without hits does not spare the other parts from being evaluated, so the document plays no role.
mutual

theorem succeeds_hits_iff : (plan : Plan) → AttributesUsable plan.lookups →
    (Succeeds (scope.hits plan) ↔ ∀ l ∈ plan.lookups, l.Usable)
  | .term field value, _ => by
      rw [hits, Result.succeeds_bind_pure,
        Hit.succeeds_tokenHits_iff]
      simp [Plan.lookups, PlanLookup.Usable]
  | .regex field expression, _ => by
      have htokens : ∀ core, compileExpression expression = .ok core →
          (Succeeds (do return Hit.sorted (← Hit.tokenHits scope.document field core.isMatch)) ↔
            Succeeds (Document.readIndexField field)) := by
        intro core _
        rw [Result.succeeds_bind_pure, Hit.succeeds_tokenHits_iff]
      rw [hits, Result.succeeds_bind_iff htokens, and_comm]
      simp [Plan.lookups, PlanLookup.Usable]
  | .anyToken field low high, _ => by simp [hits, Plan.lookups]
  | .fixedSpan field span, _ => by simp [hits, Plan.lookups]
  | .tags query, hattributes => by
      have husable : ∀ l ∈ query.attributeLookups, l.Usable := by
        intro l hl
        obtain ⟨e, he, hlookup⟩ := List.mem_filterMap.1 hl
        split at hlookup
        · obtain rfl := Option.some.inj hlookup
          exact hattributes _ (List.mem_cons_of_mem _ (List.mem_cons_of_mem _ hl))
        · simp at hlookup
      rw [hits, Result.succeeds_bind_pure,
        Hit.succeeds_tagHits_iff husable, Plan.lookups, List.forall_mem_cons, List.forall_mem_cons]
      exact ⟨fun h => ⟨h.1, h.2, husable⟩, fun h => ⟨h.1, h.2.1⟩⟩
  | .relations query, _ => by
      rw [hits, Result.succeeds_bind_pure,
        Hit.succeeds_relationHits_iff]
      simp [Plan.lookups, PlanLookup.Usable]
  | .join connective clauses, hattributes => by
      rw [hits, Result.succeeds_bind_pure]
      exact succeeds_hitLists_iff clauses hattributes
  | .modify modifier clause, hattributes => by
      have hclause := succeeds_hits_iff clause fun text h =>
        hattributes text (List.mem_append_right _ h)
      rw [hits, Result.succeeds_bind_iff (P := ∀ l ∈ clause.lookups, l.Usable), succeeds_prepare_iff,
        Plan.lookups, List.forall_mem_append]
      intro prepared _
      rw [Result.succeeds_bind_pure, hclause]
  | .positionFilter test producer filter, hattributes => by
      have hproducer := succeeds_hits_iff producer fun text h =>
        hattributes text (List.mem_append_left _ h)
      have hfilter := succeeds_hits_iff filter fun text h =>
        hattributes text (List.mem_append_right _ h)
      rw [hits, Result.succeeds_bind_iff (P := ∀ l ∈ producer.lookups, l.Usable), hfilter, Plan.lookups,
        List.forall_mem_append, and_comm]
      intro found _
      rw [Result.succeeds_bind_pure, hproducer]
  | .align source targets, hattributes => by
      have hsource := succeeds_hits_iff source fun text h =>
        hattributes text (List.mem_append_left _ h)
      rw [hits, Result.succeeds_bind_iff (P := ∀ l ∈ Plan.targetLookups targets, l.Usable), hsource,
        Plan.lookups, List.forall_mem_append]
      intro found _
      rw [Result.succeeds_bind_pure]
      exact succeeds_alignAll_iff targets (fun text h => hattributes text (List.mem_append_right _ h)) found

private theorem succeeds_hitLists_iff : (plans : List Plan) → AttributesUsable (Plan.lookupsOf plans) →
    (Succeeds (scope.hitLists plans) ↔ ∀ l ∈ Plan.lookupsOf plans, l.Usable)
  | [], _ => by simp [hitLists, Plan.lookupsOf]
  | plan :: plans, hattributes => by
      have hplan := succeeds_hits_iff plan fun text h => hattributes text (List.mem_append_left _ h)
      have hplans := succeeds_hitLists_iff plans fun text h =>
        hattributes text (List.mem_append_right _ h)
      rw [hitLists, Result.succeeds_bind_iff (P := ∀ l ∈ Plan.lookupsOf plans, l.Usable), hplan,
        Plan.lookupsOf, List.forall_mem_append]
      intro found _
      rw [Result.succeeds_bind_pure, hplans]

private theorem succeeds_alignAll_iff : (targets : List (AlignmentHead × Plan)) →
    AttributesUsable (Plan.targetLookups targets) → (sources : List Hit) →
      (Succeeds (scope.alignAll targets sources) ↔ ∀ l ∈ Plan.targetLookups targets, l.Usable)
  | [], _, sources => by simp [alignAll, Plan.targetLookups]
  | (head, target) :: targets, hattributes, sources => by
      have hrest : AttributesUsable (target.lookups ++ Plan.targetLookups targets) := fun text h =>
        hattributes text (List.mem_cons_of_mem _ (List.mem_cons_of_mem _ h))
      have htarget := succeeds_hits_iff target fun text h => hrest text (List.mem_append_left _ h)
      have htargets := succeeds_alignAll_iff targets fun text h =>
        hrest text (List.mem_append_right _ h)
      rw [alignAll, Result.succeeds_bind_iff
        (P := ∀ l ∈ target.lookups ++ Plan.targetLookups targets, l.Usable),
        Hit.succeeds_alignmentRelations_iff, Plan.targetLookups, List.forall_mem_cons,
        List.forall_mem_cons, and_assoc]
      · rfl
      intro relations _
      rw [Result.succeeds_bind_iff (P := ∀ l ∈ Plan.targetLookups targets, l.Usable), htarget,
        List.forall_mem_append]
      intro found _
      exact htargets _

end

end SearchScope

theorem Index.exists_scope_of_mem_search {index : Index} {plan : Plan} {field : String}
    {found : DocumentHits} (h : found ∈ index.search plan field) :
    ∃ scope : SearchScope, found.hits = scope.hits plan := by
  obtain ⟨e, _, hsome⟩ := List.mem_filterMap.1 h
  dsimp only at hsome
  split at hsome
  · obtain rfl := Option.some.inj hsome
    exact ⟨_, rfl⟩
  · simp at hsome

end CorpusSearch
