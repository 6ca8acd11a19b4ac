import CorpusSearch.Proofs.RelationCalls
import CorpusSearch.Proofs.RelationMatches

/-!
What relations with a target find. A relation that has to lead to hits of a target is joined to them on its target
span and then put back to the span that it stands for; the relations that a target hit was matched by come along
behind it. Main statement: the spans found are those that the relations of the type and direction stand for, of which
each leads to a hit of the target that was not matched by that relation already.
-/

set_option autoImplicit false

namespace CorpusSearch

open Result (Succeeds)

namespace Relation

/-- Whether a relation stands for a span, if others were matched with it. -/
def StandsFor (r : Relation) (mode : SpanMode) (others : List Relation) (s : Span) : Prop :=
  match mode with
  | .source => s = r.source
  | .target => s = r.target
  | .full => s.IsCover [r.source, r.target]
  | .all => s.IsCover ((r :: others).flatMap fun q => [q.source, q.target])

variable {r : Relation} {mode : SpanMode} {others relations : List Relation} {s t : Span}

private theorem isCover_fullSpan (r : Relation) : r.fullSpan.IsCover [r.source, r.target] := by
  constructor
  · intro t ht
    obtain ⟨hsource, htarget⟩ := Span.cover_liesIn.1 (Span.LiesIn.refl r.fullSpan)
    rcases List.mem_pair.1 ht with rfl | rfl
    · exact hsource
    · exact htarget
  · intro d hd
    exact Span.cover_liesIn.2 ⟨hd _ List.mem_cons_self, hd _ (List.mem_cons_of_mem _ List.mem_cons_self)⟩

private theorem fullSpan_liesIn : r.fullSpan.LiesIn t ↔ r.source.LiesIn t ∧ r.target.LiesIn t := Span.cover_liesIn

private theorem standsFor_spanFor : r.StandsFor mode [] s ↔ s = r.spanFor mode := by
  have hcover : s.IsCover [r.source, r.target] ↔ s = r.fullSpan := by
    constructor
    · intro hs
      exact hs.unique (isCover_fullSpan r)
    · rintro rfl
      exact isCover_fullSpan r
  cases mode with
  | source => exact Iff.rfl
  | target => exact Iff.rfl
  | full => exact hcover
  | all => exact hcover

private theorem foldl_fullSpan_liesIn :
    (relations.foldl (fun span r => span.cover r.fullSpan) s).LiesIn t ↔
      s.LiesIn t ∧ ∀ p ∈ relations.flatMap fun q => [q.source, q.target], p.LiesIn t := by
  induction relations generalizing s with
  | nil => simp
  | cons q relations ih =>
      rw [List.foldl_cons, ih, Span.cover_liesIn, fullSpan_liesIn]
      simp only [List.flatMap_cons, List.forall_mem_append, List.forall_mem_cons, List.not_mem_nil,
        false_implies, implies_true, and_true, and_assoc]

private theorem isCover_foldl_fullSpan (r : Relation) (others : List Relation) :
    ((r :: others).foldl (fun span r => span.cover r.fullSpan) r.target).IsCover
      ((r :: others).flatMap fun q => [q.source, q.target]) := by
  constructor
  · exact (foldl_fullSpan_liesIn.1 (.refl _)).2
  · intro d hd
    have htarget : r.target.LiesIn d := hd r.target (by simp)
    exact foldl_fullSpan_liesIn.2 ⟨htarget, hd⟩

private theorem standsFor_relationSpan {h : Hit} (hspan : h.span = r.target) (hrelations : h.relations = r :: others) :
    r.StandsFor mode others s ↔ s = h.relationSpan mode := by
  unfold Hit.relationSpan
  rw [hspan, hrelations]
  cases mode with
  | source => exact Iff.rfl
  | target => exact Iff.rfl
  | full =>
      have hown : r.StandsFor .full [] s ↔ s = r.spanFor .full := standsFor_spanFor
      exact hown
  | all =>
      constructor
      · intro hs
        exact hs.unique (isCover_foldl_fullSpan r others)
      · rintro rfl
        exact isCover_foldl_fullSpan r others

/--
How a relation leads to the target that is asked for, and which other relations are matched with it: those that a
hit of the target was matched by. Without a target every relation is found, and by itself.
-/
inductive LeadsTo (scope : SearchScope) (r : Relation) : Option Plan → List Relation → Prop
  | anywhere : LeadsTo scope r none []
  | hit {q : Plan} {h : Hit} (hfinds : scope.Finds q h) (hspan : h.span = r.target) (hnew : r ∉ h.relations) :
      LeadsTo scope r (some q) h.relations

def Answers (r : Relation) (query : RelationQuery) : Prop :=
  Regex.matchesWhole query.type r.type = true ∧ r.hasDirection query.direction = true

end Relation

def RelationQuery.hit (query : RelationQuery) (r : Relation) : Hit :=
  ⟨r.spanFor query.spanMode, NameMap.empty.insert query.capture (.relation r), [r]⟩

def RelationQuery.onTargets (query : RelationQuery) : RelationQuery := { query with spanMode := .target }

private theorem Context.relationsField_eq {c : Context} {name : String} (h : c.relationsField = .ok name) :
    name = FieldName.indexField c.fieldName FieldName.relationLayer .sensitive := by
  obtain ⟨moved, hmoved, hname⟩ := Result.bind_eq_ok.1 h
  obtain ⟨content, -, hrelations⟩ := Result.bind_eq_ok.1 hmoved
  split at hrelations
  · obtain rfl := Except.ok.inj hrelations
    exact (Except.ok.inj hname).symm
  · cases hrelations

private theorem Context.contentAt_relationsField {c : Context} {name : String} (h : c.relationsField = .ok name)
    (hname : FieldName.layerSeparator ∉ c.fieldName.toList) (d : Document) :
    d.contentAt name = .ok ((d.get? c.fieldName).getD FieldContent.empty) := by
  rw [relationsField_eq h, Document.contentAt, Document.readIndexField_of_not_mem hname]
  rfl

namespace SearchScope

variable {scope : SearchScope} {query : RelationQuery} {content : FieldContent} {target : Option Plan} {q : Plan}
  {h : Hit} {hs : List Hit} {s : Span}

private theorem succeeds_relations (htype : checkRelationType query.type = .ok ())
    (hcontent : scope.document.contentAt query.field = .ok content) : Succeeds (scope.hits (.relations query)) := by
  rw [hits_relations query htype, hcontent]
  exact Result.succeeds_ok _

private theorem finds_relations (htype : checkRelationType query.type = .ok ())
    (hcontent : scope.document.contentAt query.field = .ok content) :
    scope.Finds (.relations query) h ↔ ∃ r ∈ content.relations, r.Answers query ∧ query.hit r = h := by
  have hhits : scope.hits (.relations query) = _ := hits_relations query htype
  rw [hcontent] at hhits
  rw [finds_iff_mem hhits, Hit.mem_sorted, List.mem_map]
  simp only [List.mem_filter, Bool.and_eq_true, and_assoc, Relation.Answers, RelationQuery.hit]

private theorem finds_matched (htype : checkRelationType query.type = .ok ())
    (hcontent : scope.document.contentAt query.field = .ok content) :
    scope.Finds (.join .relationAnd [.relations query.onTargets, q]) h ↔
      ∃ r ∈ content.relations, r.Answers query ∧ ∃ b, scope.Finds q b ∧ b.span = r.target ∧ r ∉ b.relations ∧
        (query.onTargets.hit r).merge b r.target = h := by
  have hsource : ∀ {a}, scope.Finds (.relations query.onTargets) a ↔
      ∃ r ∈ content.relations, r.Answers query.onTargets ∧ query.onTargets.hit r = a :=
    finds_relations htype hcontent
  constructor
  · rintro ⟨hs, hhits, hmem⟩
    rw [hits] at hhits
    obtain ⟨hss, hhss, hhits⟩ := Result.bind_eq_ok.1 hhits
    obtain rfl := Except.ok.inj hhits
    obtain ⟨xs, _, hxs, hrest, rfl⟩ := List.forall₂_cons_left_iff.1 (hitLists_eq_ok.1 hhss)
    obtain ⟨ys, _, hys, hnil, rfl⟩ := List.forall₂_cons_left_iff.1 hrest
    obtain rfl := List.forall₂_nil_left_iff.1 hnil
    obtain ⟨a, ha, b, hb, hspan, hapart, rfl⟩ := Hit.mem_intersect.1 (Hit.mem_sorted.1 hmem)
    obtain ⟨r, hr, hanswers, rfl⟩ := hsource.1 ⟨xs, hxs, ha⟩
    have hnew : r ∉ b.relations := by
      intro hrb
      exact Hit.sharesRelation_eq_false_iff.1 (hapart rfl) r hrb List.mem_cons_self
    exact ⟨r, hr, hanswers, b, ⟨ys, hys, hb⟩, hspan, hnew, rfl⟩
  · rintro ⟨r, hr, hanswers, b, ⟨ys, hys, hb⟩, hspan, hnew, rfl⟩
    obtain ⟨xs, hxs, ha⟩ := hsource.2 ⟨r, hr, hanswers, rfl⟩
    have hapart : ∀ r' ∈ b.relations, r' ∉ [r] := by
      intro r' hr' hmem
      obtain rfl := List.mem_singleton.1 hmem
      exact hnew hr'
    have hlists : scope.hitLists [.relations query.onTargets, q] = .ok [xs, ys] :=
      hitLists_eq_ok.2 (.cons hxs (.cons hys .nil))
    have hjoined : (query.onTargets.hit r).merge b r.target ∈ Hit.intersect true xs ys :=
      Hit.mem_intersect.2 ⟨_, ha, b, hb, hspan, fun _ => Hit.sharesRelation_eq_false_iff.2 hapart, rfl⟩
    refine ⟨_, ?_, Hit.mem_sorted.2 hjoined⟩
    rw [hits, hlists]
    rfl

private theorem restrictedRelations_some : restrictedRelations query (some q) =
    if query.spanMode = .target then .join .relationAnd [.relations query.onTargets, q]
    else .modify (.relationSpan query.spanMode) (.join .relationAnd [.relations query.onTargets, q]) := rfl

/-- Whether a relation that answers a query leads to its target, and stands for a span. -/
def Leads (scope : SearchScope) (query : RelationQuery) (target : Option Plan) (s : Span) (r : Relation) : Prop :=
  r.Answers query ∧ ∃ others, r.LeadsTo scope target others ∧ r.StandsFor query.spanMode others s

private theorem hasSpan_of_relations (htype : checkRelationType query.type = .ok ())
    (hcontent : scope.document.contentAt query.field = .ok content) (hhits : scope.hits (.relations query) = .ok hs) :
    Hit.HasSpan hs s ↔ ∃ r ∈ content.relations, scope.Leads query none s r := by
  simp only [Hit.HasSpan, ← finds_iff_mem hhits, finds_relations htype hcontent]
  constructor
  · rintro ⟨_, ⟨r, hr, hanswers, rfl⟩, rfl⟩
    exact ⟨r, hr, hanswers, [], .anywhere, Relation.standsFor_spanFor.2 rfl⟩
  · rintro ⟨r, hr, hanswers, others, hleads, hstands⟩
    cases hleads
    exact ⟨_, ⟨r, hr, hanswers, rfl⟩, (Relation.standsFor_spanFor.1 hstands).symm⟩

private theorem hasSpan_of_restrictedRelations (htype : checkRelationType query.type = .ok ())
    (hcontent : scope.document.contentAt query.field = .ok content)
    (hhits : scope.hits (restrictedRelations query (some q)) = .ok hs) :
    Hit.HasSpan hs s ↔ ∃ r ∈ content.relations, scope.Leads query (some q) s r := by
  have hspan : Hit.HasSpan hs s ↔ ∃ h, scope.Finds (.join .relationAnd [.relations query.onTargets, q]) h ∧
      h.relationSpan query.spanMode = s := by
    rw [restrictedRelations_some] at hhits
    split at hhits
    · rename_i hmode
      simp only [Hit.HasSpan, ← finds_iff_mem hhits]
      refine exists_congr fun h => and_congr_right fun hfinds => ?_
      obtain ⟨r, -, -, b, -, -, -, rfl⟩ := (finds_matched htype hcontent).1 hfinds
      rw [hmode]
      exact Iff.rfl
    · rw [hits] at hhits
      obtain ⟨_, _, hhits⟩ := Result.bind_eq_ok.1 hhits
      obtain ⟨found, hfound, hhits⟩ := Result.bind_eq_ok.1 hhits
      obtain rfl := Except.ok.inj hhits
      rw [Hit.hasSpan_sorted]
      simp only [modified, Hit.HasSpan, List.mem_map, finds_iff_mem hfound]
      constructor
      · rintro ⟨_, ⟨h, hmem, rfl⟩, rfl⟩
        exact ⟨h, hmem, rfl⟩
      · rintro ⟨h, hmem, rfl⟩
        exact ⟨_, ⟨h, hmem, rfl⟩, rfl⟩
  simp only [hspan, finds_matched htype hcontent]
  constructor
  · rintro ⟨_, ⟨r, hr, hanswers, b, hfinds, htarget, hnew, rfl⟩, rfl⟩
    exact ⟨r, hr, hanswers, b.relations, .hit hfinds htarget hnew, (Relation.standsFor_relationSpan rfl rfl).2 rfl⟩
  · rintro ⟨r, hr, hanswers, others, hleads, hstands⟩
    cases hleads with
    | @hit _ b hfinds htarget hnew =>
        exact ⟨_, ⟨r, hr, hanswers, b, hfinds, htarget, hnew, rfl⟩,
          ((Relation.standsFor_relationSpan rfl rfl).1 hstands).symm⟩

private theorem succeeds_restrictedRelations (htype : checkRelationType query.type = .ok ())
    (hcontent : scope.document.contentAt query.field = .ok content) :
    Succeeds (scope.hits (restrictedRelations query (some q))) ↔ Succeeds (scope.hits q) := by
  have hmatched : Succeeds (scope.hits (.join .relationAnd [.relations query.onTargets, q])) ↔
      Succeeds (scope.hits q) := by
    rw [succeeds_relationAnd, List.forall_mem_cons, List.forall_mem_singleton]
    have hrelations : Succeeds (scope.hits (.relations query.onTargets)) := succeeds_relations htype hcontent
    exact and_iff_right hrelations
  rw [restrictedRelations_some]
  split
  · exact hmatched
  · have hprepared : scope.prepare (.relationSpan query.spanMode) = .ok [] := rfl
    rw [hits, hprepared, Result.ok_bind, Result.succeeds_bind_pure, hmatched]

private theorem leads_anyNGram {field : String} {r : Relation}
    (htarget : r.target.FitsIn (scope.document.size field)) :
    scope.Leads query (some (Plan.anyNGram field)) s r ↔ scope.Leads query none s r := by
  refine and_congr_right fun _ => ?_
  constructor
  · rintro ⟨others, hleads, hstands⟩
    cases hleads with
    | hit hfinds _ _ =>
        obtain ⟨_, _, rfl⟩ := finds_anyNGram.1 hfinds
        exact ⟨[], .anywhere, hstands⟩
  · rintro ⟨others, hleads, hstands⟩
    cases hleads
    have hgram : scope.Finds (Plan.anyNGram field) (Hit.ofSpan r.target) := finds_anyNGram.2 ⟨_, htarget, rfl⟩
    exact ⟨[], .hit hgram rfl (List.not_mem_nil), hstands⟩

end SearchScope

private theorem exists_query_of_relationPlan {c : Context} {fullType : String} {target : Option Plan}
    {direction : RelationDirection} {mode : SpanMode} {capture : Option String} {names names' : CaptureNames}
    {plan : Plan} (hplan : (relationPlan c fullType target direction mode capture).run names = .ok (plan, names')) :
    ∃ query : RelationQuery, query.type = fullType ∧ query.direction = direction ∧ query.spanMode = mode ∧
      c.relationsField = .ok query.field ∧ checkRelationType query.type = .ok () ∧
      plan = restrictedRelations query target := by
  rw [relationPlan_eq] at hplan
  obtain ⟨⟨⟩, htype, hplan⟩ := Planning.run_liftM_bind_eq_ok.1 hplan
  obtain ⟨field, hfield, hplan⟩ := Planning.run_liftM_bind_eq_ok.1 hplan
  obtain ⟨⟨given, names''⟩, -, hplan⟩ := Planning.run_bind_eq_ok.1 hplan
  obtain ⟨rfl, rfl⟩ := Prod.mk.inj (Except.ok.inj hplan)
  exact ⟨⟨field, fullType, direction, mode, given⟩, rfl, rfl, rfl, hfield, htype, rfl⟩

/--
What the plan for relations finds in a document, whether its target is left out of the plan or not. A target of any
number of tokens has to be one of tokens among which the relations of the document lie.
-/
theorem relationPlan_finds {c : Context} {fullType : String} {target : Option Plan} {direction : RelationDirection}
    {mode : SpanMode} {capture : Option String} {names names' : CaptureNames} {plan : Plan}
    (hplan : (relationPlan c fullType (target.bind restrictingPlan?) direction mode capture).run names =
      .ok (plan, names'))
    {scope : SearchScope} (hfit : ∀ field, target = some (Plan.anyNGram field) → scope.document.RelationsFit field) :
    ∃ query : RelationQuery, query.type = fullType ∧ query.direction = direction ∧ query.spanMode = mode ∧
      c.relationsField = .ok query.field ∧ ∃ content, scope.document.contentAt query.field = .ok content ∧
      (FieldName.layerSeparator ∉ c.fieldName.toList →
        content = (scope.document.get? c.fieldName).getD FieldContent.empty) ∧
      (Succeeds (scope.hits plan) ↔ ∀ q ∈ target, Succeeds (scope.hits q)) ∧
      ∀ hs, scope.hits plan = .ok hs →
        ∀ s, Hit.HasSpan hs s ↔ ∃ r ∈ content.relations, scope.Leads query target s r := by
  obtain ⟨query, rfl, rfl, rfl, hfield, htype, rfl⟩ := exists_query_of_relationPlan hplan
  obtain ⟨content, hcontent⟩ : Succeeds (scope.document.contentAt query.field) :=
    Document.succeeds_contentAt_iff.2 (Context.usable_relationsField hfield)
  have hstored : FieldName.layerSeparator ∉ c.fieldName.toList →
      content = (scope.document.get? c.fieldName).getD FieldContent.empty := by
    intro hname
    have hheld := Context.contentAt_relationsField hfield hname scope.document
    exact Except.ok.inj (hcontent.symm.trans hheld)
  have hopen : Succeeds (scope.hits (.relations query)) := SearchScope.succeeds_relations htype hcontent
  refine ⟨query, rfl, rfl, rfl, hfield, content, hcontent, hstored, ?_⟩
  cases target with
  | none =>
      refine ⟨iff_of_true hopen nofun, fun hs hhits s => ?_⟩
      exact SearchScope.hasSpan_of_relations htype hcontent hhits
  | some q =>
      simp only [Option.mem_some, forall_eq']
      rw [Option.bind_some]
      cases hany : q.isAnyNGram with
      | false =>
          rw [restrictingPlan?_of_false hany]
          refine ⟨SearchScope.succeeds_restrictedRelations htype hcontent, fun hs hhits s => ?_⟩
          exact SearchScope.hasSpan_of_restrictedRelations htype hcontent hhits
      | true =>
          rw [restrictingPlan?_of_true hany]
          obtain ⟨field, rfl⟩ := Plan.eq_anyNGram_of_isAnyNGram hany
          have hgram : Succeeds (scope.hits (Plan.anyNGram field)) := ⟨_, scope.hits_anyNGram field⟩
          refine ⟨iff_of_true hopen hgram, fun hs hhits s => ?_⟩
          rw [SearchScope.hasSpan_of_relations htype hcontent hhits]
          refine exists_congr fun r => and_congr_right fun hr => ?_
          have htarget : r.target.FitsIn (scope.document.size field) :=
            (hfit field rfl r (Document.stores_of_contentAt hcontent hr)).2
          exact (SearchScope.leads_anyNGram htarget).symm

namespace Planner

/-- Subjects together with their verbs, where the subject is a certain word. -/
theorem relationPlan_finds_foxesSeeDogs :
    let query : RelationQuery := ⟨"contents%_relation@s", "(dep)::(nsubj)", .both, .all, "subject"⟩
    let foxes : Plan := .term "contents%word@s" "foxes"
    let plan : Plan := .modify (.relationSpan .all) (.join .relationAnd [.relations query.onTargets, foxes])
    let scope : SearchScope := ⟨foxesSeeDogs, NameMap.empty⟩
    (relationPlan wordContext "(dep)::(nsubj)" (some foxes) .both .all (some "subject")).run CaptureNames.empty =
        .ok (plan, CaptureNames.empty) ∧
      ∃ hs content, scope.hits plan = .ok hs ∧ foxesSeeDogs.get? "contents" = some content ∧
        ∃ query' : RelationQuery, query'.type = query.type ∧ query'.spanMode = .all ∧
          ∀ s, Hit.HasSpan hs s ↔ ∃ r ∈ content.relations, scope.Leads query' (some foxes) s r := by
  intro query foxes plan scope
  have hplan : (relationPlan wordContext "(dep)::(nsubj)" (some foxes) .both .all (some "subject")).run
      CaptureNames.empty = .ok (plan, CaptureNames.empty) := by rfl
  have hfit : ∀ field, some foxes = some (Plan.anyNGram field) → scope.document.RelationsFit field := by
    intro field h
    exact absurd (Option.some.inj h) Plan.noConfusion
  obtain ⟨query', htype, -, hmode, -, content, -, hcontent, hsucceeds, hfinds⟩ :=
    @relationPlan_finds _ _ (some foxes) _ _ _ _ _ _ hplan _ hfit
  have hfoxes : scope.hits foxes = .ok [Hit.ofSpan ⟨0, 1⟩] := by decide +kernel
  obtain ⟨hs, hhits⟩ : Succeeds (scope.hits plan) := by
    rw [hsucceeds]
    intro q hq
    obtain rfl := Option.mem_some.1 hq
    exact ⟨_, hfoxes⟩
  have hget : (foxesSeeDogs.get? "contents").isSome = true := by decide
  obtain ⟨stored, hstored⟩ := Option.isSome_iff_exists.1 hget
  have hname : FieldName.layerSeparator ∉ wordContext.fieldName.toList := by decide
  have hsame : content = stored := (hcontent hname).trans (congrArg (Option.getD · _) hstored)
  exact ⟨hplan, hs, stored, hhits, hstored, query', htype, hmode, hsame ▸ hfinds hs hhits⟩

end Planner

end CorpusSearch
