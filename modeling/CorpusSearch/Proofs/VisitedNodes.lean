import CorpusSearch.Proofs.PatternInvariant
import CorpusSearch.Proofs.PlanMentions

/-!
Where in a query the names in its plan come from. Planning visits the nodes of a query, each in a context that
differs from the first one in the version of the document only. Main statement: all that a plan names, some visited
node names in the context in which it is visited, and a plan is only made if all visited nodes can be planned.
-/

set_option autoImplicit false

namespace CorpusSearch

/-! ### Contexts -/

/-- Contexts that are reached by moving from version to version of the document. -/
inductive Context.Reaches : Context → Context → Prop
  | refl (c : Context) : Reaches c c
  | version {c d e : Context} {version : String} (h : c.inVersion (some version) = .ok d) (hd : Reaches d e) :
      Reaches c e

namespace Context

variable {c d e : Context}

theorem Reaches.trans (h : c.Reaches d) (h' : d.Reaches e) : c.Reaches e := by
  induction h with
  | refl c => exact h'
  | version hversion _ ih => exact .version hversion (ih h')

private theorem reaches_of_inVersion? {version : Option String} (h : c.inVersion? version = .ok d) : c.Reaches d := by
  cases version with
  | none =>
      obtain rfl := Except.ok.inj h
      exact .refl c
  | some version => exact .version h (.refl d)

private theorem eq_of_inVersion {version : Option String} (h : c.inVersion version = .ok d) :
    d = { c with version := version.filter fun v => !v.isEmpty } ∧ Result.Succeeds d.field := by
  obtain ⟨field, hfield, h⟩ := Result.bind_eq_ok.1 h
  obtain rfl := Except.ok.inj h
  exact ⟨rfl, field, hfield⟩

/-- On the way to another version nothing but the version changes. -/
theorem Reaches.eq (h : c.Reaches d) : d = { c with version := d.version } := by
  induction h with
  | refl c => rfl
  | version hversion _ ih =>
      rw [ih, (eq_of_inVersion hversion).1]

/-- A version is only moved to if its field exists. -/
theorem Reaches.field (h : c.Reaches d) (hc : Result.Succeeds c.field) : Result.Succeeds d.field := by
  induction h with
  | refl c => exact hc
  | version hversion _ ih => exact ih (eq_of_inVersion hversion).2

end Context

namespace Planner

private theorem RelationContexts.reaches_source {c source target : Context} {head : RelationHead}
    (h : RelationContexts c head source target) : c.Reaches source :=
  Context.reaches_of_inVersion? h.1

private theorem RelationContexts.reaches_target {c source target : Context} {head : RelationHead}
    (h : RelationContexts c head source target) : c.Reaches target :=
  h.reaches_source.trans (Context.reaches_of_inVersion? h.2)

/-! ### Visits -/

/-- The patterns that are planned for the parts of a node, with the contexts in which they are. -/
inductive PartOf (c : Context) : Pattern → Context → Pattern → Prop
  | clause {connective : Connective} {clauses : List Pattern} {y : Pattern} (h : y ∈ clauses) :
      PartOf c (.join connective clauses) c y
  | modified {m : Modifier} {y : Pattern} (h : ∀ name, m ≠ .version name) : PartOf c (.modify m y) c y
  | version {name : String} {y : Pattern} {d : Context} (h : c.inVersion (some name) = .ok d) :
      PartOf c (.modify (.version name) y) d y
  | producer {test : PositionTest} {y filter : Pattern} : PartOf c (.positionFilter test y filter) c y
  | filter {test : PositionTest} {producer y : Pattern} : PartOf c (.positionFilter test producer y) c y
  | target {head : RelationHead} {y : Pattern} {source d : Context} (h : RelationContexts c head source d) :
      PartOf c (.relationTarget head y) d y.fillDefault
  | parent {y : Pattern} {targets : List (RelationHead × Pattern)} : PartOf c (.relationMatch y targets) c y
  | matchTarget {parent : Pattern} {targets : List (RelationHead × Pattern)} {t : RelationHead × Pattern}
      {source d : Context} (ht : t ∈ targets) (h : RelationContexts c t.1 source d) :
      PartOf c (.relationMatch parent targets) d t.2.fillDefault
  | rootTarget {targets : List (RelationHead × Pattern)} {t : RelationHead × Pattern} {source d : Context}
      (ht : t ∈ targets) (h : RelationContexts c t.1 source d) :
      PartOf c (.rootRelations targets) d t.2.fillDefault
  | argument {name : String} {arguments : List (Argument Pattern)} {y : Pattern} (h : .pattern y ∈ arguments)
      (hne : y ≠ .defaultValue) : PartOf c (.call name arguments) c y

/-- The nodes that are planned for a pattern, with the contexts in which they stand. -/
inductive Visits (p : Planner) : Context → Pattern → Context → Pattern → Prop
  | here (c : Context) (x : Pattern) : Visits p c x c (p.prepared x)
  | part {c d e : Context} {x y z : Pattern} (h : PartOf c (p.prepared x) d y) (hz : Visits p d y e z) :
      Visits p c x e z

variable {values : AttributeValue → Prop} {p : Planner} {c d e : Context} {x y : Pattern}

theorem PartOf.reaches (h : PartOf c x d y) : c.Reaches d := by
  cases h with
  | version h => exact .version h (.refl d)
  | target h => exact h.reaches_target
  | matchTarget _ h => exact h.reaches_target
  | rootTarget _ h => exact h.reaches_target
  | _ => exact .refl c

theorem Visits.reaches (h : p.Visits c x d y) : c.Reaches d := by
  induction h with
  | here c x => exact .refl c
  | part hpart _ ih => exact hpart.reaches.trans ih

/-! ### Well-formed nodes -/

theorem PartOf.wellFormed (h : PartOf c x d y) (hx : x.WellFormed values) : y.WellFormed values := by
  cases h with
  | clause hy => exact hx.child hy
  | modified _ => exact hx.child List.mem_cons_self
  | version _ => exact hx.child List.mem_cons_self
  | producer => exact hx.child List.mem_cons_self
  | filter => exact hx.child (List.mem_cons_of_mem _ List.mem_cons_self)
  | target _ => exact (hx.child List.mem_cons_self).fillDefault
  | parent => exact hx.child List.mem_cons_self
  | matchTarget ht _ => exact (hx.child (List.mem_cons_of_mem _ (List.mem_map_of_mem ht))).fillDefault
  | rootTarget ht _ => exact (hx.child (List.mem_map_of_mem ht)).fillDefault
  | argument hy _ => exact hx.child (List.mem_filterMap.2 ⟨_, hy, rfl⟩)

private theorem wellFormed_prepared (hx : x.WellFormed values) : (p.prepared x).WellFormed values := by
  rw [prepared]
  split
  · exact hx.simplifyWithin
  · exact hx

theorem Visits.wellFormed (h : p.Visits c x d y) (hx : x.WellFormed values) : y.WellFormed values := by
  induction h with
  | here c x => exact wellFormed_prepared hx
  | part hpart _ ih => exact ih (hpart.wellFormed (wellFormed_prepared hx))

/-! ### What nodes name -/

/-- What a node names itself, beside what its parts name. -/
inductive NodeNames (names : ContextNames) (p : Planner) (c : Context) : Pattern → PlanMention → Prop
  /-- A test looks up values in the layer that it names, or in the layer of its context. -/
  | value {x : Pattern} {test : TokenTest} {moved : Context} {name : String} (s : Sensitivity)
      (hx : x = .term test ∨ x = .regex test) (hmoved : c.withLayer test.layer = .ok moved)
      (hname : { moved with requested := s }.indexField = .ok name) : NodeNames names p c x (.values name)
  | span (s : Span) : NodeNames names p c (.fixedSpan s) (.span s)
  | reading {filter : Filter} {clause : Pattern} {reading : ReadingConstraint}
      (h : Constraint.ofFilter c p.extensions.predicates filter = .ok reading) :
      NodeNames names p c (.modify (.constrained filter) clause) (.reading c.fieldName reading.layers)
  | context {x : Pattern} {d : Context} {m : PlanMention} (hd : c.Reaches d) (hm : d.Names m) :
      NodeNames names p c x m
  | call {name : String} {arguments : List (Argument Pattern)} {m : PlanMention} (hm : names c m) :
      NodeNames names p c (.call name arguments) m

variable {names : ContextNames} {m : PlanMention} {plan : Plan} {below : PlanRelation}

private theorem nodeNames_of_planTerm {test : TokenTest} (h : planTerm c test = .ok plan) (hm : m ∈ plan.mentions) :
    NodeNames names p c (.term test) m := by
  obtain ⟨d, hd, h⟩ := Result.bind_eq_ok.1 h
  obtain ⟨field, hfield, h⟩ := Result.bind_eq_ok.1 h
  obtain ⟨value, _, h⟩ := Result.bind_eq_ok.1 h
  obtain rfl := Except.ok.inj h
  obtain rfl := List.mem_singleton.1 hm
  obtain ⟨moved, hmoved, hd⟩ := Result.bind_eq_ok.1 hd
  obtain rfl := Except.ok.inj hd
  exact .value _ (.inl rfl) hmoved hfield

private theorem nodeNames_of_planRegex {test : TokenTest} (h : p.planRegex c test = .ok plan)
    (hm : m ∈ plan.mentions) : NodeNames names p c (.regex test) m := by
  obtain ⟨d, hd, h⟩ := Result.bind_eq_ok.1 h
  obtain ⟨e, he, h⟩ := Result.bind_eq_ok.1 h
  obtain ⟨_, _, h⟩ := Result.bind_eq_ok.1 h
  obtain ⟨field, hfield, h⟩ := Result.bind_eq_ok.1 h
  obtain ⟨s, _, h⟩ := Result.bind_eq_ok.1 h
  obtain rfl := Except.ok.inj h
  obtain rfl := List.mem_singleton.1 hm
  obtain ⟨moved, hmoved, hd⟩ := Result.bind_eq_ok.1 hd
  obtain rfl := Except.ok.inj hd
  obtain rfl := Except.ok.inj he
  exact .value _ (.inr rfl) hmoved hfield

/-- What the target of a relation brings into a plan: names of nearby contexts, and what its own plan names. -/
def TargetNames (below : PlanRelation) (c : Context) (t : RelationHead × Pattern) (m : PlanMention) : Prop :=
  (∃ d, c.Reaches d ∧ d.Names m) ∨
    ∃ source d q, RelationContexts c t.1 source d ∧ below d t.2.fillDefault q ∧ m ∈ q.mentions

private theorem RelationPlanned.targetNames {head : RelationHead} {target : Pattern}
    (h : RelationPlanned below c head target plan) (hm : m ∈ plan.mentions) :
    TargetNames below c (head, target) m := by
  obtain ⟨hcontexts, hq, -, hfield⟩ := h
  rcases Plan.of_mem_mentions_restrictedRelations hm with rfl | hm
  · exact .inl ⟨_, hcontexts.reaches_source, .relations hfield⟩
  · exact .inr ⟨_, _, _, hcontexts, hq, hm⟩

private theorem AlignmentPlanned.targetNames {head : RelationHead} {target : Pattern} {a : AlignmentHead × Plan}
    (h : AlignmentPlanned below c head target a)
    (hm : m = .relations a.1.field ∨ m = .tokens a.1.targetField ∨ m ∈ a.2.mentions) :
    TargetNames below c (head, target) m := by
  obtain ⟨hcontexts, hq, -, hfield⟩ := h
  rcases hm with rfl | rfl | hm
  · exact .inl ⟨_, hcontexts.reaches_source, .relations hfield⟩
  · exact .inl ⟨_, hcontexts.reaches_target, .tokens⟩
  · exact .inr ⟨_, _, _, hcontexts, hq, hm⟩

end Planner

/-- All that is named for the relations below a parent. -/
def RelationParts.mentions (parts : RelationParts) : List PlanMention :=
  Plan.mentionsOf parts.required ++ Plan.mentionsOf parts.excluded ++ Plan.targetMentions parts.aligned

private theorem RelationParts.of_mem_mentions_plan {parts : RelationParts} {field : String} {parent : Plan}
    {m : PlanMention} (h : m ∈ (parts.plan field parent).mentions) :
    m = .tokens field ∨ m ∈ parent.mentions ∨ m ∈ parts.mentions := by
  have hremaining : m ∈ (parts.excluded.foldl withoutRelation
      (relationMatchPlan field (parent :: parts.required))).mentions →
        m = .tokens field ∨ m ∈ parent.mentions ∨ m ∈ parts.mentions := by
    intro hm
    rw [mentions, List.mem_append, List.mem_append, Plan.mem_mentionsOf, Plan.mem_mentionsOf]
    rcases Plan.mem_mentions_foldl_withoutRelation.1 hm with hmatched | hexcluded
    · rcases Plan.of_mem_mentions_relationMatchPlan hmatched with htokens | ⟨q, hq, hnamed⟩
      · exact .inl htokens
      · rcases List.mem_cons.1 hq with rfl | hq
        · exact .inr (.inl hnamed)
        · exact .inr (.inr (.inl (.inl ⟨q, hq, hnamed⟩)))
    · exact .inr (.inr (.inl (.inr hexcluded)))
  rw [plan, leave] at h
  split at h
  · exact hremaining h
  · rw [Plan.mentions, List.mem_append] at h
    rcases h with h | h
    · exact hremaining h
    · exact .inr (.inr (List.mem_append_right _ h))

namespace RelationParts

variable {parts : RelationParts} {m : PlanMention}

private theorem mem_mentions_aligned {a : AlignmentHead × Plan} :
    m ∈ ({ parts with aligned := a :: parts.aligned } : RelationParts).mentions ↔
      (m = .relations a.1.field ∨ m = .tokens a.1.targetField ∨ m ∈ a.2.mentions) ∨ m ∈ parts.mentions := by
  simp only [mentions, Plan.targetMentions, List.mem_append, List.mem_cons]
  tauto

private theorem mem_mentions_excluded {q : Plan} :
    m ∈ ({ parts with excluded := q :: parts.excluded } : RelationParts).mentions ↔
      m ∈ q.mentions ∨ m ∈ parts.mentions := by
  simp only [mentions, Plan.mentionsOf, List.mem_append]
  tauto

private theorem mem_mentions_required {q : Plan} :
    m ∈ ({ parts with required := q :: parts.required } : RelationParts).mentions ↔
      m ∈ q.mentions ∨ m ∈ parts.mentions := by
  simp only [mentions, Plan.mentionsOf, List.mem_append]
  tauto

end RelationParts

namespace Planner

variable {p : Planner} {c d e : Context} {x y : Pattern} {names : ContextNames} {m : PlanMention} {plan : Plan}
  {below : PlanRelation}

private theorem PartsPlanned.targetNames {targets : List (RelationHead × Pattern)} {parts : RelationParts}
    (h : PartsPlanned below c targets parts) (hm : m ∈ parts.mentions) :
    ∃ t ∈ targets, TargetNames below c t m := by
  induction h with
  | nil => simp [RelationParts.mentions, Plan.mentionsOf, Plan.targetMentions] at hm
  | aligned _ ha _ ih =>
      rcases RelationParts.mem_mentions_aligned.1 hm with hm | hm
      · exact ⟨_, List.mem_cons_self, ha.targetNames hm⟩
      · obtain ⟨t, ht, hnames⟩ := ih hm
        exact ⟨t, List.mem_cons_of_mem _ ht, hnames⟩
  | excluded _ _ hq _ ih =>
      rcases RelationParts.mem_mentions_excluded.1 hm with hm | hm
      · exact ⟨_, List.mem_cons_self, hq.targetNames hm⟩
      · obtain ⟨t, ht, hnames⟩ := ih hm
        exact ⟨t, List.mem_cons_of_mem _ ht, hnames⟩
  | required _ _ hq _ ih =>
      rcases RelationParts.mem_mentions_required.1 hm with hm | hm
      · exact ⟨_, List.mem_cons_self, hq.targetNames hm⟩
      · obtain ⟨t, ht, hnames⟩ := ih hm
        exact ⟨t, List.mem_cons_of_mem _ ht, hnames⟩

def PartNames (below : PlanRelation) (c : Context) (x : Pattern) (m : PlanMention) : Prop :=
  ∃ d y q, PartOf c x d y ∧ below d y q ∧ m ∈ q.mentions

private theorem TargetNames.nodeNames_or {t : RelationHead × Pattern} (h : TargetNames below c t m)
    (hpart : ∀ source d, RelationContexts c t.1 source d → PartOf c x d t.2.fillDefault) :
    NodeNames names p c x m ∨ PartNames below c x m := by
  rcases h with ⟨d, hd, hm⟩ | ⟨source, d, q, hcontexts, hq, hm⟩
  · exact .inl (.context hd hm)
  · exact .inr ⟨d, _, q, hpart source d hcontexts, hq, hm⟩

private theorem nodeNames_tokens : NodeNames names p c x (.tokens c.fieldName) := .context (.refl c) .tokens

private theorem nodeNames_or_of_modifier {modifier : Modifier} {pm : PlanModifier}
    (h : modifier.inPlan? c.fieldName = some pm) (hm : m ∈ pm.mentions) : m = .tokens c.fieldName := by
  cases modifier with
  | not => obtain rfl := Option.some.inj h; exact List.mem_singleton.1 hm
  | repeated min max => obtain rfl := Option.some.inj h; exact List.mem_singleton.1 hm
  | expanded direction min max => obtain rfl := Option.some.inj h; exact List.mem_singleton.1 hm
  | filteredNGrams operation min max => obtain rfl := Option.some.inj h; exact List.mem_singleton.1 hm
  | capture name => obtain rfl := Option.some.inj h; cases hm
  | edge trailing => obtain rfl := Option.some.inj h; cases hm
  | constrained filter => cases h
  | version name => cases h
  | settings values => cases h

private theorem NodePlan.nodeNames_or (hfunctions : p.extensions.Name names) (h : NodePlan p below c x plan)
    (hm : m ∈ plan.mentions) : NodeNames names p c x m ∨ PartNames below c x m := by
  cases h with
  | term h => exact .inl (nodeNames_of_planTerm h hm)
  | regex h => exact .inl (nodeNames_of_planRegex h hm)
  | anyToken min max =>
      obtain rfl := List.mem_singleton.1 hm
      exact .inl nodeNames_tokens
  | fixedSpan span =>
      rcases List.mem_pair.1 hm with rfl | rfl
      · exact .inl nodeNames_tokens
      · exact .inl (.span span)
  | tags _ hfield =>
      obtain rfl := List.mem_singleton.1 hm
      exact .inl (.context (.refl c) (.relations hfield))
  | join hclauses =>
      rw [Plan.mentions] at hm
      obtain ⟨q, hq, hm⟩ := Plan.mem_mentionsOf.1 hm
      obtain ⟨y, hy, hyq⟩ := exists_of_forall₂ hclauses hq
      exact .inr ⟨c, y, q, .clause hy, hyq, hm⟩
  | modify hmodifier hq =>
      rcases List.mem_append.1 hm with hm | hm
      · obtain rfl := nodeNames_or_of_modifier hmodifier hm
        exact .inl nodeNames_tokens
      · refine .inr ⟨c, _, _, .modified ?_, hq, hm⟩
        rintro name rfl
        cases hmodifier
  | constrained hq _ hreading =>
      rcases List.mem_append.1 hm with hm | hm
      · obtain rfl := List.mem_singleton.1 hm
        exact .inl (.reading hreading)
      · exact .inr ⟨c, _, _, .modified nofun, hq, hm⟩
  | version hd hq => exact .inr ⟨_, _, _, .version hd, hq, hm⟩
  | settings hq => exact .inr ⟨c, _, _, .modified nofun, hq, hm⟩
  | positionFilter hq hr =>
      rcases List.mem_append.1 hm with hm | hm
      · exact .inr ⟨c, _, _, .producer, hq, hm⟩
      · exact .inr ⟨c, _, _, .filter, hr, hm⟩
  | relation _ _ hq => exact (hq.targetNames hm).nodeNames_or fun _ _ hcontexts => .target hcontexts
  | negatedRelation _ _ hq =>
      rcases Plan.mem_mentions_withoutRelation.1 hm with hm | hm
      · obtain rfl := List.mem_singleton.1 hm
        exact .inl nodeNames_tokens
      · exact (hq.targetNames hm).nodeNames_or fun _ _ hcontexts => .target hcontexts
  | relationMatch hq hparts =>
      rcases RelationParts.of_mem_mentions_plan hm with rfl | hm | hm
      · exact .inl nodeNames_tokens
      · exact .inr ⟨c, _, _, .parent, hq, hm⟩
      · obtain ⟨t, ht, hnames⟩ := hparts.targetNames hm
        exact hnames.nodeNames_or fun _ _ hcontexts => .matchTarget ht hcontexts
  | rootRelations hparts =>
      rcases RelationParts.of_mem_mentions_plan hm with rfl | hm | hm
      · exact .inl nodeNames_tokens
      · rw [Plan.mentions_anyNGram] at hm
        obtain rfl := List.mem_singleton.1 hm
        exact .inl nodeNames_tokens
      · obtain ⟨t, ht, hnames⟩ := hparts.targetNames hm
        exact hnames.nodeNames_or fun _ _ hcontexts => .rootTarget ht hcontexts
  | @call name arguments f given complete _ hf hgiven hcomplete hplan =>
      obtain ⟨before, r, hr, rfl⟩ := hplan
      rcases hfunctions name f hf c complete before r hr m hm with hm | ⟨a, ha, hm⟩
      · exact .inl (.call hm)
      · rcases QueryFunction.of_mem_mentions_completeArguments hcomplete ha hm with rfl | ha
        · exact .inl nodeNames_tokens
        · obtain ⟨argument, hargument, hplanned⟩ := exists_of_forall₂ hgiven ha
          cases hplanned with
          | pattern hne hq => exact .inr ⟨c, _, _, .argument hargument hne, hq, hm⟩
          | value _ hnone =>
              cases a with
              | pattern q => cases hnone
              | text value => cases hm
              | number value => cases hm

theorem RelationContexts.unique {head : RelationHead} {source source' d' : Context}
    (h : RelationContexts c head source d) (h' : RelationContexts c head source' d') : d = d' := by
  obtain rfl := Except.ok.inj (h.1.symm.trans h'.1)
  exact Except.ok.inj (h.2.symm.trans h'.2)

theorem RelationPlanned.target {head : RelationHead} {target : Pattern} {source : Context}
    (h : RelationPlanned below c head target plan) (hcontexts : RelationContexts c head source d) :
    ∃ q, below d target.fillDefault q := by
  obtain ⟨hplanned, hq, -, -⟩ := h
  exact ⟨_, hplanned.unique hcontexts ▸ hq⟩

theorem AlignmentPlanned.target {head : RelationHead} {target : Pattern} {a : AlignmentHead × Plan}
    {source : Context} (h : AlignmentPlanned below c head target a)
    (hcontexts : RelationContexts c head source d) : ∃ q, below d target.fillDefault q := by
  obtain ⟨hplanned, hq, -, -⟩ := h
  exact ⟨_, hplanned.unique hcontexts ▸ hq⟩

theorem PartsPlanned.target {targets : List (RelationHead × Pattern)} {parts : RelationParts}
    (h : PartsPlanned below c targets parts) {t : RelationHead × Pattern} (ht : t ∈ targets) {source : Context}
    (hcontexts : RelationContexts c t.1 source d) : ∃ q, below d t.2.fillDefault q := by
  induction h with
  | nil => cases ht
  | aligned _ ha _ ih =>
      rcases List.mem_cons.1 ht with rfl | ht
      · exact ha.target hcontexts
      · exact ih ht
  | excluded _ _ hq _ ih =>
      rcases List.mem_cons.1 ht with rfl | ht
      · exact hq.target hcontexts
      · exact ih ht
  | required _ _ hq _ ih =>
      rcases List.mem_cons.1 ht with rfl | ht
      · exact hq.target hcontexts
      · exact ih ht

private theorem NodePlan.exists_of_part (h : NodePlan p below c x plan) (hpart : PartOf c x d y) :
    ∃ q, below d y q := by
  cases hpart with
  | clause hy =>
      cases h with
      | join hclauses =>
          obtain ⟨q, _, hq⟩ := exists_of_forall₂ hclauses.flip hy
          exact ⟨q, hq⟩
  | modified hm =>
      cases h with
      | modify _ hq => exact ⟨_, hq⟩
      | constrained hq _ _ => exact ⟨_, hq⟩
      | version _ _ => exact absurd rfl (hm _)
      | settings hq => exact ⟨_, hq⟩
  | version hd =>
      cases h with
      | modify hm _ => cases hm
      | version hd' hq =>
          obtain rfl := Except.ok.inj (hd.symm.trans hd')
          exact ⟨_, hq⟩
  | producer =>
      cases h with
      | positionFilter hq _ => exact ⟨_, hq⟩
  | filter =>
      cases h with
      | positionFilter _ hr => exact ⟨_, hr⟩
  | target hcontexts =>
      cases h with
      | relation _ _ hq => exact hq.target hcontexts
      | negatedRelation _ _ hq => exact hq.target hcontexts
  | parent =>
      cases h with
      | relationMatch hq _ => exact ⟨_, hq⟩
  | matchTarget ht hcontexts =>
      cases h with
      | relationMatch _ hparts => exact hparts.target ht hcontexts
  | rootTarget ht hcontexts =>
      cases h with
      | rootRelations hparts => exact hparts.target ht hcontexts
  | argument hy hne =>
      cases h with
      | call _ hgiven _ _ =>
          obtain ⟨b, _, hb⟩ := exists_of_forall₂ hgiven.flip hy
          cases hb with
          | placeholder => exact absurd rfl hne
          | pattern _ hq => exact ⟨_, hq⟩
          | value hnone _ => cases hnone

theorem forall_visits_of_plan {Q : Context → Pattern → Prop}
    (hnode : ∀ (below : PlanRelation) d y plan, NodePlan p below d y plan → Q d y) (h : p.plan c x = .ok plan)
    (hvisits : p.Visits c x d y) : Q d y := by
  refine plan_induction (P := fun c x _ => ∀ d y, p.Visits c x d y → Q d y)
    (fun c x plan hplan d y hvisits => ?_) h d y hvisits
  cases hvisits with
  | here => exact hnode _ _ _ _ hplan
  | part hpart hz =>
      obtain ⟨q, hq⟩ := hplan.exists_of_part hpart
      exact hq _ _ hz

/-- All that a plan names, some visited node names in its context. -/
theorem exists_visits_of_mem_mentions (hfunctions : p.extensions.Name names) (h : p.plan c x = .ok plan)
    (hm : m ∈ plan.mentions) : ∃ d y, p.Visits c x d y ∧ NodeNames names p d y m := by
  refine plan_induction (P := fun c x plan => ∀ m ∈ plan.mentions,
    ∃ d y, p.Visits c x d y ∧ NodeNames names p d y m) (fun c x plan hplan m hm => ?_) h m hm
  rcases hplan.nodeNames_or hfunctions hm with hnames | ⟨d, y, q, hpart, hq, hm⟩
  · exact ⟨c, _, .here c x, hnames⟩
  · obtain ⟨e, z, hvisits, hnames⟩ := hq m hm
    exact ⟨e, z, .part hpart hvisits, hnames⟩

end Planner

end CorpusSearch
