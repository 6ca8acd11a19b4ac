import CorpusSearch.Proofs.PlannedNodes

/-!
What a plan names of an index, and where in the query it comes from. A node names things of the context in which it
stands, and the contexts of its parts differ from its own in the version of the document only. Main statement: all
that a plan names, some visited node names, in the context in which it is visited.
-/

set_option autoImplicit false

namespace CorpusSearch

open Planning (Yields)

/-- Something that a plan names: a part of an index, or fixed positions. -/
inductive PlanMention where
  /-- The values of a layer, by the name of their index field. -/
  | values (name : String)
  /-- The relations of a field, by the name of their index field. -/
  | relations (name : String)
  /-- A field whose tokens are counted. -/
  | tokens (field : String)
  /-- Layers of a field whose values conditions read. -/
  | reading (field : String) (layers : NameSet)
  | span (s : Span)

def PlanModifier.mentions : PlanModifier → List PlanMention
  | .not field | .repeated field _ _ | .expanded field _ _ _ | .filteredNGrams field _ _ _ => [.tokens field]
  | .constrained _ field layers => [.reading field layers]
  | .relationsWithin query => [.relations query.field]
  | .capture _ | .edge _ | .relationSpan _ => []

namespace Plan

mutual

def mentions : Plan → List PlanMention
  | term field _ | regex field _ => [.values field]
  | anyToken field _ _ => [.tokens field]
  | fixedSpan field s => [.tokens field, .span s]
  | tags query => [.relations query.field]
  | relations query => [.relations query.field]
  | join _ clauses => mentionsOf clauses
  | modify modifier clause => modifier.mentions ++ clause.mentions
  | positionFilter _ producer filter => producer.mentions ++ filter.mentions
  | align source targets => source.mentions ++ targetMentions targets

def mentionsOf : List Plan → List PlanMention
  | [] => []
  | plan :: plans => plan.mentions ++ mentionsOf plans

def targetMentions : List (AlignmentHead × Plan) → List PlanMention
  | [] => []
  | (head, target) :: targets =>
    .relations head.field :: .tokens head.targetField :: (target.mentions ++ targetMentions targets)

end

variable {m : PlanMention}

theorem mem_mentionsOf {plans : List Plan} : m ∈ mentionsOf plans ↔ ∃ q ∈ plans, m ∈ q.mentions := by
  induction plans with
  | nil => simp [mentionsOf]
  | cons plan plans ih => simp [mentionsOf, ih]

@[simp] theorem mentions_anyNGram (field : String) : (anyNGram field).mentions = [.tokens field] := by
  rw [anyNGram, mentions]

theorem mem_mentions_withoutRelation {parent relation : Plan} :
    m ∈ (withoutRelation parent relation).mentions ↔ m ∈ parent.mentions ∨ m ∈ relation.mentions := by
  rw [withoutRelation, mentions, List.mem_append]

theorem mem_mentions_foldl_withoutRelation {relations : List Plan} {parent : Plan} :
    m ∈ (relations.foldl withoutRelation parent).mentions ↔
      m ∈ parent.mentions ∨ ∃ q ∈ relations, m ∈ q.mentions := by
  induction relations generalizing parent with
  | nil => simp
  | cons relation relations ih =>
      simp only [List.foldl_cons, ih, mem_mentions_withoutRelation, List.mem_cons, exists_eq_or_imp, or_assoc]

theorem of_mem_mentions_relationMatchPlan {field : String} {clauses : List Plan}
    (h : m ∈ (relationMatchPlan field clauses).mentions) :
    m = .tokens field ∨ ∃ q ∈ clauses, m ∈ q.mentions := by
  have hkept : ∀ q ∈ clauses.filterMap restrictingPlan?, m ∈ q.mentions → ∃ q ∈ clauses, m ∈ q.mentions := by
    intro q hq hm
    obtain ⟨clause, hclause, hsome⟩ := List.mem_filterMap.1 hq
    rw [restrictingPlan?] at hsome
    split at hsome
    · cases hsome
    · obtain rfl := Option.some.inj hsome
      exact ⟨clause, hclause, hm⟩
  unfold relationMatchPlan at h
  split at h
  · rw [mentions_anyNGram, List.mem_singleton] at h
    exact .inl h
  · rename_i clause hclauses
    exact .inr (hkept clause (by simp [hclauses]) h)
  · rw [mentions] at h
    obtain ⟨q, hq, hm⟩ := mem_mentionsOf.1 h
    exact .inr (hkept q hq hm)

theorem of_mem_mentions_restrictedRelations {query : RelationQuery} {target : Plan}
    (h : m ∈ (restrictedRelations query (restrictingPlan? target)).mentions) :
    m = .relations query.field ∨ m ∈ target.mentions := by
  have hjoined : ∀ q : RelationQuery, q.field = query.field →
      m ∈ (Plan.join .relationAnd [.relations q, target]).mentions →
        m = .relations query.field ∨ m ∈ target.mentions := by
    intro q hfield hm
    rw [mentions] at hm
    obtain ⟨p, hp, hnamed⟩ := mem_mentionsOf.1 hm
    rcases List.mem_pair.1 hp with rfl | rfl
    · rw [mentions, List.mem_singleton, hfield] at hnamed
      exact .inl hnamed
    · exact .inr hnamed
  rw [restrictingPlan?] at h
  split at h
  · exact .inl (List.mem_singleton.1 h)
  · dsimp only [restrictedRelations] at h
    split at h
    · exact hjoined _ rfl h
    · rw [mentions] at h
      exact hjoined { query with spanMode := .target } rfl h

end Plan

/-! ### Functions -/

abbrev ContextNames := Context → PlanMention → Prop

/-- The tokens and the relations of the field of a context. -/
inductive Context.Names (c : Context) : PlanMention → Prop
  | tokens : Names c (.tokens c.fieldName)
  | relations {name : String} (h : c.relationsField = .ok name) : Names c (.relations name)

def Argument.mentions : Argument Plan → List PlanMention
  | .pattern plan => plan.mentions
  | .text _ | .number _ => []

/-- Beside what its arguments name, a function names nothing but what it can in the context of the call. -/
def QueryFunction.Names (names : ContextNames) (f : QueryFunction) : Prop :=
  ∀ c arguments, Yields (f.build c arguments) fun plan =>
    ∀ m ∈ plan.mentions, names c m ∨ ∃ a ∈ arguments, m ∈ a.mentions

def Extensions.Name (names : ContextNames) (e : Extensions) : Prop :=
  ∀ name f, e.functions.get? name = some f → f.Names names

namespace QueryFunction

variable {f : QueryFunction} {c : Context} {m : PlanMention}

private theorem of_mem_mentions_defaultAt {index : Nat} {a : Argument Plan} (h : f.defaultAt c index = .ok a)
    (hm : m ∈ a.mentions) : m = .tokens c.fieldName := by
  unfold defaultAt at h
  split at h
  · rename_i d _
    obtain rfl := Except.ok.inj h
    cases d with
    | anyNGram =>
        rw [DefaultArgument.resolve, Argument.mentions, Plan.mentions_anyNGram] at hm
        exact List.mem_singleton.1 hm
    | text value => cases hm
    | number value => cases hm
  · cases h

theorem of_mem_mentions_completeArguments {given : List (Option (Argument Plan))}
    {complete : List (Argument Plan)} (h : f.completeArguments c given = .ok complete) {a : Argument Plan}
    (ha : a ∈ complete) (hm : m ∈ a.mentions) : m = .tokens c.fieldName ∨ some a ∈ given := by
  rcases given_or_default_of_completeArguments h ha with ha | ⟨i, hdefault⟩
  · exact .inr ha
  · exact .inl (of_mem_mentions_defaultAt hdefault hm)

end QueryFunction

namespace RelationFunction

variable {arguments : List (Argument Plan)} {c : Context}

private theorem yields_mem_planAt (index : Nat) : Yields (planAt arguments index) fun q => .pattern q ∈ arguments := by
  unfold planAt
  split
  · rename_i plan hplan
    exact .pure (List.mem_of_getElem? hplan)
  · exact .fail _

private theorem names_or_mem {m : PlanMention} {q : Plan} (hq : .pattern q ∈ arguments)
    (h : c.Names m ∨ m ∈ q.mentions) : c.Names m ∨ ∃ a ∈ arguments, m ∈ a.mentions :=
  h.imp_right fun hm => ⟨_, hq, hm⟩

private theorem names_rel : rel.Names Context.Names := by
  intro c arguments
  refine (Yields.trivial _).bind fun type _ => ?_
  refine (yields_mem_planAt 1).bind fun target htarget => ?_
  refine (Yields.trivial _).bind fun modeCode _ => ?_
  refine (Yields.trivial _).bind fun mode _ => ?_
  refine (Yields.trivial _).bind fun capture _ => ?_
  refine (Yields.trivial _).bind fun directionCode _ => ?_
  refine (Yields.trivial _).bind fun direction _ => ?_
  rw [relationPlan_eq]
  refine (Yields.trivial _).bind fun _ _ => ?_
  refine (Yields.liftM _).bind fun field hfield => ?_
  refine (Yields.trivial _).bind fun name _ => .pure fun m hm => ?_
  refine names_or_mem htarget ((Plan.of_mem_mentions_restrictedRelations hm).imp_left ?_)
  rintro rfl
  exact .relations hfield

private theorem names_rmatch : rmatch.Names Context.Names := by
  intro c arguments
  refine (Yields.mapM fun index _ => yields_mem_planAt index).bind fun clauses hclauses => .pure fun m hm => ?_
  rcases Plan.of_mem_mentions_relationMatchPlan hm with rfl | ⟨q, hq, hm⟩
  · exact .inl .tokens
  · exact .inr ⟨_, hclauses q hq, hm⟩

private theorem names_rspan : rspan.Names Context.Names := by
  intro c arguments
  refine (yields_mem_planAt 0).bind fun clause hclause => ?_
  refine (Yields.trivial _).bind fun code _ => ?_
  refine (Yields.trivial _).bind fun mode _ => .pure fun m hm => ?_
  exact names_or_mem hclause (.inr hm)

private theorem yields_names_captureWithin {clause : Plan} (hclause : .pattern clause ∈ arguments)
    (within : Option String) (capture relationType : String) :
    Yields (captureWithin c clause within capture relationType) fun plan =>
      ∀ m ∈ plan.mentions, c.Names m ∨ ∃ a ∈ arguments, m ∈ a.mentions := by
  refine (Yields.trivial _).bind fun _ _ => ?_
  refine (Yields.liftM _).bind fun field hfield => ?_
  refine (Yields.trivial _).bind fun name _ => .pure fun m hm => ?_
  rw [Plan.mentions, PlanModifier.mentions, List.singleton_append, List.mem_cons] at hm
  refine names_or_mem hclause (hm.imp_left ?_)
  rintro rfl
  exact .relations hfield

private theorem names_rcapture : rcapture.Names Context.Names := by
  intro c arguments
  refine (yields_mem_planAt 0).bind fun clause hclause => ?_
  refine (Yields.trivial _).bind fun capture _ => ?_
  exact (Yields.trivial _).bind fun type _ => yields_names_captureWithin hclause _ _ _

private theorem names_rcapture2 : rcapture2.Names Context.Names := by
  intro c arguments
  refine (yields_mem_planAt 0).bind fun clause hclause => ?_
  refine (Yields.trivial _).bind fun within _ => ?_
  refine (Yields.trivial _).bind fun capture _ => ?_
  exact (Yields.trivial _).bind fun type _ => yields_names_captureWithin hclause _ _ _

end RelationFunction

namespace Extensions

variable {names : ContextNames}

theorem Name.imp {e : Extensions} {names' : ContextNames} (h : e.Name names)
    (himp : ∀ c m, names c m → names' c m) : e.Name names' := by
  intro name f hf c arguments
  exact (h name f hf c arguments).imp fun plan hplan m hm => (hplan m hm).imp_left (himp c m)

/-- The relation functions name the tokens and the relations of the field in which they are called. -/
theorem name_standard : standard.Name Context.Names := fun _ _ =>
  standard_cases RelationFunction.names_rel RelationFunction.names_rmatch RelationFunction.names_rspan
    RelationFunction.names_rcapture RelationFunction.names_rcapture2

end Extensions

end CorpusSearch
