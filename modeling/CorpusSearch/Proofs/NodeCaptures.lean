import CorpusSearch.Proofs.PatternInvariant
import CorpusSearch.Proofs.RelationMatches

/-!
The capture names of the nodes of a plan, and those that a query gives them. Main statements: what planning does to
plans of parts adds no names and drops none; simplification keeps the names of a query; the names that a query gives
stand in its nodes or in the arguments of calls.
-/

set_option autoImplicit false

namespace CorpusSearch

/-! ### Names in plans -/

def PlanModifier.capture? : PlanModifier → Option String
  | .capture name => some name
  | .relationsWithin query => some query.capture
  | .not _ | .repeated _ _ _ | .expanded _ _ _ _ | .filteredNGrams _ _ _ _ | .edge _ | .relationSpan _
  | .constrained _ _ _ => none

namespace Plan

mutual

/-- The capture names of all nodes, also of those whose captures no hit has; a name stands as often as nodes have it. -/
def nodeCaptures : Plan → List String
  | term _ _ | regex _ _ | anyToken _ _ _ | fixedSpan _ _ => []
  | tags query => [query.capture]
  | relations query => [query.capture]
  | join _ clauses => nodeCapturesOf clauses
  | modify modifier clause => modifier.capture?.toList ++ clause.nodeCaptures
  | positionFilter _ producer filter => producer.nodeCaptures ++ filter.nodeCaptures
  | align source targets => source.nodeCaptures ++ targetNodeCaptures targets

def nodeCapturesOf : List Plan → List String
  | [] => []
  | plan :: plans => plan.nodeCaptures ++ nodeCapturesOf plans

def targetNodeCaptures : List (AlignmentHead × Plan) → List String
  | [] => []
  | (head, target) :: targets => head.capture :: (target.nodeCaptures ++ targetNodeCaptures targets)

end

theorem nodeCapturesOf_eq (plans : List Plan) : nodeCapturesOf plans = plans.flatMap nodeCaptures := by
  induction plans with
  | nil => rfl
  | cons plan plans ih => rw [nodeCapturesOf, ih, List.flatMap_cons]

def alignmentCaptures (a : AlignmentHead × Plan) : List String := a.1.capture :: a.2.nodeCaptures

private theorem targetNodeCaptures_eq (targets : List (AlignmentHead × Plan)) :
    targetNodeCaptures targets = targets.flatMap alignmentCaptures := by
  induction targets with
  | nil => rfl
  | cons t targets ih => rw [targetNodeCaptures, ih, List.flatMap_cons, alignmentCaptures, List.cons_append]

@[simp] theorem nodeCaptures_anyNGram (field : String) : (anyNGram field).nodeCaptures = [] := by
  rw [anyNGram, nodeCaptures]

theorem nodeCaptures_restrictingPlan? (plan : Plan) :
    (restrictingPlan? plan).toList.flatMap nodeCaptures = plan.nodeCaptures := by
  rw [restrictingPlan?]
  split
  · rename_i hany
    cases plan with
    | anyToken field min max => simp [nodeCaptures]
    | _ => cases hany
  · simp

theorem nodeCaptures_relationMatchPlan (field : String) (clauses : List Plan) :
    (relationMatchPlan field clauses).nodeCaptures = clauses.flatMap nodeCaptures := by
  have hrestricting : (clauses.filterMap restrictingPlan?).flatMap nodeCaptures = clauses.flatMap nodeCaptures := by
    induction clauses with
    | nil => rfl
    | cons clause clauses ih =>
        rw [List.flatMap_cons, ← nodeCaptures_restrictingPlan? clause, ← ih, List.filterMap_cons]
        cases restrictingPlan? clause <;> simp
  rw [← hrestricting, relationMatchPlan]
  split
  · rename_i hnil
    simp [hnil]
  · rename_i clause hone
    simp [hone]
  · rw [nodeCaptures, nodeCapturesOf_eq]

theorem nodeCaptures_restrictedRelations (query : RelationQuery) (target : Option Plan) :
    (restrictedRelations query target).nodeCaptures = query.capture :: target.toList.flatMap nodeCaptures := by
  cases target with
  | none => simp [restrictedRelations, nodeCaptures]
  | some target =>
      dsimp only [restrictedRelations]
      split
      · simp [nodeCaptures, nodeCapturesOf]
      · simp [nodeCaptures, nodeCapturesOf, PlanModifier.capture?]

theorem nodeCaptures_withoutRelation (parent relation : Plan) :
    (withoutRelation parent relation).nodeCaptures = parent.nodeCaptures ++ relation.nodeCaptures := by
  rw [withoutRelation, nodeCaptures]

private theorem nodeCaptures_foldl_withoutRelation (parent : Plan) (excluded : List Plan) :
    (excluded.foldl withoutRelation parent).nodeCaptures = parent.nodeCaptures ++ excluded.flatMap nodeCaptures := by
  induction excluded generalizing parent with
  | nil => simp
  | cons relation excluded ih =>
      rw [List.foldl_cons, ih, nodeCaptures_withoutRelation, List.flatMap_cons, List.append_assoc]

end Plan

namespace RelationParts

/-- The capture names of all relations below a parent. -/
def nodeCaptures (parts : RelationParts) : List String :=
  parts.required.flatMap Plan.nodeCaptures ++ parts.excluded.flatMap Plan.nodeCaptures ++
    parts.aligned.flatMap Plan.alignmentCaptures

theorem nodeCaptures_plan (parts : RelationParts) (field : String) (parent : Plan) :
    (parts.plan field parent).nodeCaptures = parent.nodeCaptures ++ parts.nodeCaptures := by
  have hremaining : (parts.excluded.foldl withoutRelation
      (relationMatchPlan field (parent :: parts.required))).nodeCaptures =
        parent.nodeCaptures ++ (parts.required.flatMap Plan.nodeCaptures ++
          parts.excluded.flatMap Plan.nodeCaptures) := by
    rw [Plan.nodeCaptures_foldl_withoutRelation, Plan.nodeCaptures_relationMatchPlan, List.flatMap_cons,
      List.append_assoc]
  rw [plan, leave, nodeCaptures]
  split
  · rename_i hempty
    rw [hremaining, List.isEmpty_iff.1 hempty, List.flatMap_nil, List.append_nil]
  · rw [Plan.nodeCaptures, hremaining, Plan.targetNodeCaptures_eq, List.append_assoc, List.append_assoc]

section More

variable (parts : RelationParts) (relation : Plan) (a : AlignmentHead × Plan)

theorem nodeCaptures_required :
    (nodeCaptures { parts with required := relation :: parts.required }).Perm
      (parts.nodeCaptures ++ relation.nodeCaptures) := by
  rw [List.perm_iff_count]
  intro name
  simp only [nodeCaptures, List.flatMap_cons, List.count_append]
  omega

theorem nodeCaptures_excluded :
    (nodeCaptures { parts with excluded := relation :: parts.excluded }).Perm
      (parts.nodeCaptures ++ relation.nodeCaptures) := by
  rw [List.perm_iff_count]
  intro name
  simp only [nodeCaptures, List.flatMap_cons, List.count_append]
  omega

theorem nodeCaptures_aligned :
    (nodeCaptures { parts with aligned := a :: parts.aligned }).Perm
      (parts.nodeCaptures ++ Plan.alignmentCaptures a) := by
  rw [List.perm_iff_count]
  intro name
  simp only [nodeCaptures, List.flatMap_cons, List.count_append]
  omega

end More

end RelationParts

/-! ### Names in queries -/

/-- The name that a relation gives its capture; instead of an empty one a name is made up. -/
def RelationHead.givenCapture? (head : RelationHead) : Option String :=
  if head.operator.alignment then head.capture else RelationOperator.nonEmpty? head.capture

def Argument.asText? : Argument Pattern → Option String
  | .pattern _ => none
  | .text value => some value
  | .number n => some (toString n)

namespace Pattern

/-- The capture name that a call of `rel` asks for in its fourth argument. -/
def argumentCapture? : Pattern → Option String
  | call name arguments =>
    if name = RelationFunction.rel.name then RelationOperator.nonEmpty? (arguments[3]?.bind Argument.asText?) else none
  | _ => none

def argumentCaptures (x : Pattern) : List String := x.walk.flatMap fun y => y.argumentCapture?.toList

def ownGivenCaptures : Pattern → List String
  | modify (.capture name) _ => [name]
  | tags tag => tag.capture.toList
  | relationTarget head _ => head.givenCapture?.toList
  | relationMatch _ targets => targets.filterMap (·.1.givenCapture?)
  | rootRelations targets => targets.filterMap (·.1.givenCapture?)
  | call name arguments => (call name arguments).argumentCapture?.toList
  | _ => []

/-- The capture names that a query gives to nodes of its plan. -/
def givenCaptures (x : Pattern) : List String := x.walk.flatMap ownGivenCaptures

theorem givenCaptures_eq (x : Pattern) : x.givenCaptures = x.ownGivenCaptures ++ x.children.flatMap givenCaptures := by
  rw [givenCaptures, walk_eq, List.flatMap_cons, List.flatMap_assoc]
  rfl

private theorem givenCaptures_simpler? {x y : Pattern} (h : x.simpler? = some y) :
    y.givenCaptures = x.givenCaptures := by
  unfold simpler? at h
  split at h
  · simp only [TokenTest.simplerRegex?] at h
    split at h
    · obtain rfl := Option.some.inj h
      rfl
    · split at h
      · cases h
      · obtain rfl := Option.some.inj h
        rfl
  · obtain rfl := Option.some.inj h
    simp [givenCaptures_eq (.modify .not _), ownGivenCaptures, children]
  · obtain rfl := Option.some.inj h
    simp [givenCaptures_eq (.join _ _), ownGivenCaptures, children]
  · obtain rfl := Option.some.inj h
    rfl
  · cases h

theorem givenCaptures_simplifyWithin (fuel : Nat) (x : Pattern) :
    (x.simplifyWithin fuel).givenCaptures = x.givenCaptures := by
  induction fuel generalizing x with
  | zero => rfl
  | succ fuel ih =>
      rw [simplifyWithin]
      split
      · rename_i simpler hsimpler
        rw [ih, givenCaptures_simpler? hsimpler]
      · rfl

theorem givenCaptures_fillDefault (x : Pattern) : x.fillDefault.givenCaptures = x.givenCaptures := by
  unfold fillDefault
  split
  · rfl
  · rfl
  · rfl

private theorem mem_ownGivenCaptures {x : Pattern} {name : String} (h : name ∈ x.ownGivenCaptures) :
    name ∈ x.ownCaptureNames ∨ x.argumentCapture? = some name := by
  have hhead : ∀ {head : RelationHead}, head.givenCapture? = some name → head.capture = some name := by
    intro head h
    rw [RelationHead.givenCapture?] at h
    split at h
    · exact h
    · exact (Option.filter_eq_some_iff.1 h).1
  have htargets : ∀ {targets : List (RelationHead × Pattern)}, name ∈ targets.filterMap (·.1.givenCapture?) →
      name ∈ targets.filterMap (·.1.capture) := by
    intro targets h
    obtain ⟨t, ht, hname⟩ := List.mem_filterMap.1 h
    exact List.mem_filterMap.2 ⟨t, ht, hhead hname⟩
  unfold ownGivenCaptures at h
  split at h
  · exact .inl h
  · exact .inl h
  · exact .inl (Option.mem_toList.2 (hhead (Option.mem_toList.1 h)))
  · exact .inl (htargets h)
  · exact .inl (htargets h)
  · exact .inr (Option.mem_toList.1 h)
  · cases h

theorem mem_givenCaptures {x : Pattern} {name : String} (h : name ∈ x.givenCaptures) :
    name ∈ x.captureNames ∨ name ∈ x.argumentCaptures := by
  obtain ⟨y, hy, hname⟩ := List.mem_flatMap.1 h
  refine (mem_ownGivenCaptures hname).imp (fun hown => ?_) (fun hargument => ?_)
  · exact List.mem_flatMap.2 ⟨y, hy, hown⟩
  · exact List.mem_flatMap.2 ⟨y, hy, Option.mem_toList.2 hargument⟩

theorem mem_givenCaptures_of_argumentCaptures {x : Pattern} {name : String} (h : name ∈ x.argumentCaptures) :
    name ∈ x.givenCaptures := by
  obtain ⟨y, hy, hname⟩ := List.mem_flatMap.1 h
  refine List.mem_flatMap.2 ⟨y, hy, ?_⟩
  cases y with
  | call function arguments => exact hname
  | _ => cases hname

end Pattern

end CorpusSearch
