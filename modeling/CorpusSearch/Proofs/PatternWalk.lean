import CorpusSearch.Proofs.PatternInvariant

/-!
The walk through a pattern. A stack of patterns that are still to be visited stands for their walks one after the other.
Main statement: the walk visits the node at every place of a pattern once, each node before the nodes of its parts and
these from left to right; the capture names of a pattern are the names that groups, markup and relation targets in it
carry.
-/

set_option autoImplicit false

namespace CorpusSearch.Pattern

/-! ### Pre-order -/

mutual

/-- A pattern, then what is below its parts from left to right. -/
def preorder : Pattern → List Pattern
  | term test => [term test]
  | regex test => [regex test]
  | anyToken min max => [anyToken min max]
  | fixedSpan span => [fixedSpan span]
  | tags tag => [tags tag]
  | defaultValue => [defaultValue]
  | join connective clauses => join connective clauses :: preorderAll clauses
  | modify modifier clause => modify modifier clause :: clause.preorder
  | positionFilter test producer filter =>
    positionFilter test producer filter :: (producer.preorder ++ filter.preorder)
  | relationTarget head target => relationTarget head target :: target.preorder
  | relationMatch parent targets => relationMatch parent targets :: (parent.preorder ++ preorderTargets targets)
  | rootRelations targets => rootRelations targets :: preorderTargets targets
  | call name arguments => call name arguments :: preorderArguments arguments

def preorderAll : List Pattern → List Pattern
  | [] => []
  | p :: ps => p.preorder ++ preorderAll ps

def preorderTargets : List (RelationHead × Pattern) → List Pattern
  | [] => []
  | (_, p) :: targets => p.preorder ++ preorderTargets targets

def preorderArguments : List (Argument Pattern) → List Pattern
  | [] => []
  | .pattern p :: arguments => p.preorder ++ preorderArguments arguments
  | .text _ :: arguments => preorderArguments arguments
  | .number _ :: arguments => preorderArguments arguments

end

private theorem preorderAll_eq (ps : List Pattern) : preorderAll ps = ps.flatMap preorder := by
  induction ps with
  | nil => rfl
  | cons p ps ih => rw [preorderAll, ih, List.flatMap_cons]

private theorem preorderTargets_eq (targets : List (RelationHead × Pattern)) :
    preorderTargets targets = (targets.map (·.2)).flatMap preorder := by
  induction targets with
  | nil => rfl
  | cons t targets ih => rw [preorderTargets, ih, List.map_cons, List.flatMap_cons]

private theorem preorderArguments_eq (arguments : List (Argument Pattern)) :
    preorderArguments arguments = (arguments.filterMap Argument.pattern?).flatMap preorder := by
  induction arguments with
  | nil => rfl
  | cons a arguments ih =>
      cases a with
      | pattern p =>
          have hpart : (Argument.pattern p).pattern? = some p := rfl
          rw [preorderArguments, ih, List.filterMap_cons_some hpart, List.flatMap_cons]
      | text value => rw [preorderArguments, ih, List.filterMap_cons_none rfl]
      | number value => rw [preorderArguments, ih, List.filterMap_cons_none rfl]

private theorem preorder_eq (p : Pattern) : p.preorder = p :: p.children.flatMap preorder := by
  cases p with
  | join connective clauses => rw [preorder, preorderAll_eq, children]
  | modify modifier clause => rw [preorder, children, List.flatMap_singleton]
  | positionFilter test producer filter =>
      rw [preorder, children, List.flatMap_cons, List.flatMap_singleton]
  | relationTarget head target => rw [preorder, children, List.flatMap_singleton]
  | relationMatch parent targets => rw [preorder, preorderTargets_eq, children, List.flatMap_cons]
  | rootRelations targets => rw [preorder, preorderTargets_eq, children]
  | call name arguments => rw [preorder, preorderArguments_eq, children]
  | _ => rfl

private theorem walk_eq_preorder (p : Pattern) : p.walk = p.preorder := by
  induction p using children_induction with
  | step p ih => rw [walk_eq, preorder_eq, List.flatMap_congr ih]

private theorem walkStack_add_eq_preorder (p : Pattern) (more : Nat) : walkStack (p.size + more) [p] = p.preorder := by
  have hfuel : sizeAll [p] ≤ p.size + more := by
    rw [sizeAll, sizeAll]
    exact Nat.le_add_right _ _
  rw [walkStack_eq_flatMap hfuel, List.flatMap_singleton, walk_eq_preorder]

/-! ### Places -/

def node? : Pattern → List Nat → Option Pattern
  | p, [] => some p
  | p, i :: place => p.children[i]?.bind fun q => q.node? place

/-- Visits of all nodes of a pattern, each with its place, in the order of the places. -/
structure Enumerates (p : Pattern) (visits : List (List Nat × Pattern)) : Prop where
  inOrder : visits.Pairwise fun v w => v.1 < w.1
  mem_iff : ∀ place q, (place, q) ∈ visits ↔ p.node? place = some q

private theorem exists_visits_children {qs : List Pattern}
    (h : ∀ q ∈ qs, ∃ visits, q.Enumerates visits ∧ visits.map (·.2) = q.walk) (first : Nat) :
    ∃ visits : List (List Nat × Pattern), (visits.Pairwise fun v w => v.1 < w.1) ∧
      (∀ place q, (place, q) ∈ visits ↔
        ∃ i rest, place = (first + i) :: rest ∧ (qs[i]?.bind fun r => r.node? rest) = some q) ∧
      visits.map (·.2) = qs.flatMap walk := by
  induction qs generalizing first with
  | nil => exact ⟨[], .nil, by simp, rfl⟩
  | cons q qs ih =>
      obtain ⟨⟨visits, ⟨hvisits, hmem⟩, hwalk⟩, hrest⟩ := List.forall_mem_cons.1 h
      obtain ⟨later, hlater, hmemLater, hwalkLater⟩ := ih hrest (first + 1)
      refine ⟨visits.map (fun v => (first :: v.1, v.2)) ++ later, ?_, fun place r => ?_, ?_⟩
      · refine List.pairwise_append.2 ⟨?_, hlater, fun v hv w hw => ?_⟩
        · exact List.pairwise_map.2 (hvisits.imp List.cons_lt_cons_self.2)
        · obtain ⟨v, _, rfl⟩ := List.mem_map.1 hv
          obtain ⟨i, rest, hplace, -⟩ := (hmemLater w.1 w.2).1 hw
          rw [hplace]
          exact List.Lex.rel (by omega)
      · rw [List.mem_append, List.mem_map, hmemLater]
        constructor
        · rintro (⟨⟨rest, s⟩, hs, heq⟩ | ⟨i, rest, rfl, hs⟩)
          · obtain ⟨rfl, rfl⟩ := Prod.mk.inj heq
            exact ⟨0, rest, rfl, (hmem rest s).1 hs⟩
          · refine ⟨i + 1, rest, ?_, hs⟩
            rw [Nat.add_assoc, Nat.add_comm 1 i]
        · rintro ⟨i, rest, rfl, hs⟩
          cases i with
          | zero => exact .inl ⟨(rest, r), (hmem rest r).2 hs, rfl⟩
          | succ i =>
              refine .inr ⟨i, rest, ?_, hs⟩
              rw [Nat.add_assoc, Nat.add_comm 1 i]
      · rw [List.map_append, List.map_map, hwalkLater, List.flatMap_cons, ← hwalk]
        rfl

private theorem exists_visits_walk (p : Pattern) : ∃ visits, p.Enumerates visits ∧ visits.map (·.2) = p.walk := by
  induction p using children_induction with
  | step p ih =>
      obtain ⟨below, hbelow, hmem, hwalk⟩ := exists_visits_children ih 0
      refine ⟨([], p) :: below, ⟨?_, fun place q => ?_⟩, ?_⟩
      · refine List.pairwise_cons.2 ⟨fun v hv => ?_, hbelow⟩
        obtain ⟨i, rest, hplace, -⟩ := (hmem v.1 v.2).1 hv
        rw [hplace]
        exact List.Lex.nil
      · rw [List.mem_cons, hmem]
        cases place with
        | nil => simp [node?, eq_comm]
        | cons i place => simp [node?]
      · rw [List.map_cons, hwalk, ← walk_eq]

/-! ### Names that are carried -/

/-- A capture group, markup or a relation target in a pattern carries a name, at any depth. -/
inductive Carries (name : String) : Pattern → Prop
  | group {clause : Pattern} : Carries name (modify (.capture name) clause)
  | markup {tag : TagPattern} (h : tag.capture = some name) : Carries name (tags tag)
  | standalone {head : RelationHead} {target : Pattern} (h : head.capture = some name) :
      Carries name (relationTarget head target)
  | matchTarget {parent : Pattern} {targets : List (RelationHead × Pattern)} {t : RelationHead × Pattern}
      (ht : t ∈ targets) (h : t.1.capture = some name) : Carries name (relationMatch parent targets)
  | rootTarget {targets : List (RelationHead × Pattern)} {t : RelationHead × Pattern}
      (ht : t ∈ targets) (h : t.1.capture = some name) : Carries name (rootRelations targets)
  | inClause {connective : Connective} {clauses : List Pattern} {q : Pattern} (hq : q ∈ clauses)
      (h : Carries name q) : Carries name (join connective clauses)
  | inModified {modifier : Modifier} {q : Pattern} (h : Carries name q) : Carries name (modify modifier q)
  | inProducer {test : PositionTest} {q filter : Pattern} (h : Carries name q) :
      Carries name (positionFilter test q filter)
  | inFilter {test : PositionTest} {producer q : Pattern} (h : Carries name q) :
      Carries name (positionFilter test producer q)
  | inTarget {head : RelationHead} {q : Pattern} (h : Carries name q) : Carries name (relationTarget head q)
  | inParent {q : Pattern} {targets : List (RelationHead × Pattern)} (h : Carries name q) :
      Carries name (relationMatch q targets)
  | inMatchTarget {parent : Pattern} {targets : List (RelationHead × Pattern)} {t : RelationHead × Pattern}
      (ht : t ∈ targets) (h : Carries name t.2) : Carries name (relationMatch parent targets)
  | inRootTarget {targets : List (RelationHead × Pattern)} {t : RelationHead × Pattern} (ht : t ∈ targets)
      (h : Carries name t.2) : Carries name (rootRelations targets)
  | inArgument {function : String} {arguments : List (Argument Pattern)} {q : Pattern}
      (hq : .pattern q ∈ arguments) (h : Carries name q) : Carries name (call function arguments)

variable {name : String} {p : Pattern}

private theorem Carries.own_or_child (h : p.Carries name) :
    name ∈ p.ownCaptureNames ∨ ∃ q ∈ p.children, q.Carries name := by
  cases h with
  | group => exact .inl (List.mem_singleton.2 rfl)
  | markup h => exact .inl (Option.mem_toList.2 h)
  | standalone h => exact .inl (Option.mem_toList.2 h)
  | matchTarget ht h => exact .inl (List.mem_filterMap.2 ⟨_, ht, h⟩)
  | rootTarget ht h => exact .inl (List.mem_filterMap.2 ⟨_, ht, h⟩)
  | inClause hq h => exact .inr ⟨_, hq, h⟩
  | inModified h => exact .inr ⟨_, List.mem_cons_self, h⟩
  | inProducer h => exact .inr ⟨_, List.mem_cons_self, h⟩
  | inFilter h => exact .inr ⟨_, List.mem_cons_of_mem _ List.mem_cons_self, h⟩
  | inTarget h => exact .inr ⟨_, List.mem_cons_self, h⟩
  | inParent h => exact .inr ⟨_, List.mem_cons_self, h⟩
  | inMatchTarget ht h => exact .inr ⟨_, List.mem_cons_of_mem _ (List.mem_map_of_mem ht), h⟩
  | inRootTarget ht h => exact .inr ⟨_, List.mem_map_of_mem ht, h⟩
  | inArgument hq h => exact .inr ⟨_, List.mem_filterMap.2 ⟨_, hq, rfl⟩, h⟩

private theorem carries_of_mem_ownCaptureNames (h : name ∈ p.ownCaptureNames) : p.Carries name := by
  unfold ownCaptureNames at h
  split at h
  · obtain rfl := List.mem_singleton.1 h
    exact .group
  · exact .markup (Option.mem_toList.1 h)
  · exact .standalone (Option.mem_toList.1 h)
  · obtain ⟨t, ht, h⟩ := List.mem_filterMap.1 h
    exact .matchTarget ht h
  · obtain ⟨t, ht, h⟩ := List.mem_filterMap.1 h
    exact .rootTarget ht h
  · cases h

private theorem carries_of_mem_children {q : Pattern} (hq : q ∈ p.children) (h : q.Carries name) : p.Carries name := by
  cases p with
  | join connective clauses => exact .inClause hq h
  | modify modifier clause => exact .inModified (List.mem_singleton.1 hq ▸ h)
  | positionFilter test producer filter =>
      rcases List.mem_pair.1 hq with rfl | rfl
      · exact .inProducer h
      · exact .inFilter h
  | relationTarget head target => exact .inTarget (List.mem_singleton.1 hq ▸ h)
  | relationMatch parent targets =>
      rcases List.mem_cons.1 hq with rfl | hq
      · exact .inParent h
      · obtain ⟨t, ht, rfl⟩ := List.mem_map.1 hq
        exact .inMatchTarget ht h
  | rootRelations targets =>
      obtain ⟨t, ht, rfl⟩ := List.mem_map.1 hq
      exact .inRootTarget ht h
  | call function arguments =>
      obtain ⟨a, ha, hq⟩ := List.mem_filterMap.1 hq
      cases a with
      | pattern r =>
          obtain rfl := Option.some.inj hq
          exact .inArgument ha h
      | text value => cases hq
      | number value => cases hq
  | _ => cases hq

theorem captureNames_eq (p : Pattern) : p.captureNames = p.ownCaptureNames ++ p.children.flatMap captureNames := by
  rw [captureNames, walk_eq, List.flatMap_cons, List.flatMap_assoc]
  rfl

private theorem mem_captureNames_iff : name ∈ p.captureNames ↔ p.Carries name := by
  induction p using children_induction with
  | step p ih =>
      rw [captureNames_eq, List.mem_append, List.mem_flatMap]
      constructor
      · rintro (h | ⟨q, hq, h⟩)
        · exact carries_of_mem_ownCaptureNames h
        · exact carries_of_mem_children hq ((ih q hq).1 h)
      · intro h
        refine h.own_or_child.imp_right ?_
        rintro ⟨q, hq, h⟩
        exact ⟨q, hq, (ih q hq).2 h⟩

/--
The walk is the pre-order of the nodes: it ends after as many visits as there are nodes, and visits the node at each
place once, in the order of the places, a place before what is below it. A capture name is listed just if some group,
markup or relation target carries it.
-/
theorem walk_is_preorder (p : Pattern) :
    p.walk = p.preorder ∧ p.walk = p :: p.children.flatMap walk ∧
      (∀ more, walkStack (p.size + more) [p] = p.preorder) ∧
      (∃ visits, p.Enumerates visits ∧ visits.map (·.2) = p.walk) ∧
      ∀ name, name ∈ p.captureNames ↔ p.Carries name :=
  ⟨p.walk_eq_preorder, p.walk_eq, p.walkStack_add_eq_preorder, p.exists_visits_walk, fun _ => mem_captureNames_iff⟩

end CorpusSearch.Pattern
