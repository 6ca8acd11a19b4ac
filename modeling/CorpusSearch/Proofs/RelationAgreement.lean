import CorpusSearch.Proofs.CallArguments
import CorpusSearch.Proofs.HitJoins
import CorpusSearch.Proofs.PlanAgreement

/-!
Agreement of plans that search relations. A clause that matches any number of tokens is left out of such a plan, so
agreeing clauses make agreeing plans if they are left out alike, or if the relations that one of them is left out of lie
among the tokens that it matches. The relation functions build agreeing plans from agreeing arguments.
-/

set_option autoImplicit false

namespace CorpusSearch

/-- Two clauses are left out together, or the first one, if it matches any number of tokens of an idle field. -/
def Plan.LeftOutAlike (idle : String → Prop) (p q : Plan) : Prop :=
  p.isAnyNGram = q.isAnyNGram ∨ ∃ field, p = Plan.anyNGram field ∧ idle field

def Plan.HitsFitIn (scope : SearchScope) (field : String) (plan : Plan) : Prop :=
  ∀ hs, scope.hits plan = .ok hs → ∀ h ∈ hs, h.span.FitsIn (scope.document.size field)

/-- The hits of both plans are the same, and both plans are left out of a join or neither is. -/
def Plan.AgreeAsClause (scope : SearchScope) (p q : Plan) : Prop :=
  Plan.Agree scope true p q ∧ p.isAnyNGram = q.isAnyNGram

variable {scope : SearchScope} {exact : Bool}

/-! ### Any number of tokens -/

theorem Plan.eq_anyNGram_of_isAnyNGram {q : Plan} (h : q.isAnyNGram = true) : ∃ field, q = Plan.anyNGram field := by
  cases q with
  | anyToken field low high =>
      simp only [isAnyNGram, Bool.and_eq_true, decide_eq_true_iff] at h
      obtain ⟨rfl, rfl⟩ := h
      exact ⟨field, rfl⟩
  | _ => cases h

theorem SearchScope.hits_anyNGram (scope : SearchScope) (field : String) : scope.hits (Plan.anyNGram field) =
    .ok (Hit.sorted (Hit.nGrams (scope.document.size field) 0 Bound.unlimited)) := by
  rw [Plan.anyNGram, hits]

namespace Hit

variable {size : Nat} {hs : List Hit}

private theorem ofSpan_merge (h : Hit) : (ofSpan h.span).merge h h.span = h := by
  rw [merge, ofSpan, NameMap.empty_union, List.nil_append]

private theorem merge_ofSpan_self (h : Hit) : h.merge (ofSpan h.span) h.span = h := by
  rw [merge, ofSpan, NameMap.union_empty, List.append_nil]

private theorem ofSpan_sharesRelation (t : Span) (h : Hit) : (ofSpan t).sharesRelation h = false :=
  List.any_eq_false.2 fun _ _ => Bool.false_ne_true

private theorem sharesRelation_ofSpan (t : Span) (h : Hit) : h.sharesRelation (ofSpan t) = false := rfl

private theorem intersect_anyNGrams_left (hsize : size < 4294967296) (h : ∀ a ∈ hs, a.span.FitsIn size) :
    intersect true (sorted (nGrams size 0 Bound.unlimited)) hs = sorted hs := by
  rw [← sorted_sorted, intersect, sorted_sorted]
  refine sorted_congr fun c => ?_
  rw [← mem_sorted, ← intersect, mem_intersect]
  simp only [mem_sorted, mem_anyNGrams hsize]
  constructor
  · rintro ⟨_, ⟨t, -, rfl⟩, b, hb, hspan, -, rfl⟩
    obtain rfl : b.span = t := hspan
    rwa [show (ofSpan b.span).span = b.span from rfl, ofSpan_merge]
  · intro hc
    exact ⟨ofSpan c.span, ⟨c.span, h c hc, rfl⟩, c, hc, rfl, fun _ => ofSpan_sharesRelation c.span c, ofSpan_merge c⟩

private theorem intersect_anyNGrams_right (hsize : size < 4294967296) (h : ∀ a ∈ hs, a.span.FitsIn size) :
    intersect true hs (sorted (nGrams size 0 Bound.unlimited)) = sorted hs := by
  rw [← sorted_sorted, intersect, sorted_sorted]
  refine sorted_congr fun c => ?_
  rw [← mem_sorted, ← intersect, mem_intersect]
  simp only [mem_sorted, mem_anyNGrams hsize]
  constructor
  · rintro ⟨a, ha, _, ⟨t, -, rfl⟩, hspan, -, rfl⟩
    obtain rfl : t = a.span := hspan
    rwa [merge_ofSpan_self]
  · intro hc
    exact ⟨c, hc, ofSpan c.span, ⟨c.span, h c hc, rfl⟩, rfl, fun _ => sharesRelation_ofSpan c.span c,
      merge_ofSpan_self c⟩

end Hit

/-! ### Joins of relations -/

theorem restrictingPlan?_of_true {p : Plan} (h : p.isAnyNGram = true) : restrictingPlan? p = none := by
  rw [restrictingPlan?, if_pos h]

theorem restrictingPlan?_of_false {p : Plan} (h : p.isAnyNGram = false) : restrictingPlan? p = some p := by
  rw [restrictingPlan?, h, if_neg Bool.false_ne_true]

private theorem forall₂_restrictingPlan? {ps qs : List Plan} (h : List.Forall₂ (Plan.AgreeAsClause scope) ps qs) :
    List.Forall₂ (Plan.Agree scope true) (ps.filterMap restrictingPlan?) (qs.filterMap restrictingPlan?) := by
  induction h with
  | nil => exact .nil
  | @cons p q ps qs hpq _ ih =>
      obtain ⟨hagree, hany⟩ := hpq
      cases hq : q.isAnyNGram with
      | true =>
          rw [hq] at hany
          rw [List.filterMap_cons_none (restrictingPlan?_of_true hany),
            List.filterMap_cons_none (restrictingPlan?_of_true hq)]
          exact ih
      | false =>
          rw [hq] at hany
          rw [List.filterMap_cons_some (restrictingPlan?_of_false hany),
            List.filterMap_cons_some (restrictingPlan?_of_false hq)]
          exact .cons hagree ih

theorem Plan.Agree.relationMatchPlan {ps qs : List Plan} (field : String)
    (h : List.Forall₂ (Plan.AgreeAsClause scope) ps qs) :
    Plan.Agree scope true (relationMatchPlan field ps) (relationMatchPlan field qs) := by
  have hclauses := forall₂_restrictingPlan? h
  unfold CorpusSearch.relationMatchPlan
  generalize ps.filterMap restrictingPlan? = ps' at hclauses ⊢
  generalize qs.filterMap restrictingPlan? = qs' at hclauses ⊢
  cases hclauses with
  | nil => exact refl _
  | cons hpq hrest =>
      cases hrest with
      | nil => exact hpq
      | cons hpq' hrest => exact join (fun _ => rfl) (.cons hpq (.cons hpq' hrest))

theorem relationMatchPlan_cons_of_true {p : Plan} (h : p.isAnyNGram = true) (field : String) (ps : List Plan) :
    relationMatchPlan field (p :: ps) = relationMatchPlan field ps := by
  rw [relationMatchPlan, List.filterMap_cons_none (restrictingPlan?_of_true h), ← relationMatchPlan]

private theorem SearchScope.hits_relationAnd_anyNGram {field : String} {q r : Plan}
    (hq : scope.hits q = scope.hits (Plan.anyNGram field)) (hfit : r.HitsFitIn scope field) :
    scope.hits (.join .relationAnd [r, q]) = scope.hits r := by
  rw [hits_anyNGram] at hq
  rw [hits, hitLists, hitLists, hitLists, hq]
  cases hr : scope.hits r with
  | error e => rfl
  | ok hs =>
      have hjoined : Hit.intersect true hs (Hit.sorted (Hit.nGrams (scope.document.size field) 0 Bound.unlimited)) =
          Hit.sorted hs := Hit.intersect_anyNGrams_right (scope.document.size_lt field) (hfit hs hr)
      refine congrArg Except.ok ?_
      show Hit.sorted (Hit.intersect true hs _) = hs
      rw [hjoined, Hit.sorted_sorted, sorted_of_hits hr]

private theorem SearchScope.hits_relationAnd_cons_anyNGram {field : String} {q r : Plan}
    (hq : scope.hits q = scope.hits (Plan.anyNGram field)) (hfit : r.HitsFitIn scope field) (rest : List Plan) :
    scope.hits (.join .relationAnd (q :: r :: rest)) = scope.hits (.join .relationAnd (r :: rest)) := by
  rw [hits_anyNGram] at hq
  rw [hits, hits, hitLists, hitLists, hq]
  cases hr : scope.hits r with
  | error e => rfl
  | ok hs =>
      have hjoined : Hit.intersect true (Hit.sorted (Hit.nGrams (scope.document.size field) 0 Bound.unlimited)) hs =
          hs := by
        rw [Hit.intersect_anyNGrams_left (scope.document.size_lt field) (hfit hs hr), sorted_of_hits hr]
      cases scope.hitLists rest with
      | error e => rfl
      | ok hss =>
          refine congrArg (fun joined => Except.ok (Hit.sorted joined)) ?_
          show hss.foldl (Hit.intersect true) (Hit.intersect true _ hs) = hss.foldl (Hit.intersect true) hs
          rw [hjoined]

/-- Whether relations lie among the tokens that a parent of any number of tokens matches; the first of them decides. -/
def Plan.IdleParent (scope : SearchScope) (field : String) (required : List Plan) (parentField : String) : Prop :=
  match required.filterMap restrictingPlan? with
  | [] => parentField = field
  | first :: _ => first.HitsFitIn scope parentField

private theorem SearchScope.hits_relationMatchPlan_cons {field parentField : String} {q : Plan} {qs : List Plan}
    (hq : q.isAnyNGram = false) (hhits : scope.hits q = scope.hits (Plan.anyNGram parentField))
    (hidle : Plan.IdleParent scope field qs parentField) :
    scope.hits (relationMatchPlan field (q :: qs)) = scope.hits (relationMatchPlan field qs) := by
  unfold Plan.IdleParent at hidle
  rw [relationMatchPlan, relationMatchPlan, List.filterMap_cons_some (restrictingPlan?_of_false hq)]
  generalize qs.filterMap restrictingPlan? = required at hidle
  match required with
  | [] =>
      obtain rfl : parentField = field := hidle
      exact hhits
  | [r] => exact (hits_relationAnd_cons_anyNGram hhits hidle []).trans (Plan.hits_join_singleton .relationAnd r)
  | r :: other :: rest => exact hits_relationAnd_cons_anyNGram hhits hidle (other :: rest)

theorem Plan.Agree.relationMatchPlan_cons {p q : Plan} {ps qs : List Plan} (field : String)
    (hpq : Plan.Agree scope true p q) (hout : LeftOutAlike (IdleParent scope field qs) p q)
    (h : List.Forall₂ (Plan.AgreeAsClause scope) ps qs) :
    Plan.Agree scope true (CorpusSearch.relationMatchPlan field (p :: ps))
      (CorpusSearch.relationMatchPlan field (q :: qs)) := by
  by_cases hany : p.isAnyNGram = q.isAnyNGram
  · exact relationMatchPlan field (.cons ⟨hpq, hany⟩ h)
  · rcases hout with halike | ⟨parentField, rfl, hidle⟩
    · exact absurd halike hany
    · have hq : q.isAnyNGram = false := Bool.eq_false_iff.2 (Ne.symm hany)
      rw [relationMatchPlan_cons_of_true rfl]
      exact (relationMatchPlan field h).trans
        (of_hits_eq (SearchScope.hits_relationMatchPlan_cons hq hpq.hits_eq.symm hidle).symm)

theorem Plan.Agree.withoutRelation {p q p' q' : Plan} (hpq : Plan.Agree scope exact p q)
    (h : Plan.Agree scope true p' q') :
    Plan.Agree scope exact (withoutRelation p p') (withoutRelation q q') :=
  positionFilter hpq h.weaken

/-! ### Relations with a target -/

/-- The relations of a query, or of these the ones whose target is a hit of a plan. -/
def restrictedRelations (query : RelationQuery) (target : Option Plan) : Plan :=
  match target with
  | none => .relations query
  | some target =>
    let matched := Plan.join .relationAnd [.relations { query with spanMode := .target }, target]
    if query.spanMode = .target then matched else .modify (.relationSpan query.spanMode) matched

theorem relationPlan_eq (c : Context) (fullType : String) (target : Option Plan)
    (direction : RelationDirection) (mode : SpanMode) (capture : Option String) :
    relationPlan c fullType target direction mode capture = (do
      checkRelationType fullType
      let field ← c.relationsField
      let capture ← captureFor (RelationOperator.nonEmpty? capture) fullType
      return restrictedRelations ⟨field, fullType, direction, mode, capture⟩ target) := by
  rw [relationPlan]
  refine bind_congr fun _ => bind_congr fun field => bind_congr fun capture => ?_
  cases target with
  | none => rfl
  | some target =>
      dsimp only [restrictedRelations]
      split
      · rfl
      · rfl

theorem isAnyNGram_restrictedRelations (query : RelationQuery) (target : Option Plan) :
    (restrictedRelations query target).isAnyNGram = false := by
  cases target with
  | none => rfl
  | some target =>
      dsimp only [restrictedRelations]
      split
      · rfl
      · rfl

/-- Whether the targets of the relations that a query asks for lie among the tokens of a field. -/
def RelationQuery.IdleTarget (scope : SearchScope) (query : RelationQuery) (field : String) : Prop :=
  (Plan.relations { query with spanMode := .target }).HitsFitIn scope field

theorem Plan.Agree.restrictedRelations {query : RelationQuery} {p q : Plan} (hpq : Plan.Agree scope true p q)
    (hout : LeftOutAlike (query.IdleTarget scope) p q) :
    Plan.Agree scope true (CorpusSearch.restrictedRelations query (restrictingPlan? p))
      (CorpusSearch.restrictedRelations query (restrictingPlan? q)) := by
  by_cases hany : p.isAnyNGram = q.isAnyNGram
  · cases hq : q.isAnyNGram with
    | true =>
        rw [restrictingPlan?_of_true (hany.trans hq), restrictingPlan?_of_true hq]
        exact refl _
    | false =>
        rw [restrictingPlan?_of_false (hany.trans hq), restrictingPlan?_of_false hq]
        have hjoin : Plan.Agree scope true
            (.join .relationAnd [.relations { query with spanMode := .target }, p])
            (.join .relationAnd [.relations { query with spanMode := .target }, q]) :=
          join (fun _ => rfl) (.cons (refl _) (.cons hpq .nil))
        dsimp only [CorpusSearch.restrictedRelations]
        split
        · exact hjoin
        · exact hjoin.modify
  · rcases hout with halike | ⟨field, rfl, hidle⟩
    · exact absurd halike hany
    · have hq : q.isAnyNGram = false := Bool.eq_false_iff.2 (Ne.symm hany)
      rw [restrictingPlan?_of_true rfl, restrictingPlan?_of_false hq]
      have hmatched := SearchScope.hits_relationAnd_anyNGram hpq.hits_eq.symm hidle
      obtain ⟨relationsField, type, direction, mode, capture⟩ := query
      dsimp only [CorpusSearch.restrictedRelations]
      split
      · rename_i hmode
        subst hmode
        exact of_hits_eq hmatched.symm
      · have hspan : Plan.Agree scope true
            (.modify (.relationSpan mode) (.relations ⟨relationsField, type, direction, .target, capture⟩))
            (.modify (.relationSpan mode)
              (.join .relationAnd [.relations ⟨relationsField, type, direction, .target, capture⟩, q])) :=
          modify (of_hits_eq hmatched.symm)
        exact (of_hits_eq (hits_relationSpan_relations ..).symm).trans hspan

/-- Relations that are planned with agreeing targets. -/
theorem Planning.Agree.relationPlan (c : Context) (fullType : String) (direction : RelationDirection)
    (mode : SpanMode) (capture : Option String) {p q : Plan} (hpq : Plan.Agree scope true p q)
    (hout : Plan.LeftOutAlike (fun targetField => ∀ field name, c.relationsField = .ok field →
      RelationQuery.IdleTarget scope ⟨field, fullType, direction, mode, name⟩ targetField) p q) :
    Planning.Agree (fun a b => Plan.Agree scope true a b ∧ a.isAnyNGram = false ∧ b.isAnyNGram = false)
      (CorpusSearch.relationPlan c fullType (restrictingPlan? p) direction mode capture)
      (CorpusSearch.relationPlan c fullType (restrictingPlan? q) direction mode capture) := by
  rw [relationPlan_eq, relationPlan_eq]
  refine (liftM _).bind ?_
  rintro _ _ ⟨rfl, -⟩
  refine (liftM _).bind ?_
  rintro field _ ⟨rfl, hfield⟩
  refine (refl _).bind ?_
  rintro name _ rfl
  refine pure ⟨.restrictedRelations hpq ?_, isAnyNGram_restrictedRelations ..,
    isAnyNGram_restrictedRelations ..⟩
  rcases hout with halike | ⟨targetField, hp, hidle⟩
  · exact .inl halike
  · exact .inr ⟨targetField, hp, hidle field name hfield⟩

/-! ### Functions -/

/-- Arguments that a function cannot tell apart by what they find. -/
inductive Argument.Agree (scope : SearchScope) : Argument Plan → Argument Plan → Prop
  | pattern {p q : Plan} (h : Plan.AgreeAsClause scope p q) : Agree scope (.pattern p) (.pattern q)
  | text (value : String) : Agree scope (.text value) (.text value)
  | number (value : Int) : Agree scope (.number value) (.number value)

theorem Argument.Agree.refl (a : Argument Plan) : Argument.Agree scope a a := by
  cases a with
  | pattern p => exact .pattern ⟨Plan.Agree.refl p, rfl⟩
  | text value => exact .text value
  | number value => exact .number value

/-- A function that builds agreeing plans, with the same capture names, from agreeing arguments. -/
def QueryFunction.Respectful (f : QueryFunction) : Prop :=
  ∀ (scope : SearchScope) (c : Context) (as bs : List (Argument Plan)),
    List.Forall₂ (Argument.Agree scope) as bs →
      Planning.Agree (Plan.Agree scope true) (f.build c as) (f.build c bs)

namespace QueryFunction

variable {f : QueryFunction} {c : Context}

private theorem agree_fillArguments {count index : Nat} {given given' : List (Option (Argument Plan))}
    (h : List.Forall₂ (Option.Rel (Argument.Agree scope)) given given') {as bs : List (Argument Plan)}
    (has : f.fillArguments c count index given = .ok as) (hbs : f.fillArguments c count index given' = .ok bs) :
    List.Forall₂ (Argument.Agree scope) as bs := by
  induction count generalizing index given given' as bs with
  | zero =>
      obtain rfl := Except.ok.inj has
      obtain rfl := Except.ok.inj hbs
      exact .nil
  | succ count ih =>
      rw [fillArguments_succ] at has hbs
      obtain ⟨a, ha, has⟩ := Result.bind_eq_ok.1 has
      obtain ⟨rest, hrest, has⟩ := Result.bind_eq_ok.1 has
      obtain ⟨b, hb, hbs⟩ := Result.bind_eq_ok.1 hbs
      obtain ⟨rest', hrest', hbs⟩ := Result.bind_eq_ok.1 hbs
      obtain rfl := Except.ok.inj has
      obtain rfl := Except.ok.inj hbs
      have htail : List.Forall₂ (Option.Rel (Argument.Agree scope)) given.tail given'.tail := by
        cases h with
        | nil => exact .nil
        | cons _ h => exact h
      refine .cons ?_ (ih htail hrest hrest')
      cases h with
      | nil =>
          obtain rfl := Except.ok.inj (ha.symm.trans hb)
          exact .refl a
      | cons hhead _ =>
          cases hhead with
          | none =>
              obtain rfl := Except.ok.inj (ha.symm.trans hb)
              exact .refl a
          | some hab =>
              obtain rfl := Except.ok.inj ha
              obtain rfl := Except.ok.inj hb
              exact hab

theorem agree_completeArguments {given given' : List (Option (Argument Plan))}
    (h : List.Forall₂ (Option.Rel (Argument.Agree scope)) given given') :
    Planning.Agree (List.Forall₂ (Argument.Agree scope))
      (MonadLiftT.monadLift (f.completeArguments c given) : Planning (List (Argument Plan)))
      (MonadLiftT.monadLift (f.completeArguments c given')) := by
  refine Planning.Agree.liftM_liftM fun as bs has hbs => ?_
  unfold completeArguments at has hbs
  rw [← h.length_eq] at hbs
  by_cases hvariadic : f.variadic = true
  · rw [if_pos hvariadic] at has hbs
    exact agree_fillArguments h has hbs
  · rw [if_neg hvariadic] at has hbs
    by_cases hlength : f.types.length < given.length
    · rw [if_pos hlength] at has
      cases has
    · rw [if_neg hlength] at has hbs
      exact agree_fillArguments h has hbs

end QueryFunction

/-! ### The relation functions -/

namespace RelationFunction

variable {as bs : List (Argument Plan)}

private theorem rel_getElem? (h : List.Forall₂ (Argument.Agree scope) as bs) (index : Nat) :
    Option.Rel (Argument.Agree scope) as[index]? bs[index]? := by
  induction h generalizing index with
  | nil => exact .none
  | cons hab _ ih =>
      cases index with
      | zero => exact .some hab
      | succ index => exact ih index

private theorem agree_textAt (h : List.Forall₂ (Argument.Agree scope) as bs) (index : Nat) :
    Planning.Agree Eq (textAt as index) (textAt bs index) := by
  have hrel := rel_getElem? h index
  unfold textAt
  generalize as[index]? = a at hrel ⊢
  generalize bs[index]? = b at hrel ⊢
  cases hrel with
  | none => exact .refl _
  | some hab =>
      cases hab with
      | pattern h => exact .fail_left _
      | text value => exact .refl _
      | number value => exact .refl _

private theorem agree_planAt (h : List.Forall₂ (Argument.Agree scope) as bs) (index : Nat) :
    Planning.Agree (Plan.AgreeAsClause scope) (planAt as index) (planAt bs index) := by
  have hrel := rel_getElem? h index
  unfold planAt
  generalize as[index]? = a at hrel ⊢
  generalize bs[index]? = b at hrel ⊢
  cases hrel with
  | none => exact .fail_left _
  | some hab =>
      cases hab with
      | pattern h => exact .pure h
      | text value => exact .fail_left _
      | number value => exact .fail_left _

private theorem respectful_rel : rel.Respectful := by
  intro scope c as bs h
  refine (agree_textAt h 0).bind ?_
  rintro type _ rfl
  refine (agree_planAt h 1).bind fun p q hpq => ?_
  refine (agree_textAt h 2).bind ?_
  rintro mode _ rfl
  refine (Planning.Agree.refl _).bind ?_
  rintro mode _ rfl
  refine (agree_textAt h 3).bind ?_
  rintro capture _ rfl
  refine (agree_textAt h 4).bind ?_
  rintro direction _ rfl
  refine (Planning.Agree.refl _).bind ?_
  rintro direction _ rfl
  exact (Planning.Agree.relationPlan c _ direction mode _ hpq.1 (.inl hpq.2)).imp fun _ _ h => h.1

private theorem respectful_rmatch : rmatch.Respectful := by
  intro scope c as bs h
  show Planning.Agree _ (do
    let clauses ← (List.range as.length).mapM (planAt as)
    return relationMatchPlan c.fieldName clauses) (do
    let clauses ← (List.range bs.length).mapM (planAt bs)
    return relationMatchPlan c.fieldName clauses)
  rw [← h.length_eq]
  refine (Planning.Agree.mapM fun index _ => agree_planAt h index).bind fun ps qs hclauses => ?_
  exact .pure (.relationMatchPlan c.fieldName hclauses)

private theorem respectful_rspan : rspan.Respectful := by
  intro scope c as bs h
  refine (agree_planAt h 0).bind fun p q hpq => ?_
  refine (agree_textAt h 1).bind ?_
  rintro code _ rfl
  refine (Planning.Agree.refl _).bind ?_
  rintro mode _ rfl
  exact .pure (.modify hpq.1)

private theorem agree_within (query : WithinQuery) {p q : Plan} (hpq : Plan.Agree scope true p q) :
    Planning.Agree (Plan.Agree scope true) (pure (.modify (.relationsWithin query) p))
      (pure (.modify (.relationsWithin query) q)) :=
  .pure (.modify hpq)

private theorem agree_captureWithin (c : Context) {p q : Plan} (hpq : Plan.Agree scope true p q)
    (within : Option String) (capture relationType : String) :
    Planning.Agree (Plan.Agree scope true) (captureWithin c p within capture relationType)
      (captureWithin c q within capture relationType) := by
  refine (Planning.Agree.refl _).bind ?_
  rintro _ _ rfl
  refine (Planning.Agree.refl _).bind ?_
  rintro field _ rfl
  refine (Planning.Agree.refl _).bind ?_
  rintro name _ rfl
  exact agree_within _ hpq

private theorem respectful_rcapture : rcapture.Respectful := by
  intro scope c as bs h
  refine (agree_planAt h 0).bind fun p q hpq => ?_
  refine (agree_textAt h 1).bind ?_
  rintro capture _ rfl
  refine (agree_textAt h 2).bind ?_
  rintro type _ rfl
  exact agree_captureWithin c hpq.1 none capture type

private theorem respectful_rcapture2 : rcapture2.Respectful := by
  intro scope c as bs h
  refine (agree_planAt h 0).bind fun p q hpq => ?_
  refine (agree_textAt h 1).bind ?_
  rintro within _ rfl
  refine (agree_textAt h 2).bind ?_
  rintro capture _ rfl
  refine (agree_textAt h 3).bind ?_
  rintro type _ rfl
  exact agree_captureWithin c hpq.1 (some within) capture type

end RelationFunction

namespace Extensions

/-- All functions of the extensions are respectful. -/
def Respectful (e : Extensions) : Prop := ∀ name f, e.functions.get? name = some f → f.Respectful

theorem respectful_standard : standard.Respectful := fun _ _ =>
  standard_cases RelationFunction.respectful_rel RelationFunction.respectful_rmatch
    RelationFunction.respectful_rspan RelationFunction.respectful_rcapture RelationFunction.respectful_rcapture2

end Extensions

end CorpusSearch
