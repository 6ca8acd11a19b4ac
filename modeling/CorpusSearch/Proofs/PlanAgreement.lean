import CorpusSearch.Proofs.Agreement
import CorpusSearch.Proofs.HitRules

/-!
Plans that find the same in a document. Two plans agree on spans if their hits have the same spans, and exactly if
they have the same hits. Joins of relations and conditions look into hits, so their parts have to agree exactly;
whatever else is put around agreeing plans keeps the agreement.
-/

set_option autoImplicit false

namespace CorpusSearch

/-- Hits on the same spans; if `exact`, the same hits. -/
def Hit.Agree (exact : Bool) (xs ys : List Hit) : Prop :=
  Hit.SameSpans xs ys ∧ (exact = true → xs = ys)

namespace Hit.Agree

variable {exact : Bool} {xs ys zs xs' ys' : List Hit}

theorem of_eq (h : xs = ys) : Agree exact xs ys := ⟨h ▸ SameSpans.refl xs, fun _ => h⟩

theorem refl (xs : List Hit) : Agree exact xs xs := of_eq rfl

theorem eq (h : Agree true xs ys) : xs = ys := h.2 rfl

theorem symm (h : Agree exact xs ys) : Agree exact ys xs := ⟨h.1.symm, fun he => (h.2 he).symm⟩

theorem trans (hxy : Agree exact xs ys) (hyz : Agree exact ys zs) : Agree exact xs zs :=
  ⟨hxy.1.trans hyz.1, fun he => (hxy.2 he).trans (hyz.2 he)⟩

theorem lift {f : List Hit → List Hit} (h : Agree exact xs ys) (hf : SameSpans xs ys → SameSpans (f xs) (f ys)) :
    Agree exact (f xs) (f ys) := ⟨hf h.1, fun he => congrArg f (h.2 he)⟩

theorem sorted (h : Agree exact xs ys) : Agree exact (sorted xs) (sorted ys) := h.lift SameSpans.sorted

/-- What a modifier needs to know of the hits that it is applied to. -/
def below (exact : Bool) : PlanModifier → Bool
  | .not _ | .filteredNGrams _ _ _ _ => false
  | .relationSpan _ | .constrained _ _ _ => true
  | .repeated _ _ _ | .expanded _ _ _ _ | .capture _ | .edge _ | .relationsWithin _ => exact

theorem modified (scope : SearchScope) (prepared : List Relation) (m : PlanModifier)
    (h : Agree (below exact m) xs ys) :
    Agree exact (scope.modified prepared xs m) (scope.modified prepared ys m) := by
  cases m with
  | not field => exact of_eq (h.1.complement _)
  | repeated field low high => exact h.lift fun h => h.rows _ _ _
  | expanded field direction low high => exact h.lift fun h => h.expand _ _ _ _
  | filteredNGrams field operation low high => exact of_eq (h.1.filterNGrams _ _ _ _)
  | capture name => exact h.lift fun h => h.map id (fun _ => rfl) fun _ => rfl
  | edge trailing =>
      exact h.lift fun h => h.map
        (fun s => if trailing then ⟨s.stop, s.stop⟩ else ⟨s.start, s.start⟩)
        (fun a => by cases trailing <;> rfl) fun a => by cases trailing <;> rfl
  | relationSpan mode => rw [h.eq]; exact refl _
  | relationsWithin query => exact h.lift fun h => h.map id (fun _ => rfl) fun _ => rfl
  | constrained constraint field layers => rw [h.eq]; exact refl _

end Hit.Agree

namespace SearchScope

variable {scope : SearchScope}

theorem sorted_of_hits {plan : Plan} {hs : List Hit} (h : scope.hits plan = .ok hs) :
    Hit.sorted hs = hs := by
  have hbind : ∀ {α : Type} {x : Result α} {f : α → List Hit},
      (do let a ← x; return Hit.sorted (f a)) = Except.ok hs → Hit.sorted hs = hs := by
    intro α x f h
    obtain ⟨a, -, ha⟩ := Result.bind_eq_ok.1 h
    rw [← Except.ok.inj ha, Hit.sorted_sorted]
  cases plan with
  | term field value => exact hbind h
  | regex field expression =>
      obtain ⟨core, -, h⟩ := Result.bind_eq_ok.1 h
      exact hbind h
  | anyToken field low high => rw [← Except.ok.inj h, Hit.sorted_sorted]
  | fixedSpan field span =>
      rw [← Except.ok.inj h]
      split
      · exact Hit.sorted_singleton _
      · exact Hit.sorted_nil
  | tags query => exact hbind h
  | relations query => exact hbind h
  | join connective clauses => exact hbind h
  | modify m clause =>
      obtain ⟨prepared, -, h⟩ := Result.bind_eq_ok.1 h
      exact hbind h
  | positionFilter test producer filter =>
      obtain ⟨filterHits, -, h⟩ := Result.bind_eq_ok.1 h
      exact hbind h
  | align source targets =>
      obtain ⟨sources, -, h⟩ := Result.bind_eq_ok.1 h
      exact hbind h

end SearchScope

namespace Plan

/-- Both plans fail on a document for one reason, or both find the same spans; if `exact`, the same hits. -/
def Agree (scope : SearchScope) (exact : Bool) (p q : Plan) : Prop :=
  Result.Agree (Hit.Agree exact) (scope.hits p) (scope.hits q)

namespace Agree

variable {scope : SearchScope} {exact : Bool} {p q r p' q' : Plan}

theorem of_hits_eq (h : scope.hits p = scope.hits q) : Agree scope exact p q := by
  rw [Agree, h]
  exact Result.Agree.refl Hit.Agree.refl _

theorem refl (p : Plan) : Agree scope exact p p := of_hits_eq rfl

theorem symm (h : Agree scope exact p q) : Agree scope exact q p :=
  Result.Agree.symm h fun _ _ => Hit.Agree.symm

theorem trans (hpq : Agree scope exact p q) (hqr : Agree scope exact q r) : Agree scope exact p r :=
  Result.Agree.trans hpq hqr fun _ _ _ => Hit.Agree.trans

theorem hits_eq (h : Agree scope true p q) : scope.hits p = scope.hits q := by
  rw [Agree] at h
  cases hp : scope.hits p with
  | ok xs =>
      cases hq : scope.hits q with
      | ok ys =>
          rw [hp, hq] at h
          rw [Hit.Agree.eq h]
      | error e => rw [hp, hq] at h; exact h.elim
  | error e =>
      cases hq : scope.hits q with
      | ok ys => rw [hp, hq] at h; exact h.elim
      | error e' =>
          rw [hp, hq] at h
          exact congrArg _ h

theorem weaken (h : Agree scope true p q) : Agree scope exact p q := of_hits_eq h.hits_eq

/-! ### Around agreeing plans -/

theorem hitLists {ps qs : List Plan} (h : List.Forall₂ (Agree scope exact) ps qs) :
    Result.Agree (List.Forall₂ (Hit.Agree exact)) (scope.hitLists ps) (scope.hitLists qs) := by
  induction h with
  | nil => exact List.Forall₂.nil
  | cons hpq _ ih =>
      refine Result.Agree.bind hpq fun xs ys _ _ hxy => ?_
      refine Result.Agree.bind ih fun xss yss _ _ hrest => ?_
      exact List.Forall₂.cons hxy hrest

theorem join {connective : PlanConnective} (hexact : connective = .relationAnd → exact = true)
    {ps qs : List Plan} (h : List.Forall₂ (Agree scope exact) ps qs) :
    Agree scope exact (.join connective ps) (.join connective qs) := by
  refine Result.Agree.bind (hitLists h) fun xss yss _ _ hrel => ?_
  refine Hit.Agree.sorted ⟨?_, fun he => ?_⟩
  · by_cases hrand : connective = .relationAnd
    · have heq : xss = yss := by
        rw [← List.forall₂_eq_eq_eq]
        exact hrel.imp fun _ _ hxy => hxy.2 (hexact hrand)
      rw [heq]
      exact Hit.SameSpans.refl _
    · exact Hit.SameSpans.joined hrand (hrel.imp fun _ _ hxy => hxy.1)
  · have heq : xss = yss := by
      rw [← List.forall₂_eq_eq_eq]
      exact hrel.imp fun _ _ hxy => hxy.2 he
    rw [heq]

theorem modify {m : PlanModifier} (h : Agree scope (Hit.Agree.below exact m) p q) :
    Agree scope exact (.modify m p) (.modify m q) := by
  refine Result.Agree.bind_left fun prepared => ?_
  refine Result.Agree.bind h fun xs ys _ _ hxy => ?_
  exact (Hit.Agree.modified scope prepared m hxy).sorted

/-- A filter that leaves hits out does not hand on what it holds. -/
theorem positionFilter {test : PositionTest} (hproducer : Agree scope exact p q)
    (hfilter : Agree scope (exact && !test.inverted) p' q') :
    Agree scope exact (.positionFilter test p p') (.positionFilter test q q') := by
  refine Result.Agree.bind hfilter fun xs' ys' _ _ hxy' => ?_
  refine Result.Agree.bind hproducer fun xs ys _ _ hxy => ?_
  refine Hit.Agree.sorted ⟨hxy.1.filterPositions hxy'.1 test, fun he => ?_⟩
  rw [hxy.2 he]
  cases hinverted : test.inverted with
  | true => exact hxy'.1.filterPositions_inverted hinverted ys
  | false => rw [hxy'.2 (by rw [he, hinverted]; rfl)]

theorem alignAll {ts us : List (AlignmentHead × Plan)}
    (h : List.Forall₂ (fun t u => t.1 = u.1 ∧ Agree scope exact t.2 u.2) ts us) {xs ys : List Hit}
    (hxy : Hit.Agree exact xs ys) :
    Result.Agree (Hit.Agree exact) (scope.alignAll ts xs) (scope.alignAll us ys) := by
  induction h generalizing xs ys with
  | nil => exact hxy
  | @cons t u ts us htu _ ih =>
      obtain ⟨head, target⟩ := t
      obtain ⟨head', target'⟩ := u
      obtain ⟨rfl, htarget⟩ := htu
      refine Result.Agree.bind_left fun relations => ?_
      refine Result.Agree.bind htarget fun xs' ys' _ _ hxy' => ih ⟨hxy.1.align hxy'.1 head relations, ?_⟩
      intro he
      rw [hxy.2 he, hxy'.2 he]

theorem align {ts us : List (AlignmentHead × Plan)} (hsource : Agree scope exact p q)
    (h : List.Forall₂ (fun t u => t.1 = u.1 ∧ Agree scope exact t.2 u.2) ts us) :
    Agree scope exact (.align p ts) (.align q us) := by
  refine Result.Agree.bind hsource fun xs ys _ _ hxy => ?_
  refine Result.Agree.bind (alignAll h hxy) fun xs' ys' _ _ hxy' => ?_
  exact hxy'.sorted

end Agree

/-! ### What the rules do to plans -/

variable {scope : SearchScope} {exact : Bool}

/-- A clause that is joined with nothing. -/
theorem hits_join_singleton (connective : PlanConnective) (p : Plan) :
    scope.hits (.join connective [p]) = scope.hits p := by
  cases hp : scope.hits p with
  | error e => simp [SearchScope.hits, SearchScope.hitLists, hp]
  | ok hs =>
      have hjoined : Hit.joined connective [hs] = hs := by
        cases connective with
        | and => rfl
        | relationAnd => rfl
        | or => exact List.append_nil hs
        | sequence => rfl
      have hsorted := SearchScope.sorted_of_hits hp
      simp [SearchScope.hits, SearchScope.hitLists, hp, hjoined, hsorted]

/-- Whether a hit is a token of a field; if `exact`, one that holds nothing else. -/
def IsTokenHit (scope : SearchScope) (exact : Bool) (field : String) (h : Hit) : Prop :=
  Hit.IsToken (scope.document.size field) h.span ∧ (exact = true → Hit.ofSpan h.span = h)

def OnlyTokens (scope : SearchScope) (exact : Bool) (field : String) (p : Plan) : Prop :=
  ∀ hs, scope.hits p = .ok hs → ∀ h ∈ hs, IsTokenHit scope exact field h

private theorem hits_not_not {field : String} {p : Plan} {hs : List Hit} (h : scope.hits p = .ok hs) :
    scope.hits (.modify (.not field) (.modify (.not field) p)) =
      .ok (Hit.sorted (Hit.complement (scope.document.size field)
        (Hit.complement (scope.document.size field) hs))) := by
  have hinner : ∀ xs, Hit.complement (scope.document.size field) (Hit.sorted xs) =
      Hit.complement (scope.document.size field) xs :=
    fun xs => Hit.SameSpans.complement (fun s => Hit.hasSpan_sorted) _
  simp only [SearchScope.hits, SearchScope.prepare, h, Result.ok_bind, Result.pure_eq_ok,
    SearchScope.modified, hinner]

/-- A clause whose hits are tokens can be negated twice. -/
theorem Agree.not_not {field : String} {p : Plan} (h : p.OnlyTokens scope exact field) :
    Agree scope exact p (.modify (.not field) (.modify (.not field) p)) := by
  rw [Agree]
  cases hp : scope.hits p with
  | error e => simp [SearchScope.hits, SearchScope.prepare, hp, Result.Agree]
  | ok hs =>
      have htokens := h hs hp
      rw [hits_not_not hp]
      show Hit.Agree exact hs _
      constructor
      · have hcc := Hit.sameSpans_complement_complement.2 fun a ha => (htokens a ha).1
        exact fun s => (hcc s).symm.trans Hit.hasSpan_sorted.symm
      · intro he
        refine (SearchScope.sorted_of_hits hp).symm.trans (Hit.sorted_congr fun a =>
          (Hit.mem_complement_complement fun b hb => ?_).symm)
        obtain ⟨⟨p, hp, hspan⟩, hbare⟩ := htokens b hb
        exact ⟨p, hp, by rw [hspan, hbare he]⟩

theorem agree_not_not_iff {field : String} {p : Plan} :
    Agree scope false p (.modify (.not field) (.modify (.not field) p)) ↔
      ∀ hs, scope.hits p = .ok hs → ∀ a ∈ hs, Hit.IsToken (scope.document.size field) a.span := by
  constructor
  · intro h hs hp
    rw [Agree, hits_not_not hp, hp] at h
    have hspans : Hit.SameSpans hs (Hit.sorted _) := h.1
    refine Hit.sameSpans_complement_complement.1 fun s => ?_
    exact Hit.hasSpan_sorted.symm.trans (hspans s).symm
  · intro h
    exact Agree.not_not fun hs hp a ha => ⟨h hs hp a ha, nofun⟩

theorem hits_repeated_anyToken (field : String) (low high : UInt32) :
    scope.hits (.modify (.repeated field low high) (.anyToken field 1 1)) =
      scope.hits (.anyToken field low high) := by
  simp only [SearchScope.hits, SearchScope.prepare, Result.ok_bind, Result.pure_eq_ok,
    SearchScope.modified]
  rw [Hit.sorted_congr fun a => Hit.mem_rows_nGrams (scope.document.size_lt field)]

theorem hits_relationSpan_relations (field type capture : String) (direction : RelationDirection)
    (mode : SpanMode) :
    scope.hits (.modify (.relationSpan mode) (.relations ⟨field, type, direction, .target, capture⟩)) =
      scope.hits (.relations ⟨field, type, direction, mode, capture⟩) := by
  simp only [SearchScope.hits, SearchScope.prepare, Hit.relationHits, Result.ok_bind]
  cases compileExpression type with
  | error e => rfl
  | ok core =>
      cases scope.document.contentAt field with
      | error e => rfl
      | ok content =>
          simp only [Result.ok_bind, Result.pure_eq_ok, SearchScope.modified, Except.ok.injEq]
          refine Hit.sorted_congr fun a => ?_
          simp only [List.mem_map, Hit.mem_sorted, exists_exists_and_eq_and, Hit.withSpan,
            Hit.relationSpan_target]

end Plan

end CorpusSearch
