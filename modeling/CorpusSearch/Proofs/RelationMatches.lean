import CorpusSearch.Proofs.HitPositions
import CorpusSearch.Proofs.PlannedNodes
import CorpusSearch.Proofs.SimplifiedSearch
import Mathlib.Data.List.Perm.Basic

/-!
What relations below a parent match. Required relations are joined to the parent one by one, with a check against
all relations that are already in; excluded relations and alignments follow, and clauses of any number of tokens are
left out. Main statement: a span is matched exactly if the parent and the required relations have hits on it of
which no two share a relation, no excluded relation has a hit on it, and alignments lead from it to their targets,
in whatever order the relations are given.
-/

set_option autoImplicit false

namespace CorpusSearch

open Result (Succeeds)

/-! ### Hits that stand together -/

namespace Hit

variable {xs : List Hit} {xss : List (List Hit)} {s : Span} {a b c : Hit}

theorem sharesRelation_eq_false_iff : a.sharesRelation b = false ↔ ∀ r ∈ b.relations, r ∉ a.relations := by
  simp [sharesRelation]

theorem sharesRelation_comm : a.sharesRelation b = false ↔ b.sharesRelation a = false := by
  rw [sharesRelation_eq_false_iff, sharesRelation_eq_false_iff]
  exact ⟨fun h r ha hb => h r hb ha, fun h r hb ha => h r ha hb⟩

theorem sharesRelation_merge :
    (a.merge b s).sharesRelation c = false ↔ a.sharesRelation c = false ∧ b.sharesRelation c = false := by
  simp only [sharesRelation_eq_false_iff, merge, List.mem_append, not_or]
  exact ⟨fun h => ⟨fun r hr => (h r hr).1, fun r hr => (h r hr).2⟩, fun h r hr => ⟨h.1 r hr, h.2 r hr⟩⟩

/-- Hits on one span, no two of which share a relation. -/
structure Together (s : Span) (as : List Hit) : Prop where
  span : ∀ a ∈ as, a.span = s
  apart : as.Pairwise fun a b => a.sharesRelation b = false

private theorem together_cons {as : List Hit} :
    Together s (a :: as) ↔ a.span = s ∧ (∀ b ∈ as, a.sharesRelation b = false) ∧ Together s as := by
  constructor
  · rintro ⟨hspan, hapart⟩
    obtain ⟨ha, hspan⟩ := List.forall_mem_cons.1 hspan
    obtain ⟨hfirst, hapart⟩ := List.pairwise_cons.1 hapart
    exact ⟨ha, hfirst, hspan, hapart⟩
  · rintro ⟨ha, hfirst, hspan, hapart⟩
    exact ⟨List.forall_mem_cons.2 ⟨ha, hspan⟩, List.pairwise_cons.2 ⟨hfirst, hapart⟩⟩

private theorem together_singleton : Together s [a] ↔ a.span = s := by
  rw [together_cons]
  exact ⟨And.left, fun h => ⟨h, List.forall_mem_nil _, List.forall_mem_nil _, .nil⟩⟩

theorem Together.perm {as bs : List Hit} (h : Together s as) (hperm : as.Perm bs) : Together s bs :=
  ⟨fun a ha => h.span a (hperm.mem_iff.2 ha), (hperm.pairwise_iff fun hab => sharesRelation_comm.1 hab).1 h.apart⟩

private theorem together_merge {as : List Hit} (hspan : b.span = a.span) (hapart : a.sharesRelation b = false) :
    Together s (a.merge b a.span :: as) ↔ Together s (a :: b :: as) := by
  simp only [together_cons, List.forall_mem_cons, sharesRelation_merge, hspan, hapart]
  constructor
  · rintro ⟨ha, hboth, hrest⟩
    exact ⟨ha, ⟨trivial, fun c hc => (hboth c hc).1⟩, ha, fun c hc => (hboth c hc).2, hrest⟩
  · rintro ⟨ha, ⟨-, hfirst⟩, -, hsecond, hrest⟩
    exact ⟨ha, fun c hc => ⟨hfirst c hc, hsecond c hc⟩, hrest⟩

abbrev FromEach (xss : List (List Hit)) (as : List Hit) : Prop := List.Forall₂ (fun xs a => a ∈ xs) xss as

private theorem hasSpan_joined_relationAnd :
    HasSpan (joined .relationAnd (xs :: xss)) s ↔ ∃ as, FromEach (xs :: xss) as ∧ Together s as := by
  rw [joined_cons]
  induction xss generalizing xs with
  | nil =>
      constructor
      · rintro ⟨a, ha, hspan⟩
        exact ⟨[a], .cons ha .nil, together_singleton.2 hspan⟩
      · rintro ⟨as, hfrom, htogether⟩
        obtain ⟨a, _, ha, hnil, rfl⟩ := List.forall₂_cons_left_iff.1 hfrom
        obtain rfl := List.forall₂_nil_left_iff.1 hnil
        exact ⟨a, ha, together_singleton.1 htogether⟩
  | cons ys xss ih =>
      rw [List.foldl_cons, ih]
      constructor
      · rintro ⟨as, hfrom, htogether⟩
        obtain ⟨c, cs, hc, hrest, rfl⟩ := List.forall₂_cons_left_iff.1 hfrom
        obtain ⟨a, ha, b, hb, hspan, hapart, rfl⟩ := mem_intersect.1 hc
        exact ⟨_, .cons ha (.cons hb hrest), (together_merge hspan (hapart rfl)).1 htogether⟩
      · rintro ⟨as, hfrom, htogether⟩
        obtain ⟨a, bs, ha, hbehind, rfl⟩ := List.forall₂_cons_left_iff.1 hfrom
        obtain ⟨b, cs, hb, hrest, rfl⟩ := List.forall₂_cons_left_iff.1 hbehind
        obtain ⟨hs, hfirst, hothers⟩ := together_cons.1 htogether
        have hspan := (together_cons.1 hothers).1.trans hs.symm
        have hapart := hfirst b List.mem_cons_self
        have hjoined : a.merge b a.span ∈ intersect true xs ys :=
          mem_intersect.2 ⟨a, ha, b, hb, hspan, fun _ => hapart, rfl⟩
        exact ⟨_, .cons hjoined hrest, (together_merge hspan hapart).2 htogether⟩

end Hit

/-! ### Covering spans -/

namespace Span

def LiesIn (s t : Span) : Prop := t.start ≤ s.start ∧ s.stop ≤ t.stop

/-- The smallest span in which all spans of a list lie. -/
structure IsCover (c : Span) (spans : List Span) : Prop where
  covers : ∀ s ∈ spans, s.LiesIn c
  least : ∀ d, (∀ s ∈ spans, s.LiesIn d) → c.LiesIn d

variable {a b c d s : Span} {spans : List Span}

theorem LiesIn.refl (s : Span) : s.LiesIn s := ⟨UInt32.le_refl _, UInt32.le_refl _⟩

theorem LiesIn.antisymm (h : a.LiesIn b) (h' : b.LiesIn a) : a = b := by
  obtain ⟨start, stop⟩ := a
  obtain ⟨start', stop'⟩ := b
  obtain rfl : start = start' := UInt32.le_antisymm h'.1 h.1
  obtain rfl : stop = stop' := UInt32.le_antisymm h.2 h'.2
  rfl

theorem cover_liesIn : (a.cover b).LiesIn c ↔ a.LiesIn c ∧ b.LiesIn c := by
  simp only [LiesIn, cover, UInt32.le_iff_toNat_le, toNat_min, toNat_max]
  omega

private theorem foldl_cover_liesIn : (spans.foldl cover s).LiesIn d ↔ ∀ t ∈ s :: spans, t.LiesIn d := by
  induction spans generalizing s with
  | nil => rw [List.foldl_nil, List.forall_mem_singleton]
  | cons t spans ih => rw [List.foldl_cons, ih, List.forall_mem_cons, cover_liesIn, List.forall_mem_cons,
      List.forall_mem_cons, and_assoc]

theorem IsCover.unique (hc : c.IsCover spans) (hd : d.IsCover spans) : c = d :=
  (hc.least d hd.covers).antisymm (hd.least c hc.covers)

private theorem coverAll?_eq_some_iff : coverAll? spans = some c ↔ spans ≠ [] ∧ c.IsCover spans := by
  cases spans with
  | nil => exact ⟨nofun, fun h => absurd rfl h.1⟩
  | cons s spans =>
      have hcover : (spans.foldl cover s).IsCover (s :: spans) :=
        ⟨foldl_cover_liesIn.1 (.refl _), fun d hd => foldl_cover_liesIn.2 hd⟩
      rw [coverAll?, Option.some.injEq]
      constructor
      · rintro rfl
        exact ⟨List.cons_ne_nil _ _, hcover⟩
      · rintro ⟨-, hc⟩
        exact hcover.unique hc

end Span

private theorem Hit.aligns_iff {relations : List Relation} {targets : List Hit} {s : Span} :
    aligns relations targets s = true ↔ (∃ r ∈ relations, r.startsWithin s = true) ∧
      ∃ h ∈ targets, h.span.IsCover ((relations.filter fun r => r.startsWithin s).map Relation.target) := by
  have hsome : (relations.filter fun r => r.startsWithin s).map Relation.target ≠ [] ↔
      ∃ r ∈ relations, r.startsWithin s = true := by
    rw [ne_eq, List.map_eq_nil_iff, List.filter_eq_nil_iff]
    push Not
    rfl
  simp only [aligns, Option.any_eq_true, Span.coverAll?_eq_some_iff, hsome,
    List.any_eq_true, decide_eq_true_iff]
  constructor
  · rintro ⟨c, ⟨hstarts, hcover⟩, h, hmem, rfl⟩
    exact ⟨hstarts, h, hmem, hcover⟩
  · rintro ⟨hstarts, h, hmem, hcover⟩
    exact ⟨h.span, ⟨hstarts, hcover⟩, h, hmem, rfl⟩

/-! ### Plans -/

/-- Whether all relations of a document are between spans of tokens of a field. -/
def Document.RelationsFit (d : Document) (field : String) : Prop :=
  ∀ r, d.Stores r → r.source.FitsIn (d.size field) ∧ r.target.FitsIn (d.size field)

private theorem Document.RelationsFit.closedCovers {d : Document} {field : String} (h : d.RelationsFit field) :
    d.ClosedCovers fun s => s.FitsIn (d.size field) := ⟨fun hr => h _ hr, .cover⟩

namespace SearchScope

def Finds (scope : SearchScope) (q : Plan) (h : Hit) : Prop := ∃ hs, scope.hits q = .ok hs ∧ h ∈ hs

variable {scope : SearchScope} {q parent : Plan} {plans required : List Plan} {field : String} {s : Span} {h : Hit}
  {hs : List Hit}

theorem finds_iff_mem (hhits : scope.hits q = .ok hs) : scope.Finds q h ↔ h ∈ hs := by
  constructor
  · rintro ⟨hs', hhits', hmem⟩
    obtain rfl := Except.ok.inj (hhits.symm.trans hhits')
    exact hmem
  · exact fun hmem => ⟨hs, hhits, hmem⟩

theorem finds_anyNGram :
    scope.Finds (Plan.anyNGram field) h ↔ ∃ t : Span, t.FitsIn (scope.document.size field) ∧ Hit.ofSpan t = h := by
  rw [finds_iff_mem (scope.hits_anyNGram field), Hit.mem_sorted, Hit.mem_anyNGrams (scope.document.size_lt field)]

private theorem fitsIn_of_finds_restrictedRelations (hfit : scope.document.RelationsFit field) {query : RelationQuery}
    {target? : Option Plan} (hfinds : scope.Finds (restrictedRelations query target?) h) :
    h.span.FitsIn (scope.document.size field) := by
  have hd := hfit.closedCovers
  have hrelations : ∀ {query : RelationQuery} {h : Hit}, scope.Finds (.relations query) h →
      h.Placed scope.document fun s => s.FitsIn (scope.document.size field) := by
    rintro query h ⟨hs, hhits, hmem⟩
    rw [hits] at hhits
    obtain ⟨found, hfound, hhits⟩ := Result.bind_eq_ok.1 hhits
    obtain rfl := Except.ok.inj hhits
    exact Hit.placed_of_relationHits hd hfound h (Hit.mem_sorted.1 hmem)
  have hmatched : ∀ {query : RelationQuery} {target : Plan} {h : Hit},
      scope.Finds (.join .relationAnd [.relations query, target]) h →
        h.Placed scope.document fun s => s.FitsIn (scope.document.size field) := by
    rintro query target h ⟨hs, hhits, hmem⟩
    refine ⟨?_, fun r hr => stores_of_hits hhits hmem hr⟩
    rw [hits] at hhits
    obtain ⟨hss, hhss, hhits⟩ := Result.bind_eq_ok.1 hhits
    obtain rfl := Except.ok.inj hhits
    obtain ⟨xs, _, hxs, hrest, rfl⟩ := List.forall₂_cons_left_iff.1 (hitLists_eq_ok.1 hhss)
    obtain ⟨ys, _, _, hnil, rfl⟩ := List.forall₂_cons_left_iff.1 hrest
    obtain rfl := List.forall₂_nil_left_iff.1 hnil
    obtain ⟨a, ha, _, _, _, _, rfl⟩ := Hit.mem_intersect.1 (Hit.mem_sorted.1 hmem)
    exact (hrelations ⟨xs, hxs, ha⟩).span
  cases target? with
  | none => exact (hrelations hfinds).span
  | some target =>
      dsimp only [restrictedRelations] at hfinds
      split at hfinds
      · exact (hmatched hfinds).span
      · obtain ⟨hs, hhits, hmem⟩ := hfinds
        rw [hits] at hhits
        obtain ⟨_, _, hhits⟩ := Result.bind_eq_ok.1 hhits
        obtain ⟨found, hfound, hhits⟩ := Result.bind_eq_ok.1 hhits
        obtain rfl := Except.ok.inj hhits
        obtain ⟨a, ha, rfl⟩ := List.mem_map.1 (Hit.mem_sorted.1 hmem)
        exact Hit.ok_relationSpan hd (hmatched ⟨found, hfound, ha⟩) _

private theorem fromEach_iff {hss : List (List Hit)} (h : List.Forall₂ (fun q hs => scope.hits q = .ok hs) plans hss)
    {as : List Hit} : Hit.FromEach hss as ↔ List.Forall₂ scope.Finds plans as := by
  induction h generalizing as with
  | nil => exact List.forall₂_nil_left_iff.trans List.forall₂_nil_left_iff.symm
  | cons hq _ ih => simp only [List.forall₂_cons_left_iff, finds_iff_mem hq, ih]

private theorem hasSpan_of_single (hhits : scope.hits q = .ok hs) :
    Hit.HasSpan hs s ↔ ∃ as, List.Forall₂ scope.Finds [q] as ∧ Hit.Together s as := by
  constructor
  · rintro ⟨a, ha, hspan⟩
    exact ⟨[a], .cons ⟨hs, hhits, ha⟩ .nil, Hit.together_singleton.2 hspan⟩
  · rintro ⟨as, hfound, htogether⟩
    obtain ⟨a, _, ha, hnil, rfl⟩ := List.forall₂_cons_left_iff.1 hfound
    obtain rfl := List.forall₂_nil_left_iff.1 hnil
    exact ⟨a, (finds_iff_mem hhits).1 ha, Hit.together_singleton.1 htogether⟩

private theorem hasSpan_of_relationAnd (hne : plans ≠ []) (hhits : scope.hits (.join .relationAnd plans) = .ok hs) :
    Hit.HasSpan hs s ↔ ∃ as, List.Forall₂ scope.Finds plans as ∧ Hit.Together s as := by
  rw [hits] at hhits
  obtain ⟨hss, hhss, hhits⟩ := Result.bind_eq_ok.1 hhits
  obtain rfl := Except.ok.inj hhits
  have heach := hitLists_eq_ok.1 hhss
  simp only [← fromEach_iff heach, Hit.hasSpan_sorted]
  cases heach with
  | nil => exact absurd rfl hne
  | cons _ _ => exact Hit.hasSpan_joined_relationAnd

private theorem filterMap_restrictingPlan? (hplans : ∀ q ∈ plans, q.isAnyNGram = false) :
    plans.filterMap restrictingPlan? = plans := by
  induction plans with
  | nil => rfl
  | cons q plans ih =>
      obtain ⟨hq, hplans⟩ := List.forall_mem_cons.1 hplans
      rw [List.filterMap_cons_some (restrictingPlan?_of_false hq), ih hplans]

private theorem hasSpan_of_restricting (hne : plans ≠ []) (hplans : ∀ q ∈ plans, q.isAnyNGram = false)
    (hhits : scope.hits (relationMatchPlan field plans) = .ok hs) :
    Hit.HasSpan hs s ↔ ∃ as, List.Forall₂ scope.Finds plans as ∧ Hit.Together s as := by
  rw [relationMatchPlan, filterMap_restrictingPlan? hplans] at hhits
  rcases plans with _ | ⟨q, _ | ⟨q', rest⟩⟩
  · exact absurd rfl hne
  · exact hasSpan_of_single hhits
  · exact hasSpan_of_relationAnd (List.cons_ne_nil _ _) hhits

private theorem finds_anyNGram_together (hne : required ≠ [])
    (hfit : ∀ q ∈ required, ∀ h, scope.Finds q h → h.span.FitsIn (scope.document.size field)) :
    (∃ as, List.Forall₂ scope.Finds (Plan.anyNGram field :: required) as ∧ Hit.Together s as) ↔
      ∃ as, List.Forall₂ scope.Finds required as ∧ Hit.Together s as := by
  constructor
  · rintro ⟨as, hfound, htogether⟩
    obtain ⟨a, bs, _, hrest, rfl⟩ := List.forall₂_cons_left_iff.1 hfound
    exact ⟨bs, hrest, (Hit.together_cons.1 htogether).2.2⟩
  · rintro ⟨as, hfound, htogether⟩
    have hs : s.FitsIn (scope.document.size field) := by
      cases hfound with
      | nil => exact absurd rfl hne
      | cons ha _ => exact htogether.span _ List.mem_cons_self ▸ hfit _ List.mem_cons_self _ ha
    have hgram : scope.Finds (Plan.anyNGram field) (Hit.ofSpan s) := finds_anyNGram.2 ⟨s, hs, rfl⟩
    refine ⟨Hit.ofSpan s :: as, .cons hgram hfound, Hit.together_cons.2 ⟨rfl, fun b _ => ?_, htogether⟩⟩
    exact Hit.sharesRelation_eq_false_iff.2 fun r _ hr => nomatch hr

private theorem hasSpan_of_relationMatchPlan (hparent : parent.isAnyNGram = true → parent = Plan.anyNGram field)
    (hrequired : ∀ q ∈ required, q.isAnyNGram = false)
    (hfit : ∀ q ∈ required, ∀ h, scope.Finds q h → h.span.FitsIn (scope.document.size field))
    (hhits : scope.hits (relationMatchPlan field (parent :: required)) = .ok hs) :
    Hit.HasSpan hs s ↔ ∃ as, List.Forall₂ scope.Finds (parent :: required) as ∧ Hit.Together s as := by
  cases hany : parent.isAnyNGram with
  | false => exact hasSpan_of_restricting (List.cons_ne_nil _ _) (List.forall_mem_cons.2 ⟨hany, hrequired⟩) hhits
  | true =>
      obtain rfl := hparent hany
      rw [relationMatchPlan_cons_of_true hany] at hhits
      by_cases hne : required = []
      · subst hne
        exact hasSpan_of_single hhits
      · rw [finds_anyNGram_together hne hfit]
        exact hasSpan_of_restricting hne hrequired hhits

/-! ### Excluded relations -/

private theorem moveBy_zero (position : UInt32) : Hit.moveBy position 0 = position := by
  rw [Hit.moveBy, Int.add_zero, Int.ofNat_eq_natCast, Int.toNat_natCast, UInt32.ofNat_toNat]

private theorem hasPartner_matches {xs : List Hit} :
    Hit.hasPartner ⟨.matches, true, 0, 0⟩ xs s = true ↔ Hit.HasSpan xs s := by
  rw [Hit.hasPartner, List.any_eq_true]
  refine exists_congr fun a => and_congr_right fun _ => ?_
  obtain ⟨⟨start, stop⟩, _, _⟩ := a
  obtain ⟨start', stop'⟩ := s
  simp only [PositionOperation.holds, Hit.moved, moveBy_zero, Bool.and_eq_true, decide_eq_true_iff, Span.mk.injEq]
  exact ⟨fun h => ⟨h.1.symm, h.2.symm⟩, fun h => ⟨h.1.symm, h.2.symm⟩⟩

private theorem hasSpan_of_withoutRelation (hhits : scope.hits (withoutRelation parent q) = .ok hs) :
    ∃ found, scope.hits parent = .ok found ∧
      (Hit.HasSpan hs s ↔ Hit.HasSpan found s ∧ ∀ h, scope.Finds q h → h.span ≠ s) := by
  rw [withoutRelation, hits] at hhits
  obtain ⟨partners, hpartners, hhits⟩ := Result.bind_eq_ok.1 hhits
  obtain ⟨found, hfound, hhits⟩ := Result.bind_eq_ok.1 hhits
  obtain rfl := Except.ok.inj hhits
  refine ⟨found, hfound, ?_⟩
  have hnone : (Hit.hasPartner ⟨.matches, true, 0, 0⟩ partners s != true) = true ↔
      ∀ h, scope.Finds q h → h.span ≠ s := by
    rw [bne_iff_ne, ne_eq, hasPartner_matches]
    simp only [Hit.HasSpan, finds_iff_mem hpartners, not_exists, not_and, ne_eq]
  rw [Hit.hasSpan_sorted, Hit.hasSpan_filterPositions, hnone]

private theorem hasSpan_of_foldl_withoutRelation {excluded : List Plan}
    (hhits : scope.hits (excluded.foldl withoutRelation parent) = .ok hs) :
    ∃ found, scope.hits parent = .ok found ∧
      (Hit.HasSpan hs s ↔ Hit.HasSpan found s ∧ ∀ q ∈ excluded, ∀ h, scope.Finds q h → h.span ≠ s) := by
  induction excluded generalizing parent with
  | nil => exact ⟨hs, hhits, by simp⟩
  | cons q excluded ih =>
      obtain ⟨left, hleft, hrest⟩ := ih hhits
      obtain ⟨found, hfound, hfirst⟩ := hasSpan_of_withoutRelation hleft
      refine ⟨found, hfound, ?_⟩
      rw [hrest, hfirst, List.forall_mem_cons, and_assoc]

/-! ### Alignments -/

/-- Relations of the alignment start in a span, and the smallest span that covers their targets is one that the
target has a hit on. -/
def Aligns (scope : SearchScope) (t : AlignmentHead × Plan) (s : Span) : Prop :=
  ∃ relations, Hit.alignmentRelations scope.document t.1 = .ok relations ∧
    (∃ r ∈ relations, r.startsWithin s = true) ∧
      ∃ h, scope.Finds t.2 h ∧ h.span.IsCover ((relations.filter fun r => r.startsWithin s).map Relation.target)

private theorem hasSpan_of_alignAll {targets : List (AlignmentHead × Plan)} {sources : List Hit}
    (hhits : scope.alignAll targets sources = .ok hs) :
    Hit.HasSpan hs s ↔ Hit.HasSpan sources s ∧ ∀ t ∈ targets, t.1.optional = false → scope.Aligns t s := by
  induction targets generalizing sources with
  | nil =>
      rw [alignAll] at hhits
      obtain rfl := Except.ok.inj hhits
      simp
  | cons t targets ih =>
      obtain ⟨head, target⟩ := t
      rw [alignAll] at hhits
      obtain ⟨relations, hrelations, hhits⟩ := Result.bind_eq_ok.1 hhits
      obtain ⟨found, hfound, hhits⟩ := Result.bind_eq_ok.1 hhits
      have haligns : scope.Aligns (head, target) s ↔ Hit.aligns relations found s = true := by
        simp only [Aligns, hrelations, Except.ok.injEq, exists_eq_left', finds_iff_mem hfound, Hit.aligns_iff]
      rw [ih hhits, Hit.hasSpan_align, List.forall_mem_cons, haligns, and_assoc, Bool.or_eq_true]
      refine and_congr_right fun _ => and_congr_left fun _ => ?_
      cases head.optional <;> simp

/-! ### Success -/

theorem succeeds_relationAnd :
    Succeeds (scope.hits (.join .relationAnd plans)) ↔ ∀ q ∈ plans, Succeeds (scope.hits q) := by
  rw [hits, Result.succeeds_bind_pure]
  induction plans with
  | nil => simp [hitLists]
  | cons q plans ih =>
      rw [hitLists, Result.succeeds_bind_iff fun _ _ => Result.succeeds_bind_pure, ih, List.forall_mem_cons]

private theorem succeeds_relationMatchPlan (hparent : parent.isAnyNGram = true → parent = Plan.anyNGram field)
    (hrequired : ∀ q ∈ required, q.isAnyNGram = false) :
    Succeeds (scope.hits (relationMatchPlan field (parent :: required))) ↔
      ∀ q ∈ parent :: required, Succeeds (scope.hits q) := by
  have hkept : ∀ plans : List Plan, plans ≠ [] → (∀ q ∈ plans, q.isAnyNGram = false) →
      (Succeeds (scope.hits (relationMatchPlan field plans)) ↔ ∀ q ∈ plans, Succeeds (scope.hits q)) := by
    intro plans hne hplans
    rw [relationMatchPlan, filterMap_restrictingPlan? hplans]
    rcases plans with _ | ⟨q, _ | ⟨q', rest⟩⟩
    · exact absurd rfl hne
    · rw [List.forall_mem_singleton]
    · exact succeeds_relationAnd
  cases hany : parent.isAnyNGram with
  | false => exact hkept _ (List.cons_ne_nil _ _) (List.forall_mem_cons.2 ⟨hany, hrequired⟩)
  | true =>
      obtain rfl := hparent hany
      have hgram : Succeeds (scope.hits (Plan.anyNGram field)) := ⟨_, scope.hits_anyNGram field⟩
      rw [relationMatchPlan_cons_of_true hany, List.forall_mem_cons]
      by_cases hne : required = []
      · subst hne
        exact ⟨fun h => ⟨h, List.forall_mem_nil _⟩, fun _ => hgram⟩
      · rw [hkept required hne hrequired]
        exact ⟨fun h => ⟨hgram, h⟩, And.right⟩

private theorem succeeds_foldl_withoutRelation {excluded : List Plan} :
    Succeeds (scope.hits (excluded.foldl withoutRelation parent)) ↔
      Succeeds (scope.hits parent) ∧ ∀ q ∈ excluded, Succeeds (scope.hits q) := by
  induction excluded generalizing parent with
  | nil => simp
  | cons q excluded ih =>
      have hfirst : Succeeds (scope.hits (withoutRelation parent q)) ↔
          Succeeds (scope.hits q) ∧ Succeeds (scope.hits parent) := by
        rw [withoutRelation, hits, Result.succeeds_bind_iff fun _ _ => Result.succeeds_bind_pure]
      rw [List.foldl_cons, ih, hfirst, List.forall_mem_cons, and_comm (a := Succeeds (scope.hits q)), and_assoc]

private theorem succeeds_alignAll {targets : List (AlignmentHead × Plan)} {sources : List Hit} :
    Succeeds (scope.alignAll targets sources) ↔ ∀ t ∈ targets,
      Succeeds (Hit.alignmentRelations scope.document t.1) ∧ Succeeds (scope.hits t.2) := by
  induction targets generalizing sources with
  | nil => simp [alignAll]
  | cons t targets ih =>
      obtain ⟨head, target⟩ := t
      rw [alignAll, Result.succeeds_bind_iff fun _ _ => Result.succeeds_bind_iff fun _ _ => ih,
        List.forall_mem_cons, and_assoc]

end SearchScope

/-! ### All relations below a parent -/

namespace RelationParts

/-- A span of a parent that its relations leave. -/
structure Leaves (parts : RelationParts) (scope : SearchScope) (parent : Plan) (s : Span) : Prop where
  matched : ∃ as, List.Forall₂ scope.Finds (parent :: parts.required) as ∧ Hit.Together s as
  excluded : ∀ q ∈ parts.excluded, ∀ h, scope.Finds q h → h.span ≠ s
  aligned : ∀ t ∈ parts.aligned, t.1.optional = false → scope.Aligns t s

/-- Whether all that is evaluated for a parent and its relations can be. -/
structure Evaluates (parts : RelationParts) (scope : SearchScope) (parent : Plan) : Prop where
  matched : ∀ q ∈ parent :: parts.required, Succeeds (scope.hits q)
  excluded : ∀ q ∈ parts.excluded, Succeeds (scope.hits q)
  aligned : ∀ t ∈ parts.aligned,
    Succeeds (Hit.alignmentRelations scope.document t.1) ∧ Succeeds (scope.hits t.2)

/-- The same relations in another order. -/
structure Reordered (parts parts' : RelationParts) : Prop where
  required : parts.required.Perm parts'.required
  excluded : parts.excluded.Perm parts'.excluded
  aligned : parts.aligned.Perm parts'.aligned

theorem Reordered.symm {parts parts' : RelationParts} (h : parts.Reordered parts') : parts'.Reordered parts :=
  ⟨h.required.symm, h.excluded.symm, h.aligned.symm⟩

/-- The alignments that have to lead somewhere. -/
def withoutOptional (parts : RelationParts) : RelationParts :=
  { parts with aligned := parts.aligned.filter fun t => !t.1.optional }

/-- Every required relation is a relation with a restricted target, as all that is planned are. -/
def Restricted (parts : RelationParts) : Prop :=
  ∀ q ∈ parts.required, ∃ query target?, q = restrictedRelations query target?

variable {parts parts' : RelationParts} {scope : SearchScope} {parent matched : Plan} {field : String} {s : Span}
  {hs : List Hit}

private theorem Leaves.reordered (h : parts.Leaves scope parent s) (hparts : parts.Reordered parts') :
    parts'.Leaves scope parent s := by
  obtain ⟨as, hfound, htogether⟩ := h.matched
  obtain ⟨bs, hfound, hperm⟩ := List.perm_comp_forall₂ (hparts.required.symm.cons parent) hfound
  refine ⟨⟨bs, hfound, htogether.perm hperm.symm⟩, fun q hq => ?_, fun t ht => ?_⟩
  · exact h.excluded q (hparts.excluded.mem_iff.2 hq)
  · exact h.aligned t (hparts.aligned.mem_iff.2 ht)

private theorem Evaluates.reordered (h : parts.Evaluates scope parent) (hparts : parts.Reordered parts') :
    parts'.Evaluates scope parent where
  matched q hq := h.matched q ((hparts.required.cons parent).mem_iff.2 hq)
  excluded q hq := h.excluded q (hparts.excluded.mem_iff.2 hq)
  aligned t ht := h.aligned t (hparts.aligned.mem_iff.2 ht)

private theorem leaves_withoutOptional : parts.withoutOptional.Leaves scope parent s ↔ parts.Leaves scope parent s := by
  have halignments : (∀ t ∈ parts.withoutOptional.aligned, t.1.optional = false → scope.Aligns t s) ↔
      ∀ t ∈ parts.aligned, t.1.optional = false → scope.Aligns t s := by
    simp only [withoutOptional, List.mem_filter, Bool.not_eq_true', and_imp]
    exact forall₂_congr fun _ _ => ⟨fun h hoptional => h hoptional hoptional, fun h _ => h⟩
  exact ⟨fun h => ⟨h.matched, h.excluded, halignments.1 h.aligned⟩,
    fun h => ⟨h.matched, h.excluded, halignments.2 h.aligned⟩⟩

private theorem Evaluates.withoutOptional (h : parts.Evaluates scope parent) :
    parts.withoutOptional.Evaluates scope parent :=
  ⟨h.matched, h.excluded, fun t ht => h.aligned t (List.mem_of_mem_filter ht)⟩

/-! ### Evaluation -/

private theorem hasSpan_of_leave (hhits : scope.hits (parts.leave matched) = .ok hs) :
    ∃ found, scope.hits matched = .ok found ∧ (Hit.HasSpan hs s ↔ Hit.HasSpan found s ∧
      (∀ q ∈ parts.excluded, ∀ h, scope.Finds q h → h.span ≠ s) ∧
        ∀ t ∈ parts.aligned, t.1.optional = false → scope.Aligns t s) := by
  unfold leave at hhits
  dsimp only at hhits
  split at hhits
  · rename_i hempty
    obtain ⟨found, hfound, hspan⟩ := SearchScope.hasSpan_of_foldl_withoutRelation (s := s) hhits
    refine ⟨found, hfound, ?_⟩
    rw [hspan, List.isEmpty_iff.1 hempty]
    simp
  · rw [SearchScope.hits] at hhits
    obtain ⟨sources, hsources, hhits⟩ := Result.bind_eq_ok.1 hhits
    obtain ⟨aligned, haligned, hhits⟩ := Result.bind_eq_ok.1 hhits
    obtain rfl := Except.ok.inj hhits
    obtain ⟨found, hfound, hspan⟩ := SearchScope.hasSpan_of_foldl_withoutRelation (s := s) hsources
    refine ⟨found, hfound, ?_⟩
    rw [Hit.hasSpan_sorted, SearchScope.hasSpan_of_alignAll haligned, hspan, and_assoc]

private theorem succeeds_leave : Succeeds (scope.hits (parts.leave matched)) ↔ Succeeds (scope.hits matched) ∧
    (∀ q ∈ parts.excluded, Succeeds (scope.hits q)) ∧ ∀ t ∈ parts.aligned,
      Succeeds (Hit.alignmentRelations scope.document t.1) ∧ Succeeds (scope.hits t.2) := by
  unfold leave
  dsimp only
  split
  · rename_i hempty
    rw [SearchScope.succeeds_foldl_withoutRelation, List.isEmpty_iff.1 hempty]
    simp
  · have halign : ∀ sources, scope.hits (parts.excluded.foldl withoutRelation matched) = .ok sources →
        (Succeeds (do return Hit.sorted (← scope.alignAll parts.aligned sources)) ↔ ∀ t ∈ parts.aligned,
          Succeeds (Hit.alignmentRelations scope.document t.1) ∧ Succeeds (scope.hits t.2)) := by
      intro sources _
      rw [Result.succeeds_bind_pure, SearchScope.succeeds_alignAll]
    rw [SearchScope.hits, Result.succeeds_bind_iff halign, SearchScope.succeeds_foldl_withoutRelation, and_assoc]

private theorem hasSpan_of_leave_relationAnd
    (hhits : scope.hits (parts.leave (.join .relationAnd (parent :: parts.required))) = .ok hs) :
    Hit.HasSpan hs s ↔ parts.Leaves scope parent s := by
  obtain ⟨found, hfound, hspan⟩ := hasSpan_of_leave (s := s) hhits
  rw [hspan, SearchScope.hasSpan_of_relationAnd (List.cons_ne_nil _ _) hfound]
  exact ⟨fun h => ⟨h.1, h.2.1, h.2.2⟩, fun h => ⟨h.matched, h.excluded, h.aligned⟩⟩

private theorem succeeds_leave_relationAnd :
    Succeeds (scope.hits (parts.leave (.join .relationAnd (parent :: parts.required)))) ↔
      parts.Evaluates scope parent := by
  rw [succeeds_leave, SearchScope.succeeds_relationAnd]
  exact ⟨fun h => ⟨h.1, h.2.1, h.2.2⟩, fun h => ⟨h.matched, h.excluded, h.aligned⟩⟩

section Plan

variable (hparent : parent.isAnyNGram = true → parent = Plan.anyNGram field) (hparts : parts.Restricted)

include hparent hparts

private theorem hasSpan_of_plan (hfit : scope.document.RelationsFit field)
    (hhits : scope.hits (parts.plan field parent) = .ok hs) : Hit.HasSpan hs s ↔ parts.Leaves scope parent s := by
  have hrequired : ∀ q ∈ parts.required, q.isAnyNGram = false := by
    intro q hq
    obtain ⟨query, target?, rfl⟩ := hparts q hq
    exact isAnyNGram_restrictedRelations query target?
  have hfits : ∀ q ∈ parts.required, ∀ h, scope.Finds q h → h.span.FitsIn (scope.document.size field) := by
    intro q hq h hfinds
    obtain ⟨query, target?, rfl⟩ := hparts q hq
    exact SearchScope.fitsIn_of_finds_restrictedRelations hfit hfinds
  obtain ⟨found, hfound, hspan⟩ := hasSpan_of_leave (s := s) hhits
  rw [hspan, SearchScope.hasSpan_of_relationMatchPlan hparent hrequired hfits hfound]
  exact ⟨fun h => ⟨h.1, h.2.1, h.2.2⟩, fun h => ⟨h.matched, h.excluded, h.aligned⟩⟩

private theorem succeeds_plan : Succeeds (scope.hits (parts.plan field parent)) ↔ parts.Evaluates scope parent := by
  have hrequired : ∀ q ∈ parts.required, q.isAnyNGram = false := by
    intro q hq
    obtain ⟨query, target?, rfl⟩ := hparts q hq
    exact isAnyNGram_restrictedRelations query target?
  rw [RelationParts.plan, succeeds_leave, SearchScope.succeeds_relationMatchPlan hparent hrequired]
  exact ⟨fun h => ⟨h.1, h.2.1, h.2.2⟩, fun h => ⟨h.matched, h.excluded, h.aligned⟩⟩

end Plan

end RelationParts

namespace Planner

private theorem PartsPlanned.restricted {below : PlanRelation} {c : Context} {targets : List (RelationHead × Pattern)}
    {parts : RelationParts} (h : PartsPlanned below c targets parts) : parts.Restricted := by
  induction h with
  | nil => exact List.forall_mem_nil _
  | aligned _ _ _ ih => exact ih
  | excluded _ _ _ _ ih => exact ih
  | required _ _ hq _ ih =>
      obtain ⟨_, _, _, _⟩ := hq
      exact List.forall_mem_cons.2 ⟨⟨_, _, rfl⟩, ih⟩

theorem planRelations_eq (below : PlansBelow) (c : Context) (parent : Plan)
    (targets : List (RelationHead × Pattern)) : planRelations below c parent targets =
      (do return (← planParts below c targets).plan c.fieldName parent) := by
  unfold planRelations
  refine bind_congr fun parts => ?_
  dsimp only
  rw [RelationParts.plan, RelationParts.leave]
  split
  · rfl
  · rfl

/-- What the plan for relations below a parent finds. Neither their order, nor clauses of any number of tokens, nor
optional alignments make a difference. -/
theorem planRelations_finds {below : PlansBelow} {c : Context} {parent : Plan}
    (hparent : parent.isAnyNGram = true → parent = Plan.anyNGram c.fieldName)
    {targets : List (RelationHead × Pattern)} {names names' : CaptureNames} {plan : Plan}
    (hplan : (planRelations below c parent targets).run names = .ok (plan, names')) {scope : SearchScope}
    (hfit : scope.document.RelationsFit c.fieldName) :
    ∃ parts, (planParts below c targets).run names = .ok (parts, names') ∧
      (Succeeds (scope.hits plan) ↔ parts.Evaluates scope parent) ∧
      ∀ hs, scope.hits plan = .ok hs →
        (∀ s, Hit.HasSpan hs s ↔ parts.Leaves scope parent s) ∧
        (∀ parts', parts.Reordered parts' →
          ∃ hs', scope.hits (parts'.plan c.fieldName parent) = .ok hs' ∧ Hit.SameSpans hs hs') ∧
        (∃ hs', scope.hits (parts.leave (.join .relationAnd (parent :: parts.required))) = .ok hs' ∧
          Hit.SameSpans hs hs') ∧
        ∃ hs', scope.hits (parts.withoutOptional.plan c.fieldName parent) = .ok hs' ∧ Hit.SameSpans hs hs' := by
  rw [planRelations_eq] at hplan
  obtain ⟨⟨parts, names''⟩, hparts, hplan⟩ := Planning.run_bind_eq_ok.1 hplan
  obtain ⟨rfl, rfl⟩ := Prod.mk.inj (Except.ok.inj hplan)
  have hplanned : PartsPlanned (fun _ _ _ => True) c targets parts :=
    planParts_planned (fun _ _ => Planning.Yields.trivial _) targets names _ hparts
  have hrestricted := hplanned.restricted
  have hsucceeds : Succeeds (scope.hits (parts.plan c.fieldName parent)) ↔ parts.Evaluates scope parent :=
    RelationParts.succeeds_plan hparent hrestricted
  refine ⟨parts, hparts, hsucceeds, fun hs hhits => ?_⟩
  have hevaluates := hsucceeds.1 ⟨hs, hhits⟩
  have hspans : ∀ s, Hit.HasSpan hs s ↔ parts.Leaves scope parent s :=
    fun s => RelationParts.hasSpan_of_plan hparent hrestricted hfit hhits
  refine ⟨hspans, fun parts' hreordered => ?_, ?_, ?_⟩
  · have hrestricted' : parts'.Restricted := fun q hq => hrestricted q (hreordered.required.mem_iff.2 hq)
    obtain ⟨hs', hhits'⟩ := (RelationParts.succeeds_plan hparent hrestricted').2 (hevaluates.reordered hreordered)
    refine ⟨hs', hhits', fun s => ?_⟩
    rw [hspans, RelationParts.hasSpan_of_plan hparent hrestricted' hfit hhits']
    exact ⟨fun h => h.reordered hreordered, fun h => h.reordered hreordered.symm⟩
  · obtain ⟨hs', hhits'⟩ := RelationParts.succeeds_leave_relationAnd.2 hevaluates
    exact ⟨hs', hhits', fun s => (hspans s).trans (RelationParts.hasSpan_of_leave_relationAnd hhits').symm⟩
  · have hrestricted' : parts.withoutOptional.Restricted := hrestricted
    obtain ⟨hs', hhits'⟩ := (RelationParts.succeeds_plan hparent hrestricted').2 hevaluates.withoutOptional
    refine ⟨hs', hhits', fun s => ?_⟩
    rw [hspans, RelationParts.hasSpan_of_plan hparent hrestricted' hfit hhits', RelationParts.leaves_withoutOptional]

/-- Three words, with the relations from the verb to its subject and to its object. -/
def foxesSeeDogs : Document :=
  let content := FieldContent.empty.withValues "word" ["foxes", "see", "dogs"]
  NameMap.empty.insert "contents"
    ((content.withRelation ⟨"dep::nsubj", ⟨1, 2⟩, ⟨0, 1⟩⟩).withRelation ⟨"dep::obj", ⟨1, 2⟩, ⟨2, 3⟩⟩)

theorem content_of_foxesSeeDogs {field : String} {content : FieldContent} (h : foxesSeeDogs.get? field = some content) :
    content = ((FieldContent.empty.withValues "word" ["foxes", "see", "dogs"]).withRelation
      ⟨"dep::nsubj", ⟨1, 2⟩, ⟨0, 1⟩⟩).withRelation ⟨"dep::obj", ⟨1, 2⟩, ⟨2, 3⟩⟩ := by
  rw [foxesSeeDogs, NameMap.get?_insert] at h
  split at h
  · exact (Option.some.inj h).symm
  · cases h

theorem foxesSeeDogs_relationsFit : foxesSeeDogs.RelationsFit "contents" := by
  rintro r ⟨field, content, h, hr⟩
  rw [content_of_foxesSeeDogs h] at hr
  rcases List.mem_pair.1 hr with rfl | rfl
  · exact ⟨⟨by decide, by decide⟩, by decide, by decide⟩
  · exact ⟨⟨by decide, by decide⟩, by decide, by decide⟩

/-- A relation of dependency whose source is the match, with a capture name. -/
def dependencyHead (type capture : String) (negated alignment isOptional : Bool) : RelationHead :=
  ⟨⟨type, .both, none, none, negated, alignment, isOptional⟩, .source, some capture⟩

/-- Verbs with a subject and without a receiver, aligned with their objects if there are any. -/
theorem planRelations_finds_foxesSeeDogs :
    let any := Pattern.anyNGram
    let relations (type capture : String) : Plan :=
      .relations ⟨"contents%_relation@s", type, .both, .source, capture⟩
    let left := withoutRelation (relations "(dep)::(nsubj)" "subject") (relations "(dep)::(iobj)" "receiver")
    let plan : Plan := .align left
      [(⟨"contents%_relation@s", "(dep)::(obj)", "contents", "object", true⟩, Plan.anyNGram "contents")]
    let targets := [(dependencyHead "dep::nsubj" "subject" false false false, any),
      (dependencyHead "dep::iobj" "receiver" true false false, any),
      (dependencyHead "dep::obj" "object" false true true, any)]
    let scope : SearchScope := ⟨foxesSeeDogs, NameMap.empty⟩
    let below := standard.plain.planWithin 2
    (planRelations below wordContext (Plan.anyNGram "contents") targets).run CaptureNames.empty =
        .ok (plan, CaptureNames.empty) ∧
      ∃ parts, (planParts below wordContext targets).run CaptureNames.empty = .ok (parts, CaptureNames.empty) ∧
        (Succeeds (scope.hits plan) ↔ parts.Evaluates scope (Plan.anyNGram "contents")) ∧
        ∀ hs, scope.hits plan = .ok hs →
          ∀ s, Hit.HasSpan hs s ↔ parts.Leaves scope (Plan.anyNGram "contents") s := by
  intro any relations left plan targets scope below
  have hplan : (planRelations below wordContext (Plan.anyNGram "contents") targets).run CaptureNames.empty =
      .ok (plan, CaptureNames.empty) := by rfl
  have hfit : scope.document.RelationsFit wordContext.fieldName := foxesSeeDogs_relationsFit
  obtain ⟨parts, hparts, hsucceeds, hfinds⟩ := planRelations_finds (fun _ => rfl) hplan hfit
  exact ⟨hplan, parts, hparts, hsucceeds, fun hs hhits => (hfinds hs hhits).1⟩

end Planner

end CorpusSearch
