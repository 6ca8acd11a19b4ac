import CorpusSearch.Evaluation
import CorpusSearch.Proofs.HitOrder

/-!
The spans of hits. What an operation does to the spans of hits depends, for all operations but those on relations
and conditions, on nothing but the spans: lists of hits with the same spans are taken to lists with the same spans.
-/

set_option autoImplicit false

namespace CorpusSearch

namespace Hit

def HasSpan (hits : List Hit) (s : Span) : Prop := ∃ h ∈ hits, h.span = s

/-- Whether two lists have hits on the same spans. -/
def SameSpans (xs ys : List Hit) : Prop := ∀ s, HasSpan xs s ↔ HasSpan ys s

variable {xs ys zs xs' ys' : List Hit} {s : Span}

theorem hasSpan_of_mem {h : Hit} (hmem : h ∈ xs) : HasSpan xs h.span := ⟨h, hmem, rfl⟩

@[simp] theorem not_hasSpan_nil : ¬HasSpan [] s := by
  rintro ⟨h, hmem, -⟩
  cases hmem

@[simp] theorem hasSpan_cons {h : Hit} : HasSpan (h :: xs) s ↔ h.span = s ∨ HasSpan xs s := by
  constructor
  · rintro ⟨a, hmem, rfl⟩
    rcases List.mem_cons.1 hmem with rfl | hmem
    · exact .inl rfl
    · exact .inr (hasSpan_of_mem hmem)
  · rintro (h' | ⟨a, hmem, rfl⟩)
    · exact ⟨h, List.mem_cons_self, h'⟩
    · exact hasSpan_of_mem (List.mem_cons_of_mem _ hmem)

@[simp] theorem hasSpan_append : HasSpan (xs ++ ys) s ↔ HasSpan xs s ∨ HasSpan ys s := by
  induction xs with
  | nil => simp
  | cons h xs ih => simp [ih, or_assoc]

@[simp] theorem hasSpan_sorted : HasSpan (sorted xs) s ↔ HasSpan xs s := by
  constructor
  · rintro ⟨h, hmem, rfl⟩
    exact hasSpan_of_mem (mem_sorted.1 hmem)
  · rintro ⟨h, hmem, rfl⟩
    exact hasSpan_of_mem (mem_sorted.2 hmem)

private theorem hasSpan_filter {p : Span → Bool} :
    HasSpan (xs.filter fun h => p h.span) s ↔ HasSpan xs s ∧ p s = true := by
  constructor
  · rintro ⟨h, hmem, rfl⟩
    have hp := List.mem_filter.1 hmem
    exact ⟨hasSpan_of_mem hp.1, hp.2⟩
  · rintro ⟨⟨h, hmem, rfl⟩, hp⟩
    exact hasSpan_of_mem (List.mem_filter.2 ⟨hmem, hp⟩)

private theorem hasSpan_map {f : Hit → Hit} {g : Span → Span} (hf : ∀ h, (f h).span = g h.span) :
    HasSpan (xs.map f) s ↔ ∃ t, HasSpan xs t ∧ g t = s := by
  constructor
  · rintro ⟨h, hmem, rfl⟩
    obtain ⟨a, ha, rfl⟩ := List.mem_map.1 hmem
    exact ⟨a.span, hasSpan_of_mem ha, (hf a).symm⟩
  · rintro ⟨t, ⟨a, ha, rfl⟩, rfl⟩
    exact ⟨f a, List.mem_map_of_mem ha, hf a⟩

private theorem hasSpan_flatMap {f : Hit → List Hit} :
    HasSpan (xs.flatMap f) s ↔ ∃ a ∈ xs, HasSpan (f a) s := by
  constructor
  · rintro ⟨h, hmem, rfl⟩
    obtain ⟨a, ha, hmem⟩ := List.mem_flatMap.1 hmem
    exact ⟨a, ha, hasSpan_of_mem hmem⟩
  · rintro ⟨a, ha, h, hmem, rfl⟩
    exact hasSpan_of_mem (List.mem_flatMap.2 ⟨a, ha, hmem⟩)

theorem any_span {p : Span → Bool} : (xs.any fun h => p h.span) = true ↔ ∃ t, HasSpan xs t ∧ p t = true := by
  rw [List.any_eq_true]
  constructor
  · rintro ⟨h, hmem, hp⟩
    exact ⟨h.span, hasSpan_of_mem hmem, hp⟩
  · rintro ⟨t, ⟨h, hmem, rfl⟩, hp⟩
    exact ⟨h, hmem, hp⟩

private theorem hasSpan_partners {a : Hit} :
    HasSpan ((xs.filter fun b => b.span = a.span && !(false && a.sharesRelation b)).map
      fun b => a.merge b a.span) s ↔ HasSpan xs a.span ∧ a.span = s := by
  simp only [Bool.false_and, Bool.not_false, Bool.and_true]
  rw [hasSpan_map (f := fun b => a.merge b a.span) (g := fun _ => a.span) (fun _ => rfl)]
  simp only [hasSpan_filter (p := fun t => decide (t = a.span)), decide_eq_true_iff]
  constructor
  · rintro ⟨t, ⟨ht, rfl⟩, rfl⟩
    exact ⟨ht, rfl⟩
  · rintro ⟨ht, rfl⟩
    exact ⟨a.span, ⟨ht, rfl⟩, rfl⟩

/-! ### Lists with the same spans -/

namespace SameSpans

theorem refl (xs : List Hit) : SameSpans xs xs := fun _ => Iff.rfl

theorem symm (h : SameSpans xs ys) : SameSpans ys xs := fun s => (h s).symm

theorem trans (hxy : SameSpans xs ys) (hyz : SameSpans ys zs) : SameSpans xs zs :=
  fun s => (hxy s).trans (hyz s)

theorem sorted (h : SameSpans xs ys) : SameSpans (sorted xs) (sorted ys) := by
  intro s
  rw [hasSpan_sorted, hasSpan_sorted]
  exact h s

theorem append (h : SameSpans xs ys) (h' : SameSpans xs' ys') : SameSpans (xs ++ xs') (ys ++ ys') := by
  intro s
  rw [hasSpan_append, hasSpan_append, h s, h' s]

theorem map {f g : Hit → Hit} (h : SameSpans xs ys) (move : Span → Span)
    (hf : ∀ a, (f a).span = move a.span) (hg : ∀ a, (g a).span = move a.span) :
    SameSpans (xs.map f) (ys.map g) := by
  intro s
  rw [hasSpan_map hf, hasSpan_map hg]
  constructor
  · rintro ⟨t, ht, rfl⟩
    exact ⟨t, (h t).1 ht, rfl⟩
  · rintro ⟨t, ht, rfl⟩
    exact ⟨t, (h t).2 ht, rfl⟩

theorem flatMap {f g : Hit → List Hit} (h : SameSpans xs ys)
    (hfg : ∀ a b, a.span = b.span → SameSpans (f a) (g b)) :
    SameSpans (xs.flatMap f) (ys.flatMap g) := by
  intro s
  rw [hasSpan_flatMap, hasSpan_flatMap]
  constructor
  · rintro ⟨a, ha, hs⟩
    obtain ⟨b, hb, hab⟩ := (h a.span).1 (hasSpan_of_mem ha)
    exact ⟨b, hb, (hfg a b hab.symm s).1 hs⟩
  · rintro ⟨b, hb, hs⟩
    obtain ⟨a, ha, hab⟩ := (h b.span).2 (hasSpan_of_mem hb)
    exact ⟨a, ha, (hfg a b hab s).2 hs⟩

theorem any (h : SameSpans xs ys) (p : Span → Bool) :
    (xs.any fun a => p a.span) = ys.any fun b => p b.span := by
  rw [Bool.eq_iff_iff, any_span, any_span]
  constructor
  · rintro ⟨t, ht, hp⟩
    exact ⟨t, (h t).1 ht, hp⟩
  · rintro ⟨t, ht, hp⟩
    exact ⟨t, (h t).2 ht, hp⟩

theorem isEmpty (h : SameSpans xs ys) : xs.isEmpty = ys.isEmpty := by
  cases xs with
  | nil =>
      cases ys with
      | nil => rfl
      | cons b ys => exact absurd ((h b.span).2 (hasSpan_of_mem List.mem_cons_self)) not_hasSpan_nil
  | cons a xs =>
      cases ys with
      | nil => exact absurd ((h a.span).1 (hasSpan_of_mem List.mem_cons_self)) not_hasSpan_nil
      | cons b ys => rfl

/-! ### Joins -/

theorem intersect (h : SameSpans xs ys) (h' : SameSpans xs' ys') :
    SameSpans (intersect false xs xs') (intersect false ys ys') := by
  refine sorted (flatMap h fun a b hab s => ?_)
  rw [hasSpan_partners, hasSpan_partners, h' a.span, hab]

theorem concat (h : SameSpans xs ys) (h' : SameSpans xs' ys') :
    SameSpans (concat xs xs') (concat ys ys') := by
  refine sorted (flatMap h fun a b hab => ?_)
  have hfilter : SameSpans (xs'.filter fun c => c.span.start = a.span.stop)
      (ys'.filter fun c => c.span.start = a.span.stop) := by
    intro s
    rw [hasSpan_filter (p := fun t => decide (t.start = a.span.stop)),
      hasSpan_filter (p := fun t => decide (t.start = a.span.stop)), h' s]
  rw [← hab]
  exact hfilter.map (fun t => ⟨a.span.start, t.stop⟩) (fun _ => rfl) fun _ => by
    rw [merge, hab]

theorem flatten {xss yss : List (List Hit)} (h : List.Forall₂ SameSpans xss yss) :
    SameSpans xss.flatten yss.flatten := by
  induction h with
  | nil => exact refl []
  | cons hxy _ ih =>
      rw [List.flatten_cons, List.flatten_cons]
      exact append hxy ih

theorem fold {join : List Hit → List Hit → List Hit}
    (hjoin : ∀ {xs ys xs' ys'}, SameSpans xs ys → SameSpans xs' ys' → SameSpans (join xs xs') (join ys ys'))
    {xss yss : List (List Hit)} (h : List.Forall₂ SameSpans xss yss) :
    SameSpans (Hit.fold join xss) (Hit.fold join yss) := by
  cases h with
  | nil => exact refl []
  | @cons xs ys xss yss hxy hrest =>
      rw [Hit.fold, Hit.fold]
      induction hrest generalizing xs ys with
      | nil => exact hxy
      | cons hxy' _ ih => exact ih (hjoin hxy hxy')

/-- The relations of the clauses decide only where they have to be apart. -/
theorem joined {connective : PlanConnective} (hne : connective ≠ .relationAnd) {xss yss : List (List Hit)}
    (h : List.Forall₂ SameSpans xss yss) :
    SameSpans (joined connective xss) (joined connective yss) := by
  cases connective with
  | and => exact fold intersect h
  | relationAnd => exact absurd rfl hne
  | or => exact flatten h
  | sequence => exact fold concat h

/-! ### Single clauses -/

theorem complement (h : SameSpans xs ys) (size : Nat) : complement size xs = complement size ys := by
  rw [Hit.complement, Hit.complement]
  congr 1
  refine List.filter_congr fun p _ => ?_
  rw [h.any fun t => decide (t = token p)]

theorem filterNGrams (h : SameSpans xs ys) (size : Nat) (operation : PositionOperation) (low high : UInt32) :
    filterNGrams size operation low high xs = filterNGrams size operation low high ys := by
  rw [Hit.filterNGrams, Hit.filterNGrams]
  exact List.filter_congr fun n _ => h.any fun t => operation.holds n.span t

theorem rowsFrom (h : SameSpans xs ys) (low count n : Nat) (hcurrent : SameSpans xs' ys') :
    SameSpans (rowsFrom xs low count n xs') (rowsFrom ys low count n ys') := by
  induction count generalizing n xs' ys' with
  | zero => exact refl []
  | succ count ih =>
      rw [Hit.rowsFrom, Hit.rowsFrom, hcurrent.isEmpty]
      by_cases hempty : ys'.isEmpty = true
      · rw [if_pos hempty, if_pos hempty]
        exact refl []
      · rw [if_neg hempty, if_neg hempty]
        refine append ?_ (ih (n + 1) (hcurrent.concat h))
        by_cases hlow : low ≤ n
        · rw [if_pos hlow, if_pos hlow]
          exact hcurrent
        · rw [if_neg hlow, if_neg hlow]
          exact refl []

theorem rows (h : SameSpans xs ys) (size : Nat) (low high : UInt32) :
    SameSpans (rows size low high xs) (rows size low high ys) :=
  append (refl _) (h.rowsFrom _ _ _ h)

theorem expand (h : SameSpans xs ys) (size : Nat) (direction : ExpansionDirection) (low high : UInt32) :
    SameSpans (xs.flatMap (expand size direction low high)) (ys.flatMap (expand size direction low high)) := by
  refine flatMap h fun a b hab s => ?_
  cases direction with
  | left =>
      simp only [Hit.expand, HasSpan, List.mem_map, exists_exists_and_eq_and, withSpan, hab]
  | right =>
      simp only [Hit.expand, HasSpan, List.mem_map, exists_exists_and_eq_and, withSpan, hab]

end SameSpans

/-! ### Hits that are kept or left out -/

private theorem hasSpan_filterMap {f : Hit → Option Hit} (keep : Span → Bool)
    (hf : ∀ h, (f h).map Hit.span = if keep h.span then some h.span else none) :
    HasSpan (xs.filterMap f) s ↔ HasSpan xs s ∧ keep s = true := by
  constructor
  · rintro ⟨a, hmem, rfl⟩
    obtain ⟨h, hmem, ha⟩ := List.mem_filterMap.1 hmem
    have hspan := hf h
    rw [ha, Option.map_some] at hspan
    by_cases hkeep : keep h.span = true
    · rw [if_pos hkeep, Option.some.injEq] at hspan
      rw [hspan]
      exact ⟨hasSpan_of_mem hmem, hkeep⟩
    · rw [if_neg hkeep] at hspan
      cases hspan
  · rintro ⟨⟨h, hmem, rfl⟩, hkeep⟩
    have hspan := hf h
    rw [if_pos hkeep] at hspan
    obtain ⟨a, ha, hspan⟩ := Option.map_eq_some_iff.1 hspan
    exact ⟨a, List.mem_filterMap.2 ⟨h, hmem, ha⟩, hspan⟩

/-- Where the test of a position filter looks for a partner of a span. -/
def moved (test : PositionTest) (s : Span) : Span :=
  ⟨moveBy s.start test.adjustLeading, moveBy s.stop test.adjustTrailing⟩

def hasPartner (test : PositionTest) (filter : List Hit) (s : Span) : Bool :=
  filter.any fun f => test.operation.holds (moved test s) f.span

private theorem isSome_partner? (test : PositionTest) (filter : List Hit) (h : Hit) :
    (partner? test filter h).isSome = hasPartner test filter h.span :=
  List.isSome_find?

theorem SameSpans.hasPartner (h : SameSpans xs ys) (test : PositionTest) (s : Span) :
    hasPartner test xs s = hasPartner test ys s :=
  h.any fun t => test.operation.holds (moved test s) t

theorem hasSpan_filterPositions {test : PositionTest} :
    HasSpan (filterPositions test xs ys) s ↔ HasSpan xs s ∧ (hasPartner test ys s != test.inverted) = true := by
  refine hasSpan_filterMap (fun s => hasPartner test ys s != test.inverted) fun p => ?_
  rw [← isSome_partner?]
  cases partner? test ys p <;> cases test.inverted <;> rfl

theorem SameSpans.filterPositions (h : SameSpans xs ys) (h' : SameSpans xs' ys') (test : PositionTest) :
    SameSpans (filterPositions test xs xs') (filterPositions test ys ys') := by
  intro s
  rw [hasSpan_filterPositions, hasSpan_filterPositions, h s, h'.hasPartner test s]

theorem SameSpans.filterPositions_inverted (h : SameSpans xs ys) {test : PositionTest}
    (hinverted : test.inverted = true) (producer : List Hit) :
    Hit.filterPositions test producer xs = Hit.filterPositions test producer ys := by
  refine List.filterMap_congr fun p _ => ?_
  have hpartner := h.hasPartner test p.span
  rw [← isSome_partner?, ← isSome_partner?] at hpartner
  rw [hinverted]
  cases hx : partner? test xs p <;> cases hy : partner? test ys p <;> simp_all

/-- Whether the targets of those relations that start in a span are together the span of a hit. -/
def aligns (relations : List Relation) (targets : List Hit) (s : Span) : Bool :=
  (Span.coverAll? ((relations.filter fun r => r.startsWithin s).map Relation.target)).any fun span =>
    targets.any fun t => t.span = span

theorem hasSpan_align {head : AlignmentHead} {relations : List Relation} :
    HasSpan (xs.filterMap (align head relations ys)) s ↔
      HasSpan xs s ∧ (aligns relations ys s || head.optional) = true := by
  refine hasSpan_filterMap (fun s => aligns relations ys s || head.optional) fun a => ?_
  rw [align, aligns]
  cases Span.coverAll? ((relations.filter fun r => r.startsWithin a.span).map Relation.target) with
  | none => cases head.optional <;> rfl
  | some span =>
      rw [Option.bind_some, Option.any_some, ← List.isSome_find?]
      cases ys.find? fun t => decide (t.span = span) with
      | none => cases head.optional <;> rfl
      | some t => rfl

theorem SameSpans.align (h : SameSpans xs ys) (h' : SameSpans xs' ys') (head : AlignmentHead)
    (relations : List Relation) :
    SameSpans (xs.filterMap (align head relations xs')) (ys.filterMap (align head relations ys')) := by
  have haligns : aligns relations xs' = aligns relations ys' := by
    funext s
    unfold aligns
    congr 1
    funext span
    exact h'.any fun t => decide (t = span)
  intro s
  rw [hasSpan_align, hasSpan_align, h s, haligns]

end Hit

end CorpusSearch
