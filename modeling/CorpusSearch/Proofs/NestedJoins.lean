import CorpusSearch.Proofs.PatternRoundTrip
import CorpusSearch.Proofs.RelationMatches

/-!
Joins within joins. Joining lists of hits is associative as far as hits are concerned, and hits are put in order after
each step, so that a join may take its clauses in groups. Main statements: nested calls build one join of all their
clauses; a join that stands within a join of the same kind can be replaced by its clauses, without a change of hits,
captures, relations or errors.
-/

set_option autoImplicit false

namespace CorpusSearch

/-! ### Nested calls -/

namespace Build

/-- Calls that join patterns in one way, nested in any way. -/
inductive Calls where
  | leaf (p : Pattern)
  | joined (parts : List Calls)

namespace Calls

mutual

def build (connective : Connective) : Calls → Result Pattern
  | leaf p => .ok p
  | joined parts => do join connective (← buildAll connective parts)

def buildAll (connective : Connective) : List Calls → Result (List Pattern)
  | [] => .ok []
  | call :: calls => do
    let first ← call.build connective
    return first :: (← buildAll connective calls)

end

mutual

def leaves : Calls → List Pattern
  | leaf p => [p]
  | joined parts => leavesOf parts

def leavesOf : List Calls → List Pattern
  | [] => []
  | call :: calls => call.leaves ++ leavesOf calls

end

mutual

def isComplete : Calls → Bool
  | leaf _ => true
  | joined parts => !parts.isEmpty && allComplete parts

def allComplete : List Calls → Bool
  | [] => true
  | call :: calls => call.isComplete && allComplete calls

end

def flat (connective : Connective) : Calls → Pattern
  | leaf p => p
  | joined parts => .join connective (leavesOf parts)

private theorem clausesFor_flat {connective : Connective} (call : Calls)
    (h : ∀ p ∈ call.leaves, ∀ nested, p ≠ .join connective nested) :
    clausesFor connective (call.flat connective) = call.leaves := by
  cases call with
  | leaf p =>
      rw [flat, leaves, clausesFor_of_ne (h p (by simp [leaves]))]
  | joined parts => simp [flat, leaves, clausesFor]

private theorem flatMap_clausesFor_flat {connective : Connective} {calls : List Calls}
    (h : ∀ p ∈ leavesOf calls, ∀ nested, p ≠ .join connective nested) :
    (calls.map (flat connective)).flatMap (clausesFor connective) = leavesOf calls := by
  induction calls with
  | nil => rfl
  | cons call calls ih =>
      rw [leavesOf, List.forall_mem_append] at h
      rw [List.map_cons, List.flatMap_cons, clausesFor_flat call h.1, ih h.2, leavesOf]

-- One induction over calls and lists of calls; the first call without clauses stops the others.
mutual

private theorem build_eq (connective : Connective) : (call : Calls) →
    (∀ p ∈ call.leaves, ∀ nested, p ≠ .join connective nested) →
      call.build connective = if call.isComplete then .ok (call.flat connective)
        else .error (.construction (.noClause connective.kind))
  | leaf p, _ => by rw [build, isComplete, if_pos rfl, flat]
  | joined parts, h => by
      have hparts := buildAll_eq connective parts h
      rw [build, hparts]
      by_cases hcomplete : allComplete parts = true
      · rw [if_pos hcomplete, Result.ok_bind, isComplete, hcomplete, Bool.and_true]
        cases parts with
        | nil => rfl
        | cons call calls =>
            have hflat : ((call :: calls).map (flat connective)).flatMap (clausesFor connective) =
                leavesOf (call :: calls) := flatMap_clausesFor_flat h
            rw [join, hflat]
            rfl
      · rw [if_neg hcomplete, Result.error_bind, isComplete, Bool.eq_false_iff.2 hcomplete, Bool.and_false,
          if_neg Bool.false_ne_true]

private theorem buildAll_eq (connective : Connective) : (calls : List Calls) →
    (∀ p ∈ leavesOf calls, ∀ nested, p ≠ .join connective nested) →
      buildAll connective calls = if allComplete calls then .ok (calls.map (flat connective))
        else .error (.construction (.noClause connective.kind))
  | [], _ => rfl
  | call :: calls, h => by
      rw [leavesOf, List.forall_mem_append] at h
      rw [buildAll, build_eq connective call h.1, buildAll_eq connective calls h.2, allComplete]
      cases call.isComplete with
      | false => rfl
      | true =>
          cases allComplete calls with
          | false => rfl
          | true => rfl

end

end Calls

end Build

/-! ### Lists with the same hits -/

namespace Hit

def SameHits (xs ys : List Hit) : Prop := ∀ a, a ∈ xs ↔ a ∈ ys

variable {xs ys zs xs' ys' : List Hit} {connective : PlanConnective}

namespace SameHits

theorem refl (xs : List Hit) : SameHits xs xs := fun _ => Iff.rfl

theorem trans (hxy : SameHits xs ys) (hyz : SameHits ys zs) : SameHits xs zs :=
  fun a => (hxy a).trans (hyz a)

theorem joinTwo (h : SameHits xs ys) (h' : SameHits xs' ys') :
    SameHits (joinTwo connective xs xs') (joinTwo connective ys ys') := by
  intro c
  cases connective with
  | and => simp only [Hit.joinTwo, mem_intersect, h _, h' _]
  | relationAnd => simp only [Hit.joinTwo, mem_intersect, h _, h' _]
  | or => simp only [Hit.joinTwo, List.mem_append, h _, h' _]
  | sequence => simp only [Hit.joinTwo, mem_concat, h _, h' _]

theorem foldl (h : SameHits xs ys) (xss : List (List Hit)) :
    SameHits (xss.foldl (Hit.joinTwo connective) xs) (xss.foldl (Hit.joinTwo connective) ys) := by
  induction xss generalizing xs ys with
  | nil => exact h
  | cons zs xss ih => exact ih (h.joinTwo (refl zs))

end SameHits

/-! ### Groups of clauses -/

private theorem merge_assoc (a b c : Hit) (s t u : Span) : (a.merge b s).merge c u = a.merge (b.merge c t) u := by
  rw [merge, merge, merge, merge, NameMap.union_assoc, List.append_assoc]

private theorem sharesRelation_merge_right {a b c : Hit} {s : Span} :
    a.sharesRelation (b.merge c s) = false ↔ a.sharesRelation b = false ∧ a.sharesRelation c = false := by
  rw [sharesRelation_comm, sharesRelation_merge, sharesRelation_comm, sharesRelation_comm (b := c)]

private theorem sameHits_intersect_assoc {distinct : Bool} :
    SameHits (intersect distinct (intersect distinct xs ys) zs) (intersect distinct xs (intersect distinct ys zs)) := by
  intro d
  rw [mem_intersect, mem_intersect]
  constructor
  · rintro ⟨ab, hab, c, hc, hspan, hapart, rfl⟩
    obtain ⟨a, ha, b, hb, hba, habs, rfl⟩ := mem_intersect.1 hab
    have hcb : c.span = b.span := hspan.trans hba.symm
    have hshares := fun h => sharesRelation_merge.1 (hapart h)
    refine ⟨a, ha, b.merge c b.span, mem_intersect.2 ⟨b, hb, c, hc, hcb, fun h => (hshares h).2, rfl⟩, hba, ?_, ?_⟩
    · exact fun h => sharesRelation_merge_right.2 ⟨habs h, (hshares h).1⟩
    · exact (merge_assoc a b c a.span b.span a.span).symm
  · rintro ⟨a, ha, bc, hbc, hspan, hapart, rfl⟩
    obtain ⟨b, hb, c, hc, hcb, hbcs, rfl⟩ := mem_intersect.1 hbc
    have hba : b.span = a.span := hspan
    have hshares := fun h => sharesRelation_merge_right.1 (hapart h)
    refine ⟨a.merge b a.span, mem_intersect.2 ⟨a, ha, b, hb, hba, fun h => (hshares h).1, rfl⟩, c, hc,
      hcb.trans hba, ?_, ?_⟩
    · exact fun h => sharesRelation_merge.2 ⟨(hshares h).2, hbcs h⟩
    · exact merge_assoc a b c a.span b.span a.span

private theorem sameHits_concat_assoc : SameHits (concat (concat xs ys) zs) (concat xs (concat ys zs)) := by
  intro d
  rw [mem_concat, mem_concat]
  constructor
  · rintro ⟨ab, hab, c, hc, hadjacent, rfl⟩
    obtain ⟨a, ha, b, hb, hba, rfl⟩ := mem_concat.1 hab
    refine ⟨a, ha, b.merge c ⟨b.span.start, c.span.stop⟩, mem_concat.2 ⟨b, hb, c, hc, hadjacent, rfl⟩, hba, ?_⟩
    exact (merge_assoc a b c _ _ _).symm
  · rintro ⟨a, ha, bc, hbc, hadjacent, rfl⟩
    obtain ⟨b, hb, c, hc, hcb, rfl⟩ := mem_concat.1 hbc
    refine ⟨a.merge b ⟨a.span.start, b.span.stop⟩, mem_concat.2 ⟨a, ha, b, hb, hadjacent, rfl⟩, c, hc, hcb, ?_⟩
    exact merge_assoc a b c _ _ _

private theorem sameHits_joinTwo_assoc : SameHits (joinTwo connective (joinTwo connective xs ys) zs)
    (joinTwo connective xs (joinTwo connective ys zs)) := by
  cases connective with
  | and => exact sameHits_intersect_assoc
  | relationAnd => exact sameHits_intersect_assoc
  | or =>
      intro a
      show a ∈ (xs ++ ys) ++ zs ↔ a ∈ xs ++ (ys ++ zs)
      rw [List.append_assoc]
  | sequence => exact sameHits_concat_assoc

private theorem sameHits_joinTwo_foldl (yss : List (List Hit)) :
    SameHits (joinTwo connective xs (yss.foldl (joinTwo connective) ys))
      (yss.foldl (joinTwo connective) (joinTwo connective xs ys)) := by
  induction yss generalizing ys with
  | nil => exact SameHits.refl _
  | cons zs yss ih =>
      rw [List.foldl_cons, List.foldl_cons]
      exact ih.trans (SameHits.foldl (fun a => (sameHits_joinTwo_assoc a).symm) yss)

private theorem joined_append {xss : List (List Hit)} (hne : xss ≠ []) (yss : List (List Hit)) :
    joined connective (xss ++ yss) = yss.foldl (joinTwo connective) (joined connective xss) := by
  obtain ⟨xs, xss, rfl⟩ := List.exists_cons_of_ne_nil hne
  rw [List.cons_append, joined_cons, joined_cons, List.foldl_append]

private theorem sameHits_joined_nested {xss yss zss : List (List Hit)} (hne : yss ≠ []) :
    SameHits (joined connective (xss ++ [sorted (joined connective yss)] ++ zss))
      (joined connective (xss ++ yss ++ zss)) := by
  rw [joined_append (List.append_ne_nil_of_right_ne_nil xss (List.cons_ne_nil _ _)),
    joined_append (List.append_ne_nil_of_right_ne_nil xss hne)]
  refine SameHits.foldl ?_ zss
  have hsorted : SameHits (sorted (joined connective yss)) (joined connective yss) := fun _ => mem_sorted
  by_cases hxss : xss = []
  · rw [hxss, List.nil_append, List.nil_append, joined_cons, List.foldl_nil]
    exact hsorted
  · obtain ⟨ys, yss, rfl⟩ := List.exists_cons_of_ne_nil hne
    rw [joined_append hxss, joined_append hxss, List.foldl_cons, List.foldl_nil, List.foldl_cons]
    rw [joined_cons] at hsorted
    refine ((SameHits.refl _).joinTwo ?_).trans (sameHits_joinTwo_foldl yss)
    rwa [joined_cons]

end Hit

/-! ### Plans -/

namespace SearchScope

variable {scope : SearchScope}

private theorem hitLists_append (xs ys : List Plan) :
    scope.hitLists (xs ++ ys) = (do
      let first ← scope.hitLists xs
      return first ++ (← scope.hitLists ys)) := by
  induction xs with
  | nil => cases h : scope.hitLists ys <;> simp [hitLists, h]
  | cons x xs ih =>
      rw [List.cons_append, hitLists, hitLists, ih]
      cases scope.hits x with
      | error e => rfl
      | ok first =>
          cases scope.hitLists xs with
          | error e => rfl
          | ok middle =>
              cases scope.hitLists ys with
              | error e => rfl
              | ok last => rfl

private theorem hits_join_nested {connective : PlanConnective} (xs zs : List Plan) {ys : List Plan} (hne : ys ≠ []) :
    scope.hits (.join connective (xs ++ [.join connective ys] ++ zs)) =
      scope.hits (.join connective (xs ++ ys ++ zs)) := by
  rw [hits, hits, hitLists_append, hitLists_append, hitLists_append, hitLists_append]
  cases scope.hitLists xs with
  | error e => rfl
  | ok xss =>
      cases hys : scope.hitLists ys with
      | error e => simp [hitLists, hits, hys]
      | ok yss =>
          have hlength := (hitLists_eq_ok.1 hys).length_eq
          have hyss : yss ≠ [] := by
            rintro rfl
            exact hne (List.length_eq_zero_iff.1 hlength)
          cases scope.hitLists zs with
          | error e => simp [hitLists, hits, hys]
          | ok zss =>
              have hsame : Hit.SameHits (Hit.joined connective (xss ++ [Hit.sorted (Hit.joined connective yss)] ++ zss))
                  (Hit.joined connective (xss ++ yss ++ zss)) := Hit.sameHits_joined_nested hyss
              simp only [hitLists, hits, hys, Result.ok_bind, Result.pure_eq_ok, Hit.sorted_congr hsame]

end SearchScope

namespace Planner

open Build (Calls)

/-- Joins lose nothing when they are flattened. Calls that are nested in any way build one join of all their leaves,
unless one of them has no clauses; a plan finds the same hits, or fails alike, with the clauses of a nested join in
place of it. -/
theorem flattening_keeps_clauses_and_hits (connective : Connective) :
    (∀ parts : List Calls, (∀ p ∈ Calls.leavesOf parts, ∀ nested, p ≠ .join connective nested) →
      (Calls.joined parts).build connective =
        if (Calls.joined parts).isComplete then .ok (.join connective (Calls.leavesOf parts))
        else .error (.construction (.noClause connective.kind))) ∧
    ∀ (scope : SearchScope) (xs ys zs : List Plan), ys ≠ [] →
      scope.hits (.join (planConnective connective) (xs ++ [.join (planConnective connective) ys] ++ zs)) =
        scope.hits (.join (planConnective connective) (xs ++ ys ++ zs)) :=
  ⟨fun parts hleaves => Build.Calls.build_eq connective (.joined parts) hleaves,
    fun _ xs _ zs hne => SearchScope.hits_join_nested xs zs hne⟩

/-- The quick fox, as a sequence whose last two words are a sequence of their own, captured under one name. -/
theorem flattening_keeps_clauses_and_hits_quickFox :
    let leaf (value : String) : Calls := .leaf (.term ⟨value, none, none⟩)
    let word (value : String) : Plan := .modify (.capture "word") (.term "contents%word@s" value)
    let nested : Plan := .join .sequence ([word "The"] ++ [.join .sequence [word "quick", word "Fox"]] ++ [])
    let scope : SearchScope := ⟨quickFox, NameMap.empty⟩
    (Calls.joined [leaf "The", .joined [leaf "quick", .joined [leaf "Fox"]]]).build .sequence =
      .ok (.join .sequence [.term ⟨"The", none, none⟩, .term ⟨"quick", none, none⟩, .term ⟨"Fox", none, none⟩]) ∧
    scope.hits nested = .ok [(Hit.ofSpan ⟨0, 3⟩).withCapture "word" (.span ⟨2, 3⟩)] := by
  intro leaf word nested scope
  obtain ⟨hcalls, hplans⟩ := flattening_keeps_clauses_and_hits .sequence
  refine ⟨?_, ?_⟩
  · rw [hcalls]
    · rfl
    · intro p hp
      simp only [leaf, Calls.leavesOf, Calls.leaves, List.append_nil, List.cons_append, List.nil_append,
        List.mem_cons, List.not_mem_nil, or_false] at hp
      rcases hp with rfl | rfl | rfl <;> exact fun _ h => nomatch h
  · have hflat : scope.hits nested = scope.hits (.join .sequence [word "The", word "quick", word "Fox"]) :=
      hplans scope [word "The"] [word "quick", word "Fox"] [] (List.cons_ne_nil _ _)
    rw [hflat]
    decide +kernel

end Planner

end CorpusSearch
