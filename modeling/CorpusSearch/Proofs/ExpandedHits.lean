import CorpusSearch.Pattern.QueryText
import CorpusSearch.Proofs.HitPositions
import CorpusSearch.Proofs.SimplifiedSearch

/-!
Expanded hits. To expand a hit is to move one of its ends, as far as the field goes; the same comes about by a join
with the tokens that stand next to it. Main statement: an expansion has just the hits of a sequence of its clause and
as many tokens, in the same order and with all that they hold, if the clause has no hits beyond the end of the field;
and it is written as such a sequence.
-/

set_option autoImplicit false

namespace CorpusSearch

namespace Hit

variable {size : Nat} {low high : UInt32} {xs : List Hit} {a h : Hit}

private theorem merge_gap (a : Hit) (gap s : Span) : a.merge (ofSpan gap) s = a.withSpan s := by
  rw [merge, ofSpan, withSpan, NameMap.union_empty, List.append_nil]

private theorem gap_merge (gap : Span) (a : Hit) (s : Span) : (ofSpan gap).merge a s = a.withSpan s := by
  rw [merge, ofSpan, withSpan, NameMap.empty_union, List.nil_append]

private theorem mem_expand_right : h ∈ expand size .right low high a ↔
    ∃ n, low.toNat ≤ n ∧ n ≤ high.toNat ∧ n ≤ size - a.span.stop.toNat ∧
      a.withSpan ⟨a.span.start, UInt32.ofNat (a.span.stop.toNat + n)⟩ = h := by
  simp only [expand, List.mem_map, mem_between, Nat.le_min]
  exact exists_congr fun n => by rw [and_assoc, and_assoc]

private theorem mem_expand_left : h ∈ expand size .left low high a ↔
    ∃ n, low.toNat ≤ n ∧ n ≤ high.toNat ∧ n ≤ a.span.start.toNat ∧
      a.withSpan ⟨UInt32.ofNat (a.span.start.toNat - n), a.span.stop⟩ = h := by
  simp only [expand, List.mem_map, mem_between, Nat.le_min]
  exact exists_congr fun n => by rw [and_assoc, and_assoc]

private theorem mem_expand_right_iff_gap (hsize : size < 4294967296) (ha : a.span.FitsIn size) :
    h ∈ expand size .right low high a ↔ ∃ gap ∈ nGrams size low high,
      gap.span.start = a.span.stop ∧ a.merge gap ⟨a.span.start, gap.span.stop⟩ = h := by
  have hstop := ha.stop_le
  rw [mem_expand_right]
  constructor
  · rintro ⟨n, hlow, hhigh, hn, rfl⟩
    refine ⟨_, mem_nGrams.2 ⟨n, hlow, hhigh, a.span.stop.toNat, by omega, rfl⟩, ?_, ?_⟩
    · exact UInt32.ofNat_toNat
    · exact merge_gap a _ _
  · rintro ⟨gap, hgap, hadjacent, rfl⟩
    obtain ⟨n, hlow, hhigh, start, hstart, rfl⟩ := mem_nGrams.1 hgap
    have hbehind : start = a.span.stop.toNat := by
      have hfrom := congrArg UInt32.toNat hadjacent
      rwa [ofSpan, Span.toNat_ofNat_of_lt (by omega)] at hfrom
    subst hbehind
    refine ⟨n, hlow, hhigh, by omega, ?_⟩
    exact (merge_gap a _ _).symm

private theorem mem_expand_left_iff_gap (hsize : size < 4294967296) (ha : a.span.FitsIn size) :
    h ∈ expand size .left low high a ↔ ∃ gap ∈ nGrams size low high,
      a.span.start = gap.span.stop ∧ gap.merge a ⟨gap.span.start, a.span.stop⟩ = h := by
  have hle := ha.le
  have hstop := ha.stop_le
  rw [mem_expand_left]
  constructor
  · rintro ⟨n, hlow, hhigh, hn, rfl⟩
    have hto : a.span.start.toNat - n + n = a.span.start.toNat := by omega
    refine ⟨_, mem_nGrams.2 ⟨n, hlow, hhigh, a.span.start.toNat - n, by omega, rfl⟩, ?_, ?_⟩
    · show a.span.start = UInt32.ofNat (a.span.start.toNat - n + n)
      rw [hto, UInt32.ofNat_toNat]
    · exact gap_merge _ a _
  · rintro ⟨gap, hgap, hadjacent, rfl⟩
    obtain ⟨n, hlow, hhigh, start, hstart, rfl⟩ := mem_nGrams.1 hgap
    have hbefore : a.span.start.toNat = start + n := by
      have hto := congrArg UInt32.toNat hadjacent
      rwa [ofSpan, Span.toNat_ofNat_of_lt (by omega)] at hto
    refine ⟨n, hlow, hhigh, by omega, ?_⟩
    have hfrom : a.span.start.toNat - n = start := by omega
    rw [hfrom]
    exact (gap_merge _ a _).symm

/-! ### Lists of hits -/

private theorem mem_flatMap_expand_right (hsize : size < 4294967296) (hxs : ∀ a ∈ xs, a.span.FitsIn size) :
    h ∈ xs.flatMap (expand size .right low high) ↔ h ∈ concat xs (sorted (nGrams size low high)) := by
  simp only [List.mem_flatMap, mem_concat, mem_sorted]
  refine exists_congr fun a => and_congr_right fun ha => ?_
  exact mem_expand_right_iff_gap hsize (hxs a ha)

private theorem mem_flatMap_expand_left (hsize : size < 4294967296) (hxs : ∀ a ∈ xs, a.span.FitsIn size) :
    h ∈ xs.flatMap (expand size .left low high) ↔ h ∈ concat (sorted (nGrams size low high)) xs := by
  simp only [List.mem_flatMap, mem_concat, mem_sorted]
  constructor
  · rintro ⟨a, ha, hmem⟩
    obtain ⟨gap, hgap, hadjacent, hmerge⟩ := (mem_expand_left_iff_gap hsize (hxs a ha)).1 hmem
    exact ⟨gap, hgap, a, ha, hadjacent, hmerge⟩
  · rintro ⟨gap, hgap, a, ha, hadjacent, hmerge⟩
    exact ⟨a, ha, (mem_expand_left_iff_gap hsize (hxs a ha)).2 ⟨gap, hgap, hadjacent, hmerge⟩⟩

end Hit

/-! ### Texts -/

namespace QueryText

variable (low high : UInt32)

private theorem inSlot_gap : (anyToken low high).inSlot Level.sequence.above = (anyToken low high).text := by
  have hatom : Level.sequence.above ≤ Level.atom.rank := by decide
  have hpostfixed : Level.sequence.above ≤ Level.postfixed.rank := by decide
  refine if_neg (Nat.not_lt.2 ?_)
  rw [anyToken, piece]
  split
  · exact hatom
  · exact hpostfixed

private theorem ofPattern_sequence_pair (x y : Pattern) : ofPattern (.join .sequence [x, y]) = (do
    let first ← ofPattern x
    let second ← ofPattern y
    return piece .sequence s!"{first.inSlot Level.sequence.above} {second.inSlot Level.sequence.above}") := by
  have hjoin : ofPattern (.join .sequence [x, y]) = (do
      let texts ← ofPatterns Level.sequence.above [x, y]
      return piece .sequence (" ".intercalate texts)) := rfl
  rw [hjoin, ofPatterns, ofPatterns, ofPatterns]
  cases ofPattern x with
  | error e => rfl
  | ok first => cases ofPattern y <;> rfl

private theorem toQueryText_expanded_right (q : Pattern) : (Pattern.modify (.expanded .right low high) q).toQueryText =
    (Pattern.join .sequence [q, .anyToken low high]).toQueryText := by
  have hgap : ofPattern (.anyToken low high) = .ok (anyToken low high) := rfl
  have hwritten : ofPattern (.modify (.expanded .right low high) q) =
      modified (.expanded .right low high) (ofPattern q) := rfl
  rw [Pattern.toQueryText, Pattern.toQueryText, hwritten, ofPattern_sequence_pair, hgap]
  simp only [modified, Result.ok_bind, inSlot_gap]

private theorem toQueryText_expanded_left (q : Pattern) : (Pattern.modify (.expanded .left low high) q).toQueryText =
    (Pattern.join .sequence [.anyToken low high, q]).toQueryText := by
  have hgap : ofPattern (.anyToken low high) = .ok (anyToken low high) := rfl
  have hwritten : ofPattern (.modify (.expanded .left low high) q) =
      modified (.expanded .left low high) (ofPattern q) := rfl
  rw [Pattern.toQueryText, Pattern.toQueryText, hwritten, ofPattern_sequence_pair, hgap]
  simp only [modified, Result.ok_bind, inSlot_gap]

end QueryText

/-! ### Plans -/

namespace SearchScope

open Hit

variable {scope : SearchScope} {field : String} {clause : Plan} {low high : UInt32} {xs : List Hit}

private theorem hits_expanded (direction : ExpansionDirection) (h : scope.hits clause = .ok xs) :
    scope.hits (.modify (.expanded field direction low high) clause) =
      .ok (sorted (xs.flatMap (expand (scope.document.size field) direction low high))) := by
  rw [hits, h]
  rfl

private theorem hits_followed_by_gap (h : scope.hits clause = .ok xs) :
    scope.hits (.join .sequence [clause, .anyToken field low high]) =
      .ok (sorted (concat xs (sorted (nGrams (scope.document.size field) low high)))) := by
  simp only [hits, hitLists, h]
  rfl

private theorem hits_gap_before (h : scope.hits clause = .ok xs) :
    scope.hits (.join .sequence [.anyToken field low high, clause]) =
      .ok (sorted (concat (sorted (nGrams (scope.document.size field) low high)) xs)) := by
  simp only [hits, hitLists, h]
  rfl

private theorem hits_expanded_eq (scope : SearchScope) (field : String) (clause : Plan) (low high : UInt32)
    (hclause : ∀ xs, scope.hits clause = .ok xs → ∀ a ∈ xs, a.span.FitsIn (scope.document.size field)) :
    scope.hits (.modify (.expanded field .right low high) clause) =
        scope.hits (.join .sequence [clause, .anyToken field low high]) ∧
      scope.hits (.modify (.expanded field .left low high) clause) =
        scope.hits (.join .sequence [.anyToken field low high, clause]) := by
  have hsize := scope.document.size_lt field
  cases hhits : scope.hits clause with
  | error e =>
      constructor
      · rw [hits, hits, hitLists, hhits]
        rfl
      · rw [hits, hits, hitLists, hits, hitLists, hhits]
        rfl
  | ok xs =>
      have hxs := hclause xs hhits
      constructor
      · rw [hits_expanded .right hhits, hits_followed_by_gap hhits]
        exact congrArg Except.ok (sorted_congr fun h => mem_flatMap_expand_right hsize hxs)
      · rw [hits_expanded .left hhits, hits_gap_before hhits]
        exact congrArg Except.ok (sorted_congr fun h => mem_flatMap_expand_left hsize hxs)

/-- Tokens next to the hits of a clause may be asked for by an expansion or by a sequence, and are asked for by a
sequence in texts. -/
theorem expanded_eq_sequence_with_gap (scope : SearchScope) (field : String) (clause : Plan) (low high : UInt32)
    (hclause : ∀ xs, scope.hits clause = .ok xs → ∀ a ∈ xs, a.span.FitsIn (scope.document.size field)) :
    (scope.hits (.modify (.expanded field .right low high) clause) =
        scope.hits (.join .sequence [clause, .anyToken field low high]) ∧
      scope.hits (.modify (.expanded field .left low high) clause) =
        scope.hits (.join .sequence [.anyToken field low high, clause])) ∧
    ∀ q : Pattern,
      (Pattern.modify (.expanded .right low high) q).toQueryText =
        (Pattern.join .sequence [q, .anyToken low high]).toQueryText ∧
      (Pattern.modify (.expanded .left low high) q).toQueryText =
        (Pattern.join .sequence [.anyToken low high, q]).toQueryText :=
  ⟨hits_expanded_eq scope field clause low high hclause, fun q =>
    ⟨QueryText.toQueryText_expanded_right low high q, QueryText.toQueryText_expanded_left low high q⟩⟩

/-- Any number of words behind and before a word among three. -/
theorem expanded_eq_sequence_with_gap_quickFox :
    let scope : SearchScope := ⟨Planner.quickFox, NameMap.empty⟩
    let word : Plan := .term "contents%word@s" "quick"
    let any := Bound.unlimited
    (∀ xs, scope.hits word = .ok xs → ∀ a ∈ xs, a.span.FitsIn (scope.document.size "contents")) ∧
      scope.hits (.modify (.expanded "contents" .right 0 any) word) =
        scope.hits (.join .sequence [word, .anyToken "contents" 0 any]) ∧
      scope.hits (.modify (.expanded "contents" .left 1 any) word) =
        scope.hits (.join .sequence [.anyToken "contents" 1 any, word]) := by
  intro scope word any
  have hfits : ∀ xs, scope.hits word = .ok xs → ∀ a ∈ xs, a.span.FitsIn (scope.document.size "contents") := by
    intro xs hxs a ha
    have hword : scope.hits word = .ok [ofSpan ⟨1, 2⟩] := by decide +kernel
    obtain rfl := Except.ok.inj (hword.symm.trans hxs)
    rw [List.mem_singleton.1 ha]
    exact ⟨by decide, by decide⟩
  exact ⟨hfits, (expanded_eq_sequence_with_gap scope "contents" word 0 any hfits).1.1,
    (expanded_eq_sequence_with_gap scope "contents" word 1 any hfits).1.2⟩

end SearchScope

end CorpusSearch
