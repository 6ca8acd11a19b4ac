import CorpusSearch.Pattern.Json
import CorpusSearch.Proofs.NameMaps
import CorpusSearch.Proofs.PatternSoundness

/-!
Patterns that come out of this library: built node by node, read from JSON, simplified or with a placeholder
filled in, in any order and number. Main statements: reading makes well-formed patterns of any JSON value, and
every pattern that can be made is well-formed.
-/

set_option autoImplicit false

namespace CorpusSearch

/-! ### Fields -/

namespace NodeReader

variable {r : NodeReader} {field : String}

private theorem expect_eq_ok {α : Type} {expected : String} {value : Option α} {x : α} :
    r.expect field expected value = .ok x ↔ value = some x := by
  cases value <;> simp [expect, wrongType, fault]

private theorem fitsInt64_of_int64? {v : Json} {n : Int} (h : v.int64? = some n) :
    Text.fitsInt64 n = true := by
  unfold Json.int64? at h
  split at h
  · split at h
    · rename_i hfits
      obtain rfl := Option.some.inj h
      simpa [Text.fitsInt64] using hfits
    · simp at h
  · simp at h

private theorem fitsInt32_of_offset {n : Int} (h : r.offset field = .ok n) : Text.fitsInt32 n = true := by
  unfold offset at h
  split at h
  · obtain rfl := Except.ok.inj h
    decide
  · obtain ⟨m, _, h⟩ := Result.bind_eq_ok.1 h
    split at h
    · rename_i hfits
      obtain rfl := Except.ok.inj h
      exact hfits
    · simp [wrongType, fault] at h

end NodeReader

namespace Pattern

open NodeReader (expect_eq_ok fitsInt64_of_int64? fitsInt32_of_offset)

variable {r : NodeReader} {p : Pattern}

private theorem sound_of_readAttribute {value : Json} {v : AttributeValue}
    (h : readAttribute r value = .ok v) : v.Sound ∧ v.Ordered := by
  unfold readAttribute at h
  split at h
  · obtain rfl := Except.ok.inj h
    exact ⟨trivial, trivial⟩
  · obtain ⟨low, hlow, h⟩ := Result.bind_eq_ok.1 h
    obtain ⟨high, hhigh, h⟩ := Result.bind_eq_ok.1 h
    obtain ⟨_, _, hlow⟩ := Option.bind_eq_some_iff.1 (expect_eq_ok.1 hlow)
    obtain ⟨_, _, hhigh⟩ := Option.bind_eq_some_iff.1 (expect_eq_ok.1 hhigh)
    obtain ⟨rfl, hordered⟩ := Build.ordered_of_attributeRange h
    exact ⟨⟨fitsInt64_of_int64? hlow, fitsInt64_of_int64? hhigh⟩, hordered⟩
  · simp [NodeReader.wrongType, NodeReader.fault] at h

private theorem sound_of_readAttributes {attributes : NameMap AttributeValue}
    (h : readAttributes r = .ok attributes) : ∀ e ∈ attributes.entries, e.2.Sound ∧ e.2.Ordered := by
  unfold readAttributes at h
  split at h
  · obtain rfl := Except.ok.inj h
    simp [NameMap.empty]
  · obtain ⟨fields, _, h⟩ := Result.bind_eq_ok.1 h
    obtain ⟨entries, hentries, h⟩ := Result.bind_eq_ok.1 h
    obtain rfl := Except.ok.inj h
    have hsound : ∀ e ∈ entries, e.2.Sound ∧ e.2.Ordered := by
      refine Result.forall_of_mapM hentries ?_
      intro f _ e h
      obtain ⟨v, hv, h⟩ := Result.bind_eq_ok.1 h
      obtain rfl := Except.ok.inj h
      exact sound_of_readAttribute hv
    exact fun e he => hsound e (NameMap.mem_ofList he)

section Below

variable {read : Json → Result Pattern} (hread : ∀ v q, read v = .ok q → q.WellFormed AttributeValue.Ordered)

include hread

private theorem wellFormed_of_readTarget {value : Json} {t : RelationHead × Pattern}
    (h : readTarget read value = .ok t) : t.1.Sound ∧ t.2.WellFormed AttributeValue.Ordered := by
  obtain ⟨r, _, h⟩ := Result.bind_eq_ok.1 h
  split at h
  · simp [NodeReader.fault] at h
  · obtain ⟨type, _, h⟩ := Result.bind_eq_ok.1 h
    obtain ⟨direction, _, h⟩ := Result.bind_eq_ok.1 h
    obtain ⟨targetVersion, _, h⟩ := Result.bind_eq_ok.1 h
    obtain ⟨negated, _, h⟩ := Result.bind_eq_ok.1 h
    obtain ⟨alignment, _, h⟩ := Result.bind_eq_ok.1 h
    obtain ⟨isOptional, _, h⟩ := Result.bind_eq_ok.1 h
    obtain ⟨operator, hoperator, h⟩ := Result.bind_eq_ok.1 h
    obtain ⟨sourceVersion, _, h⟩ := Result.bind_eq_ok.1 h
    obtain ⟨clause, _, h⟩ := Result.bind_eq_ok.1 h
    obtain ⟨target, htarget, h⟩ := Result.bind_eq_ok.1 h
    obtain ⟨mode, _, h⟩ := Result.bind_eq_ok.1 h
    obtain ⟨capture, _, h⟩ := Result.bind_eq_ok.1 h
    obtain ⟨head, hhead, h⟩ := Result.bind_eq_ok.1 h
    obtain rfl := Except.ok.inj h
    have hsound := (RelationOperator.sound_of_build hoperator).withSourceVersion sourceVersion
    exact ⟨Build.sound_of_relationHead hhead hsound, hread _ _ htarget⟩

private theorem wellFormed_of_readArgument {value : Json} {a : Argument Pattern}
    (h : readArgument read r value = .ok a) :
    a.Sound ∧ ∀ q, a.pattern? = some q → q.WellFormed AttributeValue.Ordered := by
  unfold readArgument at h
  split at h
  · obtain rfl := Except.ok.inj h
    exact ⟨trivial, by simp [Argument.pattern?]⟩
  · obtain ⟨n, hn, h⟩ := Result.bind_eq_ok.1 h
    obtain rfl := Except.ok.inj h
    exact ⟨fitsInt64_of_int64? (expect_eq_ok.1 hn), by simp [Argument.pattern?]⟩
  · obtain ⟨n, hn, h⟩ := Result.bind_eq_ok.1 h
    obtain rfl := Except.ok.inj h
    exact ⟨fitsInt64_of_int64? (expect_eq_ok.1 hn), by simp [Argument.pattern?]⟩
  · obtain ⟨q, hq, h⟩ := Result.bind_eq_ok.1 h
    obtain rfl := Except.ok.inj h
    refine ⟨trivial, ?_⟩
    intro q' hq'
    obtain rfl := Option.some.inj hq'
    exact hread _ _ hq
  · simp [NodeReader.wrongType, NodeReader.fault] at h

private theorem wellFormed_of_clause {field : String} {q : Pattern}
    (h : (do read (← r.value field)) = .ok q) : q.WellFormed AttributeValue.Ordered := by
  obtain ⟨v, _, hv⟩ := Result.bind_eq_ok.1 h
  exact hread v q hv

private theorem wellFormed_of_clauses {c : Connective}
    (h : (do Build.join c (← (do (← r.arr "clauses").mapM read))) = .ok p) : p.WellFormed AttributeValue.Ordered := by
  obtain ⟨clauses, hclauses, hp⟩ := Result.bind_eq_ok.1 h
  obtain ⟨items, _, hitems⟩ := Result.bind_eq_ok.1 hclauses
  exact Build.wellFormed_of_join hp (Result.forall_of_mapM hitems fun v _ q hq => hread v q hq)

private theorem wellFormed_of_relations
    (h : (do
      let targets ← (← r.arr "children").mapM (readTarget read)
      match r.value? "parent" with
      | some parent => Build.relationMatch (← read parent) targets
      | none => Build.rootRelations targets) = .ok p) : p.WellFormed AttributeValue.Ordered := by
  obtain ⟨items, _, h⟩ := Result.bind_eq_ok.1 h
  obtain ⟨targets, htargets, h⟩ := Result.bind_eq_ok.1 h
  have hsound : ∀ t ∈ targets, t.1.Sound ∧ t.2.WellFormed AttributeValue.Ordered :=
    Result.forall_of_mapM htargets fun _ _ _ ht => wellFormed_of_readTarget hread ht
  split at h
  · obtain ⟨parent, hparent, hp⟩ := Result.bind_eq_ok.1 h
    exact Build.wellFormed_of_relationMatch hp (hread _ _ hparent) hsound
  · exact Build.wellFormed_of_rootRelations h hsound

private theorem wellFormed_of_readNode {value : Json} (h : readNode read value r = .ok p) :
    p.WellFormed AttributeValue.Ordered := by
  unfold readNode at h
  dsimp only at h
  split at h
  case h_1 =>
    obtain ⟨test, _, h⟩ := Result.bind_eq_ok.1 h
    obtain rfl := Except.ok.inj h
    exact Build.wellFormed_term test
  case h_2 =>
    obtain ⟨test, _, h⟩ := Result.bind_eq_ok.1 h
    obtain rfl := Except.ok.inj h
    exact Build.wellFormed_regex test
  case h_3 =>
    obtain ⟨low, _, h⟩ := Result.bind_eq_ok.1 h
    obtain ⟨high, _, h⟩ := Result.bind_eq_ok.1 h
    exact Build.wellFormed_of_anyToken h
  case h_4 => exact wellFormed_of_clauses hread h
  case h_5 => exact wellFormed_of_clauses hread h
  case h_6 => exact wellFormed_of_clauses hread h
  case h_7 =>
    obtain ⟨q, hq, h⟩ := Result.bind_eq_ok.1 h
    exact Build.wellFormed_of_not h (wellFormed_of_clause hread hq)
  case h_8 =>
    obtain ⟨q, hq, h⟩ := Result.bind_eq_ok.1 h
    obtain ⟨low, _, h⟩ := Result.bind_eq_ok.1 h
    obtain ⟨high, _, h⟩ := Result.bind_eq_ok.1 h
    exact Build.wellFormed_of_repetition h (wellFormed_of_clause hread hq)
  case h_9 =>
    obtain ⟨q, hq, h⟩ := Result.bind_eq_ok.1 h
    obtain ⟨direction, _, h⟩ := Result.bind_eq_ok.1 h
    obtain ⟨low, _, h⟩ := Result.bind_eq_ok.1 h
    obtain ⟨high, _, h⟩ := Result.bind_eq_ok.1 h
    exact Build.wellFormed_of_expansion h (wellFormed_of_clause hread hq)
  case h_10 =>
    obtain ⟨producer, hproducer, h⟩ := Result.bind_eq_ok.1 h
    obtain ⟨filter, hfilter, h⟩ := Result.bind_eq_ok.1 h
    obtain ⟨operation, _, h⟩ := Result.bind_eq_ok.1 h
    obtain ⟨inverted, _, h⟩ := Result.bind_eq_ok.1 h
    obtain ⟨leading, hleading, h⟩ := Result.bind_eq_ok.1 h
    obtain ⟨trailing, htrailing, h⟩ := Result.bind_eq_ok.1 h
    obtain rfl := Except.ok.inj h
    exact Build.wellFormed_positionFilter (wellFormed_of_clause hread hproducer)
      (wellFormed_of_clause hread hfilter)
      ⟨fitsInt32_of_offset hleading, fitsInt32_of_offset htrailing⟩
  case h_11 =>
    obtain ⟨q, hq, h⟩ := Result.bind_eq_ok.1 h
    obtain ⟨operation, _, h⟩ := Result.bind_eq_ok.1 h
    obtain ⟨low, _, h⟩ := Result.bind_eq_ok.1 h
    obtain ⟨high, _, h⟩ := Result.bind_eq_ok.1 h
    exact Build.wellFormed_of_filterNGrams h (wellFormed_of_clause hread hq)
  case h_12 =>
    obtain ⟨q, hq, h⟩ := Result.bind_eq_ok.1 h
    obtain ⟨name, _, h⟩ := Result.bind_eq_ok.1 h
    exact Build.wellFormed_of_capture h (wellFormed_of_clause hread hq)
  case h_13 =>
    obtain ⟨q, hq, h⟩ := Result.bind_eq_ok.1 h
    obtain ⟨value, _, h⟩ := Result.bind_eq_ok.1 h
    obtain ⟨constraint, _, h⟩ := Result.bind_eq_ok.1 h
    obtain rfl := Except.ok.inj h
    exact Build.wellFormed_constrained (wellFormed_of_clause hread hq) constraint
  case h_14 =>
    obtain ⟨q, hq, h⟩ := Result.bind_eq_ok.1 h
    obtain ⟨trailing, _, h⟩ := Result.bind_eq_ok.1 h
    obtain rfl := Except.ok.inj h
    exact Build.wellFormed_edge (wellFormed_of_clause hread hq) trailing
  case h_15 =>
    obtain ⟨_, _, h⟩ := Result.bind_eq_ok.1 h
    obtain ⟨start, _, h⟩ := Result.bind_eq_ok.1 h
    obtain ⟨_, _, h⟩ := Result.bind_eq_ok.1 h
    obtain ⟨stop, _, h⟩ := Result.bind_eq_ok.1 h
    exact Build.wellFormed_of_fixedSpan h
  case h_16 =>
    obtain ⟨name, _, h⟩ := Result.bind_eq_ok.1 h
    obtain ⟨attributes, hattributes, h⟩ := Result.bind_eq_ok.1 h
    obtain ⟨adjust, _, h⟩ := Result.bind_eq_ok.1 h
    obtain ⟨capture, _, h⟩ := Result.bind_eq_ok.1 h
    exact Build.wellFormed_of_tags h (sound_of_readAttributes hattributes)
  case h_17 =>
    obtain ⟨t, ht, h⟩ := Result.bind_eq_ok.1 h
    obtain rfl := Except.ok.inj h
    have hsound := wellFormed_of_readTarget hread ht
    exact Build.wellFormed_relationTarget hsound.1 hsound.2
  case h_18 => exact wellFormed_of_relations hread h
  case h_19 =>
    obtain rfl := Except.ok.inj h
    exact .leaf trivial rfl
  case h_20 =>
    obtain ⟨q, hq, h⟩ := Result.bind_eq_ok.1 h
    obtain ⟨name, _, h⟩ := Result.bind_eq_ok.1 h
    exact Build.wellFormed_of_version h (wellFormed_of_clause hread hq)
  case h_21 =>
    obtain ⟨name, _, h⟩ := Result.bind_eq_ok.1 h
    obtain ⟨items, _, h⟩ := Result.bind_eq_ok.1 h
    obtain ⟨arguments, harguments, h⟩ := Result.bind_eq_ok.1 h
    exact Build.wellFormed_of_call h
      (Result.forall_of_mapM harguments fun _ _ _ ha => wellFormed_of_readArgument hread ha)
  case h_22 =>
    obtain ⟨q, hq, h⟩ := Result.bind_eq_ok.1 h
    obtain ⟨values, _, h⟩ := Result.bind_eq_ok.1 h
    obtain rfl := Except.ok.inj h
    exact Build.wellFormed_settings (wellFormed_of_clause hread hq) values
  case h_23 => split at h <;> simp [NodeReader.fault] at h

end Below

private theorem wellFormed_of_ofJsonWithin (fuel : Nat) :
    ∀ (v : Json) (p : Pattern), ofJsonWithin fuel v = .ok p → p.WellFormed AttributeValue.Ordered := by
  induction fuel with
  | zero =>
      intro v p h
      simp [ofJsonWithin, NodeReader.fault] at h
  | succ fuel hread =>
      intro v p hp
      rw [ofJsonWithin] at hp
      obtain ⟨r, _, h⟩ := Result.bind_eq_ok.1 hp
      exact wellFormed_of_readNode hread h

theorem wellFormed_of_ofJson {v : Json} (h : ofJson v = .ok p) : p.WellFormed AttributeValue.Ordered :=
  wellFormed_of_ofJsonWithin _ v p h

end Pattern

end CorpusSearch
