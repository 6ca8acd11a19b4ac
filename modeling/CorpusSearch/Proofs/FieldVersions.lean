import CorpusSearch.Context
import CorpusSearch.Proofs.OperatorReading

/-!
Versions in the names of fields and relation classes. A name is cut at its last version separator, so that what is read
back of a version ends where the separator comes last. Main statement: a version is read back, replaced by another one
and taken off again just if no separator ends later in the name than the one that was put in front of it, which is so
unless the version starts with an underscore or has two of them in a row.
-/

set_option autoImplicit false

namespace CorpusSearch

namespace Text

variable {c : Char} {rest text before after : List Char}

private theorem dropStart?_eq_some_iff {start : List Char} :
    dropStart? start text = some rest ↔ text = start ++ rest := by
  constructor
  · exact eq_append_of_dropStart?
  · rintro rfl
    exact dropStart?_append start rest

private theorem splitLast?_eq_none_iff : splitLast? (c :: rest) text = none ↔ ¬c :: rest <:+: text := by
  induction text with
  | nil => simp [splitLast?]
  | cons d text ih =>
      have hstart : dropStart? (c :: rest) (d :: text) = none ↔ ¬c :: rest <+: d :: text := by
        rw [List.IsPrefix, not_exists, Option.eq_none_iff_forall_ne_some]
        refine forall_congr' fun behind => not_congr ?_
        rw [dropStart?_eq_some_iff, eq_comm]
      rw [List.infix_cons_iff, not_or, ← hstart, ← ih, splitLast?]
      cases splitLast? (c :: rest) text with
      | none => simp
      | some parts => simp

theorem splitLast?_eq_some_iff : splitLast? (c :: rest) text = some (before, after) ↔
    text = before ++ c :: rest ++ after ∧ ¬c :: rest <:+: rest ++ after := by
  induction text generalizing before with
  | nil => simp [splitLast?]
  | cons d text ih =>
      cases htail : splitLast? (c :: rest) text with
      | some parts =>
          have hinfix : c :: rest <:+: text := by
            by_contra hnone
            rw [splitLast?_eq_none_iff.2 hnone] at htail
            cases htail
          rw [splitLast?, htail]
          cases before with
          | nil =>
              refine iff_of_false (by simp) ?_
              rintro ⟨htext, hlast⟩
              obtain rfl : text = rest ++ after := (List.cons.inj htext).2
              exact hlast hinfix
          | cons e before =>
              have hparts : some parts = some (before, after) ↔
                  text = before ++ c :: rest ++ after ∧ ¬c :: rest <:+: rest ++ after := htail ▸ ih
              rw [Option.some.injEq, Prod.mk.injEq] at hparts
              rw [Option.some.injEq, Prod.mk.injEq, List.cons.injEq, List.cons_append, List.cons_append,
                List.cons.injEq, and_assoc, and_assoc, hparts]
      | none =>
          have hnone := splitLast?_eq_none_iff.1 htail
          rw [splitLast?_cons_of_none htail, Option.map_eq_some_iff]
          constructor
          · rintro ⟨behind, hdrop, heq⟩
            obtain ⟨rfl, rfl⟩ := Prod.mk.inj heq
            have htext := eq_append_of_dropStart? hdrop
            obtain rfl : text = rest ++ behind := (List.cons.inj htext).2
            exact ⟨htext, hnone⟩
          · rintro ⟨htext, -⟩
            cases before with
            | nil => exact ⟨after, dropStart?_eq_some_iff.2 htext, rfl⟩
            | cons e before => exact absurd ⟨before, after, (List.cons.inj htext).2.symm⟩ hnone

end Text

namespace FieldName

variable {name version other : String}

/-- Behind an underscore a version has no version separator, neither within it nor with its first character. -/
def Separable (version : String) : Prop := ¬versionSeparator.toList <:+: '_' :: version.toList

instance (version : String) : Decidable (Separable version) := inferInstanceAs (Decidable (¬_))

private theorem toList_versionSeparator : versionSeparator.toList = ['_', '_'] := by decide

private theorem splitLast?_versionSeparator_iff {text base : List Char} :
    Text.splitLast? versionSeparator.toList text = some (base, version.toList) ↔
      text = base ++ versionSeparator.toList ++ version.toList ∧ Separable version := by
  rw [Separable, toList_versionSeparator]
  exact Text.splitLast?_eq_some_iff

private theorem fst_splitVersion_ne_nil (h : name ≠ "") : (splitVersion name).1.toList ≠ [] := by
  rw [splitVersion]
  split
  · rw [String.toList_ofList]
    exact List.cons_ne_nil _ _
  · exact fun hempty => h (String.toList_inj.1 hempty)

private theorem withVersion_empty : withVersion name "" = (splitVersion name).1 := rfl

private theorem toList_withVersion (h : version ≠ "") : (withVersion name version).toList =
    (splitVersion name).1.toList ++ versionSeparator.toList ++ version.toList := by
  have hempty : version.isEmpty = false := by simpa using h
  simp [withVersion, hempty]

private theorem withVersion_eq_withVersion_iff {name' : String} (h : version ≠ "") :
    withVersion name version = withVersion name' version ↔ (splitVersion name).1 = (splitVersion name').1 := by
  rw [← String.toList_inj, toList_withVersion h, toList_withVersion h, List.append_cancel_right_eq,
    List.append_cancel_right_eq, String.toList_inj]

private theorem exists_splitVersion_withVersion (hname : name ≠ "") (hversion : version ≠ "") :
    ∃ base read, splitVersion (withVersion name version) = (base, some read) ∧ Separable read ∧
      base.toList ++ versionSeparator.toList ++ read.toList =
        (splitVersion name).1.toList ++ versionSeparator.toList ++ version.toList := by
  have htext : (withVersion name version).toList =
      (splitVersion name).1.toList ++ versionSeparator.toList ++ version.toList := toList_withVersion hversion
  cases hsplit : Text.splitLast? versionSeparator.toList (withVersion name version).toList with
  | none =>
      rw [toList_versionSeparator, Text.splitLast?_eq_none_iff, htext] at hsplit
      exact absurd ⟨_, _, rfl⟩ hsplit
  | some parts =>
      obtain ⟨before, after⟩ := parts
      have hparts := hsplit
      rw [← @String.toList_ofList after, splitLast?_versionSeparator_iff, htext] at hparts
      obtain ⟨hsame, hread⟩ := hparts
      cases before with
      | nil =>
          obtain ⟨first, base, hbase⟩ := List.exists_cons_of_ne_nil (fst_splitVersion_ne_nil hname)
          rw [hbase, toList_versionSeparator] at hsame
          have hbehind : base ++ ['_', '_'] ++ version.toList = '_' :: (String.ofList after).toList :=
            (List.cons.inj hsame).2
          rw [Separable, toList_versionSeparator, ← hbehind] at hread
          exact absurd ⟨_, _, rfl⟩ hread
      | cons first base =>
          refine ⟨String.ofList (first :: base), String.ofList after, ?_, hread, ?_⟩
          · rw [splitVersion, hsplit]
          · rw [String.toList_ofList, hsame]

private theorem splitVersion_withVersion (hname : name ≠ "") (hversion : version ≠ "") (h : Separable version) :
    splitVersion (withVersion name version) = ((splitVersion name).1, some version) := by
  obtain ⟨base, read, hsplit, hread, htext⟩ := exists_splitVersion_withVersion hname hversion
  have hcut := splitLast?_versionSeparator_iff.2 ⟨htext.symm, hread⟩
  rw [splitLast?_versionSeparator_iff.2 ⟨rfl, h⟩, Option.some.injEq, Prod.mk.injEq] at hcut
  rw [hsplit, String.toList_inj.1 hcut.1, String.toList_inj.1 hcut.2]

private theorem snd_splitVersion_withVersion_iff (hname : name ≠ "") (hversion : version ≠ "") :
    (splitVersion (withVersion name version)).2 = some version ↔ Separable version := by
  constructor
  · intro h
    obtain ⟨base, read, hsplit, hread, -⟩ := exists_splitVersion_withVersion hname hversion
    rw [hsplit] at h
    exact Option.some.inj h ▸ hread
  · intro h
    rw [splitVersion_withVersion hname hversion h]

private theorem fst_splitVersion_withVersion_iff (hname : name ≠ "") (hversion : version ≠ "") :
    (splitVersion (withVersion name version)).1 = (splitVersion name).1 ↔ Separable version := by
  constructor
  · intro h
    obtain ⟨base, read, hsplit, hread, htext⟩ := exists_splitVersion_withVersion hname hversion
    rw [hsplit] at h
    obtain rfl : base = (splitVersion name).1 := h
    rw [List.append_cancel_left_eq, String.toList_inj] at htext
    exact htext ▸ hread
  · intro h
    rw [splitVersion_withVersion hname hversion h]

/--
A version that is put into a name is read back, gives way to another one and is taken off again just if it is
separable. Then the field of a context and the relation class of an operator are those of the other version, whatever
version they had before.
-/
theorem version_is_replaced_iff (hname : name ≠ "") (hversion : version ≠ "") (hother : other ≠ "") :
    ((splitVersion (withVersion name version)).2 = some version ↔ Separable version) ∧
      (withVersion (withVersion name version) other = withVersion name other ↔ Separable version) ∧
      (withVersion (withVersion name version) "" = (splitVersion name).1 ↔ Separable version) ∧
      (Separable version →
        (∀ c : Context, c.baseField = withVersion name version → c.version = some other →
          c.fieldName = withVersion name other) ∧
        ∀ o : RelationOperator, o.targetVersion = some other →
          o.fullType (withVersion name version) = o.fullType name) := by
  have hbase := fst_splitVersion_withVersion_iff hname hversion
  have hreplaced : withVersion (withVersion name version) other = withVersion name other ↔ Separable version :=
    (withVersion_eq_withVersion_iff hother).trans hbase
  rw [withVersion_empty]
  refine ⟨snd_splitVersion_withVersion_iff hname hversion, hreplaced, hbase, fun h => ⟨?_, ?_⟩⟩
  · intro c hfield hmoved
    rw [Context.fieldName, hmoved, hfield, ← hreplaced.2 h]
  · intro o htarget
    rw [RelationOperator.fullType, RelationOperator.fullType, htarget]
    cases hclass : (splitClass o.type).1 with
    | none => simp only [hclass, Option.getD_none, hreplaced.2 h]
    | some relationClass => simp only [hclass, Option.getD_some]

/-- A version of letters gives way to another one. One with two underscores in a row, which operators can name too,
leaves its first part behind, and one that starts with an underscore leaves that. -/
theorem version_is_replaced_iff_contents :
    withVersion (withVersion "contents__nl" "de") "fr" = withVersion "contents__nl" "fr" ∧
      (∀ c ∈ "a__b".toList, RelationOperator.isVersionChar c = true) ∧
      (splitVersion (withVersion "contents" "a__b")).2 ≠ some "a__b" ∧
      withVersion (withVersion "contents" "a__b") "nl" ≠ withVersion "contents" "nl" ∧
      withVersion (withVersion "contents" "_b") "" ≠ (splitVersion "contents").1 := by
  have hcontents : "contents" ≠ "" := by decide
  have hparallel : "contents__nl" ≠ "" := by decide
  have hnl : "nl" ≠ "" := by decide
  have hde : "de" ≠ "" := by decide
  have hfr : "fr" ≠ "" := by decide
  have hab : "a__b" ≠ "" := by decide
  have hb : "_b" ≠ "" := by decide
  have hletters := version_is_replaced_iff hparallel hde hfr
  have htwo := version_is_replaced_iff hcontents hab hnl
  have hfirst := version_is_replaced_iff hcontents hb hnl
  have hnotTwo : ¬Separable "a__b" := by decide
  have hnotFirst : ¬Separable "_b" := by decide
  exact ⟨hletters.2.1.2 (by decide), by decide, mt htwo.1.1 hnotTwo, mt htwo.2.1.1 hnotTwo,
    mt hfirst.2.2.1.1 hnotFirst⟩

end FieldName

end CorpusSearch
