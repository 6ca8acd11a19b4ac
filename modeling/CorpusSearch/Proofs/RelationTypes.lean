import CorpusSearch.RelationOperator
import Mathlib.Tactic.Common

/-!
Relation types with their classes. A type without a class is completed alike wherever it stands; one that has a class
is left as it is in a call, and put together again from its parts in an operator. Main statement: the letters of the
type, from which the name of a capture is made up, are the same.
-/

set_option autoImplicit false

namespace CorpusSearch

namespace Text

private theorem splitLast?_append_left {separator rest before after : List Char}
    (h : splitLast? separator rest = some (before, after)) (front : List Char) :
    splitLast? separator (front ++ rest) = some (front ++ before, after) := by
  induction front with
  | nil => exact h
  | cons c front ih =>
      rw [List.cons_append, splitLast?, ih]
      rfl

theorem splitLast?_cons_of_none {separator text : List Char} (h : splitLast? separator text = none) (c : Char) :
    splitLast? separator (c :: text) = (dropStart? separator (c :: text)).map fun after => ([], after) := by
  rw [splitLast?, h]

theorem eq_append_of_dropStart? {start text rest : List Char} (h : dropStart? start text = some rest) :
    text = start ++ rest := by
  induction start generalizing text with
  | nil => exact Option.some.inj h
  | cons c start ih =>
      cases text with
      | nil => cases h
      | cons d text =>
          rw [dropStart?] at h
          split at h
          · rename_i hcd
            rw [hcd, ih h, List.cons_append]
          · cases h

theorem eq_append_of_splitFirst? {separator text before after : List Char}
    (h : splitFirst? separator text = some (before, after)) : text = before ++ separator ++ after := by
  induction text generalizing before with
  | nil =>
      rw [splitFirst?] at h
      split at h
      · rename_i hempty
        rw [List.isEmpty_iff.1 hempty]
        cases h
        rfl
      · cases h
  | cons c text ih =>
      rw [splitFirst?] at h
      split at h
      · rename_i hdrop
        cases h
        exact eq_append_of_dropStart? hdrop
      · obtain ⟨parts, hparts, h⟩ := Option.map_eq_some_iff.1 h
        cases h
        rw [ih hparts]
        rfl

end Text

namespace FieldName

open Text (splitLast? dropStart?)

def behindClass (type : List Char) : List Char :=
  ((splitLast? classSeparator.toList type).map Prod.snd).getD type

def typeLetters (type : List Char) : List Char := (behindClass type).filter Unicode.isAlphabetic

private theorem captureName_congr {type other : String} (h : typeLetters type.toList = typeLetters other.toList) :
    captureName type = captureName other := by
  have hname : ∀ type : String, captureName type =
      if (typeLetters type.toList).isEmpty then "rel" else String.ofList (typeLetters type.toList) := by
    intro type
    rw [captureName, typeLetters, behindClass]
    cases splitLast? classSeparator.toList type.toList
    all_goals
      split
      · rename_i hnil
        exact (if_pos (List.isEmpty_iff.2 hnil)).symm
      · rename_i hletters
        exact (if_neg fun h => hletters (List.isEmpty_iff.1 h)).symm
  rw [hname, hname, h]

private theorem dropStart?_classSeparator (text : List Char) :
    dropStart? classSeparator.toList (':' :: ':' :: text) = some text := rfl

private theorem dropStart?_classSeparator_of_ne {c : Char} (h : c ≠ ':') (text : List Char) :
    dropStart? classSeparator.toList (c :: text) = none := if_neg h.symm

private theorem isAlphabetic_parentheses : Unicode.isAlphabetic '(' = false ∧ Unicode.isAlphabetic ')' = false ∧
    Unicode.isAlphabetic ':' = false := by decide +kernel

private theorem typeLetters_append (front type : List Char) :
    typeLetters (front ++ ':' :: ':' :: type) = typeLetters type := by
  have hbehind : ∀ {rest before after : List Char}, splitLast? classSeparator.toList rest = some (before, after) →
      typeLetters (front ++ rest) = after.filter Unicode.isAlphabetic := by
    intro rest before after h
    rw [typeLetters, behindClass, Text.splitLast?_append_left h]
    rfl
  cases htype : splitLast? classSeparator.toList type with
  | some parts =>
      refine (hbehind (Text.splitLast?_append_left htype [':', ':'])).trans ?_
      rw [typeLetters, behindClass, htype]
      rfl
  | none =>
      have hown : typeLetters type = type.filter Unicode.isAlphabetic := by rw [typeLetters, behindClass, htype]; rfl
      have hcolon := Text.splitLast?_cons_of_none htype ':'
      by_cases hhead : type.head? = some ':'
      · obtain ⟨rest, rfl⟩ := List.head?_eq_some_iff.1 hhead
        rw [dropStart?_classSeparator] at hcolon
        refine (hbehind (Text.splitLast?_append_left hcolon [':'])).trans ?_
        rw [hown, List.filter_cons, isAlphabetic_parentheses.2.2]
        rfl
      · have hnone : dropStart? classSeparator.toList (':' :: type) = none := by
          cases type with
          | nil => rfl
          | cons c rest => exact if_neg fun hc : ':' = c => hhead (congrArg some hc.symm)
        rw [hnone] at hcolon
        rw [hown]
        exact hbehind (Text.splitLast?_cons_of_none hcolon ':')

private theorem splitLast?_classSeparator_append {c : Char} (h : c ≠ ':') (text : List Char) :
    splitLast? classSeparator.toList (text ++ [c]) =
      (splitLast? classSeparator.toList text).map fun parts => (parts.1, parts.2 ++ [c]) := by
  induction text with
  | nil => exact congrArg (Option.map _) (dropStart?_classSeparator_of_ne h [])
  | cons d text ih =>
      rw [List.cons_append, splitLast?, ih]
      cases hsplit : splitLast? classSeparator.toList text with
      | some parts =>
          rw [splitLast?, hsplit]
          rfl
      | none =>
          rw [Text.splitLast?_cons_of_none hsplit]
          by_cases hd : d = ':'
          · obtain rfl := hd
            cases text with
            | nil => exact congrArg (Option.map _) (if_neg h.symm)
            | cons e text =>
                by_cases he : e = ':'
                · obtain rfl := he
                  rfl
                · have hnone : ∀ rest, dropStart? classSeparator.toList (':' :: e :: rest) = none :=
                    fun rest => if_neg (Ne.symm he)
                  rw [List.cons_append, Option.map_none, hnone, hnone]
                  rfl
          · rw [Option.map_none, dropStart?_classSeparator_of_ne hd, dropStart?_classSeparator_of_ne hd]
            rfl

private theorem typeLetters_parentheses (type : List Char) : typeLetters ('(' :: type ++ [')']) = typeLetters type := by
  have hopen : splitLast? classSeparator.toList ('(' :: type) =
      (splitLast? classSeparator.toList type).map fun parts => ('(' :: parts.1, parts.2) := by
    rw [splitLast?]
    cases splitLast? classSeparator.toList type with
    | some parts => rfl
    | none => exact congrArg (Option.map _) (dropStart?_classSeparator_of_ne (by decide) type)
  rw [typeLetters, behindClass, splitLast?_classSeparator_append (by decide), hopen, typeLetters, behindClass]
  obtain ⟨hleft, hright, -⟩ := isAlphabetic_parentheses
  cases splitLast? classSeparator.toList type with
  | some parts => simp [hright]
  | none => simp [hleft, hright]

private theorem typeLetters_grouped (type : String) : typeLetters (grouped type).toList = typeLetters type.toList := by
  unfold grouped
  dsimp only
  split
  · rfl
  · rw [String.toList_ofList]
    exact typeLetters_parentheses _

theorem eq_of_splitClass {type cls proper : String} (h : splitClass type = (some cls, proper)) :
    type.toList = cls.toList ++ ':' :: ':' :: proper.toList := by
  unfold splitClass at h
  split at h
  · rename_i hsplit
    cases h
    rw [Text.eq_append_of_splitFirst? hsplit, String.toList_ofList, String.toList_ofList, List.append_assoc]
    rfl
  · cases h

private theorem withDefaultClass_of_none {type proper : String} (h : splitClass type = (none, proper)) (cls : String) :
    withDefaultClass type cls = fullType cls type := by
  rw [withDefaultClass, h]

theorem withDefaultClass_of_some {type cls proper : String} (h : splitClass type = (some cls, proper))
    (default : String) : withDefaultClass type default = type := by
  rw [withDefaultClass, h]

theorem toList_fullType (cls type : String) :
    (fullType cls type).toList = (grouped cls).toList ++ ':' :: ':' :: (grouped type).toList := by
  rw [fullType, String.toList_ofList, List.append_assoc]
  rfl

end FieldName

namespace RelationOperator

open FieldName (splitClass)

/-- The operator of a relation type in a direction, without versions and marks. -/
def plain (type : String) (direction : RelationDirection) : RelationOperator :=
  { ofType type with direction }

variable {type cls proper : String}

theorem fullType_plain (htype : type ≠ "") (direction : RelationDirection) (default : String) :
    (plain type direction).fullType default =
      FieldName.fullType ((splitClass type).1.getD default) (splitClass type).2 := by
  have hplain : (plain type direction).type = type := by
    show typeOrAny type = type
    rw [typeOrAny, if_neg (by simpa using htype)]
  rw [fullType, hplain]
  rfl

theorem fullType_plain_of_none (htype : type ≠ "") (h : splitClass type = (none, proper))
    (direction : RelationDirection) (default : String) :
    (plain type direction).fullType default = FieldName.withDefaultClass type default := by
  have hproper : proper = type := by
    unfold splitClass at h
    split at h
    · cases h
    · cases h
      rfl
  rw [fullType_plain htype, FieldName.withDefaultClass_of_none h, h, hproper]
  rfl

theorem captureName_fullType_plain (htype : type ≠ "") (direction : RelationDirection) (default : String) :
    FieldName.captureName (FieldName.withDefaultClass type default) =
      FieldName.captureName ((plain type direction).fullType default) := by
  obtain ⟨class?, proper, hsplit⟩ : ∃ class? proper, splitClass type = (class?, proper) := ⟨_, _, rfl⟩
  cases class? with
  | none => rw [fullType_plain_of_none htype hsplit]
  | some cls =>
    refine FieldName.captureName_congr ?_
    rw [FieldName.withDefaultClass_of_some hsplit, fullType_plain htype, hsplit, Option.getD_some,
      FieldName.eq_of_splitClass hsplit, FieldName.toList_fullType, FieldName.typeLetters_append,
      FieldName.typeLetters_append, FieldName.typeLetters_grouped]

end RelationOperator

end CorpusSearch
