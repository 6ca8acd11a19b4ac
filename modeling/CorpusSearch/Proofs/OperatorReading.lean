import CorpusSearch.Proofs.ExpressionCharacters
import CorpusSearch.Proofs.IndexFields
import CorpusSearch.Proofs.PatternSoundness
import CorpusSearch.Proofs.RelationText
import CorpusSearch.Proofs.RelationTypes

/-!
Reading relation operators. An operator is cut at the places where its marks stand, and these places can be found as
byte positions too: none of them ever lies outside of its text or within a character. What is read has a text of its
own, with the dashes that show whether it is an alignment and without the type that stands for any. Main statement:
the reading by positions always has a result, which is that of the reading by characters, and an operator that was
read is read again from its text.
-/

set_option autoImplicit false

namespace CorpusSearch

namespace Text

/-! ### Ends and separators -/

private theorem unsnoc?_concat (init : List Char) (c : Char) : unsnoc? (init ++ [c]) = some (init, c) := by
  induction init with
  | nil => rfl
  | cons d init ih =>
      cases init with
      | nil => rfl
      | cons e init =>
          rw [List.cons_append] at ih
          rw [List.cons_append, List.cons_append, unsnoc?, ih]
          · rfl
          · simp

private theorem exists_last_of_mem {mark : Char} {text : List Char} (h : mark ∈ text) :
    ∃ before after, text = before ++ mark :: after ∧ mark ∉ after := by
  obtain ⟨after, before, hreverse, hafter⟩ := List.eq_append_cons_of_mem (List.mem_reverse.2 h)
  refine ⟨before.reverse, after.reverse, ?_, by simpa using hafter⟩
  have htext := congrArg List.reverse hreverse
  simpa using htext

theorem dropStart?_append (start rest : List Char) : dropStart? start (start ++ rest) = some rest := by
  induction start with
  | nil => rfl
  | cons c start ih => rw [List.cons_append, dropStart?, if_pos rfl, ih]

private theorem isSome_splitFirst?_iff {separator text : List Char} :
    (splitFirst? separator text).isSome = true ↔ separator <:+: text := by
  induction text with
  | nil => cases separator <;> simp [splitFirst?]
  | cons c text ih =>
      rw [List.infix_cons_iff, ← ih, splitFirst?]
      split
      · rename_i after hdrop
        exact iff_of_true rfl (.inl ⟨after, (eq_append_of_dropStart? hdrop).symm⟩)
      · rename_i hdrop
        have hstart : ¬separator <+: c :: text := by
          rintro ⟨rest, hrest⟩
          rw [← hrest, dropStart?_append] at hdrop
          cases hdrop
        simp [hstart]

private theorem infix_append_cons_iff {pattern text text' : List Char} {c : Char} (hc : c ∉ pattern) :
    pattern <:+: text ++ c :: text' ↔ pattern <:+: text ∨ pattern <:+: text' := by
  constructor
  · intro h
    rcases List.infix_append_iff.1 h with hleft | hright | ⟨start, rest, rfl, hstart, hrest⟩
    · exact .inl hleft
    · rcases List.infix_cons_iff.1 hright with hprefix | hright
      · cases pattern with
        | nil => exact .inl (List.nil_infix)
        | cons d pattern => exact absurd ((List.cons_prefix_cons.1 hprefix).1 ▸ List.mem_cons_self) hc
      · exact .inr hright
    · cases rest with
      | nil => exact .inl (by simpa using hstart.isInfix)
      | cons d rest =>
          exact absurd ((List.cons_prefix_cons.1 hrest).1 ▸ List.mem_append_right _ List.mem_cons_self) hc
  · rintro (hleft | hright)
    · exact hleft.trans (List.prefix_append _ _).isInfix
    · exact hright.trans ((List.suffix_cons _ _).trans (List.suffix_append _ _)).isInfix

/-! ### Byte positions -/

def byteLength : List Char → Nat
  | [] => 0
  | c :: text => c.utf8Size + byteLength text

/-- What stands before and behind a byte position. There is neither if the position lies behind the end of the text
or within a character. -/
def splitAtByte? : Nat → List Char → Option (List Char × List Char)
  | 0, text => some ([], text)
  | _ + 1, [] => none
  | n + 1, c :: text =>
    if c.utf8Size ≤ n + 1 then
      (splitAtByte? (n + 1 - c.utf8Size) text).map fun (before, after) => (c :: before, after)
    else none

def slice? (text : List Char) (start stop : Nat) : Option (List Char) := do
  let (before, _) ← splitAtByte? stop text
  let (_, part) ← splitAtByte? start before
  return part

def lastPosition? (mark : Char) : List Char → Option Nat
  | [] => none
  | c :: text =>
    match lastPosition? mark text with
    | some n => some (c.utf8Size + n)
    | none => if c = mark then some 0 else none

@[simp] theorem byteLength_nil : byteLength [] = 0 := rfl

@[simp] theorem byteLength_cons (c : Char) (text : List Char) :
    byteLength (c :: text) = c.utf8Size + byteLength text := rfl

@[simp] theorem byteLength_append (text text' : List Char) :
    byteLength (text ++ text') = byteLength text + byteLength text' := by
  induction text with
  | nil => simp
  | cons c text ih => simp [ih, Nat.add_assoc]

private theorem splitAtByte?_append (before after : List Char) :
    splitAtByte? (byteLength before) (before ++ after) = some (before, after) := by
  induction before with
  | nil => cases after <;> rfl
  | cons c before ih =>
      obtain ⟨n, hn⟩ := Nat.exists_eq_add_one_of_ne_zero (Nat.ne_of_gt c.utf8Size_pos)
      have hstop : byteLength (c :: before) = n + byteLength before + 1 := by
        rw [byteLength_cons, hn]
        omega
      have hrest : n + byteLength before + 1 - c.utf8Size = byteLength before := by omega
      rw [hstop, List.cons_append, splitAtByte?, if_pos (by omega), hrest, ih]
      rfl

private theorem slice?_append (before part after : List Char) :
    slice? (before ++ part ++ after) (byteLength before) (byteLength (before ++ part)) = some part := by
  simp only [slice?, splitAtByte?_append, bind, Option.bind, pure]

private theorem lastPosition?_of_notMem {mark : Char} {text : List Char} (h : mark ∉ text) :
    lastPosition? mark text = none := by
  induction text with
  | nil => rfl
  | cons c text ih =>
      rw [List.mem_cons, not_or] at h
      rw [lastPosition?, ih h.2, if_neg (Ne.symm h.1)]

private theorem lastPosition?_append {mark : Char} {after : List Char} (before : List Char) (h : mark ∉ after) :
    lastPosition? mark (before ++ mark :: after) = some (byteLength before) := by
  induction before with
  | nil => rw [List.nil_append, lastPosition?, lastPosition?_of_notMem h, if_pos rfl, byteLength_nil]
  | cons c before ih => rw [List.cons_append, lastPosition?, ih, byteLength_cons]

end Text

namespace RelationOperator

open QueryText (operatorMark operatorDash operatorType toList_toText isVersionChar_of_mem)

/-! ### Cutting arrows -/

inductive ArrowCut where
  /-- The text is no arrow. -/
  | refused
  /-- A position lies outside of its text or within a character. -/
  | misplaced
  | parts (type version : List Char)

def cutArrow (text : List Char) : ArrowCut :=
  if !text.head?.any isDash then .refused
  else match Text.lastPosition? '>' text with
  | none => .refused
  | some arrow =>
    match Text.slice? text (arrow + 1) (Text.byteLength text) with
    | none => .misplaced
    | some version =>
      if arrow < 2 || !version.all isVersionChar then .refused
      else match Text.slice? text 0 arrow with
      | none => .misplaced
      | some front =>
        if !front.getLast?.any isDash then .refused
        else match Text.slice? front 1 (Text.byteLength front - 1) with
        | none => .misplaced
        | some type => .parts type version

def ArrowCut.ofParts? : Option (List Char × List Char) → ArrowCut
  | none => .refused
  | some (type, version) => .parts type version

private theorem utf8Size_of_isDash {c : Char} (h : isDash c = true) : c.utf8Size = 1 := by
  simp only [isDash, Bool.or_eq_true, decide_eq_true_eq] at h
  rcases h with rfl | rfl <;> rfl

def betweenDashes? : List Char → Option (List Char)
  | [] => none
  | first :: body => do
    let (type, last) ← Text.unsnoc? body
    if isDash first && isDash last then return type else none

private theorem betweenDashes?_concat (first : Char) (type : List Char) (last : Char) :
    betweenDashes? (first :: (type ++ [last])) = if isDash first && isDash last then some type else none := by
  simp [betweenDashes?, Text.unsnoc?_concat]

private theorem betweenDashes?_eq_some_iff {text type : List Char} : betweenDashes? text = some type ↔
    ∃ first last, text = first :: (type ++ [last]) ∧ isDash first = true ∧ isDash last = true := by
  cases text with
  | nil => simp [betweenDashes?]
  | cons first body =>
      rcases List.eq_nil_or_concat' body with rfl | ⟨middle, last, rfl⟩
      · simp [betweenDashes?, Text.unsnoc?]
      · simp [betweenDashes?_concat, and_assoc, and_comm]

private theorem splitArrow?_append (front : List Char) {version : List Char} (h : '>' ∉ version) :
    splitArrow? (front ++ '>' :: version) =
      if version.all isVersionChar then (betweenDashes? front).map (·, version) else none := by
  simp only [splitArrow?, Text.splitLast?_append front h, bind, Option.bind, pure]
  cases version.all isVersionChar with
  | false => rfl
  | true =>
      cases front with
      | nil => rfl
      | cons first body =>
          simp only [betweenDashes?, bind, Option.bind, pure]
          cases Text.unsnoc? body with
          | none => rfl
          | some parts =>
              dsimp only
              cases isDash first && isDash parts.2 <;> rfl

private theorem splitArrow?_eq_some_iff {text type version : List Char} : splitArrow? text = some (type, version) ↔
    ∃ first last, text = first :: type ++ last :: '>' :: version ∧ isDash first = true ∧ isDash last = true ∧
      version.all isVersionChar = true := by
  constructor
  · intro h
    have hpoint : '>' ∈ text := by
      by_contra hpoint
      rw [splitArrow?, Text.splitLast?_none hpoint] at h
      cases h
    obtain ⟨front, version', rfl, hversion'⟩ := Text.exists_last_of_mem hpoint
    rw [splitArrow?_append front hversion'] at h
    split at h
    · rename_i hchars
      obtain ⟨type', hfront, heq⟩ := Option.map_eq_some_iff.1 h
      obtain ⟨rfl, rfl⟩ := Prod.mk.inj heq
      obtain ⟨first, last, rfl, hfirst, hlast⟩ := betweenDashes?_eq_some_iff.1 hfront
      exact ⟨first, last, by simp, hfirst, hlast, hchars⟩
    · cases h
  · rintro ⟨first, last, rfl, hfirst, hlast, hversion⟩
    have hpoint : '>' ∉ version := fun hmem => absurd (List.all_eq_true.1 hversion '>' hmem) (by decide)
    have htext : first :: type ++ last :: '>' :: version = first :: (type ++ [last]) ++ '>' :: version := by simp
    rw [htext, splitArrow?_append _ hpoint, if_pos hversion,
      betweenDashes?_eq_some_iff.2 ⟨first, last, rfl, hfirst, hlast⟩]
    rfl

private theorem cutArrow_eq (text : List Char) : cutArrow text = .ofParts? (splitArrow? text) := by
  by_cases hpoint : '>' ∈ text
  · obtain ⟨front, version, rfl, hversion⟩ := Text.exists_last_of_mem hpoint
    have hbehind : Text.slice? (front ++ '>' :: version) (Text.byteLength front + 1)
        (Text.byteLength (front ++ '>' :: version)) = some version := by
      have hpoint : '>'.utf8Size = 1 := rfl
      simpa [hpoint] using Text.slice?_append (front ++ ['>']) version []
    have hbefore : Text.slice? (front ++ '>' :: version) 0 (Text.byteLength front) = some front := by
      simpa using Text.slice?_append [] front ('>' :: version)
    rw [cutArrow, Text.lastPosition?_append front hversion, splitArrow?_append front hversion]
    simp only [hbehind, hbefore]
    cases front with
    | nil => simp [isDash, betweenDashes?, ArrowCut.ofParts?]
    | cons first body =>
        cases hfirst : isDash first with
        | false =>
            have hnone : betweenDashes? (first :: body) = none := by
              refine Option.eq_none_iff_forall_ne_some.2 fun type htype => ?_
              obtain ⟨first', last, heq, hfirst', -⟩ := betweenDashes?_eq_some_iff.1 htype
              rw [← (List.cons.inj heq).1, hfirst] at hfirst'
              cases hfirst'
            simp [hfirst, hnone, ArrowCut.ofParts?]
        | true =>
            have hone := utf8Size_of_isDash hfirst
            rcases List.eq_nil_or_concat' body with rfl | ⟨type, last, rfl⟩
            · simp [hone, betweenDashes?, Text.unsnoc?, ArrowCut.ofParts?]
            · have hlong : ¬Text.byteLength (first :: (type ++ [last])) < 2 := by
                have hpos := last.utf8Size_pos
                simp only [Text.byteLength_cons, Text.byteLength_append, Text.byteLength_nil, hone]
                omega
              have hhead : ((first :: (type ++ [last])) ++ '>' :: version).head?.any isDash = true := hfirst
              have hend : (first :: (type ++ [last])).getLast?.any isDash = isDash last := by
                rw [← List.cons_append, List.getLast?_concat, Option.any_some]
              have hinner : isDash last = true → Text.slice? (first :: (type ++ [last])) 1
                  (Text.byteLength (first :: (type ++ [last])) - 1) = some type := by
                intro hlast
                simpa [hone, utf8Size_of_isDash hlast, Nat.add_comm] using Text.slice?_append [first] type [last]
              simp only [hhead, hlong, hend, betweenDashes?_concat, hfirst]
              cases version.all isVersionChar with
              | false => rfl
              | true =>
                  cases hlast : isDash last with
                  | false => rfl
                  | true =>
                      simp only [hinner hlast]
                      rfl
  · have hrefused : splitArrow? text = none := by rw [splitArrow?, Text.splitLast?_none hpoint]; rfl
    rw [hrefused, cutArrow, Text.lastPosition?_of_notMem hpoint]
    split <;> rfl

/-! ### Marks -/

/-- The marks at the ends of an operator, and the arrow between them. -/
structure Marked where
  isOptional : Bool
  isRoot : Bool
  isAlignment : Bool
  isNegated : Bool
  arrow : List Char

def dropEnd (text : List Char) : Bool × List Char :=
  match Text.unsnoc? text with
  | some (init, '?') => (true, init)
  | _ => (false, text)

def takeMarks (text : List Char) : Marked :=
  let ending := dropEnd text
  let root := dropMark '^' ending.2
  let negation := dropMark '!' root.2
  ⟨ending.1, root.1, (Text.splitFirst? ['=', '>'] root.2).isSome, negation.1, negation.2⟩

def Marked.operator (m : Marked) (type version : List Char) : Result RelationOperator :=
  build (String.ofList type) (if m.isRoot then .root else .both) (some (String.ofList version)) m.isNegated
    m.isAlignment m.isOptional

private theorem ofText_eq (text : String) : ofText text =
    match splitArrow? (takeMarks text.toList).arrow with
    | none => .error (.invalidQuery (.malformedOperator text))
    | some (type, version) => (takeMarks text.toList).operator type version := rfl

/-- Reads an operator by byte positions; there is no result if one of them is misplaced. -/
def ofPositions? (text : String) : Option (Result RelationOperator) :=
  match cutArrow (takeMarks text.toList).arrow with
  | .refused => some (.error (.invalidQuery (.malformedOperator text)))
  | .misplaced => none
  | .parts type version => some ((takeMarks text.toList).operator type version)

private theorem ofPositions?_eq (text : String) : ofPositions? text = some (ofText text) := by
  rw [ofPositions?, cutArrow_eq, ofText_eq]
  cases splitArrow? (takeMarks text.toList).arrow <;> rfl

private theorem dropEnd_question (text : List Char) : dropEnd (text ++ ['?']) = (true, text) := by
  rw [dropEnd, Text.unsnoc?_concat]
  rfl

private theorem dropEnd_of_getLast? {text : List Char} (h : text.getLast? ≠ some '?') :
    dropEnd text = (false, text) := by
  rw [dropEnd]
  split
  · rename_i init hunsnoc
    rw [Text.eq_append_of_unsnoc? hunsnoc, List.getLast?_concat] at h
    exact absurd rfl h
  · rfl

private theorem dropMark_of_head? {mark : Char} {text : List Char} (h : text.head? ≠ some mark) :
    dropMark mark text = (false, text) := by
  cases text with
  | nil => rfl
  | cons c text => rw [dropMark, if_neg fun hc => h (congrArg some hc)]

private theorem isAlignment_takeMarks (text : List Char) :
    (takeMarks text).isAlignment = true ↔ ['=', '>'] <:+: (takeMarks text).arrow := by
  show (Text.splitFirst? _ (dropMark '^' (dropEnd text).2).2).isSome = true ↔
    _ <:+: (dropMark '!' (dropMark '^' (dropEnd text).2).2).2
  rw [Text.isSome_splitFirst?_iff]
  cases (dropMark '^' (dropEnd text).2).2 with
  | nil => rfl
  | cons c rest =>
      rw [dropMark]
      split
      · rename_i hc
        rw [hc, List.infix_cons_iff, List.cons_prefix_cons]
        simp
      · rfl

/-! ### Operators that are read -/

private theorem build_eq_ok_iff {type : String} {direction : RelationDirection} {version : Option String}
    {negated alignment isOptional : Bool} {o : RelationOperator} :
    build type direction version negated alignment isOptional = .ok o ↔
      (alignment = true → negated = false) ∧ (isOptional = true → alignment = true) ∧
        (direction = .root → alignment = false ∧ negated = false) ∧
        o = ⟨typeOrAny type, direction, none, nonEmpty? version, negated, alignment, isOptional⟩ := by
  by_cases hroot : direction = .root <;> cases alignment <;> cases negated <;> cases isOptional <;>
    simp [build, hroot, eq_comm]

/-- Operators with a text that is read as them. -/
structure IsReadable (o : RelationOperator) : Prop where
  type : o.type ≠ ""
  direction : o.direction = .root ∨ o.direction = .both
  source : o.sourceVersion = none
  version : ∀ v, o.targetVersion = some v → v ≠ "" ∧ ∀ c ∈ v.toList, isVersionChar c = true
  /-- A double shaft in the type would make it an alignment. -/
  shaft : o.alignment = false → ¬['=', '>'] <:+: o.type.toList
  negated : o.alignment = true → o.negated = false
  «optional» : o.optional = true → o.alignment = true
  root : o.direction = .root → o.alignment = false ∧ o.negated = false

private theorem infix_of_infix_typeOrAny {type : String} (h : ['=', '>'] <:+: (typeOrAny type).toList) :
    ['=', '>'] <:+: type.toList := by
  unfold typeOrAny at h
  split at h
  · exact absurd h (by decide)
  · exact h

private theorem nonEmpty?_eq_some_iff {text : Option String} {v : String} :
    nonEmpty? text = some v ↔ text = some v ∧ v ≠ "" := by
  simp [nonEmpty?, Option.filter_eq_some_iff]

private theorem isReadable_of_ofText {text : String} {o : RelationOperator} (h : ofText text = .ok o) :
    o.IsReadable := by
  rw [ofText_eq] at h
  split at h
  · cases h
  · rename_i type version hsplit
    obtain ⟨first, last, harrow, -, -, hversion⟩ := splitArrow?_eq_some_iff.1 hsplit
    obtain ⟨hnegated, hoptional, hroot, rfl⟩ := build_eq_ok_iff.1 h
    refine ⟨?_, ?_, rfl, ?_, ?_, hnegated, hoptional, hroot⟩
    · exact typeOrAny_ne_empty _
    · cases (takeMarks text.toList).isRoot <;> simp
    · intro v hv
      change nonEmpty? (some (String.ofList version)) = some v at hv
      obtain ⟨hv, hne⟩ := nonEmpty?_eq_some_iff.1 hv
      obtain rfl := Option.some.inj hv
      refine ⟨hne, fun c hc => ?_⟩
      rw [String.toList_ofList] at hc
      exact List.all_eq_true.1 hversion c hc
    · intro hplain hshaft
      have hnone : ¬['=', '>'] <:+: (takeMarks text.toList).arrow := by
        rw [← isAlignment_takeMarks, Bool.not_eq_true]
        exact hplain
      have htype := infix_of_infix_typeOrAny hshaft
      rw [String.toList_ofList] at htype
      refine hnone (htype.trans ?_)
      rw [harrow]
      exact ⟨[first], last :: '>' :: version, by simp⟩

/-! ### Texts of operators -/

variable {o : RelationOperator}

def arrowText (o : RelationOperator) : List Char :=
  operatorDash o :: operatorType o ++ operatorDash o :: '>' :: (o.targetVersion.getD "").toList

private theorem toList_toText_eq (o : RelationOperator) :
    o.toText.toList = operatorMark o ++ arrowText o ++ if o.optional then ['?'] else [] := by
  rw [toList_toText, arrowText, QueryText.operatorEnd]
  simp

private theorem isDash_operatorDash (o : RelationOperator) : isDash (operatorDash o) = true := by
  unfold operatorDash
  split <;> decide

private theorem IsReadable.infix_arrowText_iff (h : o.IsReadable) :
    ['=', '>'] <:+: arrowText o ↔ o.alignment = true := by
  cases halignment : o.alignment with
  | true =>
      refine iff_of_true ⟨'=' :: operatorType o, (o.targetVersion.getD "").toList, ?_⟩ rfl
      simp [arrowText, operatorDash, halignment]
  | false =>
      refine iff_of_false (fun hshaft => ?_) Bool.false_ne_true
      have hdash : '-' ∉ ['=', '>'] := by decide
      have htext : arrowText o = [] ++ '-' :: (operatorType o ++ '-' :: '>' :: (o.targetVersion.getD "").toList) := by
        simp [arrowText, operatorDash, halignment]
      rw [htext, Text.infix_append_cons_iff hdash, Text.infix_append_cons_iff hdash] at hshaft
      rcases hshaft with hnil | htype | hend
      · exact absurd hnil (by decide)
      · unfold operatorType at htype
        split at htype
        · exact absurd htype (by decide)
        · exact h.shaft halignment htype
      · have hmem : '=' ∈ '>' :: (o.targetVersion.getD "").toList := hend.subset List.mem_cons_self
        rcases List.mem_cons.1 hmem with hpoint | hmem
        · exact absurd hpoint (by decide)
        · exact absurd (isVersionChar_of_mem h.version _ hmem) (by decide)

private theorem IsReadable.dropEnd_toText (h : o.IsReadable) :
    dropEnd o.toText.toList = (o.optional, operatorMark o ++ arrowText o) := by
  rw [toList_toText_eq]
  cases o.optional with
  | true => exact dropEnd_question _
  | false =>
      rw [if_neg Bool.false_ne_true, List.append_nil]
      refine dropEnd_of_getLast? fun hlast => ?_
      have hend : ('>' :: (o.targetVersion.getD "").toList).getLast? = some '?' := by
        have htext : operatorMark o ++ arrowText o =
            operatorMark o ++ (operatorDash o :: operatorType o ++ [operatorDash o]) ++
              '>' :: (o.targetVersion.getD "").toList := by simp [arrowText]
        rwa [htext, List.getLast?_append_of_ne_nil _ (List.cons_ne_nil _ _)] at hlast
      rcases List.mem_cons.1 (List.mem_of_getLast? hend) with hpoint | hmem
      · exact absurd hpoint (by decide)
      · exact absurd (isVersionChar_of_mem h.version _ hmem) (by decide)

private theorem head?_arrowText (o : RelationOperator) {mark : Char} (h : isDash mark = false) :
    (arrowText o).head? ≠ some mark := by
  intro hhead
  rw [← Option.some.inj (show some (operatorDash o) = some mark from hhead), isDash_operatorDash] at h
  cases h

private theorem IsReadable.takeMarks_toText (h : o.IsReadable) :
    takeMarks o.toText.toList = ⟨o.optional, o.isRoot, o.alignment, o.negated, arrowText o⟩ := by
  have hroot : dropMark '^' (operatorMark o ++ arrowText o) =
      (o.isRoot, if o.negated then '!' :: arrowText o else arrowText o) := by
    cases hroot : o.isRoot with
    | true =>
        have hnegated := (h.root (of_decide_eq_true hroot)).2
        simp [operatorMark, hroot, hnegated, dropMark]
    | false =>
        cases hnegated : o.negated with
        | true => simp [operatorMark, hroot, hnegated, dropMark]
        | false =>
            simp only [operatorMark, hroot, hnegated, Bool.false_eq_true, if_false, List.nil_append]
            exact dropMark_of_head? (head?_arrowText o rfl)
  have hnegated : dropMark '!' (if o.negated then '!' :: arrowText o else arrowText o) =
      (o.negated, arrowText o) := by
    cases o.negated with
    | true => rfl
    | false => exact dropMark_of_head? (head?_arrowText o rfl)
  have hmarks : takeMarks o.toText.toList =
      ⟨o.optional, o.isRoot, (takeMarks o.toText.toList).isAlignment, o.negated, arrowText o⟩ := by
    simp only [takeMarks, h.dropEnd_toText, hroot, hnegated]
  have halignment : (takeMarks o.toText.toList).isAlignment = o.alignment := by
    rw [Bool.eq_iff_iff, isAlignment_takeMarks, hmarks]
    exact h.infix_arrowText_iff
  rw [hmarks, halignment]

private theorem IsReadable.ofText_toText (h : o.IsReadable) : ofText o.toText = .ok o := by
  have hsplit : splitArrow? (arrowText o) = some (operatorType o, (o.targetVersion.getD "").toList) := by
    refine splitArrow?_eq_some_iff.2 ⟨_, _, rfl, isDash_operatorDash o, isDash_operatorDash o, ?_⟩
    exact List.all_eq_true.2 (isVersionChar_of_mem h.version)
  have htype : typeOrAny (String.ofList (operatorType o)) = o.type := by
    have hne := h.type
    unfold operatorType typeOrAny
    split
    · rename_i hany
      simp [hany]
    · simp [hne]
  have hdirection : (if o.isRoot then RelationDirection.root else .both) = o.direction := by
    rw [isRoot]
    rcases h.direction with hdirection | hdirection <;> simp [hdirection]
  have hversion : nonEmpty? (some (String.ofList (o.targetVersion.getD "").toList)) = o.targetVersion := by
    cases hversion : o.targetVersion with
    | none => rfl
    | some v => simp [nonEmpty?, (h.version v hversion).1]
  rw [ofText_eq, h.takeMarks_toText]
  simp only [hsplit]
  refine build_eq_ok_iff.2 ⟨h.negated, h.optional, ?_, ?_⟩
  · rw [hdirection]
    exact h.root
  · rw [htype, hdirection, hversion, ← h.source]

/-- Every position at which reading cuts an operator lies in its text, between two characters, and what is read is
read again from the text that is written for it. -/
theorem reading_survives_writing (text : String) :
    ofPositions? text = some (ofText text) ∧ ∀ o, ofText text = .ok o → ofText o.toText = .ok o :=
  ⟨ofPositions?_eq text, fun _ h => (isReadable_of_ofText h).ofText_toText⟩

/-- An alignment is told by a double shaft within its type; it is written with double dashes. -/
theorem reading_survives_writing_shaftInType :
    let o : RelationOperator := ⟨"a=>b-", .both, none, some "nl", false, true, true⟩
    ofText "-a=>b-->nl?" = .ok o ∧ o.toText = "=a=>b-=>nl?" ∧ ofText o.toText = .ok o := by
  intro o
  have hread : ofText "-a=>b-->nl?" = .ok o := by rfl
  exact ⟨hread, by decide +kernel, (reading_survives_writing "-a=>b-->nl?").2 o hread⟩

end RelationOperator

end CorpusSearch
