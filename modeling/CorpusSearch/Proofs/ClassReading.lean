import CorpusSearch.Proofs.ReaderLocality
import Mathlib.Data.List.Basic

/-!
Escapes and bracketed classes are read alike in front of more text. A class is closed within the text, so that it is
read in the same way whatever follows it. Main statement: this holds of escapes, of single characters and of classes.
-/

set_option autoImplicit false

namespace CorpusSearch.Regex

open Reader

/-! ### Escapes -/

private theorem local_hexDigits (count : Nat) (digits : List Char) : Local (hexDigits count digits) := by
  induction count generalizing digits with
  | zero => exact .pure _
  | succ count ih =>
      refine .of_push (fun r hr => by rw [hexDigits, peek?, hr]; rfl) fun c => ?_
      exact .option_bind (Text.hexDigit? c) fun _ => (ih (c :: digits)).skip

private theorem untilBrace_succ {fuel : Nat} {body : List Char} {r : Reader} {x : List Char × Reader}
    (h : untilBrace fuel body r = some x) : untilBrace (fuel + 1) body r = some x := by
  induction fuel generalizing body r with
  | zero => cases h
  | succ fuel ih =>
      rw [untilBrace] at h ⊢
      obtain ⟨c, hc, h⟩ := Option.bind_eq_some_iff.1 h
      rw [hc]
      simp only [Option.bind_eq_bind, Option.bind_some]
      split
      · rename_i hbrace
        rw [if_pos hbrace] at h
        exact h
      · rename_i hbrace
        rw [if_neg hbrace] at h
        exact ih h

theorem local_untilBrace : Local fun r => untilBrace (r.rest.length + 1) [] r := by
  have hfuel : ∀ n body, Local (untilBrace n body) := by
    intro n
    induction n with
    | zero => exact fun body => .none
    | succ n ih =>
        intro body
        refine .of_push (fun r hr => by rw [untilBrace, peek?, hr]; rfl) fun c => ?_
        by_cases hc : c = '\x7d'
        · obtain rfl := hc
          exact .pure body.reverse
        · have hpush : (fun r => untilBrace (n + 1) body (push r c)) = fun r => untilBrace n (c :: body) r.skip := by
            funext r
            exact if_neg hc
          rw [hpush]
          exact (ih (c :: body)).skip
  exact .of_fuel (fun n => hfuel n []) fun _ _ _ => untilBrace_succ

def readBracedHex (r : Reader) : Option (Primitive × Reader) := do
  let (digits, r) ← untilBrace (r.rest.length + 1) [] r
  if digits.isEmpty then none
  let c ← Text.charOfCodePoint? (← Text.hexValue? digits)
  return (.literal c false, r.skip)

def readFixedHex (count : Nat) (r : Reader) : Option (Primitive × Reader) := do
  let (digits, r) ← hexDigits count [] r
  let c ← Text.charOfCodePoint? (← Text.hexValue? digits)
  return (.literal c (count = 2), r)

private theorem local_readBracedHex : Local readBracedHex :=
  local_untilBrace.bind fun _ => .ite .none (.option_bind _ fun _ => .option_bind _ fun _ => (Local.pure _).skip)

private theorem local_readFixedHex (count : Nat) : Local (readFixedHex count) :=
  (local_hexDigits count []).bind fun _ => .option_bind _ fun _ => .option_bind _ fun _ => .pure _

theorem readHex_push (count : Nat) (r : Reader) (c : Char) : readHex count (r.push c) =
    if r.skip.peek? = some '\x7b' then readBracedHex r.skip.bumpSkip else readFixedHex count r.skip := rfl

private theorem local_readHex (count : Nat) (c : Char) : Local fun r => readHex count (r.push c) := by
  simp only [readHex_push]
  have hbraced : Local fun r => readBracedHex (r.push '\x7b').bumpSkip := local_readBracedHex.skip
  exact (Local.ite_peek (F := fun r => readBracedHex r.bumpSkip) (by decide) (by decide) hbraced
    (local_readFixedHex count)).skip

def readBracedName (negated : Bool) (r : Reader) : Option (Primitive × Reader) := do
  let (body, r) ← untilBrace (r.rest.length + 1) [] r
  let (name, flipped) := splitClassName body
  return (.named name (negated != flipped), r)

def readClassName (negated : Bool) (r : Reader) : Option (Primitive × Reader) := do
  let c ← r.peek?
  if c = '\x7b' then readBracedName negated r.bumpSkip
  else if c = '\\' then none
  else return (.named (.name [c]) negated, r.bumpSkip)

theorem readNamedClass_push (negated : Bool) (r : Reader) (c : Char) :
    readNamedClass negated (r.push c) = readClassName negated r.skip := rfl

private theorem local_readClassName (negated : Bool) : Local (readClassName negated) := by
  refine .of_push (fun r hr => by rw [readClassName, peek?, hr]; rfl) fun c => .ite ?_ (.ite .none ?_)
  · exact Local.skip (local_untilBrace.bind fun body => .pure _)
  · exact (Local.pure _).skip

private theorem local_readNamedClass (negated : Bool) (c : Char) :
    Local fun r => readNamedClass negated (r.push c) := by
  simp only [readNamedClass_push]
  exact (local_readClassName negated).skip

def boundaryKind? : String → Option Assertion
  | "start" => some .wordStart
  | "end" => some .wordEnd
  | "start-half" => some .wordStartHalf
  | "end-half" => some .wordEndHalf
  | _ => none

def readBoundaryName (r : Reader) : Option (Assertion × Reader) := do
  let (name, after) := boundaryName (r.rest.length + 1) [] r
  if after.peek? ≠ some '\x7d' then none
  let kind ← boundaryKind? (String.ofList name)
  return (kind, after.bump)

theorem readBoundary_push_brace (r : Reader) : readBoundary (r.push '\x7b') = (do
    let first ← r.skip.peek?
    if !isBoundaryNameChar first then return (.wordBoundary, r.push '\x7b') else readBoundaryName r.skip) := by
  rw [readBoundary, if_pos (by rfl)]
  refine bind_congr fun first => ?_
  split
  · rfl
  · rw [readBoundaryName, bumpSkip_push]
    dsimp only
    split
    · rfl
    · unfold boundaryKind?
      split <;> simp_all

private theorem local_readBoundaryName : Local readBoundaryName := by
  refine Local.run (K := fun p => if p.2.peek? ≠ some '\x7d' then none
    else boundaryKind? (String.ofList p.1) >>= fun kind => some (kind, p.2.bump)) local_boundaryName fun name => ?_
  refine .of_push (fun r hr => ?_) fun c => ?_
  · have hend : r.peek? ≠ some '\x7d' := by
      rw [peek?, hr]
      exact (Option.some_ne_none _).symm
    exact if_pos hend
  · simp only [peek?_push, bump_push]
    exact .ite (P := some c ≠ some '\x7d') .none (.option_bind _ fun kind => .pure kind)

theorem readBoundary_of_ne {r : Reader} (h : r.peek? ≠ some '\x7b') : readBoundary r = some (.wordBoundary, r) :=
  if_neg h

theorem local_readBoundary : Local readBoundary where
  follows {r x r'} h := by
    by_cases hpeek : r.peek? = some '\x7b'
    · rcases r.eq_nil_or_push with hrest | ⟨c, s, rfl⟩
      · exact absurd hrest (ne_nil_of_peek? hpeek)
      obtain rfl : c = '\x7b' := Option.some.inj hpeek
      rw [readBoundary_push_brace] at h
      obtain ⟨first, -, h⟩ := Option.bind_eq_some_iff.1 h
      split at h
      · cases h
        exact .refl _
      · exact ((local_readBoundaryName.follows h).trans (.skip s)).trans (.push s _)
    · rw [readBoundary_of_ne hpeek] at h
      cases h
      exact .refl _
  extend {r x r' more} names h hapart := by
    by_cases hpeek : r.peek? = some '\x7b'
    · rcases r.eq_nil_or_push with hrest | ⟨c, s, rfl⟩
      · exact absurd hrest (ne_nil_of_peek? hpeek)
      obtain rfl : c = '\x7b' := Option.some.inj hpeek
      rw [readBoundary_push_brace] at h
      obtain ⟨first, hfirst, h⟩ := Option.bind_eq_some_iff.1 h
      have hmid : s.skip.Apart more := apart_of_ne_nil (ne_nil_of_peek? hfirst)
      refine ⟨apart_push, ?_⟩
      rw [extend_push, readBoundary_push_brace, hmid.skip_extend, peek?_extend_of_some hfirst, Option.bind_eq_bind,
        Option.bind_some]
      split at h
      · rename_i hplain
        rw [if_pos hplain]
        cases h
        rfl
      · rename_i hname
        rw [if_neg hname]
        exact (local_readBoundaryName.extend names h hapart).2
    · rw [readBoundary_of_ne hpeek] at h
      cases h
      refine ⟨hapart, readBoundary_of_ne ?_⟩
      rcases r.eq_nil_or_push with hrest | ⟨c, s, rfl⟩
      · exact hapart.peek?_extend_ne hrest (by decide) (by decide)
      · exact hpeek

/-- The escapes of one character. -/
theorem readEscape_push {c : Char} (h : c ∉ ['x', 'u', 'U', 'p', 'P', 'b']) (r : Reader) :
    readEscape (r.push c) = (readEscape (push ⟨[], false, []⟩ c)).map fun p => (p.1, r) := by
  simp only [List.mem_cons, List.not_mem_nil, or_false, not_or] at h
  simp only [readEscape, peek?_push, bump_push, Option.bind_eq_bind, Option.bind_some]
  split <;> simp_all

theorem local_readEscape : Local readEscape := by
  refine .of_push (fun r hr => by rw [readEscape, peek?, hr]; rfl) fun c => ?_
  by_cases hc : c ∈ ['x', 'u', 'U', 'p', 'P', 'b']
  · simp only [List.mem_cons, List.not_mem_nil, or_false] at hc
    rcases hc with rfl | rfl | rfl | rfl | rfl | rfl
    · exact local_readHex 2 'x'
    · exact local_readHex 4 'u'
    · exact local_readHex 8 'U'
    · exact local_readNamedClass false 'p'
    · exact local_readNamedClass true 'P'
    · exact local_readBoundary.bind fun kind => .pure (Primitive.assertion kind)
  · have hpush : (fun r => readEscape (push r c)) = _ := funext (readEscape_push hc)
    rw [hpush]
    cases readEscape (push ⟨[], false, []⟩ c) with
    | none => exact .none
    | some p => exact .pure p.1

/-- A character that begins no escape is read by itself. -/
theorem exists_readPrimitive_push {c : Char} (hc : c ≠ '\\') :
    ∃ x, ∀ r, readPrimitive (push r c) = some (x, r) := by
  simp only [readPrimitive, peek?_push, bump_push, Option.bind_eq_bind, Option.bind_some]
  split
  · exact absurd rfl hc
  · exact ⟨_, fun r => rfl⟩
  · exact ⟨_, fun r => rfl⟩
  · exact ⟨_, fun r => rfl⟩
  · exact ⟨_, fun r => rfl⟩

theorem local_readPrimitive (c : Char) : Local fun r => readPrimitive (push r c) := by
  by_cases hc : c = '\\'
  · rw [hc]
    exact local_readEscape
  · obtain ⟨x, hx⟩ := exists_readPrimitive_push hc
    have hpush : (fun r => readPrimitive (push r c)) = fun r => some (x, r) := funext hx
    rw [hpush]
    exact .pure x

/-! ### Classes -/

private theorem local_readClassItem : Local readClassItem := by
  refine .of_push (fun r hr => by rw [readClassItem, peek?, hr]; rfl) fun c => ?_
  by_cases hc : c = '\\'
  · rw [hc]
    exact local_readEscape
  · have hpush : (fun r => readClassItem (push r c)) = fun r => some (.literal c false, r) :=
      funext fun r => if_neg hc
    rw [hpush]
    exact .pure _

/-- The marks that are looked for behind a character, and those that end an expression. -/
theorem not_isWhiteSpace {c : Char} (h : c ∈ ['#', '-', ']', ':', ')']) : ¬Unicode.isWhiteSpace c = true := by
  have hall : ['#', '-', ']', ':', ')'].all (fun d => !Unicode.isWhiteSpace d) = true := by decide
  simpa using List.all_eq_true.1 hall c h

/-- What follows white space, and behind a number sign what follows more of it. -/
def visible (text : List Char) : List Char :=
  match text.dropWhile Unicode.isWhiteSpace with
  | '#' :: comment => comment.dropWhile Unicode.isWhiteSpace
  | other => other

theorem dropWhile_append_of_ne_nil {p : Char → Bool} {text : List Char} (h : text.dropWhile p ≠ [])
    (more : List Char) : (text ++ more).dropWhile p = text.dropWhile p ++ more := by
  rw [List.dropWhile_append, if_neg]
  rw [List.isEmpty_iff]
  exact h

private theorem visible_append {text : List Char} (h : visible text ≠ []) (more : List Char) :
    visible (text ++ more) = visible text ++ more := by
  have hblank : text.dropWhile Unicode.isWhiteSpace ≠ [] := by
    intro hnil
    rw [visible, hnil] at h
    exact h rfl
  rw [visible, dropWhile_append_of_ne_nil hblank, visible]
  rw [visible] at h
  split at h
  · rename_i comment heq
    rw [heq]
    exact dropWhile_append_of_ne_nil h more
  · rename_i other hsign
    split
    · rename_i comment heq
      cases hdrop : text.dropWhile Unicode.isWhiteSpace with
      | nil => exact absurd hdrop hblank
      | cons c rest =>
          rw [hdrop] at heq
          obtain ⟨rfl, -⟩ := List.cons.inj heq
          exact absurd hdrop (hsign rest)
    · rfl

private theorem dropBlank_dropWhile (text : List Char) :
    dropBlank false (text.dropWhile Unicode.isWhiteSpace) = dropBlank false text := by
  induction text with
  | nil => rfl
  | cons c text ih =>
      by_cases hc : Unicode.isWhiteSpace c = true
      · rw [List.dropWhile_cons_of_pos hc, ih, dropBlank, if_neg Bool.false_ne_true, if_pos hc]
      · rw [List.dropWhile_cons_of_neg hc]

private theorem dropBlank_of_blank {comment : Bool} {text : List Char} (h : text.dropWhile Unicode.isWhiteSpace = []) :
    dropBlank comment text = [] := by
  induction text generalizing comment with
  | nil => rfl
  | cons c text ih =>
      by_cases hc : Unicode.isWhiteSpace c = true
      · rw [List.dropWhile_cons_of_pos hc] at h
        rw [dropBlank]
        split
        · exact ih h
        · exact ih h
      · rw [List.dropWhile_cons_of_neg hc] at h
        cases h

private theorem visible_ne_nil_of_dropBlank {text : List Char} (h : dropBlank false text ≠ []) : visible text ≠ [] := by
  intro hnil
  apply h
  rw [visible] at hnil
  split at hnil
  · rename_i comment heq
    have hsign : dropBlank false ('#' :: comment) = dropBlank true comment := by
      rw [dropBlank, if_neg Bool.false_ne_true, if_neg (not_isWhiteSpace (by decide)), if_pos rfl]
    rw [← dropBlank_dropWhile, heq, hsign]
    exact dropBlank_of_blank hnil
  · exact dropBlank_of_blank hnil

private theorem peekNext?_push (r : Reader) (c : Char) : (push r c).peekNext? =
    if r.ignoreWhitespace then (visible r.rest).head?.or r.rest.head? else r.rest.head? := rfl

theorem peekNext?_extend {r : Reader} (hrest : r.rest ≠ []) (h : r.ignoreWhitespace = true → visible r.rest ≠ [])
    (c : Char) (more : List Char) (names : List (List Char)) :
    ((push r c).extend more names).peekNext? = (push r c).peekNext? := by
  rw [extend_push, peekNext?_push, peekNext?_push, rest_extend, ignoreWhitespace_extend,
    List.head?_append_of_ne_nil _ hrest]
  split
  · rename_i hignore
    rw [visible_append (h hignore), List.head?_append_of_ne_nil _ (h hignore)]
  · rfl

private theorem visible_cons {d : Char} (hblank : ¬Unicode.isWhiteSpace d = true) (hsign : d ≠ '#') (text : List Char) :
    visible (d :: text) = d :: text := by
  rw [visible, List.dropWhile_cons_of_neg hblank]
  split
  · rename_i heq
    exact absurd (List.cons.inj heq).1 hsign
  · rfl

private theorem peekNext?_extend_of_some {r : Reader} {c d : Char} (h : (push r c).peekNext? = some d)
    (hblank : ¬Unicode.isWhiteSpace d = true) (hsign : d ≠ '#') (more : List Char) (names : List (List Char)) :
    ((push r c).extend more names).peekNext? = some d := by
  have hnext : (r.ignoreWhitespace = true → visible r.rest ≠ []) ∧ r.rest ≠ [] := by
    rw [peekNext?_push] at h
    split at h
    · cases hrest : r.rest with
      | nil =>
          rw [hrest] at h
          cases h
      | cons e rest =>
          refine ⟨fun _ hnil => ?_, List.cons_ne_nil e rest⟩
          rw [hrest, hnil] at h
          obtain rfl : e = d := Option.some.inj h
          rw [visible_cons hblank hsign] at hnil
          cases hnil
    · rename_i hignore
      refine ⟨fun h => absurd h hignore, fun hnil => ?_⟩
      rw [hnil] at h
      cases h
  rw [peekNext?_extend hnext.2 hnext.1, h]

private theorem peekNext?_extend_of_skip {r : Reader} (h : r.skip.rest ≠ []) (c : Char) (more : List Char)
    (names : List (List Char)) : ((push r c).extend more names).peekNext? = (push r c).peekNext? := by
  refine peekNext?_extend ?_ ?_ c more names
  · exact (Follows.skip r).ne_nil h
  · intro hignore
    rw [skip, if_pos hignore] at h
    exact visible_ne_nil_of_dropBlank h

def readRangeLast (first : Primitive) (r : Reader) : Option (ClassExpr × Reader) := do
  let (last, r) ← readClassItem r
  let first ← first.toChar?
  let last ← last.toChar?
  if first ≤ last then return (.range first last, r) else none

def readRangeEnd (first : Primitive) (r : Reader) : Option (ClassExpr × Reader) := do
  let c ← r.peek?
  if c ≠ '-' || r.peekNext? = some ']' || r.peekNext? = some '-' then return (← first.toClassExpr?, r)
  else readRangeLast first r.bumpSkip

theorem readClassRange_eq (r : Reader) :
    readClassRange r = readClassItem r >>= fun p => readRangeEnd p.1 p.2.skip := rfl

theorem local_readRangeLast (first : Primitive) : Local (readRangeLast first) :=
  local_readClassItem.bind fun _ => .option_bind _ fun _ => .option_bind _ fun _ => .ite (.pure _) .none

private theorem ne_nil_of_readRangeLast {first : Primitive} {r : Reader} {p : ClassExpr × Reader}
    (h : readRangeLast first r = some p) : r.rest ≠ [] := by
  intro hnil
  rw [readRangeLast, readClassItem, peek?, hnil] at h
  cases h

theorem local_readRangeEnd (first : Primitive) : Local (readRangeEnd first) where
  follows {r x r'} h := by
    rcases r.eq_nil_or_push with hrest | ⟨c, s, rfl⟩
    · rw [readRangeEnd, peek?, hrest] at h
      cases h
    rw [readRangeEnd, peek?_push, Option.bind_eq_bind, Option.bind_some] at h
    split at h
    · obtain ⟨member, -, h⟩ := Option.bind_eq_some_iff.1 h
      cases h
      exact .refl _
    · rw [bumpSkip_push] at h
      exact (((local_readRangeLast first).follows h).trans (.skip s)).trans (.push s c)
  extend {r x r' more} names h hapart := by
    rcases r.eq_nil_or_push with hrest | ⟨c, s, rfl⟩
    · rw [readRangeEnd, peek?, hrest] at h
      cases h
    refine ⟨apart_push, ?_⟩
    have hpeek : ((push s c).extend more names).peek? = some c := rfl
    rw [readRangeEnd, peek?_push, Option.bind_eq_bind, Option.bind_some] at h
    rw [readRangeEnd, hpeek, Option.bind_eq_bind, Option.bind_some]
    split at h
    · rename_i halone
      have hsame : (c ≠ '-' || ((push s c).extend more names).peekNext? = some ']' ||
          ((push s c).extend more names).peekNext? = some '-') = true := by
        simp only [Bool.or_eq_true, decide_eq_true_iff] at halone ⊢
        rcases halone with (hc | hnext) | hnext
        · exact .inl (.inl hc)
        · have hblank : ¬Unicode.isWhiteSpace ']' = true := not_isWhiteSpace (by decide)
          exact .inl (.inr (peekNext?_extend_of_some hnext hblank (by decide) more names))
        · have hblank : ¬Unicode.isWhiteSpace '-' = true := not_isWhiteSpace (by decide)
          exact .inr (peekNext?_extend_of_some hnext hblank (by decide) more names)
      rw [if_pos hsame]
      obtain ⟨member, hmember, h⟩ := Option.bind_eq_some_iff.1 h
      rw [hmember]
      cases h
      rfl
    · rename_i hrange
      rw [bumpSkip_push] at h
      obtain ⟨hmid, hlast⟩ := (local_readRangeLast first).extend names h hapart
      rw [peekNext?_extend_of_skip (ne_nil_of_readRangeLast h), if_neg hrange, extend_push, bumpSkip_push,
        hmid.skip_extend]
      exact hlast

private theorem local_readClassRange : Local readClassRange := by
  have hrange : readClassRange = fun r => readClassItem r >>= fun p => readRangeEnd p.1 p.2.skip :=
    funext readClassRange_eq
  rw [hrange]
  exact local_readClassItem.bind fun first => (local_readRangeEnd first).skip

def posixName? (text : List Char) : Option (PosixClass × List Char) :=
  match text.dropWhile (· ≠ ':') with
  | ':' :: ']' :: after => (posixClass? (String.ofList (text.takeWhile (· ≠ ':')))).map fun c => (c, after)
  | _ => none

private theorem bracket_notMem_of_posixClass? {name : String} {c : PosixClass} (h : posixClass? name = some c) :
    ']' ∉ name.toList := by
  unfold posixClass? at h
  split at h <;> first | decide | cases h

private theorem posixName?_eq_some {text after : List Char} {c : PosixClass} :
    posixName? text = some (c, after) ↔ text.dropWhile (· ≠ ':') = ':' :: ']' :: after ∧
      posixClass? (String.ofList (text.takeWhile (· ≠ ':'))) = some c := by
  unfold posixName?
  split
  · rename_i rest hdrop
    rw [hdrop]
    constructor
    · intro h
      obtain ⟨d, hd, heq⟩ := Option.map_eq_some_iff.1 h
      cases heq
      exact ⟨rfl, hd⟩
    · rintro ⟨heq, hc⟩
      cases heq
      rw [hc]
      rfl
  · rename_i hother
    constructor
    · exact nofun
    · rintro ⟨heq, -⟩
      exact absurd heq (hother after)

theorem takeWhile_append_of_ne_nil {p : Char → Bool} {text : List Char} (h : text.dropWhile p ≠ [])
    (more : List Char) : (text ++ more).takeWhile p = text.takeWhile p := by
  rw [List.takeWhile_append, if_neg]
  intro hlength
  have hsplit := congrArg List.length (List.takeWhile_append_dropWhile (p := p) (l := text))
  rw [List.length_append, hlength, Nat.add_eq_left, List.length_eq_zero_iff] at hsplit
  exact h hsplit

private theorem posixName?_append {text after : List Char} {c : PosixClass} (h : posixName? text = some (c, after))
    (more : List Char) : posixName? (text ++ more) = some (c, after ++ more) := by
  rw [posixName?_eq_some] at h ⊢
  have hne : text.dropWhile (· ≠ ':') ≠ [] := by
    rw [h.1]
    exact List.cons_ne_nil _ _
  rw [dropWhile_append_of_ne_nil hne, takeWhile_append_of_ne_nil hne, h.1]
  exact ⟨rfl, h.2⟩

private theorem posixName?_append_of_mem {text : List Char} (h : posixName? text = none) (hmem : ']' ∈ text)
    (more : List Char) : posixName? (text ++ more) = none := by
  rw [Option.eq_none_iff_forall_ne_some] at h ⊢
  rintro ⟨c, after⟩ hsome
  rw [posixName?_eq_some] at hsome
  obtain ⟨hdrop, hclass⟩ := hsome
  have hname := bracket_notMem_of_posixClass? hclass
  rw [String.toList_ofList] at hname
  by_cases hne : text.dropWhile (· ≠ ':') = []
  · have hall := List.takeWhile_append_dropWhile (p := (· ≠ ':')) (l := text)
    rw [hne, List.append_nil] at hall
    refine hname ?_
    rw [List.takeWhile_append, if_pos (congrArg List.length hall)]
    exact List.mem_append_left _ hmem
  · rw [takeWhile_append_of_ne_nil hne] at hname hclass
    rw [dropWhile_append_of_ne_nil hne] at hdrop
    have hbehind : ']' ∈ text.dropWhile (· ≠ ':') := by
      rw [← List.takeWhile_append_dropWhile (p := (· ≠ ':')) (l := text)] at hmem
      exact (List.mem_append.1 hmem).resolve_left hname
    cases hrest : text.dropWhile (· ≠ ':') with
    | nil => exact hne hrest
    | cons d rest =>
        rw [hrest] at hdrop hbehind
        rw [List.cons_append, List.cons.injEq] at hdrop
        obtain ⟨rfl, hdrop⟩ := hdrop
        cases rest with
        | nil => simp at hbehind
        | cons e rest =>
            rw [List.cons_append, List.cons.injEq] at hdrop
            obtain ⟨rfl, -⟩ := hdrop
            exact h (c, rest) (posixName?_eq_some.2 ⟨hrest, hclass⟩)

def namedPosix (negated : Bool) (r : Reader) (rest : List Char) : Option (ClassExpr × Reader) :=
  (posixName? rest).map fun p => (.posix p.1 negated, { r with rest := p.2 })

private theorem readPosixClass?_negated {r : Reader} (rest : List Char) (h : r.rest = '[' :: ':' :: '^' :: rest) :
    readPosixClass? r = namedPosix true r rest := by
  simp only [namedPosix, posixName?, readPosixClass?, h]
  split <;> simp_all
  rfl

private theorem readPosixClass?_plain {r : Reader} (rest : List Char) (h : r.rest = '[' :: ':' :: rest)
    (hcaret : rest.head? ≠ some '^') : readPosixClass? r = namedPosix false r rest := by
  have hplain : ∀ rest', rest ≠ '^' :: rest' := by
    rintro rest' rfl
    exact hcaret rfl
  simp only [namedPosix, posixName?, readPosixClass?, h]
  split <;> simp_all
  rfl

private theorem readPosixClass?_none {r : Reader}
    (h : ∀ rest, r.rest ≠ '[' :: ':' :: rest) : readPosixClass? r = none := by
  rw [readPosixClass?]
  split
  · rename_i rest heq
    exact absurd heq (h rest)
  · rfl

private theorem posixName?_suffix {text after : List Char} {c : PosixClass} (h : posixName? text = some (c, after)) :
    after <:+ text := by
  rw [posixName?_eq_some] at h
  have hdrop : ':' :: ']' :: after <:+ text := h.1 ▸ List.dropWhile_suffix _
  exact ((List.suffix_cons ']' after).trans (List.suffix_cons ':' _)).trans hdrop

private theorem namedPosix_extend {negated : Bool} {r r' : Reader} {rest : List Char} {x : ClassExpr}
    (h : namedPosix negated r rest = some (x, r')) : r'.Follows { r with rest } ∧ ∀ more names,
      namedPosix negated (r.extend more names) (rest ++ more) = some (x, r'.extend more names) := by
  obtain ⟨⟨c, after⟩, hname, heq⟩ := Option.map_eq_some_iff.1 h
  cases heq
  refine ⟨⟨posixName?_suffix hname, rfl, rfl⟩, fun more names => ?_⟩
  rw [namedPosix, posixName?_append hname]
  rfl

private theorem posix_cases (text : List Char) : (∃ rest, text = ':' :: '^' :: rest) ∨
    (∃ rest, text = ':' :: rest ∧ rest.head? ≠ some '^') ∨ ∀ rest, text ≠ ':' :: rest := by
  cases text with
  | nil => exact .inr (.inr nofun)
  | cons c rest =>
      by_cases hc : c = ':'
      · obtain rfl := hc
        by_cases hcaret : rest.head? = some '^'
        · obtain ⟨tail, rfl⟩ := List.head?_eq_some_iff.1 hcaret
          exact .inl ⟨tail, rfl⟩
        · exact .inr (.inl ⟨rest, rfl, hcaret⟩)
      · exact .inr (.inr fun rest heq => hc (List.cons.inj heq).1)

theorem readPosixClass?_extend {s r' : Reader} {x : ClassExpr} (h : readPosixClass? (push s '[') = some (x, r')) :
    r'.Follows s ∧ ∀ more names,
      readPosixClass? ((push s '[').extend more names) = some (x, r'.extend more names) := by
  have hpush : ∀ {rest}, s.rest = rest → (push s '[').rest = '[' :: rest := fun h => congrArg _ h
  have hextend : ∀ {rest} more names, s.rest = rest → ((push s '[').extend more names).rest = '[' :: (rest ++ more) :=
    fun more names h => by rw [rest_extend, hpush h, List.cons_append]
  rcases posix_cases s.rest with ⟨rest, hrest⟩ | ⟨rest, hrest, hcaret⟩ | hother
  · rw [readPosixClass?_negated rest (hpush hrest)] at h
    obtain ⟨hfollows, hlater⟩ := namedPosix_extend h
    have hbehind : rest <:+ s.rest := hrest ▸ (List.suffix_cons _ _).trans (List.suffix_cons _ _)
    refine ⟨hfollows.trans ⟨hbehind, rfl, rfl⟩, fun more names => ?_⟩
    rw [readPosixClass?_negated (rest ++ more) (hextend more names hrest)]
    exact hlater more names
  · rw [readPosixClass?_plain rest (hpush hrest) hcaret] at h
    obtain ⟨hfollows, hlater⟩ := namedPosix_extend h
    have hbehind : rest <:+ s.rest := hrest ▸ List.suffix_cons _ _
    refine ⟨hfollows.trans ⟨hbehind, rfl, rfl⟩, fun more names => ?_⟩
    have hne : rest ≠ [] := by
      rintro rfl
      cases h
    rw [readPosixClass?_plain (rest ++ more) (hextend more names hrest) (by rwa [List.head?_append_of_ne_nil _ hne])]
    exact hlater more names
  · rw [readPosixClass?_none fun rest heq => hother rest (List.cons.inj heq).2] at h
    cases h

theorem readPosixClass?_extend_none {s : Reader} (h : readPosixClass? (push s '[') = none) (hmem : ']' ∈ s.rest)
    (more : List Char) (names : List (List Char)) : readPosixClass? ((push s '[').extend more names) = none := by
  have hpush : ∀ {rest}, s.rest = rest → (push s '[').rest = '[' :: rest := fun h => congrArg _ h
  have hextend : ∀ {rest}, s.rest = rest → ((push s '[').extend more names).rest = '[' :: (rest ++ more) :=
    fun h => by rw [rest_extend, hpush h, List.cons_append]
  rcases posix_cases s.rest with ⟨rest, hrest⟩ | ⟨rest, hrest, hcaret⟩ | hother
  · rw [readPosixClass?_negated rest (hpush hrest), namedPosix, Option.map_eq_none_iff] at h
    rw [hrest] at hmem
    rw [readPosixClass?_negated (rest ++ more) (hextend hrest), namedPosix,
      posixName?_append_of_mem h (by simpa using hmem)]
    rfl
  · rw [readPosixClass?_plain rest (hpush hrest) hcaret, namedPosix, Option.map_eq_none_iff] at h
    rw [hrest] at hmem
    have hmem : ']' ∈ rest := by simpa using hmem
    have hne : rest ≠ [] := List.ne_nil_of_mem hmem
    rw [readPosixClass?_plain (rest ++ more) (hextend hrest) (by rwa [List.head?_append_of_ne_nil _ hne]), namedPosix,
      posixName?_append_of_mem h hmem]
    rfl
  · refine readPosixClass?_none fun rest heq => ?_
    rw [hextend rfl] at heq
    cases hrest : s.rest with
    | nil =>
        rw [hrest] at hmem
        cases hmem
    | cons c tail =>
        rw [hrest, List.cons.injEq, List.cons_append, List.cons.injEq] at heq
        exact hother tail (heq.2.1 ▸ hrest)

def readNegation (r : Reader) : Bool × Reader := if r.peek? = some '^' then (true, r.bumpSkip) else (false, r)

def readFirstBracket (items : List ClassExpr) (r : Reader) : List ClassExpr × Reader :=
  if items.isEmpty then if r.peek? = some ']' then ([.literal ']'], r.bumpSkip) else (items, r) else (items, r)

def openClass (r : Reader) : Option ((Bool × List ClassExpr) × Reader) := do
  let (negated, r) ← some (readNegation r)
  let (items, r) ← some (leadingHyphens (r.rest.length + 1) [] r)
  let (items, r) ← some (readFirstBracket items r)
  return ((negated, items), r)

private theorem openClass_skip (r : Reader) :
    openClass r.skip = some (((readClassOpen r).1, (readClassOpen r).2.1), (readClassOpen r).2.2) := by
  have hbracket : ∀ (negated : Bool) (items : List ClassExpr) (s : Reader),
      (if (items.isEmpty && s.peek? = some ']') = true then (negated, [ClassExpr.literal ']'], s.bumpSkip)
        else (negated, items, s)) = (negated, (readFirstBracket items s).1, (readFirstBracket items s).2) := by
    intro negated items s
    rw [readFirstBracket]
    by_cases hempty : items.isEmpty = true
    · by_cases hpeek : s.peek? = some ']'
      · rw [if_pos hempty, if_pos hpeek, if_pos (by simp [hempty, hpeek])]
      · rw [if_pos hempty, if_neg hpeek, if_neg (by simp [hpeek])]
    · rw [if_neg hempty, if_neg (by simp [hempty])]
  have hopen := hbracket (readNegation r.skip).1
    (leadingHyphens ((readNegation r.skip).2.rest.length + 1) [] (readNegation r.skip).2).1
    (leadingHyphens ((readNegation r.skip).2.rest.length + 1) [] (readNegation r.skip).2).2
  have heq : readClassOpen r = _ := hopen
  rw [heq]
  rfl

theorem local_openClass : Local openClass := by
  have hnegation : Local fun r => some (readNegation r) := by
    simp only [readNegation, apply_ite some]
    exact .ite_peek (F := fun r => some (true, r.bumpSkip)) (by decide) (by decide) (Local.pure true).skip
      (.pure false)
  have hbracket : ∀ items, Local fun r => some (readFirstBracket items r) := by
    intro items
    simp only [readFirstBracket, apply_ite some]
    exact .ite (.ite_peek (F := fun r => some ([ClassExpr.literal ']'], r.bumpSkip)) (by decide) (by decide)
      (Local.pure [ClassExpr.literal ']']).skip (.pure items)) (.pure items)
  refine hnegation.bind fun negated => ?_
  exact local_leadingHyphens.bind fun items => (hbracket items).bind fun items => .pure (negated, items)

def classOperator? : Char → Option ClassOperator
  | '&' => some .intersection
  | '-' => some .difference
  | '~' => some .symmetricDifference
  | _ => none

section ClassBody

variable {fuel : Nat} {waiting : Option (ClassOperator × ClassExpr)} {items : List ClassExpr} {r s s' : Reader}

private theorem readClassBody_end (h : r.skip.rest = []) : readClassBody (fuel + 1) waiting items r = none := by
  rw [readClassBody]
  dsimp only
  rw [h]

theorem readClassBody_close (h : r.skip = push s ']') :
    readClassBody (fuel + 1) waiting items r = some (joinClass waiting (.ofItems items.reverse), s) := by
  rw [readClassBody]
  dsimp only
  rw [h]
  rfl

theorem readClassBody_posix {item : ClassExpr} (h : r.skip = push s '[')
    (hposix : readPosixClass? (push s '[') = some (item, s')) :
    readClassBody (fuel + 1) waiting items r = readClassBody fuel waiting (item :: items) s' := by
  have hrest : (push s '[').rest = '[' :: s.rest := rfl
  rw [readClassBody]
  dsimp only
  rw [h, hrest, hposix]
  rfl

theorem readClassBody_nested (h : r.skip = push s '[') (hposix : readPosixClass? (push s '[') = none) :
    readClassBody (fuel + 1) waiting items r = (do
      let ((negated, inner), s) ← openClass s.skip
      let (body, s) ← readClassBody fuel none inner s
      readClassBody fuel waiting (.bracketed negated body :: items) s) := by
  have hrest : (push s '[').rest = '[' :: s.rest := rfl
  rw [readClassBody]
  dsimp only
  rw [h, hrest, hposix, openClass_skip]
  rfl

theorem readClassBody_operator {c : Char} {o : ClassOperator} (h : r.skip = push s c)
    (ho : classOperator? c = some o) (hpeek : s.peek? = some c) :
    readClassBody (fuel + 1) waiting items r =
      readClassBody fuel (some (o, joinClass waiting (.ofItems items.reverse))) [] s.bump := by
  obtain ⟨rest, hs⟩ := List.head?_eq_some_iff.1 hpeek
  have hrest : (push s c).rest = c :: c :: rest := congrArg _ hs
  have hbump : s.bump = { s with rest } := by rw [bump, hs]; rfl
  rw [readClassBody, hbump]
  dsimp only
  rw [h, hrest]
  unfold classOperator? at ho
  split at ho <;> cases ho <;> rfl

theorem readClassBody_member {c : Char} (h : r.skip = push s c) (hclose : c ≠ ']') (hopen : c ≠ '[')
    (hsingle : s.peek? = some c → classOperator? c = none) :
    readClassBody (fuel + 1) waiting items r = (do
      let (item, s) ← readClassRange (push s c)
      readClassBody fuel waiting (item :: items) s) := by
  have hdouble : ∀ {d rest}, (push s c).rest = d :: d :: rest → classOperator? d = none := by
    intro d rest heq
    obtain ⟨rfl, hrest⟩ := List.cons.inj heq
    exact hsingle (by rw [peek?, hrest]; rfl)
  rw [readClassBody]
  dsimp only
  rw [h]
  split
  · rename_i heq
    exact absurd heq (List.cons_ne_nil _ _)
  · rename_i heq
    exact absurd (List.cons.inj heq).1 hclose
  · rename_i heq
    exact absurd (List.cons.inj heq).1 hopen
  · rename_i heq
    cases hdouble heq
  · rename_i heq
    cases hdouble heq
  · rename_i heq
    cases hdouble heq
  · rfl

/-- How a class is read: up to its closing bracket, or one step further and then the rest. -/
inductive ClassStep (fuel : Nat) (waiting : Option (ClassOperator × ClassExpr)) (items : List ClassExpr) (r : Reader)
    (x : ClassExpr) (s : Reader) : Prop
  | close (ht : r.skip = push s ']') (hx : x = joinClass waiting (.ofItems items.reverse))
  | posix {t u : Reader} {item : ClassExpr} (ht : r.skip = push t '[')
      (hitem : readPosixClass? (push t '[') = some (item, u))
      (hrest : readClassBody fuel waiting (item :: items) u = some (x, s))
  | nested {t u v : Reader} {negated : Bool} {inner : List ClassExpr} {body : ClassExpr} (ht : r.skip = push t '[')
      (hposix : readPosixClass? (push t '[') = none) (hopen : openClass t.skip = some ((negated, inner), u))
      (hbody : readClassBody fuel none inner u = some (body, v))
      (hrest : readClassBody fuel waiting (.bracketed negated body :: items) v = some (x, s))
  | operator {c : Char} {t : Reader} {o : ClassOperator} (ht : r.skip = push t c) (ho : classOperator? c = some o)
      (hpeek : t.peek? = some c)
      (hrest : readClassBody fuel (some (o, joinClass waiting (.ofItems items.reverse))) [] t.bump = some (x, s))
  | member {c : Char} {t u : Reader} {item : ClassExpr} (ht : r.skip = push t c) (hclose : c ≠ ']') (hopen : c ≠ '[')
      (hsingle : t.peek? = some c → classOperator? c = none) (hitem : readClassRange (push t c) = some (item, u))
      (hrest : readClassBody fuel waiting (item :: items) u = some (x, s))

theorem classStep {x : ClassExpr} (h : readClassBody (fuel + 1) waiting items r = some (x, s)) :
    ClassStep fuel waiting items r x s := by
  rcases r.skip.eq_nil_or_push with hend | ⟨c, t, ht⟩
  · rw [readClassBody_end hend] at h
    cases h
  by_cases hclose : c = ']'
  · obtain rfl := hclose
    rw [readClassBody_close ht] at h
    cases h
    exact .close ht rfl
  by_cases hopen : c = '['
  · obtain rfl := hopen
    cases hposix : readPosixClass? (push t '[') with
    | some p =>
        rw [readClassBody_posix ht hposix] at h
        exact .posix ht hposix h
    | none =>
        rw [readClassBody_nested ht hposix] at h
        obtain ⟨⟨⟨negated, inner⟩, u⟩, hu, h⟩ := Option.bind_eq_some_iff.1 h
        obtain ⟨⟨body, v⟩, hv, h⟩ := Option.bind_eq_some_iff.1 h
        exact .nested ht hposix hu hv h
  by_cases hdouble : t.peek? = some c ∧ (classOperator? c).isSome
  · obtain ⟨hpeek, hoperator⟩ := hdouble
    obtain ⟨o, ho⟩ := Option.isSome_iff_exists.1 hoperator
    rw [readClassBody_operator ht ho hpeek] at h
    exact .operator ht ho hpeek h
  · have hsingle : t.peek? = some c → classOperator? c = none := fun hpeek =>
      Option.not_isSome_iff_eq_none.1 fun ho => hdouble ⟨hpeek, ho⟩
    rw [readClassBody_member ht hclose hopen hsingle] at h
    obtain ⟨⟨item, u⟩, hu, h⟩ := Option.bind_eq_some_iff.1 h
    exact .member ht hclose hopen hsingle hu h

/-- A class is closed by a bracket in the text. -/
theorem readClassBody_follows {x : ClassExpr} (h : readClassBody fuel waiting items r = some (x, s)) :
    (s.push ']').Follows r := by
  induction fuel generalizing waiting items r x s with
  | zero => cases h
  | succ fuel ih =>
      cases classStep h with
      | close ht => exact .of_skip ht
      | posix ht hitem hrest =>
          exact (((ih hrest).trans (readPosixClass?_extend hitem).1).trans (.push _ _)).trans (.of_skip ht)
      | nested ht hposix hopen hbody hrest =>
          have hinner := (ih hbody).trans ((local_openClass.follows hopen).trans (.skip _))
          exact ((((ih hrest).trans (.push _ ']')).trans hinner).trans (.push _ _)).trans (.of_skip ht)
      | @operator c t o ht ho hpeek hrest =>
          rcases t.eq_nil_or_push with hnil | ⟨d, u, rfl⟩
          · exact absurd hnil (ne_nil_of_peek? hpeek)
          · exact (((ih hrest).trans (.push u d)).trans (.push _ c)).trans (.of_skip ht)
      | member ht hclose hopen hsingle hitem hrest =>
          exact ((ih hrest).trans (local_readClassRange.follows hitem)).trans (.of_skip ht)

private theorem readClassBody_extend {x : ClassExpr} (h : readClassBody fuel waiting items r = some (x, s))
    (more : List Char) (names : List (List Char)) {n : Nat} (hn : fuel ≤ n) :
    readClassBody n waiting items (r.extend more names) = some (x, s.extend more names) := by
  induction fuel generalizing waiting items r x s n with
  | zero => cases h
  | succ fuel ih =>
      obtain ⟨n, rfl⟩ : ∃ k, n = k + 1 := ⟨n - 1, by omega⟩
      have hn' : fuel ≤ n := Nat.le_of_succ_le_succ hn
      have hapart : ∀ {waiting items x s u}, readClassBody fuel waiting items u = some (x, s) → u.Apart more := fun h =>
        apart_of_ne_nil ((readClassBody_follows h).ne_nil (List.cons_ne_nil _ _))
      cases classStep h with
      | close ht hx => rw [readClassBody_close (skip_extend_of_push ht more names), hx]
      | posix ht hitem hrest =>
          rw [readClassBody_posix (skip_extend_of_push ht more names) ((readPosixClass?_extend hitem).2 more names)]
          exact ih hrest hn'
      | nested ht hposix hopen hbody hrest =>
          have hinner := (readClassBody_follows hbody).trans ((local_openClass.follows hopen).trans (.skip _))
          have hnone := readPosixClass?_extend_none hposix (hinner.suffix.subset List.mem_cons_self) more names
          obtain ⟨hstart, hread⟩ := local_openClass.extend names hopen (hapart hbody)
          rw [readClassBody_nested (skip_extend_of_push ht more names) hnone, hstart.skip_extend, hread]
          simp only [Option.bind_eq_bind, Option.bind_some, ih hbody hn']
          exact ih hrest hn'
      | @operator c t o ht ho hpeek hrest =>
          rcases t.eq_nil_or_push with hnil | ⟨d, u, rfl⟩
          · exact absurd hnil (ne_nil_of_peek? hpeek)
          · rw [readClassBody_operator (skip_extend_of_push ht more names) ho (peek?_extend_of_some hpeek)]
            exact ih hrest hn'
      | @member c t u item ht hclose hopen hsingle hitem hrest =>
          obtain ⟨-, hread⟩ := local_readClassRange.extend names hitem (hapart hrest)
          have hmore : (t.extend more names).peek? = some c → classOperator? c = none := by
            have hfollows := (readClassBody_follows hrest).trans (local_readClassRange.follows hitem)
            have hmem := (List.mem_cons.1 (hfollows.suffix.subset List.mem_cons_self)).resolve_left (Ne.symm hclose)
            rcases t.eq_nil_or_push with hnil | ⟨d, v, rfl⟩
            · rw [hnil] at hmem
              cases hmem
            · exact hsingle
          rw [readClassBody_member (skip_extend_of_push ht more names) hclose hopen hmore, ← extend_push, hread]
          exact ih hrest hn'

theorem readClass_eq : readClass = fun r => (do
    let ((negated, items), r) ← openClass r.skip
    let (body, r) ← readClassBody (r.rest.length + 1) none items r
    return (.bracketed negated body, r)) := by
  funext r
  rw [readClass, openClass_skip]
  rfl

theorem local_readClass : Local readClass := by
  have hbody : ∀ items, Local fun r => readClassBody (r.rest.length + 1) none items r := fun items =>
    { follows := fun {r x s} h => (Follows.push s _).trans (readClassBody_follows h)
      extend := fun {r x s more} names h _ => by
        refine ⟨apart_of_ne_nil ((readClassBody_follows h).ne_nil (List.cons_ne_nil _ _)),
          readClassBody_extend h more names ?_⟩
        rw [rest_extend, List.length_append]
        omega }
  rw [readClass_eq]
  exact Local.skip (local_openClass.bind fun p => (hbody p.2).bind fun body => .pure (Expr.bracketed p.1 body))

end ClassBody

end CorpusSearch.Regex
