import CorpusSearch.Regex.Reader
import Mathlib.Tactic.Common

/-!
Reading that looks at the start of a text only. Such reading gives the same when the text goes on, if some of the text
is left, or if white space counts and the text goes on with a colon or a closing parenthesis, which nothing that is
complete takes up. Main statement: what is put together from such steps is read in this way too, and so are runs of
characters other than these two.
-/

set_option autoImplicit false

namespace CorpusSearch.Regex

namespace Reader

/-- The reader of a text that goes on, with other groups named before. -/
def extend (r : Reader) (more : List Char) (names : List (List Char)) : Reader :=
  ⟨r.rest ++ more, r.ignoreWhitespace, names⟩

def push (r : Reader) (c : Char) : Reader := { r with rest := c :: r.rest }

/-- Whether more text cannot be taken for a part of what has been read. -/
def Apart (r : Reader) (more : List Char) : Prop :=
  r.rest ≠ [] ∨ r.ignoreWhitespace = false ∧ (more.head? = some ':' ∨ more.head? = some ')')

variable {r : Reader} {more : List Char} {names : List (List Char)} {c : Char}

@[simp] theorem rest_extend : (r.extend more names).rest = r.rest ++ more := rfl

@[simp] theorem ignoreWhitespace_extend : (r.extend more names).ignoreWhitespace = r.ignoreWhitespace := rfl

@[simp] theorem peek?_push : (r.push c).peek? = some c := rfl

@[simp] theorem bump_push : (r.push c).bump = r := rfl

@[simp] theorem bumpSkip_push : (r.push c).bumpSkip = r.skip := rfl

@[simp] theorem extend_self (r : Reader) : r.extend [] r.groupNames = r := by
  rw [extend, List.append_nil]

theorem extend_push : (r.push c).extend more names = (r.extend more names).push c := rfl

theorem apart_of_ne_nil (h : r.rest ≠ []) : r.Apart more := .inl h

theorem ne_nil_of_peek? (h : r.peek? = some c) : r.rest ≠ [] := by
  intro hnil
  rw [peek?, hnil] at h
  cases h

theorem peek?_extend_of_some (h : r.peek? = some c) : (r.extend more names).peek? = some c := by
  rw [peek?] at h
  rw [peek?, rest_extend, List.head?_append, h]
  rfl

theorem apart_push : (r.push c).Apart more := .inl (List.cons_ne_nil c r.rest)

/-- A reader at its end, or one with a character before it. -/
theorem eq_nil_or_push (r : Reader) : r.rest = [] ∨ ∃ c s, r = push s c := by
  obtain ⟨rest, ignore, names⟩ := r
  cases rest with
  | nil => exact .inl rfl
  | cons c rest => exact .inr ⟨c, ⟨rest, ignore, names⟩, rfl⟩

theorem Apart.peek?_extend_ne (h : r.Apart more) (hnil : r.rest = []) {d : Char} (hcolon : d ≠ ':')
    (hclose : d ≠ ')') : (r.extend more names).peek? ≠ some d := by
  rw [peek?, rest_extend, hnil, List.nil_append]
  rcases h.resolve_left (absurd hnil) with ⟨-, hhead | hhead⟩
  · rw [hhead]
    exact fun heq => hcolon (Option.some.inj heq).symm
  · rw [hhead]
    exact fun heq => hclose (Option.some.inj heq).symm

/-! ### White space -/

theorem dropBlank_suffix (comment : Bool) (text : List Char) : dropBlank comment text <:+ text := by
  induction text generalizing comment with
  | nil => exact List.suffix_rfl
  | cons c text ih =>
      have hlater : ∀ comment, dropBlank comment text <:+ c :: text := fun comment =>
        (ih comment).trans (List.suffix_cons c text)
      rw [dropBlank]
      split
      · exact hlater _
      · split
        · exact hlater _
        · split
          · exact hlater _
          · exact List.suffix_rfl

private theorem dropBlank_append {comment : Bool} {text : List Char} (h : dropBlank comment text ≠ [])
    (more : List Char) : dropBlank comment (text ++ more) = dropBlank comment text ++ more := by
  induction text generalizing comment with
  | nil => exact absurd rfl h
  | cons c text ih =>
      rw [List.cons_append, dropBlank, dropBlank]
      rw [dropBlank] at h
      split
      · rename_i hcomment
        rw [if_pos hcomment] at h
        exact ih h
      · rename_i hcomment
        rw [if_neg hcomment] at h
        split
        · rename_i hblank
          rw [if_pos hblank] at h
          exact ih h
        · rename_i hblank
          rw [if_neg hblank] at h
          split
          · rename_i hsign
            rw [if_pos hsign] at h
            exact ih h
          · rfl

/-- A reader of what another one has still to read, with the same rule for white space and no names more. -/
structure Follows (s r : Reader) : Prop where
  suffix : s.rest <:+ r.rest
  ignoreWhitespace : s.ignoreWhitespace = r.ignoreWhitespace
  groupNames : s.groupNames = r.groupNames

namespace Follows

variable {s t : Reader}

theorem refl (r : Reader) : r.Follows r := ⟨List.suffix_rfl, rfl, rfl⟩

theorem trans (h : t.Follows s) (h' : s.Follows r) : t.Follows r :=
  ⟨h.suffix.trans h'.suffix, h.ignoreWhitespace.trans h'.ignoreWhitespace, h.groupNames.trans h'.groupNames⟩

theorem push (r : Reader) (c : Char) : r.Follows (r.push c) := ⟨List.suffix_cons c r.rest, rfl, rfl⟩

theorem skip (r : Reader) : r.skip.Follows r := by
  rw [Reader.skip]
  split
  · exact ⟨dropBlank_suffix false r.rest, rfl, rfl⟩
  · exact refl r

theorem ne_nil (h : s.Follows r) (hs : s.rest ≠ []) : r.rest ≠ [] := by
  intro hnil
  have hsuffix := h.suffix
  rw [hnil] at hsuffix
  exact hs (List.suffix_nil.1 hsuffix)

theorem of_skip {c : Char} (h : r.skip = s.push c) : (s.push c).Follows r := h ▸ .skip r

end Follows

theorem skip_eq_self (h : r.ignoreWhitespace = false) : r.skip = r := by rw [skip, h, if_neg Bool.false_ne_true]

theorem Apart.of_skip (h : r.skip.Apart more) : r.Apart more := by
  rw [skip] at h
  split at h
  · rename_i hignore
    rcases h with hrest | ⟨hnone, -⟩
    · refine .inl fun hnil => hrest ?_
      show dropBlank false r.rest = []
      rw [hnil]
      rfl
    · rw [hignore] at hnone
      cases hnone
  · exact h

theorem Apart.skip_extend (h : r.skip.Apart more) : (r.extend more names).skip = r.skip.extend more names := by
  rw [skip, skip, ignoreWhitespace_extend]
  rw [skip] at h
  split at h
  · rename_i hignore
    rw [if_pos hignore, if_pos hignore]
    rcases h with hrest | ⟨hnone, -⟩
    · exact congrArg (fun rest => (⟨rest, r.ignoreWhitespace, names⟩ : Reader)) (dropBlank_append hrest more)
    · rw [hignore] at hnone
      cases hnone
  · rename_i hignore
    rw [if_neg hignore, if_neg hignore]

/-- A reader stands in front of the same character when its text goes on. -/
theorem skip_extend_of_push {r s : Reader} {c : Char} (h : r.skip = push s c) (more : List Char)
    (names : List (List Char)) : (r.extend more names).skip = push (s.extend more names) c := by
  have hapart : r.skip.Apart more := h ▸ apart_push
  rw [hapart.skip_extend, h, extend_push]

end Reader

open Reader

variable {α β : Type}

/-- What is read stands at the start of the text, and is read in the same way when the text goes on. -/
structure Local (F : Reader → Option (α × Reader)) : Prop where
  follows {r : Reader} {x : α} {r' : Reader} (h : F r = some (x, r')) : r'.Follows r
  extend {r : Reader} {x : α} {r' : Reader} {more : List Char} (names : List (List Char)) (h : F r = some (x, r'))
    (hapart : r'.Apart more) : r.Apart more ∧ F (r.extend more names) = some (x, r'.extend more names)

namespace Local

variable {F G : Reader → Option (α × Reader)}

theorem pure (x : α) : Local fun r => some (x, r) where
  follows h := by
    cases h
    exact .refl _
  extend names h hapart := by
    cases h
    exact ⟨hapart, rfl⟩

theorem none : Local fun _ => (Option.none : Option (α × Reader)) where
  follows h := nomatch h
  extend _ h := nomatch h

theorem bind (hF : Local F) {K : α × Reader → Option (β × Reader)} (hK : ∀ x, Local fun r => K (x, r)) :
    Local fun r => F r >>= K where
  follows h := by
    obtain ⟨⟨x, s⟩, hs, h⟩ := Option.bind_eq_some_iff.1 h
    exact ((hK x).follows h).trans (hF.follows hs)
  extend names h hapart := by
    obtain ⟨⟨x, s⟩, hs, h⟩ := Option.bind_eq_some_iff.1 h
    obtain ⟨hmid, hlater⟩ := (hK x).extend names h hapart
    obtain ⟨hstart, hfirst⟩ := hF.extend names hs hmid
    refine ⟨hstart, ?_⟩
    rw [hfirst]
    exact hlater

theorem map (hF : Local F) (f : α → β) :
    Local fun r => (F r).map fun p => (f p.1, p.2) := by
  have hmap : (fun r => (F r).map fun p => (f p.1, p.2)) = fun r => F r >>= fun p => some (f p.1, p.2) := by
    funext r
    cases F r <;> rfl
  rw [hmap]
  exact hF.bind fun x => .pure (f x)

/-- A step that reads nothing. -/
theorem option_bind (o : Option β) {K : β → Reader → Option (α × Reader)} (hK : ∀ b, Local (K b)) :
    Local fun r => o >>= fun b => K b r := by
  cases o with
  | none => exact none
  | some b => exact hK b

theorem ite {P : Prop} [Decidable P] (hF : Local F) (hG : Local G) : Local fun r => if P then F r else G r := by
  by_cases hP : P
  · simp only [if_pos hP]
    exact hF
  · simp only [if_neg hP]
    exact hG

/-- A step that always succeeds. -/
theorem run {g : Reader → β × Reader} (hg : Local fun r => some (g r)) {K : β × Reader → Option (α × Reader)}
    (hK : ∀ b, Local fun r => K (b, r)) : Local fun r => K (g r) := hg.bind hK

theorem skip (hF : Local F) : Local fun r => F r.skip where
  follows h := (hF.follows h).trans (.skip _)
  extend names h hapart := by
    obtain ⟨hmid, hlater⟩ := hF.extend names h hapart
    refine ⟨hmid.of_skip, ?_⟩
    rw [hmid.skip_extend]
    exact hlater

/-- Reading that fails at the end depends on the first character and what follows it. -/
theorem of_push (hnil : ∀ r : Reader, r.rest = [] → F r = .none) (hpush : ∀ c, Local fun r => F (r.push c)) :
    Local F where
  follows {r x r'} h := by
    rcases r.eq_nil_or_push with hrest | ⟨c, s, rfl⟩
    · rw [hnil r hrest] at h
      cases h
    · exact ((hpush c).follows h).trans (.push s c)
  extend {r x r' more} names h hapart := by
    rcases r.eq_nil_or_push with hrest | ⟨c, s, rfl⟩
    · rw [hnil r hrest] at h
      cases h
    · exact ⟨apart_push, ((hpush c).extend names h hapart).2⟩

/-- A choice by the next character, if that is not a colon or a closing parenthesis. -/
theorem ite_peek {d : Char} (hcolon : d ≠ ':') (hclose : d ≠ ')') (hF : Local fun r => F (r.push d)) (hG : Local G) :
    Local fun r => if r.peek? = some d then F r else G r where
  follows {r x r'} h := by
    split at h
    · rename_i hpeek
      rcases r.eq_nil_or_push with hrest | ⟨c, s, rfl⟩
      · rw [peek?, hrest] at hpeek
        cases hpeek
      · obtain rfl : c = d := Option.some.inj hpeek
        exact (hF.follows h).trans (.push s c)
    · exact hG.follows h
  extend {r x r' more} names h hapart := by
    rcases r.eq_nil_or_push with hrest | ⟨c, s, rfl⟩
    · have hend : r.peek? = .none := by rw [peek?, hrest, List.head?_nil]
      rw [hend, if_neg nofun] at h
      obtain ⟨hstart, hlater⟩ := hG.extend names h hapart
      rw [if_neg (hstart.peek?_extend_ne hrest hcolon hclose)]
      exact ⟨hstart, hlater⟩
    · have hpeek : ((push s c).extend more names).peek? = (push s c).peek? := rfl
      rw [hpeek]
      by_cases hc : (push s c).peek? = some d
      · rw [if_pos hc] at h ⊢
        obtain rfl : c = d := Option.some.inj hc
        exact ⟨apart_push, (hF.extend names h hapart).2⟩
      · rw [if_neg hc] at h ⊢
        exact hG.extend names h hapart

/-- Fuel for all of the text. -/
theorem of_fuel {F : Nat → Reader → Option (α × Reader)} (hF : ∀ n, Local (F n))
    (hmono : ∀ n r x, F n r = some x → F (n + 1) r = some x) : Local fun r => F (r.rest.length + 1) r where
  follows h := (hF _).follows h
  extend {r x r' more} names h hapart := by
    have hmore : ∀ n k r x, F n r = some x → F (n + k) r = some x := by
      intro n k r x h
      induction k with
      | zero => exact h
      | succ k ih => exact hmono _ r x ih
    obtain ⟨hstart, hlater⟩ := (hF _).extend names h hapart
    have hlength : (r.extend more names).rest.length + 1 = r.rest.length + 1 + more.length := by
      rw [rest_extend, List.length_append]
      omega
    refine ⟨hstart, ?_⟩
    rw [hlength]
    exact hmore _ _ _ _ hlater

end Local

/-! ### Runs of characters -/

section Runs

variable {γ : Type}

/-- Takes characters while they pass a test, with what is ignored after each. -/
def takeRun (p : Char → Bool) (f : Char → β) (finish : List β → γ) : Nat → List β → Reader → γ × Reader
  | 0, taken, r => (finish taken, r)
  | fuel + 1, taken, r =>
    match r.peek? with
    | some c => if p c then takeRun p f finish fuel (f c :: taken) r.bumpSkip else (finish taken, r)
    | none => (finish taken, r)

variable {p : Char → Bool} {f : Char → β} {finish : List β → γ} {r r' : Reader} {c : Char}

theorem takeRun_of_end (h : r.rest = []) (fuel : Nat) (taken : List β) :
    takeRun p f finish fuel taken r = (finish taken, r) := by
  cases fuel with
  | zero => rfl
  | succ fuel => rw [takeRun, peek?, h, List.head?_nil]

theorem takeRun_of_pos (h : p c = true) (fuel : Nat) (taken : List β) :
    takeRun p f finish (fuel + 1) taken (r.push c) = takeRun p f finish fuel (f c :: taken) r.skip := if_pos h

theorem takeRun_of_neg (h : r.peek? = some c) (hc : ¬p c = true) (fuel : Nat) (taken : List β) :
    takeRun p f finish fuel taken r = (finish taken, r) := by
  cases fuel with
  | zero => rfl
  | succ fuel =>
      rw [takeRun, h]
      exact if_neg hc

private theorem takeRun_extend (hcolon : ¬p ':' = true) (hclose : ¬p ')' = true) {n m : Nat} {taken : List β} {x : γ}
    {more : List Char} (names : List (List Char)) (hlength : r.rest.length < n) (hnm : n ≤ m)
    (h : takeRun p f finish n taken r = (x, r')) (hapart : r'.Apart more) :
    r.Apart more ∧ takeRun p f finish m taken (r.extend more names) = (x, r'.extend more names) := by
  induction n generalizing m r taken with
  | zero => omega
  | succ n ih =>
      obtain ⟨m, rfl⟩ : ∃ k, m = k + 1 := ⟨m - 1, by omega⟩
      rcases r.eq_nil_or_push with hrest | ⟨c, s, rfl⟩
      · have hpeek : (r.extend more names).peek? = more.head? := by
          rw [peek?, rest_extend, hrest, List.nil_append]
        rw [takeRun_of_end hrest] at h
        cases h
        refine ⟨hapart, ?_⟩
        rcases hapart.resolve_left (absurd hrest) with ⟨-, hhead | hhead⟩
        · exact takeRun_of_neg (hpeek.trans hhead) hcolon _ _
        · exact takeRun_of_neg (hpeek.trans hhead) hclose _ _
      · refine ⟨apart_push, ?_⟩
        by_cases hc : p c = true
        · rw [takeRun_of_pos hc] at h
          have hshorter : s.skip.rest.length < n :=
            Nat.lt_of_le_of_lt (Follows.skip s).suffix.length_le (Nat.lt_of_succ_lt_succ hlength)
          obtain ⟨hmid, hlater⟩ := ih hshorter (Nat.le_of_succ_le_succ hnm) h
          rw [extend_push, takeRun_of_pos hc, hmid.skip_extend]
          exact hlater
        · rw [takeRun_of_neg rfl hc] at h
          cases h
          exact takeRun_of_neg rfl hc _ _

theorem takeRun_follows (fuel : Nat) (taken : List β) (r : Reader) :
    (takeRun p f finish fuel taken r).2.Follows r := by
  induction fuel generalizing taken r with
  | zero => exact .refl r
  | succ fuel ih =>
      rcases r.eq_nil_or_push with hrest | ⟨c, s, rfl⟩
      · rw [takeRun_of_end hrest]
        exact .refl r
      · by_cases hc : p c = true
        · rw [takeRun_of_pos hc]
          exact ((ih _ _).trans (.skip s)).trans (.push s c)
        · rw [takeRun_of_neg rfl hc]
          exact .refl _

/-- A run of characters that are no colons and no closing parentheses. -/
theorem Local.takeRun (hcolon : ¬p ':' = true) (hclose : ¬p ')' = true) (taken : List β) :
    Local fun r => some (takeRun p f finish (r.rest.length + 1) taken r) where
  follows {r x r'} h := by
    have hfollows : (Regex.takeRun p f finish (r.rest.length + 1) taken r).2.Follows r := takeRun_follows _ _ _
    rwa [Option.some.inj h] at hfollows
  extend {r x r' more} names h hapart := by
    have hlonger : r.rest.length + 1 ≤ (r.extend more names).rest.length + 1 := by
      rw [rest_extend, List.length_append]
      omega
    obtain ⟨hstart, hlater⟩ :=
      takeRun_extend hcolon hclose names (Nat.lt_succ_self _) hlonger (Option.some.inj h) hapart
    exact ⟨hstart, congrArg some hlater⟩

end Runs

theorem boundaryName_eq (fuel : Nat) (name : List Char) (r : Reader) :
    boundaryName fuel name r = takeRun isBoundaryNameChar id List.reverse fuel name r := by
  induction fuel generalizing name r with
  | zero => rfl
  | succ fuel ih =>
      simp only [boundaryName, takeRun, ih]
      cases r.peek? <;> rfl

theorem readDecimal_eq (fuel : Nat) (digits : List Char) (r : Reader) :
    readDecimal fuel digits r = takeRun Char.isDigit id List.reverse fuel digits r := by
  induction fuel generalizing digits r with
  | zero => rfl
  | succ fuel ih =>
      simp only [readDecimal, takeRun, ih]
      cases r.peek? <;> rfl

theorem leadingHyphens_eq (fuel : Nat) (items : List ClassExpr) (r : Reader) :
    leadingHyphens fuel items r = takeRun (fun c => c = '-') .literal id fuel items r := by
  induction fuel generalizing items r with
  | zero => rfl
  | succ fuel ih =>
      rcases r.eq_nil_or_push with hrest | ⟨c, s, rfl⟩
      · rw [takeRun_of_end hrest, leadingHyphens, peek?, hrest, if_neg nofun]
        rfl
      · by_cases hc : c = '-'
        · obtain rfl := hc
          exact ih _ _
        · rw [takeRun_of_neg rfl (by simpa using hc)]
          exact if_neg fun h => hc (Option.some.inj h)

theorem local_boundaryName : Local fun r => some (boundaryName (r.rest.length + 1) [] r) := by
  simp only [boundaryName_eq]
  exact .takeRun (by decide) (by decide) []

theorem local_readDecimal : Local fun r => some (readDecimal (r.rest.length + 1) [] r) := by
  simp only [readDecimal_eq]
  exact .takeRun (by decide) (by decide) []

theorem local_leadingHyphens : Local fun r => some (leadingHyphens (r.rest.length + 1) [] r) := by
  simp only [leadingHyphens_eq]
  exact .takeRun (by decide) (by decide) []

end CorpusSearch.Regex
