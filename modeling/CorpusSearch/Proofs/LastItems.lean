import CorpusSearch.Proofs.ShorterExpressions
import CorpusSearch.Text.Expression

/-!
How the reading of an expression ends. The text up to the last item, or up to the bar before an empty branch, is read
as what comes before it. An item of several characters ends in a bracket, a brace, a question mark or a digit, or else
is an escape, so that a last dollar sign or backslash is an item of its own or follows a backslash. Main statement: a
text that is an expression does not end in a backslash that nothing escapes.
-/

set_option autoImplicit false

namespace CorpusSearch.Regex

open Reader

/-! ### The last step -/

private theorem Reader.skip_of_end {r : Reader} (h : r.rest = []) : r.skip = r := by
  obtain ⟨rest, ignore, names⟩ := r
  obtain rfl : rest = [] := h
  cases ignore <;> rfl

section LastSteps

variable {n : Nat} {branches parts : List Expr} {r s : Reader} {e : Expr}

private theorem eq_of_readExpr_end (h : readExpr n branches parts r = some (e, s)) (hr : r.rest = []) :
    e = joinBranches branches parts ∧ s = r := by
  obtain ⟨n, rfl⟩ := exists_fuel h
  have hskip := skip_of_end hr
  rw [readExpr_end (by rw [hskip, hr]), hskip] at h
  obtain ⟨he, hs⟩ := Prod.mk.inj (Option.some.inj h)
  exact ⟨he.symm, hs.symm⟩

/-- The last step of reading an expression: what it takes, from a reader that stands before it. -/
inductive LastStep (branches parts : List Expr) (before : Reader) (tail : List Char) (e : Expr) (s : Reader) : Prop
  | bar (hbefore : before = s) (htail : tail = ['|']) (he : e = joinBranches (.sequence parts.reverse :: branches) [])
  | item {n : Nat} {c : Char} {t : Reader} {item : Item} {later : List Expr} (hbefore : before = { t with rest := [] })
      (htail : tail = c :: t.rest) (hitem : readItem n c t = some (item, s)) (hlater : item.addTo? parts = some later)
      (he : e = joinBranches branches later)

private theorem exists_lastStep (h : readExpr n branches parts r = some (e, s)) (hs : s.rest = [])
    (hignore : s.ignoreWhitespace = false) (hr : r.rest ≠ []) : ∃ tail before after branches' parts',
      r = before.append tail ∧ readExpr n branches parts before = some (joinBranches branches' parts', after) ∧
        LastStep branches' parts' after tail e s := by
  induction n generalizing branches parts r with
  | zero => cases h
  | succ n ih =>
      have hlast : ∀ {c : Char} {t : Reader}, r.skip = push t c →
          LastStep branches parts { t with rest := [] } (c :: t.rest) e s →
          ∃ tail before after branches' parts', r = before.append tail ∧
            readExpr (n + 1) branches parts before = some (joinBranches branches' parts', after) ∧
            LastStep branches' parts' after tail e s := by
        intro c t ht hstep
        have hend : push t c = append { t with rest := [] } (c :: t.rest) := rfl
        have hsuffix : (append { t with rest := [] } (c :: t.rest)).rest <:+ r.rest := (Follows.of_skip ht).suffix
        obtain ⟨before, rfl, -⟩ := exists_append hsuffix
        have hskip := skip_of_append (ht.trans hend)
        refine ⟨c :: t.rest, before, _, branches, parts, rfl, readExpr_end (by rw [hskip]), ?_⟩
        rw [hskip]
        exact hstep
      cases readStep h with
      | done hend _ heq =>
          rw [skip_eq_self ((Follows.skip r).ignoreWhitespace ▸ heq ▸ hignore)] at hend
          exact absurd hend hr
      | close _ _ heq =>
          rw [heq] at hs
          cases hs
      | @bar t ht hrest =>
          by_cases hend : t.rest = []
          · obtain ⟨rfl, rfl⟩ := eq_of_readExpr_end hrest hend
            obtain ⟨_, ignore, names⟩ := s
            obtain rfl := hend
            exact hlast ht (.bar rfl rfl rfl)
          · obtain ⟨tail, v, after, branches', parts', rfl, hread, hstep⟩ := ih hrest hend
            obtain ⟨before, rfl, -⟩ := exists_append (u := r) (s := push v '|') (Follows.of_skip ht).suffix
            refine ⟨tail, before, after, branches', parts', rfl, ?_, hstep⟩
            rw [readExpr_bar (skip_push_of_append ht), hread]
      | @item c t u item later ht hclose hbar hitem hlater hrest =>
          by_cases hend : u.rest = []
          · obtain ⟨rfl, rfl⟩ := eq_of_readExpr_end hrest hend
            exact hlast ht (.item rfl rfl hitem hlater rfl)
          · obtain ⟨tail, v, after, branches', parts', rfl, hread, hstep⟩ := ih hrest hend
            obtain ⟨w, rfl, -⟩ := exists_append (readItem_suffix hitem)
            obtain ⟨before, rfl, -⟩ := exists_append (u := r) (s := push w c) (Follows.of_skip ht).suffix
            have hfirst := (shortens_readItem (shortens_readExpr n [] []) c).shorten hitem (seesBrace_of_readExpr hread)
            refine ⟨tail, before, after, branches', parts', rfl, ?_, hstep⟩
            rw [readExpr_of_readItem (skip_push_of_append ht) hclose hbar hfirst hlater, hread]

end LastSteps

/-! ### The last character -/

/-- Whether an item of several characters, if it is no escape of one character, can end in a character. -/
def endsItem (c : Char) : Bool := [')', ']', '\x7d', '?'].contains c || (Text.hexDigit? c).isSome

def Reader.EndsItem (r : Reader) : Prop := ∃ c, endsItem c = true ∧ [c] <:+ r.rest

section EndsItem

variable {n k : Nat} {c : Char} {r s t : Reader}

private theorem Reader.EndsItem.of_suffix (h : s.EndsItem) (hsuffix : s.rest <:+ r.rest) : r.EndsItem := by
  obtain ⟨c, hc, hlast⟩ := h
  exact ⟨c, hc, hlast.trans hsuffix⟩

private theorem endsItem_of_suffix (hc : endsItem c = true) (h : c :: s.rest <:+ r.rest) (hs : s.rest = []) :
    r.EndsItem :=
  ⟨c, hc, hs ▸ h⟩

private theorem untilBrace_suffix {body x : List Char} (h : untilBrace n body r = some (x, s)) :
    '\x7d' :: s.rest <:+ r.rest := by
  induction n generalizing body r with
  | zero => cases h
  | succ n ih =>
      rcases r.eq_nil_or_push with hrest | ⟨c, t, rfl⟩
      · rw [untilBrace_end _ _ hrest] at h
        cases h
      · by_cases hc : c = '\x7d'
        · obtain rfl := hc
          obtain ⟨-, rfl⟩ := Prod.mk.inj (Option.some.inj (h : some (body.reverse, t) = _))
          exact List.suffix_rfl
        · rw [untilBrace_push hc] at h
          exact (ih h).trans ((Follows.skip t).suffix.trans (List.suffix_cons c t.rest))

private theorem endsItem_of_hexDigits {digits x : List Char} (h : hexDigits (k + 1) digits r = some (x, s))
    (hs : s.rest = []) (hignore : r.ignoreWhitespace = false) : r.EndsItem := by
  induction k generalizing digits r with
  | zero =>
      rcases r.eq_nil_or_push with hrest | ⟨c, t, rfl⟩
      · rw [hexDigits, peek?, hrest] at h
        cases h
      · obtain ⟨value, hvalue, h⟩ := Option.bind_eq_some_iff.1 (h : Text.hexDigit? c >>= _ = _)
        obtain ⟨-, rfl⟩ := Prod.mk.inj (Option.some.inj h)
        rw [bumpSkip_push, skip_eq_self (r := t) hignore] at hs
        refine ⟨c, ?_, ⟨[], congrArg (c :: ·) hs.symm⟩⟩
        rw [endsItem, hvalue, Option.isSome_some, Bool.or_true]
  | succ k ih =>
      rcases r.eq_nil_or_push with hrest | ⟨c, t, rfl⟩
      · rw [hexDigits, peek?, hrest] at h
        cases h
      · obtain ⟨value, -, h⟩ := Option.bind_eq_some_iff.1 (h : Text.hexDigit? c >>= _ = _)
        have hfollows := (Follows.skip t).trans (.push t c)
        exact (ih h (hfollows.ignoreWhitespace.trans hignore)).of_suffix hfollows.suffix

private theorem endsItem_of_readBracedHex {x : Primitive} (h : readBracedHex r = some (x, s)) (hs : s.rest = [])
    (hignore : r.ignoreWhitespace = false) : r.EndsItem := by
  obtain ⟨⟨digits, u⟩, hdigits, h⟩ := Option.bind_eq_some_iff.1 h
  have hplain : u.skip = u := skip_eq_self ((local_untilBrace.follows hdigits).ignoreWhitespace.trans hignore)
  dsimp only at h
  split at h
  · cases h
  · obtain ⟨value, -, h⟩ := Option.bind_eq_some_iff.1 h
    obtain ⟨d, -, h⟩ := Option.bind_eq_some_iff.1 h
    obtain ⟨-, rfl⟩ := Prod.mk.inj (Option.some.inj h)
    exact endsItem_of_suffix (by decide) (untilBrace_suffix hdigits) (hplain ▸ hs)

private theorem endsItem_of_readHex {x : Primitive} (h : readHex (k + 1) (push r c) = some (x, s)) (hs : s.rest = [])
    (hignore : r.ignoreWhitespace = false) : r.EndsItem := by
  rw [readHex_push, skip_eq_self hignore] at h
  split at h
  · rename_i hpeek
    obtain ⟨d, t, rfl⟩ := r.eq_nil_or_push.resolve_left (ne_nil_of_peek? hpeek)
    have hfollows := (Follows.skip t).trans (.push t d)
    exact (endsItem_of_readBracedHex h hs (hfollows.ignoreWhitespace.trans hignore)).of_suffix hfollows.suffix
  · obtain ⟨⟨digits, u⟩, hdigits, h⟩ := Option.bind_eq_some_iff.1 h
    obtain ⟨value, -, h⟩ := Option.bind_eq_some_iff.1 h
    obtain ⟨d, -, h⟩ := Option.bind_eq_some_iff.1 h
    obtain ⟨-, rfl⟩ := Prod.mk.inj (Option.some.inj h)
    exact endsItem_of_hexDigits hdigits hs hignore

private theorem endsItem_of_readBoundaryName {x : Assertion} (h : readBoundaryName r = some (x, s)) (hs : s.rest = []) :
    r.EndsItem := by
  rw [readBoundaryName] at h
  generalize hname : boundaryName (r.rest.length + 1) [] r = p at h
  obtain ⟨name, after⟩ := p
  have hsuffix := (local_boundaryName.follows (congrArg some hname)).suffix
  dsimp only at h
  split at h
  · cases h
  · rename_i hclose
    obtain ⟨kind, -, h⟩ := Option.bind_eq_some_iff.1 h
    obtain ⟨-, rfl⟩ := Prod.mk.inj (Option.some.inj h)
    obtain ⟨rest, hrest⟩ := List.head?_eq_some_iff.1 (not_not.1 hclose)
    rw [hrest] at hsuffix
    rw [bump, hrest] at hs
    obtain rfl : rest = [] := hs
    exact ⟨'\x7d', by decide, hsuffix⟩

private theorem endsItem_of_readBoundary {x : Assertion} (h : readBoundary r = some (x, s)) (hs : s.rest = []) :
    r.rest = [] ∨ r.EndsItem := by
  by_cases hpeek : r.peek? = some '\x7b'
  · obtain ⟨d, t, rfl⟩ := r.eq_nil_or_push.resolve_left (ne_nil_of_peek? hpeek)
    obtain rfl : d = '\x7b' := Option.some.inj hpeek
    rw [readBoundary_push_brace] at h
    obtain ⟨first, -, h⟩ := Option.bind_eq_some_iff.1 h
    split at h
    · obtain ⟨-, rfl⟩ := Prod.mk.inj (Option.some.inj h)
      cases hs
    · exact .inr ((endsItem_of_readBoundaryName h hs).of_suffix
        ((Follows.skip t).suffix.trans (List.suffix_cons _ t.rest)))
  · rw [readBoundary_of_ne hpeek] at h
    obtain ⟨-, rfl⟩ := Prod.mk.inj (Option.some.inj h)
    exact .inl hs

private theorem ends_of_readClassName {negated : Bool} {x : Primitive} (h : readClassName negated r = some (x, s))
    (hs : s.rest = []) (hignore : r.ignoreWhitespace = false) :
    r.EndsItem ∨ ∃ c, r.rest = [c] ∧ c ≠ '\\' ∧ x = .named (.name [c]) negated := by
  rcases r.eq_nil_or_push with hrest | ⟨c, t, rfl⟩
  · rw [readClassName, peek?, hrest] at h
    cases h
  rw [readClassName, peek?_push, Option.bind_eq_bind, Option.bind_some, bumpSkip_push,
    skip_eq_self (r := t) hignore] at h
  split at h
  · obtain ⟨⟨body, u⟩, hbody, h⟩ := Option.bind_eq_some_iff.1 h
    obtain ⟨-, rfl⟩ := Prod.mk.inj (Option.some.inj h)
    exact .inl ((endsItem_of_suffix (by decide) (untilBrace_suffix hbody) hs).of_suffix (List.suffix_cons c t.rest))
  · split at h
    · cases h
    · rename_i hc
      obtain ⟨rfl, rfl⟩ := Prod.mk.inj (Option.some.inj h)
      exact .inr ⟨c, congrArg (c :: ·) hs, hc, rfl⟩

private theorem ends_of_readEscape {x : Primitive} (h : readEscape r = some (x, s)) (hs : s.rest = [])
    (hignore : r.ignoreWhitespace = false) : (∃ c, r.rest = [c]) ∨ r.EndsItem ∨
      ∃ c d negated, r.rest = [c, d] ∧ d ≠ '\\' ∧ x = .named (.name [d]) negated := by
  rcases r.eq_nil_or_push with hrest | ⟨c, t, rfl⟩
  · rw [readEscape, peek?, hrest] at h
    cases h
  have hlater : t.EndsItem → (push t c).EndsItem := fun h => h.of_suffix (List.suffix_cons c t.rest)
  have hnamed : ∀ {negated}, readNamedClass negated (push t c) = some (x, s) → (push t c).EndsItem ∨
      ∃ c' d negated, (push t c).rest = [c', d] ∧ d ≠ '\\' ∧ x = .named (.name [d]) negated := by
    intro negated h
    rw [readNamedClass_push, skip_eq_self (r := t) hignore] at h
    refine (ends_of_readClassName h hs hignore).imp hlater ?_
    rintro ⟨d, hd, hne, hx⟩
    exact ⟨c, d, negated, congrArg (c :: ·) hd, hne, hx⟩
  by_cases hc : c ∈ ['x', 'u', 'U', 'p', 'P', 'b']
  · simp only [List.mem_cons, List.not_mem_nil, or_false] at hc
    rcases hc with rfl | rfl | rfl | rfl | rfl | rfl
    · exact .inr (.inl (hlater (endsItem_of_readHex (k := 1) h hs hignore)))
    · exact .inr (.inl (hlater (endsItem_of_readHex (k := 3) h hs hignore)))
    · exact .inr (.inl (hlater (endsItem_of_readHex (k := 7) h hs hignore)))
    · exact .inr (hnamed h)
    · exact .inr (hnamed h)
    · obtain ⟨⟨kind, u⟩, hkind, h⟩ := Option.bind_eq_some_iff.1 (h : readBoundary t >>= _ = _)
      obtain ⟨-, rfl⟩ := Prod.mk.inj (Option.some.inj h)
      rcases endsItem_of_readBoundary hkind hs with hend | hend
      · exact .inl ⟨'b', congrArg ('b' :: ·) hend⟩
      · exact .inr (.inl (hlater hend))
  · rw [readEscape_push hc] at h
    obtain ⟨p, -, heq⟩ := Option.map_eq_some_iff.1 h
    obtain ⟨-, rfl⟩ := Prod.mk.inj heq
    exact .inl ⟨c, congrArg (c :: ·) hs⟩

/-! ### Items -/

private theorem flags_close_of_readOpening {settings : FlagSettings} (h : readOpening r = some (.flags settings, s)) :
    ')' :: s.rest <:+ r.rest := by
  by_cases hpeek : r.skip.peek? = some '?'
  · obtain ⟨d, t, ht⟩ := r.skip.eq_nil_or_push.resolve_left (ne_nil_of_peek? hpeek)
    rw [ht] at hpeek
    obtain rfl : d = '?' := Option.some.inj hpeek
    rw [readOpening_question ht] at h
    have hnamed : ∀ {u : Reader}, readNamedGroup u ≠ some (.flags settings, s) := by
      intro u h
      obtain ⟨v, -, h⟩ := Option.bind_eq_some_iff.1 h
      cases h
    have hflags : readFlagGroup t = some (.flags settings, s) := by
      unfold readQuestion at h
      split at h <;> first | exact h | exact absurd h hnamed | cases h
    obtain ⟨⟨found, after⟩, hread, h⟩ := Option.bind_eq_some_iff.1 hflags
    obtain ⟨hsuffix, c, rest, rfl, rfl | rfl⟩ := readFlags_suffix hread
    · cases h
    · change (if found.isEmpty = true then none else some (Opening.flags found, { t with rest })) = _ at h
      split at h
      · cases h
      · cases h
        exact hsuffix.trans ((List.suffix_cons '?' t.rest).trans (Follows.of_skip ht).suffix)
  · rw [readOpening_plain hpeek] at h
    cases h

private theorem endsItem_of_readGroup {item : Item} (h : readGroup n r = some (item, s)) (hs : s.rest = []) :
    r.EndsItem := by
  obtain ⟨⟨o, inner⟩, hinner, h⟩ := Option.bind_eq_some_iff.1 h
  cases o with
  | flags settings =>
      obtain ⟨-, rfl⟩ := Prod.mk.inj (Option.some.inj h)
      exact endsItem_of_suffix (s := inner) (by decide) (flags_close_of_readOpening hinner) hs
  | group settings =>
      obtain ⟨body, after, rest, hbody, hafter, heq⟩ := exists_of_readBody h
      obtain ⟨-, rfl⟩ := Prod.mk.inj heq
      have hopened : inner.rest <:+ r.rest := shortens_readOpening.suffix hinner
      have hclose := readExpr_suffix hbody
      rw [hafter] at hclose
      exact endsItem_of_suffix (s := ⟨rest, inner.ignoreWhitespace, after.groupNames⟩) (by decide)
        (hclose.trans hopened) hs

private theorem endsItem_of_readClass {x : Expr} (h : readClass r = some (x, s)) (hs : s.rest = []) : r.EndsItem := by
  rw [readClass_eq] at h
  obtain ⟨⟨⟨negated, items⟩, u⟩, hopen, h⟩ := Option.bind_eq_some_iff.1 h
  obtain ⟨⟨body, v⟩, hbody, h⟩ := Option.bind_eq_some_iff.1 h
  obtain ⟨-, rfl⟩ := Prod.mk.inj (Option.some.inj h)
  have hfollows := ((readClassBody_follows hbody).trans (local_openClass.follows hopen)).trans (.skip r)
  exact endsItem_of_suffix (by decide) hfollows.suffix hs

private theorem endsItem_of_readLazy {low : Nat} {high : Option Nat} {item : Item}
    (h : readLazy low high r = some (item, s)) (hs : s.rest = []) : r.rest = [] ∨ r.EndsItem := by
  obtain ⟨-, rfl⟩ := Prod.mk.inj (Option.some.inj h)
  rw [skipLazy] at hs
  split at hs
  · rename_i hpeek
    obtain ⟨d, t, rfl⟩ := r.eq_nil_or_push.resolve_left (ne_nil_of_peek? hpeek)
    obtain rfl : d = '?' := Option.some.inj hpeek
    obtain hs : t.rest = [] := hs
    exact .inr ⟨'?', by decide, [], congrArg (List.cons '?') hs.symm⟩
  · exact .inl hs

private theorem endsItem_of_bumpSkip (hpeek : r.peek? = some '\x7d') (hs : r.bumpSkip.rest = [])
    (hignore : r.ignoreWhitespace = false) : r.EndsItem := by
  obtain ⟨d, t, rfl⟩ := r.eq_nil_or_push.resolve_left (ne_nil_of_peek? hpeek)
  obtain rfl : d = '\x7d' := Option.some.inj hpeek
  rw [bumpSkip_push, skip_eq_self (r := t) hignore] at hs
  exact ⟨'\x7d', by decide, [], congrArg (List.cons '\x7d') hs.symm⟩

private theorem endsItem_of_readHigh {low : Nat} {x : Nat × Option Nat} (h : readHigh low r = some (x, s))
    (hs : s.rest = []) (hignore : r.ignoreWhitespace = false) : r.EndsItem := by
  obtain ⟨⟨high, u⟩, hhigh, h⟩ := Option.bind_eq_some_iff.1 h
  obtain ⟨high, -, h⟩ := Option.bind_eq_some_iff.1 h
  have hfollows := local_readCount.follows hhigh
  split at h
  · rename_i hpeek
    split at h
    · obtain ⟨-, rfl⟩ := Prod.mk.inj (Option.some.inj h)
      exact (endsItem_of_bumpSkip hpeek hs (hfollows.ignoreWhitespace.trans hignore)).of_suffix hfollows.suffix
    · cases h
  · cases h

private theorem endsItem_of_readUpper {low : Option Nat} {x : Nat × Option Nat} (h : readUpper low r = some (x, s))
    (hs : s.rest = []) (hignore : r.ignoreWhitespace = false) : r.EndsItem := by
  have hclose : ∀ {r : Reader} {low : Option Nat} {bounds : Nat → Nat × Option Nat}, r.ignoreWhitespace = false →
      r.peek? = some '\x7d' → (low >>= fun low => some (bounds low, r.bumpSkip)) = some (x, s) → r.EndsItem := by
    intro r low bounds hignore hpeek h
    obtain ⟨n, -, h⟩ := Option.bind_eq_some_iff.1 h
    obtain ⟨-, rfl⟩ := Prod.mk.inj (Option.some.inj h)
    exact endsItem_of_bumpSkip hpeek hs hignore
  rw [readUpper] at h
  split at h
  · rename_i hpeek
    obtain ⟨d, t, rfl⟩ := r.eq_nil_or_push.resolve_left (ne_nil_of_peek? hpeek)
    have hfollows := (Follows.skip t).trans (.push t d)
    have hplain := hfollows.ignoreWhitespace.trans hignore
    refine EndsItem.of_suffix ?_ hfollows.suffix
    rw [bumpSkip_push, readBeyond] at h
    split at h
    · rename_i hpeek
      exact hclose hplain hpeek h
    · obtain ⟨n, -, h⟩ := Option.bind_eq_some_iff.1 h
      exact endsItem_of_readHigh h hs hplain
  · split at h
    · rename_i hpeek
      exact hclose hignore hpeek h
    · cases h

private theorem endsItem_of_readBounds {x : Nat × Option Nat} (h : readBounds r = some (x, s)) (hs : s.rest = [])
    (hignore : r.ignoreWhitespace = false) : r.EndsItem := by
  obtain ⟨⟨low, u⟩, hlow, h⟩ := Option.bind_eq_some_iff.1 h
  have hfollows := (local_readCount.follows hlow).trans (.skip r)
  exact (endsItem_of_readUpper h hs (hfollows.ignoreWhitespace.trans hignore)).of_suffix hfollows.suffix

private theorem ends_of_readItem {item : Item} (h : readItem n c r = some (item, s)) (hs : s.rest = [])
    (hignore : s.ignoreWhitespace = false) : r.rest = [] ∨ r.EndsItem ∨ c = '\\' ∧ ((∃ d, r.rest = [d]) ∨
      ∃ d d' negated, r.rest = [d, d'] ∧ d' ≠ '\\' ∧ item = .part (.named (.name [d']) negated)) := by
  by_cases hgroup : c = '('
  · rw [readItem, if_pos hgroup] at h
    exact .inr (.inl (endsItem_of_readGroup h hs))
  have hplain : r.ignoreWhitespace = false := ((local_readItem hgroup n).follows h).ignoreWhitespace ▸ hignore
  rw [readItem, if_neg hgroup] at h
  split at h
  · obtain ⟨⟨x, u⟩, hclass, heq⟩ := Option.map_eq_some_iff.1 h
    obtain ⟨-, rfl⟩ := Prod.mk.inj heq
    exact .inr (.inl (endsItem_of_readClass hclass hs))
  split at h
  · exact (endsItem_of_readLazy h hs).imp_right .inl
  split at h
  · exact (endsItem_of_readLazy h hs).imp_right .inl
  split at h
  · exact (endsItem_of_readLazy h hs).imp_right .inl
  split at h
  · obtain ⟨⟨bounds, u⟩, hbounds, h⟩ := Option.bind_eq_some_iff.1 h
    rcases endsItem_of_readLazy h hs with hend | hend
    · exact .inr (.inl (endsItem_of_readBounds hbounds hend hplain))
    · exact .inr (.inl (hend.of_suffix (shortens_readBounds.suffix hbounds)))
  obtain ⟨⟨x, u⟩, hread, heq⟩ := Option.map_eq_some_iff.1 h
  obtain ⟨rfl, rfl⟩ := Prod.mk.inj heq
  by_cases hescape : c = '\\'
  · obtain rfl := hescape
    rcases ends_of_readEscape (hread : readEscape r = _) hs hplain with hone | hend | ⟨d, d', negated, hr, hne, rfl⟩
    · exact .inr (.inr ⟨rfl, .inl hone⟩)
    · exact .inr (.inl hend)
    · exact .inr (.inr ⟨rfl, .inr ⟨d, d', negated, hr, hne, rfl⟩⟩)
  · obtain ⟨x, hx⟩ := exists_readPrimitive_push hescape
    obtain ⟨-, rfl⟩ := Prod.mk.inj (Option.some.inj ((hx r).symm.trans hread))
    exact .inl hs

end EndsItem

/-! ### Backslashes and dollar signs at the end -/

section Endings

variable {n : Nat} {branches parts : List Expr} {r s : Reader} {e : Expr} {text : List Char}

private theorem endsEscaping_concat_of_ne {c : Char} (hc : c ≠ '\\') : Text.endsEscaping (text ++ [c]) = false := by
  simp [Text.endsEscaping, hc]

private theorem endsEscaping_concat_backslash : Text.endsEscaping (text ++ ['\\']) = !Text.endsEscaping text := by
  have hmore : ((text ++ ['\\']).reverse.takeWhile fun c => c = '\\').length =
      (text.reverse.takeWhile fun c => c = '\\').length + 1 := by simp
  rw [Text.endsEscaping, Text.endsEscaping, hmore, ← decide_not]
  refine decide_eq_decide.2 ?_
  omega

private theorem readItem_backslash_ne_nil {item : Item} (h : readItem n '\\' r = some (item, s)) : r.rest ≠ [] := by
  intro hr
  obtain ⟨⟨x, u⟩, hread, -⟩ := Option.map_eq_some_iff.1 (h : Option.map _ (readEscape r) = _)
  have hnone : readEscape r = none := by
    rw [readEscape, peek?, hr]
    rfl
  exact Option.some_ne_none _ (hread.symm.trans hnone)

private theorem Reader.EndsItem.exists_concat (h : r.EndsItem) :
    ∃ front c, r.rest = front ++ [c] ∧ endsItem c = true := by
  obtain ⟨c, hc, front, hfront⟩ := h
  exact ⟨front, c, hfront.symm, hc⟩

private theorem endsEscaping_of_readExpr (h : readExpr n branches parts r = some (e, s)) (hs : s.rest = [])
    (hignore : s.ignoreWhitespace = false) : Text.endsEscaping r.rest = false := by
  induction hlength : r.rest.length using Nat.strongRecOn generalizing n branches parts r s e with
  | _ length ih =>
      by_cases hr : r.rest = []
      · rw [hr]
        rfl
      obtain ⟨tail, before, after, branches', parts', rfl, hread, hstep⟩ := exists_lastStep h hs hignore hr
      have hlast : ∀ {f : List Char} {c : Char}, tail = f ++ [c] → c ≠ '\\' →
          Text.endsEscaping (before.append tail).rest = false := by
        intro f c htail hc
        rw [rest_append, htail, ← List.append_assoc]
        exact endsEscaping_concat_of_ne hc
      cases hstep with
      | bar _ htail _ => exact hlast (f := []) htail (by decide)
      | @item k c t item later hbefore htail hitem hlater he =>
          rcases ends_of_readItem hitem hs hignore with hend | hend | ⟨rfl, ⟨d, hd⟩ | ⟨d, d', negated, hd, hne, -⟩⟩
          · rw [hend] at htail
            refine hlast (f := []) htail ?_
            rintro rfl
            exact readItem_backslash_ne_nil hitem hend
          · obtain ⟨front, d, hd, hmark⟩ := hend.exists_concat
            rw [hd] at htail
            refine hlast (f := c :: front) htail ?_
            rintro rfl
            cases hmark
          · rw [hd] at htail
            by_cases hbackslash : d = '\\'
            · obtain rfl := hbackslash
              obtain rfl := htail
              have hplain := ((local_readItem (by decide) k).follows hitem).ignoreWhitespace.symm.trans hignore
              have hshorter : before.rest.length < length := by
                rw [← hlength, rest_append, List.length_append]
                exact Nat.lt_add_of_pos_right (Nat.succ_pos _)
              have hfront := ih _ hshorter hread (hbefore ▸ rfl) (hbefore ▸ hplain) rfl
              have hsplit : (before.append ['\\', '\\']).rest = before.rest ++ ['\\'] ++ ['\\'] :=
                (List.append_assoc before.rest ['\\'] ['\\']).symm
              rw [hsplit, endsEscaping_concat_backslash, endsEscaping_concat_backslash, hfront]
              rfl
            · exact hlast (f := ['\\']) htail hbackslash
          · rw [hd] at htail
            exact hlast (f := ['\\', d]) htail hne

theorem exists_of_readExpr_dollar (h : readExpr n branches parts (r.append ['$']) = some (e, s)) (hs : s.rest = [])
    (hignore : s.ignoreWhitespace = false) (hr : Text.endsEscaping r.rest = false) : ∃ branches' parts',
      readExpr n branches parts r = some (joinBranches branches' parts', s) ∧
        e = joinBranches branches' (.assertion .lineEnd :: parts') ∨
      ∃ negated, e = joinBranches branches' (.named (.name ['$']) negated :: parts') := by
  have hne : (r.append ['$']).rest ≠ [] := List.append_ne_nil_of_right_ne_nil _ (List.cons_ne_nil _ _)
  obtain ⟨tail, before, after, branches', parts', heq, hread, hstep⟩ := exists_lastStep h hs hignore hne
  have hlast : ∀ {f : List Char} {c : Char}, tail = f ++ [c] → c = '$' ∧ r = before.append f := by
    intro f c htail
    have htext : r.append ['$'] = (before.append f).append [c] := by rw [heq, htail, append_append]
    obtain ⟨-, hlast⟩ := List.append_inj' (congrArg Reader.rest htext) rfl
    obtain rfl : c = '$' := (List.cons.inj hlast).1.symm
    exact ⟨rfl, append_inj htext⟩
  refine ⟨branches', parts', ?_⟩
  cases hstep with
  | bar _ htail _ => exact absurd (hlast (f := []) htail).1 (by decide)
  | @item k c t item later hbefore htail hitem hlater he =>
      rcases ends_of_readItem hitem hs hignore with hend | hend | ⟨rfl, ⟨d, hd⟩ | ⟨d, d', negated, hd, hne, rfl⟩⟩
      · rw [hend] at htail
        obtain ⟨rfl, rfl⟩ := hlast (f := []) htail
        have hdollar : readItem k '$' t = some (.part (.assertion .lineEnd), t) := rfl
        obtain ⟨rfl, rfl⟩ := Prod.mk.inj (Option.some.inj (hdollar.symm.trans hitem))
        obtain rfl := Option.some.inj hlater
        have hsame : after = t := by
          rw [hbefore, ← hend]
        rw [append_nil, ← hsame]
        exact .inl ⟨hread, he⟩
      · obtain ⟨front, d, hd, hmark⟩ := hend.exists_concat
        rw [hd] at htail
        obtain ⟨rfl, -⟩ := hlast (f := c :: front) htail
        cases hmark
      · rw [hd] at htail
        obtain ⟨rfl, rfl⟩ := hlast (f := ['\\']) htail
        have hplain := ((local_readItem (by decide) k).follows hitem).ignoreWhitespace.symm.trans hignore
        have hfront := endsEscaping_of_readExpr hread (hbefore ▸ rfl) (hbefore ▸ hplain)
        rw [rest_append, endsEscaping_concat_backslash, hfront] at hr
        cases hr
      · rw [hd] at htail
        obtain ⟨rfl, -⟩ := hlast (f := ['\\', d]) htail
        obtain rfl := Option.some.inj hlater
        exact .inr ⟨negated, he⟩

end Endings

end CorpusSearch.Regex
