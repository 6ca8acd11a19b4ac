import CorpusSearch.Proofs.ExpressionReading
import CorpusSearch.Proofs.ShorterReading

/-!
Expressions in a text that ends early. What a brace behind a word boundary holds is read next, so that nothing but what
is left of the text decides about it. Main statement: an expression that ends before a place in its text is read to be
the same if the text ends at that place.
-/

set_option autoImplicit false

namespace CorpusSearch.Regex

open Reader

/-! ### Openings -/

section Openings

variable {r s : Reader} {o : Opening} {text after more : List Char} {c : Char}

private theorem not_cons_append_suffix {text more : List Char} {c : Char} : ¬(c :: text ++ more) <:+ more := by
  intro h
  have hbehind : [] ++ c :: (text ++ more) <:+ text ++ more := h.trans (List.suffix_append text more)
  exact not_append_suffix_tail hbehind

private theorem readFlags_of_append {negated : Bool} {settings found : FlagSettings}
    (h : readFlags negated settings (text ++ more) = some (found, c :: after ++ more)) :
    readFlags negated settings text = some (found, c :: after) := by
  induction text generalizing negated settings with
  | nil => exact absurd (readFlags_suffix h).1 not_cons_append_suffix
  | cons d text ih =>
      rw [List.cons_append] at h
      unfold readFlags at h
      unfold readFlags
      split at h
      · rename_i hstop
        rw [if_pos hstop]
        obtain ⟨hfound, hrest⟩ := Prod.mk.inj (Option.some.inj h)
        have hsame : d :: text = c :: after := List.append_cancel_right hrest
        rw [hfound, hsame]
      · rename_i hstop
        rw [if_neg hstop]
        split at h
        · rename_i hhyphen
          rw [if_pos hhyphen]
          cases text with
          | nil =>
              split at h
              · split at h
                · cases h
                · exact absurd (readFlags_suffix h).1 not_cons_append_suffix
              · cases h
          | cons e text =>
              dsimp only [List.cons_append] at h ⊢
              split at h
              · cases h
              · rename_i hsecond
                rw [if_neg hsecond]
                exact ih h
        · rename_i hhyphen
          rw [if_neg hhyphen]
          obtain ⟨flag, hflag, h⟩ := Option.bind_eq_some_iff.1 h
          simp only [hflag, Option.bind_eq_bind, Option.bind_some]
          split at h
          · cases h
          · rename_i hnew
            rw [if_neg hnew]
            exact ih h

private theorem readGroupName_of_append (h : readGroupName (r.append more) = some (s.append more)) :
    readGroupName r = some s := by
  obtain ⟨name, d, behind, hdrop, heq, -⟩ := exists_of_readGroupName h
  obtain rfl : s.rest ++ more = behind := congrArg Reader.rest heq
  have hne : r.rest.dropWhile (· ≠ '>') ≠ [] := by
    intro hnil
    rw [rest_append, List.dropWhile_append, if_pos (List.isEmpty_iff.2 hnil)] at hdrop
    have hsuffix := List.dropWhile_suffix (l := more) (· ≠ '>')
    rw [hdrop] at hsuffix
    exact not_cons_append_suffix hsuffix
  unfold readGroupName at h
  unfold readGroupName
  rw [rest_append, takeWhile_append_of_ne_nil hne, dropWhile_append_of_ne_nil hne] at h
  cases hrest : r.rest.dropWhile (· ≠ '>') with
  | nil => exact absurd hrest hne
  | cons e tail =>
      rw [hrest] at h
      dsimp only at h ⊢
      split at h
      · rename_i first others e' tail' htake hcons
        rw [htake]
        split at h
        · rename_i hname
          cases hcons
          rw [htake] at hname h
          exact (if_pos hname).trans (congrArg some (append_inj (Option.some.inj h)))
        · cases h
      · cases h

private theorem readNamedGroup_of_append (h : readNamedGroup (r.append more) = some (o, s.append more)) :
    readNamedGroup r = some (o, s) := by
  obtain ⟨t, ht, h⟩ := Option.bind_eq_some_iff.1 h
  obtain ⟨ho, rfl⟩ := Prod.mk.inj (Option.some.inj h)
  rw [readNamedGroup, readGroupName_of_append ht, ho]
  rfl

private theorem readNamedGroup_suffix (h : readNamedGroup r = some (o, s)) : s.rest <:+ r.rest := by
  obtain ⟨new, hopens⟩ := opens_readNamedGroup h
  exact hopens.suffix

private theorem readFlagGroup_of_append (h : readFlagGroup (r.append more) = some (o, s.append more)) :
    readFlagGroup r = some (o, s) ∧ ∃ x, readFlags false [] r.rest = some x := by
  obtain ⟨⟨settings, behind⟩, hflags, h⟩ := Option.bind_eq_some_iff.1 h
  obtain ⟨-, c, rest, rfl, hc⟩ := readFlags_suffix hflags
  rcases hc with rfl | rfl
  · obtain ⟨ho, hs⟩ := Prod.mk.inj (Option.some.inj h)
    obtain rfl : rest = s.rest ++ more := congrArg Reader.rest hs
    have hread : readFlags false [] r.rest = some (settings, ':' :: s.rest) := readFlags_of_append hflags
    refine ⟨?_, _, hread⟩
    rw [readFlagGroup, hread, ← append_inj (r := { r with rest := s.rest }) hs, ← ho]
    rfl
  · change (if settings.isEmpty = true then none
      else some (Opening.flags settings, { r.append more with rest })) = _ at h
    by_cases hempty : settings.isEmpty = true
    · rw [if_pos hempty] at h
      cases h
    · rw [if_neg hempty] at h
      obtain ⟨ho, hs⟩ := Prod.mk.inj (Option.some.inj h)
      obtain rfl : rest = s.rest ++ more := congrArg Reader.rest hs
      have hread : readFlags false [] r.rest = some (settings, ')' :: s.rest) := readFlags_of_append hflags
      refine ⟨?_, _, hread⟩
      rw [readFlagGroup, hread, ← append_inj (r := { r with rest := s.rest }) hs, ← ho]
      exact if_neg hempty

private theorem exists_cons_of_append {rest behind : List Char} (h : text ++ more = c :: rest)
    (hbehind : behind ++ more <:+ rest) : ∃ tail, text = c :: tail ∧ rest = tail ++ more := by
  cases text with
  | nil =>
      rw [List.nil_append] at h
      have hle := hbehind.length_le
      rw [h, List.length_append, List.length_cons] at hle
      omega
  | cons d tail =>
      obtain ⟨rfl, rfl⟩ := List.cons.inj h
      exact ⟨tail, rfl, rfl⟩

private theorem readQuestion_of_append (h : readQuestion (r.append more) = some (o, s.append more)) :
    readQuestion r = some (o, s) := by
  unfold readQuestion at h
  split at h
  · cases h
  · cases h
  · cases h
  · cases h
  · rename_i rest heq
    have hsuffix : s.rest ++ more <:+ rest := readNamedGroup_suffix h
    obtain ⟨tail, htext, htail⟩ := exists_cons_of_append heq (hsuffix.trans (List.suffix_cons '<' rest))
    obtain ⟨behind, rfl, rfl⟩ := exists_cons_of_append htail.symm hsuffix
    rw [readQuestion, htext]
    exact readNamedGroup_of_append (r := { r with rest := behind }) h
  · rename_i rest hequal hnot heq
    obtain ⟨tail, htext, rfl⟩ := exists_cons_of_append heq (readNamedGroup_suffix h)
    have hread := readNamedGroup_of_append (r := { r with rest := tail }) h
    have hhead : ∀ {d : Char}, tail.head? = some d → ∃ behind, tail ++ more = d :: behind := by
      intro d hd
      obtain ⟨behind, rfl⟩ := List.head?_eq_some_iff.1 hd
      exact ⟨behind ++ more, rfl⟩
    rw [readQuestion_of_name htext, hread]
    · intro hd
      obtain ⟨behind, hbehind⟩ := hhead hd
      exact hequal behind hbehind
    · intro hd
      obtain ⟨behind, hbehind⟩ := hhead hd
      exact hnot behind hbehind
  · obtain ⟨hread, x, hflags⟩ := readFlagGroup_of_append h
    rw [readQuestion_of_flags hflags, hread]

theorem readOpening_plain (h : r.skip.peek? ≠ some '?') : readOpening r = some (.group [], r.skip) := by
  rcases r.skip.eq_nil_or_push with hend | ⟨c, t, ht⟩
  · exact readOpening_end hend
  · rw [ht] at h ⊢
    exact readOpening_of_ne ht fun hc => h (congrArg some hc)

theorem shortens_readOpening : Shortens readOpening where
  suffix {r o s} h := by
    by_cases hs : s.rest = []
    · rw [hs]
      exact List.nil_suffix
    · obtain ⟨new, hopens⟩ := opens_readOpening h (.inl hs)
      exact hopens.suffix
  shorten {r o s more} h _ := by
    by_cases hpeek : (r.append more).skip.peek? = some '?'
    · obtain ⟨c, t, ht⟩ := (r.append more).skip.eq_nil_or_push.resolve_left (ne_nil_of_peek? hpeek)
      rw [ht] at hpeek
      obtain rfl : c = '?' := Option.some.inj hpeek
      rw [readOpening_question ht] at h
      obtain ⟨new, hopens⟩ := opens_readQuestion h
      obtain ⟨v, rfl, -⟩ := exists_append hopens.suffix
      rw [readOpening_question (skip_push_of_append ht)]
      exact readQuestion_of_append h
    · rw [readOpening_plain hpeek] at h
      obtain ⟨ho, hs⟩ := Prod.mk.inj (Option.some.inj h)
      have hskip : r.skip = s := skip_of_append hs
      rw [readOpening_plain, hskip, ho]
      rw [hskip]
      rw [hs] at hpeek
      exact fun hnext => hpeek (peek?_extend_of_some hnext)

end Openings

/-! ### Repetitions -/

private theorem dropWhile_of_append {p : Char → Bool} {text rest more : List Char}
    (h : (text ++ more).dropWhile p = rest ++ more) : text.dropWhile p = rest := by
  by_cases hne : text.dropWhile p = []
  · have hsuffix := List.dropWhile_suffix (l := more) p
    rw [List.dropWhile_append, if_pos (List.isEmpty_iff.2 hne)] at h
    rw [h] at hsuffix
    have hle := hsuffix.length_le
    rw [List.length_append] at hle
    rw [hne, List.eq_nil_of_length_eq_zero (l := rest) (by omega)]
  · rw [dropWhile_append_of_ne_nil hne] at h
    exact List.append_cancel_right h

private theorem shortens_dropSpaces : Shortens fun r => some ((), dropSpaces r) where
  suffix h := (local_dropSpaces.follows h).suffix
  shorten {r x s more} h _ := by
    obtain ⟨hrest, hignore, hnames⟩ := Reader.mk.inj (Prod.mk.inj (Option.some.inj h)).2
    obtain ⟨rest, ignore, names⟩ := s
    obtain rfl : r.rest.dropWhile Unicode.isWhiteSpace = rest := dropWhile_of_append hrest
    obtain rfl : r.ignoreWhitespace = ignore := hignore
    obtain rfl : r.groupNames = names := hnames
    rfl

private theorem shortens_readDecimal : Shortens fun r => some (readDecimal (r.rest.length + 1) [] r) := by
  simp only [readDecimal_eq]
  exact .takeRun []

private theorem shortens_skipLazy : Shortens fun r => some ((), skipLazy r) := by
  simp only [skipLazy, apply_ite (Prod.mk ()), apply_ite some]
  exact .ite_peek (F := fun r => some ((), r.bump)) (.pure ()) (.pure ())

private theorem shortens_countOf? (digits : List Char) : Shortens (countOf? digits) :=
  .ite (.pure none) (.option_bind (Text.natural? digits) fun n => .ite (.pure (some n)) .none)

private theorem shortens_readCount : Shortens readCount := by
  have hread : readCount = fun r => some ((), dropSpaces r) >>= fun p =>
      some (readDecimal (p.2.rest.length + 1) [] p.2) >>= fun p =>
      some ((), dropSpaces p.2) >>= fun q => countOf? p.1 q.2 := rfl
  rw [hread]
  refine shortens_dropSpaces.bind fun _ => shortens_readDecimal.bind fun digits => ?_
  exact shortens_dropSpaces.bind (K := fun q => countOf? digits q.2) fun _ => shortens_countOf? digits

private theorem shortens_readHigh (low : Nat) : Shortens (readHigh low) := by
  refine shortens_readCount.bind fun high => .option_bind high fun high => ?_
  exact .ite_peek (F := fun r => if low ≤ high then some ((low, some high), r.bumpSkip) else none)
    (.ite (ShortensIf.pure _).skip .none) .none

private theorem shortens_readBeyond (low : Option Nat) : Shortens (readBeyond low) :=
  .ite_peek (F := fun r => low >>= fun low => some ((low, none), r.bumpSkip))
    (.option_bind low fun low => (ShortensIf.pure (low, none)).skip) (.option_bind low shortens_readHigh)

private theorem shortens_readUpper (low : Option Nat) : Shortens (readUpper low) := by
  refine .ite_peek (F := fun r => readBeyond low r.bumpSkip) (shortens_readBeyond low).skip ?_
  exact .ite_peek (F := fun r => low >>= fun low => some ((low, some low), r.bumpSkip))
    (.option_bind low fun low => (ShortensIf.pure (low, some low)).skip) .none

theorem shortens_readBounds : Shortens readBounds := (shortens_readCount.bind shortens_readUpper).skip

private theorem readUpper_end (low : Option Nat) {r : Reader} (h : r.rest = []) : readUpper low r = none := by
  have hend : ∀ d, r.peek? ≠ some d := fun d hpeek => ne_nil_of_peek? hpeek h
  rw [readUpper, if_neg (hend ','), if_neg (hend '\x7d')]

private theorem ne_nil_of_readBounds {r : Reader} {p : (Nat × Option Nat) × Reader} (h : readBounds r = some p) :
    r.skip.rest ≠ [] := by
  intro hrest
  obtain ⟨⟨low, s⟩, hlow, h⟩ := Option.bind_eq_some_iff.1 h
  have hsuffix := shortens_readCount.suffix hlow
  rw [hrest, List.suffix_nil] at hsuffix
  exact Option.some_ne_none p (h.symm.trans (readUpper_end low hsuffix))

/-! ### Expressions -/

private theorem Reader.skip_push {t : Reader} {c : Char} (hblank : ¬Unicode.isWhiteSpace c = true) (hsign : c ≠ '#') :
    (push t c).skip = push t c := by
  rw [skip]
  split
  · show (⟨dropBlank false (c :: t.rest), t.ignoreWhitespace, t.groupNames⟩ : Reader) = push t c
    rw [dropBlank, if_neg Bool.false_ne_true, if_neg hblank, if_neg hsign]
    rfl
  · rfl

section Expressions

variable {fuel n m : Nat} {branches parts : List Expr} {r s : Reader} {e : Expr} {more : List Char}

private theorem shortens_readLazy (low : Nat) (high : Option Nat) : Shortens (readLazy low high) :=
  .map (M := fun _ _ => True) (fun _ => Item.repeated low high) shortens_skipLazy

private theorem shortens_readBody (hreads : Shortens (readExpr fuel [] [])) (settings : FlagSettings) :
    Shortens (readBody fuel settings) where
  suffix {r item s} h := by
    obtain ⟨body, after, rest, hbody, hafter, heq⟩ := exists_of_readBody h
    cases heq
    have hsuffix := hreads.suffix hbody
    rw [hafter] at hsuffix
    exact (List.suffix_cons ')' rest).trans hsuffix
  shorten {r item s more} h _ := by
    obtain ⟨body, after, rest, hbody, hafter, heq⟩ := exists_of_readBody h
    obtain ⟨hitem, hs⟩ := Prod.mk.inj heq
    obtain rfl : s.rest ++ more = rest := congrArg Reader.rest hs
    obtain ⟨rest', ignore, names⟩ := after
    obtain rfl : rest' = ')' :: (s.rest ++ more) := hafter
    have hbody' := hreads.shorten
      (r := { r with ignoreWhitespace := setsIgnoreWhitespace settings r.ignoreWhitespace })
      (s := ⟨')' :: s.rest, ignore, names⟩) hbody trivial
    rw [readBody_of_readExpr hbody' rfl, hitem]
    exact congrArg (fun u => some (Item.part (.group settings body), u))
      (append_inj (r := ⟨s.rest, r.ignoreWhitespace, names⟩) hs.symm)

private theorem shortens_readGroup (hreads : Shortens (readExpr fuel [] [])) : Shortens (readGroup fuel) := by
  refine shortens_readOpening.bind fun o => ?_
  cases o with
  | group settings => exact shortens_readBody hreads settings
  | flags settings =>
      exact
        { suffix := fun h => by
            cases h
            exact List.suffix_rfl
          shorten := fun {r item s more} h _ => by
            obtain ⟨hitem, hs⟩ := Prod.mk.inj (Option.some.inj h)
            have hsame := append_inj
              (r := { r with ignoreWhitespace := setsIgnoreWhitespace settings r.ignoreWhitespace }) hs
            rw [← hitem, ← hsame]
            rfl }

theorem shortens_readItem (hreads : Shortens (readExpr fuel [] [])) (c : Char) :
    ShortensIf (fun _ s => s.SeesBrace) (readItem fuel c) := by
  have hany : ∀ {F : Reader → Option (Item × Reader)}, Shortens F → ShortensIf (fun _ s => s.SeesBrace) F :=
    fun hF => hF.mono fun _ _ _ => trivial
  have hread : readItem fuel c = fun r => _ := rfl
  rw [hread]
  refine .ite (hany (shortens_readGroup hreads)) (.ite (hany (.map Item.part shortens_readClass)) (.ite
    (hany (shortens_readLazy _ _)) (.ite (hany (shortens_readLazy _ _)) (.ite (hany (shortens_readLazy _ _))
      (.ite (hany ?_) (.map (fun part : Primitive => Item.part part.toExpr) (shortens_readPrimitive c)))))))
  exact shortens_readBounds.bind fun bounds => shortens_readLazy bounds.1 bounds.2

theorem seesBrace_of_readExpr (h : readExpr n branches parts r = some (e, s)) : r.SeesBrace := by
  intro hpeek
  obtain ⟨c, t, rfl⟩ := r.eq_nil_or_push.resolve_left (ne_nil_of_peek? hpeek)
  obtain rfl : c = '\x7b' := Option.some.inj hpeek
  obtain ⟨n, rfl⟩ := exists_fuel h
  rw [readExpr_item (skip_push (by decide) (by decide)) (by decide) (by decide)] at h
  obtain ⟨⟨item, u⟩, hitem, -⟩ := Option.bind_eq_some_iff.1 h
  obtain ⟨bounds, hbounds, -⟩ := Option.bind_eq_some_iff.1 (hitem : readBounds t >>= _ = _)
  exact ne_nil_of_readBounds hbounds

theorem shortens_readExpr (n : Nat) (branches parts : List Expr) : Shortens (readExpr n branches parts) := by
  induction n generalizing branches parts with
  | zero => exact .none
  | succ n ih =>
      have hitems := shortens_readItem (ih [] [])
      refine { suffix := fun {r e s} h => ?_, shorten := fun {r e s more} h _ => ?_ }
      · cases readStep h with
        | done hend he hs => exact hs ▸ (Follows.skip r).suffix
        | close ht he hs => exact hs ▸ (Follows.of_skip ht).suffix
        | bar ht hrest =>
            have hbehind := (ih _ _).suffix hrest
            exact (hbehind.trans (List.suffix_cons _ _)).trans (Follows.of_skip ht).suffix
        | item ht hclose hbar hitem hlater hrest =>
            have hbehind := ((ih _ _).suffix hrest).trans ((hitems _).suffix hitem)
            exact (hbehind.trans (List.suffix_cons _ _)).trans (Follows.of_skip ht).suffix
      · cases readStep h with
        | done hend he hs =>
            have hskip := skip_of_append hs.symm
            rw [← hs, rest_append, List.append_eq_nil_iff] at hend
            rw [readExpr_end (by rw [hskip, hend.1]), hskip, he]
        | @close t ht he hs =>
            have hskip := skip_of_append (ht.trans hs.symm)
            rcases s.eq_nil_or_push with hrest | ⟨d, v, rfl⟩
            · rw [readExpr_end (by rw [hskip, hrest]), hskip, he]
            · obtain rfl : d = ')' := (List.cons.inj (congrArg Reader.rest hs)).1
              rw [readExpr_close hskip, he]
        | bar ht hrest =>
            obtain ⟨v, rfl, -⟩ := exists_append ((ih _ _).suffix hrest)
            rw [readExpr_bar (skip_push_of_append ht)]
            exact (ih _ _).shorten hrest trivial
        | @item c t u item later ht hclose hbar hitem hlater hrest =>
            obtain ⟨v, rfl, -⟩ := exists_append ((ih _ _).suffix hrest)
            obtain ⟨w, rfl, -⟩ := exists_append ((hitems c).suffix hitem)
            have hbehind := (ih _ _).shorten hrest trivial
            have hfirst := (hitems c).shorten hitem (seesBrace_of_readExpr hbehind)
            rw [readExpr_of_readItem (skip_push_of_append ht) hclose hbar hfirst hlater, hbehind]

theorem readExpr_suffix (h : readExpr n branches parts r = some (e, s)) : s.rest <:+ r.rest :=
  (shortens_readExpr n branches parts).suffix h

theorem readItem_suffix {c : Char} {item : Item} (h : readItem n c r = some (item, s)) : s.rest <:+ r.rest :=
  (shortens_readItem (shortens_readExpr n [] []) c).suffix h

theorem readExpr_of_length {p : Expr × Reader} (h : readExpr n branches parts r = some p)
    (hm : r.rest.length < m) : readExpr m branches parts r = some p := by
  induction n generalizing m branches parts r p with
  | zero => cases h
  | succ n ih =>
      obtain ⟨e, s⟩ := p
      obtain ⟨m, rfl⟩ : ∃ k, m = k + 1 := ⟨m - 1, by omega⟩
      have hshorter : ∀ {c : Char} {t : Reader}, r.skip = push t c → t.rest.length < m := by
        intro c t ht
        have hle := (Follows.of_skip ht).suffix.length_le
        rw [push, List.length_cons] at hle
        omega
      cases readStep h with
      | done hend he hs => rw [readExpr_end hend, ← he, ← hs]
      | close ht he hs => rw [readExpr_close ht, ← he, ← hs]
      | bar ht hrest =>
          rw [readExpr_bar ht]
          exact ih hrest (hshorter ht)
      | item ht hclose hbar hitem hlater hrest =>
          have hitem' := readItem_of_readExpr
            (fun hinner h => ih h (Nat.lt_of_le_of_lt hinner.length_le (hshorter ht))) hitem
          rw [readExpr_of_readItem ht hclose hbar hitem' hlater]
          exact ih hrest (Nat.lt_of_le_of_lt (readItem_suffix hitem).length_le (hshorter ht))

theorem readExpr_of_append (h : readExpr n branches parts (r.append more) = some (e, s.append more)) :
    readExpr (r.rest.length + 1) branches parts r = some (e, s) :=
  readExpr_of_length ((shortens_readExpr n branches parts).shorten h trivial) (Nat.lt_succ_self _)

end Expressions

end CorpusSearch.Regex
