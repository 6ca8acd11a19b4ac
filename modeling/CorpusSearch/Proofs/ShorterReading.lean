import CorpusSearch.Proofs.ClassReading

/-!
Reading a text that ends early. Where a reader has left what follows a place in the text as it was, all it took stands
before that place, and it takes the same if the text ends there: nothing that follows decided what was read. Only
behind a word boundary, and for the bracket that ends a class, is more looked at than is taken. Main statement: what is
put together from such steps is read in this way too, and so are escapes and bracketed classes.
-/

set_option autoImplicit false

namespace CorpusSearch.Regex

namespace Reader

def append (r : Reader) (more : List Char) : Reader := { r with rest := r.rest ++ more }

variable {r s u : Reader} {more : List Char} {c : Char}

@[simp] theorem rest_append : (r.append more).rest = r.rest ++ more := rfl

private theorem append_push : (r.push c).append more = (r.append more).push c := rfl

private theorem append_eq_extend : r.append more = r.extend more r.groupNames := rfl

theorem append_nil : r.append [] = r := by rw [append, List.append_nil]

theorem append_append (first second : List Char) : (r.append first).append second = r.append (first ++ second) := by
  rw [append, append, append, List.append_assoc]

theorem append_inj (h : r.append more = s.append more) : r = s := by
  obtain ⟨rest, ignore, names⟩ := r
  obtain ⟨rest', ignore', names'⟩ := s
  obtain ⟨hrest, rfl, rfl⟩ := Reader.mk.inj h
  obtain rfl : rest = rest' := List.append_cancel_right hrest
  rfl

/-- What has more to read than a reader of a text that goes on is one itself. -/
theorem exists_append (h : (s.append more).rest <:+ u.rest) : ∃ v : Reader, u = v.append more ∧ s.rest <:+ v.rest := by
  obtain ⟨front, hfront⟩ := h
  refine ⟨{ u with rest := front ++ s.rest }, ?_, List.suffix_append front s.rest⟩
  rw [rest_append, ← List.append_assoc] at hfront
  rw [append]
  dsimp only
  rw [hfront]

private theorem append_suffix_append (h : (s.append more).rest <:+ (r.append more).rest) : s.rest <:+ r.rest := by
  obtain ⟨v, hv, hsuffix⟩ := exists_append h
  rwa [append_inj hv]

theorem not_append_suffix_tail {text tail : List Char} : ¬(text ++ c :: tail) <:+ tail := by
  intro h
  have hle := h.length_le
  rw [List.length_append, List.length_cons] at hle
  omega

private theorem append_cons_of_end (h : r.rest = []) (tail : List Char) :
    r.append (c :: tail) = push ⟨tail, r.ignoreWhitespace, r.groupNames⟩ c := by
  rw [append, h]
  rfl

private theorem dropBlank_of_append {comment : Bool} {text rest : List Char}
    (h : dropBlank comment (text ++ more) = rest ++ more) : dropBlank comment text = rest := by
  induction text generalizing comment with
  | nil =>
      have hsuffix := dropBlank_suffix comment more
      rw [List.nil_append] at h
      rw [h] at hsuffix
      have hle := hsuffix.length_le
      rw [List.length_append] at hle
      rw [dropBlank, List.eq_nil_of_length_eq_zero (l := rest) (by omega)]
  | cons c text ih =>
      rw [List.cons_append, dropBlank] at h
      rw [dropBlank]
      split
      · rename_i hcomment
        rw [if_pos hcomment] at h
        exact ih h
      · rename_i hcomment
        rw [if_neg hcomment] at h
        split
        · rename_i hblank
          rw [if_pos hblank] at h
          exact ih h
        · rename_i hblank
          rw [if_neg hblank] at h
          split
          · rename_i hsign
            rw [if_pos hsign] at h
            exact ih h
          · rename_i hsign
            rw [if_neg hsign, ← List.cons_append] at h
            exact List.append_cancel_right h

theorem skip_of_append (h : (r.append more).skip = s.append more) : r.skip = s := by
  obtain ⟨rest, ignore, names⟩ := r
  obtain ⟨rest', ignore', names'⟩ := s
  cases ignore with
  | false => exact append_inj h
  | true =>
      obtain ⟨hrest, rfl, rfl⟩ := Reader.mk.inj h
      obtain rfl : dropBlank false rest = rest' := dropBlank_of_append hrest
      rfl

theorem skip_push_of_append (h : (r.append more).skip = (s.append more).push c) : r.skip = s.push c :=
  skip_of_append (s := s.push c) h

private theorem exists_skip_append (h : (s.append more).rest <:+ (r.append more).skip.rest) :
    (r.append more).skip = r.skip.append more ∧ s.rest <:+ r.skip.rest := by
  obtain ⟨v, hv, hsuffix⟩ := exists_append h
  rw [skip_of_append hv]
  exact ⟨hv, hsuffix⟩

end Reader

open Reader

variable {α β : Type}

/--
What is read stands before the place where the text may end, if what follows that place is left as it was, and is the
same if the text ends there. A condition on what has been read and on what is left of the text may be needed for that.
-/
structure ShortensIf (M : α → Reader → Prop) (F : Reader → Option (α × Reader)) : Prop where
  suffix {r : Reader} {x : α} {s : Reader} (h : F r = some (x, s)) : s.rest <:+ r.rest
  shorten {r : Reader} {x : α} {s : Reader} {more : List Char} (h : F (r.append more) = some (x, s.append more))
    (hs : M x s) : F r = some (x, s)

abbrev Shortens (F : Reader → Option (α × Reader)) : Prop := ShortensIf (fun _ _ => True) F

namespace ShortensIf

variable {M N : α → Reader → Prop} {F G : Reader → Option (α × Reader)}

theorem mono (hF : ShortensIf M F) (h : ∀ x s, N x s → M x s) : ShortensIf N F where
  suffix := hF.suffix
  shorten hread hs := hF.shorten hread (h _ _ hs)

theorem pure (x : α) : ShortensIf M fun r => some (x, r) where
  suffix h := by
    cases h
    exact List.suffix_rfl
  shorten h _ := by
    obtain ⟨hx, hr⟩ := Prod.mk.inj (Option.some.inj h)
    rw [hx, append_inj hr]

theorem none : ShortensIf M fun _ => (Option.none : Option (α × Reader)) where
  suffix h := nomatch h
  shorten h := nomatch h

theorem bind {M : β → Reader → Prop} (hF : Shortens F) {K : α × Reader → Option (β × Reader)}
    (hK : ∀ x, ShortensIf M fun r => K (x, r)) : ShortensIf M fun r => F r >>= K where
  suffix h := by
    obtain ⟨⟨x, s⟩, hs, h⟩ := Option.bind_eq_some_iff.1 h
    exact ((hK x).suffix h).trans (hF.suffix hs)
  shorten h hs := by
    obtain ⟨⟨x, u⟩, hu, h⟩ := Option.bind_eq_some_iff.1 h
    obtain ⟨v, rfl, -⟩ := exists_append ((hK x).suffix h)
    rw [hF.shorten hu trivial]
    exact (hK x).shorten h hs

theorem map {M : β → Reader → Prop} (f : α → β) (hF : ShortensIf (fun x s => M (f x) s) F) :
    ShortensIf M fun r => (F r).map fun p => (f p.1, p.2) where
  suffix h := by
    obtain ⟨⟨x, s⟩, hs, heq⟩ := Option.map_eq_some_iff.1 h
    cases heq
    exact hF.suffix hs
  shorten h hs := by
    obtain ⟨⟨x, u⟩, hu, heq⟩ := Option.map_eq_some_iff.1 h
    cases heq
    rw [hF.shorten hu hs]
    rfl

/-- A step that reads nothing. -/
theorem option_bind (o : Option β) {K : β → Reader → Option (α × Reader)} (hK : ∀ b, ShortensIf M (K b)) :
    ShortensIf M fun r => o >>= fun b => K b r := by
  cases o with
  | none => exact none
  | some b => exact hK b

theorem ite {P : Prop} [Decidable P] (hF : ShortensIf M F) (hG : ShortensIf M G) :
    ShortensIf M fun r => if P then F r else G r := by
  by_cases hP : P
  · simp only [if_pos hP]
    exact hF
  · simp only [if_neg hP]
    exact hG

/-- A step that always succeeds. -/
theorem run {g : Reader → β × Reader} (hg : Shortens fun r => some (g r)) {K : β × Reader → Option (α × Reader)}
    (hK : ∀ b, ShortensIf M fun r => K (b, r)) : ShortensIf M fun r => K (g r) := hg.bind hK

theorem skip (hF : ShortensIf M F) : ShortensIf M fun r => F r.skip where
  suffix h := (hF.suffix h).trans (Follows.skip _).suffix
  shorten h hs := by
    obtain ⟨hskip, -⟩ := exists_skip_append (hF.suffix h)
    rw [hskip] at h
    exact hF.shorten h hs

private theorem not_push_of_end (hsuffix : ∀ {r x s}, F r = some (x, s) → s.rest <:+ r.rest) {r s : Reader} {x : α}
    {d : Char} {tail : List Char} (hr : r.rest = tail) : F r ≠ some (x, s.append (d :: tail)) := by
  intro h
  have hle := hsuffix h
  rw [hr, rest_append] at hle
  exact not_append_suffix_tail hle

/-- Reading that fails at the end depends on the first character and what follows it. -/
theorem of_push (hnil : ∀ r : Reader, r.rest = [] → F r = .none) (hpush : ∀ c, ShortensIf M fun r => F (r.push c)) :
    ShortensIf M F where
  suffix {r x s} h := by
    rcases r.eq_nil_or_push with hrest | ⟨c, t, rfl⟩
    · rw [hnil r hrest] at h
      cases h
    · exact ((hpush c).suffix h).trans (List.suffix_cons c t.rest)
  shorten {r x s more} h hs := by
    rcases r.eq_nil_or_push with hrest | ⟨c, t, rfl⟩
    · cases more with
      | nil => rwa [append_nil, append_nil] at h
      | cons d tail =>
          rw [append_cons_of_end hrest] at h
          exact absurd h (not_push_of_end (hpush d).suffix rfl)
    · exact (hpush c).shorten h hs

/-- A choice by the next character. -/
theorem ite_peek {d : Char} (hF : ShortensIf M fun r => F (r.push d)) (hG : ShortensIf M G) :
    ShortensIf M fun r => if r.peek? = some d then F r else G r where
  suffix {r x s} h := by
    split at h
    · rename_i hpeek
      rcases r.eq_nil_or_push with hrest | ⟨c, t, rfl⟩
      · exact absurd hrest (ne_nil_of_peek? hpeek)
      · obtain rfl : c = d := Option.some.inj hpeek
        exact (hF.suffix h).trans (List.suffix_cons c t.rest)
    · exact hG.suffix h
  shorten {r x s more} h hs := by
    rcases r.eq_nil_or_push with hrest | ⟨c, t, rfl⟩
    · have hend : r.peek? ≠ some d := fun hpeek => ne_nil_of_peek? hpeek hrest
      rw [if_neg hend]
      split at h
      · rename_i hpeek
        obtain ⟨tail, rfl⟩ : ∃ tail, more = d :: tail := by
          rw [peek?, rest_append, hrest, List.nil_append] at hpeek
          exact List.head?_eq_some_iff.1 hpeek
        rw [append_cons_of_end hrest] at h
        exact absurd h (not_push_of_end hF.suffix rfl)
      · exact hG.shorten h hs
    · have hsame : ((push t c).append more).peek? = (push t c).peek? := rfl
      rw [hsame] at h
      split at h
      · rename_i hpeek
        obtain rfl : c = d := Option.some.inj hpeek
        rw [if_pos hpeek]
        exact hF.shorten h hs
      · rename_i hpeek
        rw [if_neg hpeek]
        exact hG.shorten h hs

/-- Fuel for all of the text, where that is enough. -/
theorem of_fuel {F : Nat → Reader → Option (α × Reader)} (hF : ∀ n, ShortensIf M (F n))
    (henough : ∀ {n m r p}, F n r = some p → r.rest.length < m → F m r = some p) :
    ShortensIf M fun r => F (r.rest.length + 1) r where
  suffix h := (hF _).suffix h
  shorten h hs := henough ((hF _).shorten h hs) (Nat.lt_succ_self _)

end ShortensIf

/-! ### Runs of characters -/

section Runs

variable {γ : Type} {p : Char → Bool} {f : Char → β} {finish : List β → γ} {n m : Nat} {taken : List β} {r s : Reader}
  {x : γ} {more : List Char}

private theorem takeRun_suffix (h : takeRun p f finish n taken r = (x, s)) : s.rest <:+ r.rest := by
  have hfollows : (takeRun p f finish n taken r).2.Follows r := takeRun_follows n taken r
  rw [h] at hfollows
  exact hfollows.suffix

private theorem takeRun_of_append (hn : (r.append more).rest.length < n) (hm : r.rest.length < m)
    (h : takeRun p f finish n taken (r.append more) = (x, s.append more)) : takeRun p f finish m taken r = (x, s) := by
  induction n generalizing m r taken with
  | zero => exact absurd hn (Nat.not_lt_zero _)
  | succ n ih =>
      rcases r.eq_nil_or_push with hrest | ⟨c, t, rfl⟩
      · have hstop : ∀ {d : Char}, (r.append more).peek? = some d → ¬p d = true := by
          intro d hpeek hd
          rw [peek?, rest_append, hrest, List.nil_append] at hpeek
          obtain ⟨tail, rfl⟩ := List.head?_eq_some_iff.1 hpeek
          rw [append_cons_of_end hrest, takeRun_of_pos hd] at h
          exact not_append_suffix_tail ((takeRun_suffix h).trans (Follows.skip _).suffix)
        have hend : (finish taken, r.append more) = (x, s.append more) := by
          cases hpeek : (r.append more).peek? with
          | none => rwa [takeRun_of_end (List.head?_eq_none_iff.1 hpeek)] at h
          | some d => rwa [takeRun_of_neg hpeek (hstop hpeek)] at h
        obtain ⟨hx, hr⟩ := Prod.mk.inj hend
        rw [takeRun_of_end hrest, hx, append_inj hr]
      · obtain ⟨m, rfl⟩ : ∃ k, m = k + 1 := ⟨m - 1, by omega⟩
        rw [append_push] at h
        by_cases hc : p c = true
        · rw [takeRun_of_pos hc] at h
          obtain ⟨hskip, -⟩ := exists_skip_append (takeRun_suffix h)
          have hle := (Follows.skip t).suffix.length_le
          have hle' := (Follows.skip (t.append more)).suffix.length_le
          rw [hskip] at h hle'
          rw [takeRun_of_pos hc]
          exact ih (Nat.lt_of_le_of_lt hle' (Nat.lt_of_succ_lt_succ hn))
            (Nat.lt_of_le_of_lt hle (Nat.lt_of_succ_lt_succ hm)) h
        · rw [takeRun_of_neg rfl hc] at h
          obtain ⟨hx, hr⟩ := Prod.mk.inj h
          rw [takeRun_of_neg rfl hc, hx, append_inj (r := t.push c) hr]

theorem ShortensIf.takeRun {M : γ → Reader → Prop} (taken : List β) :
    ShortensIf M fun r => some (takeRun p f finish (r.rest.length + 1) taken r) where
  suffix h := takeRun_suffix (Option.some.inj h)
  shorten h _ := congrArg some (takeRun_of_append (Nat.lt_succ_self _) (Nat.lt_succ_self _) (Option.some.inj h))

end Runs

private theorem shortens_boundaryName : Shortens fun r => some (boundaryName (r.rest.length + 1) [] r) := by
  simp only [boundaryName_eq]
  exact .takeRun []

private theorem shortens_leadingHyphens : Shortens fun r => some (leadingHyphens (r.rest.length + 1) [] r) := by
  simp only [leadingHyphens_eq]
  exact .takeRun []

/-! ### Escapes -/

private theorem shortens_hexDigits (count : Nat) (digits : List Char) : Shortens (hexDigits count digits) := by
  induction count generalizing digits with
  | zero => exact .pure _
  | succ count ih =>
      refine .of_push (fun r hr => by rw [hexDigits, peek?, hr]; rfl) fun c => ?_
      exact .option_bind (Text.hexDigit? c) fun _ => (ih (c :: digits)).skip

theorem untilBrace_end (n : Nat) (body : List Char) {r : Reader} (h : r.rest = []) : untilBrace n body r = none := by
  cases n with
  | zero => rfl
  | succ n => rw [untilBrace, peek?, h]; rfl

theorem untilBrace_push {c : Char} (hc : c ≠ '\x7d') (n : Nat) (body : List Char) (r : Reader) :
    untilBrace (n + 1) body (r.push c) = untilBrace n (c :: body) r.skip := if_neg hc

private theorem untilBrace_of_length {n m : Nat} {body : List Char} {r : Reader} {p : List Char × Reader}
    (h : untilBrace n body r = some p) (hm : r.rest.length < m) : untilBrace m body r = some p := by
  induction n generalizing m body r with
  | zero => cases h
  | succ n ih =>
      obtain ⟨m, rfl⟩ : ∃ k, m = k + 1 := ⟨m - 1, by omega⟩
      rcases r.eq_nil_or_push with hrest | ⟨c, t, rfl⟩
      · rw [untilBrace_end _ _ hrest] at h
        cases h
      · by_cases hc : c = '\x7d'
        · obtain rfl := hc
          exact h
        · rw [untilBrace_push hc] at h ⊢
          exact ih h (Nat.lt_of_le_of_lt (Follows.skip t).suffix.length_le (Nat.lt_of_succ_lt_succ hm))

private theorem shortens_untilBrace : Shortens fun r => untilBrace (r.rest.length + 1) [] r := by
  have hfuel : ∀ n body, Shortens (untilBrace n body) := by
    intro n
    induction n with
    | zero => exact fun body => .none
    | succ n ih =>
        intro body
        refine .of_push (fun r hr => untilBrace_end _ _ hr) fun c => ?_
        by_cases hc : c = '\x7d'
        · obtain rfl := hc
          exact .pure body.reverse
        · simp only [untilBrace_push hc]
          exact (ih (c :: body)).skip
  exact .of_fuel (fun n => hfuel n []) untilBrace_of_length

private theorem shortens_readBracedHex : Shortens readBracedHex :=
  shortens_untilBrace.bind fun _ =>
    .ite .none (.option_bind _ fun _ => .option_bind _ fun _ => (ShortensIf.pure _).skip)

private theorem shortens_readFixedHex (count : Nat) : Shortens (readFixedHex count) :=
  (shortens_hexDigits count []).bind fun _ => .option_bind _ fun _ => .option_bind _ fun _ => .pure _

private theorem shortens_readHex (count : Nat) (c : Char) : Shortens fun r => readHex count (r.push c) := by
  simp only [readHex_push]
  have hbraced : Shortens fun r => readBracedHex (r.push '\x7b').bumpSkip := shortens_readBracedHex.skip
  exact (ShortensIf.ite_peek (F := fun r => readBracedHex r.bumpSkip) hbraced (shortens_readFixedHex count)).skip

private theorem shortens_readClassName (negated : Bool) : Shortens (readClassName negated) := by
  refine .of_push (fun r hr => by rw [readClassName, peek?, hr]; rfl) fun c => .ite ?_ (.ite .none ?_)
  · exact ShortensIf.skip (shortens_untilBrace.bind fun body => .pure _)
  · exact (ShortensIf.pure _).skip

private theorem shortens_readNamedClass (negated : Bool) (c : Char) :
    Shortens fun r => readNamedClass negated (r.push c) := by
  simp only [readNamedClass_push]
  exact (shortens_readClassName negated).skip

private theorem shortens_readBoundaryName : Shortens readBoundaryName := by
  refine ShortensIf.run (K := fun p => if p.2.peek? ≠ some '\x7d' then none
    else boundaryKind? (String.ofList p.1) >>= fun kind => some (kind, p.2.bump)) shortens_boundaryName fun name => ?_
  refine .of_push (fun r hr => ?_) fun c => ?_
  · have hend : r.peek? ≠ some '\x7d' := fun hpeek => ne_nil_of_peek? hpeek hr
    exact if_pos hend
  · simp only [peek?_push, bump_push]
    exact .ite (P := some c ≠ some '\x7d') .none (.option_bind _ fun kind => .pure kind)

private theorem ne_nil_of_readBoundaryName {r : Reader} {p : Assertion × Reader} (h : readBoundaryName r = some p) :
    r.rest ≠ [] := by
  intro hrest
  have hend : r.peek? ≠ some '\x7d' := fun hpeek => ne_nil_of_peek? hpeek hrest
  rw [readBoundaryName, boundaryName_eq, takeRun_of_end hrest] at h
  dsimp only at h
  rw [if_pos hend] at h
  cases h

/-- Whether something stands behind the brace that is read next, if it is a brace. -/
def Reader.SeesBrace (s : Reader) : Prop := s.peek? = some '\x7b' → s.bumpSkip.rest ≠ []

section Boundaries

variable {r s t : Reader} {x : Assertion} {more tail : List Char}

private theorem readBoundary_of_append_brace (hr : r.rest = [])
    (h : readBoundary (r.append ('\x7b' :: tail)) = some (x, s.append ('\x7b' :: tail))) :
    readBoundary r = some (x, s) := by
  have hend : r.peek? ≠ some '\x7b' := fun hpeek => ne_nil_of_peek? hpeek hr
  rw [append_cons_of_end hr, readBoundary_push_brace] at h
  obtain ⟨first, -, h⟩ := Option.bind_eq_some_iff.1 h
  split at h
  · rw [← append_cons_of_end hr] at h
    obtain ⟨hx, hsame⟩ := Prod.mk.inj (Option.some.inj h)
    rw [readBoundary_of_ne hend, hx, append_inj hsame]
  · exact absurd ((shortens_readBoundaryName.suffix h).trans (Follows.skip _).suffix) not_append_suffix_tail

private theorem readBoundary_push_of_append (h : readBoundary (push (t.append more) '\x7b') = some (x, s.append more))
    (hs : s.SeesBrace) : readBoundary (push t '\x7b') = some (x, s) := by
  rw [readBoundary_push_brace] at h
  obtain ⟨first, hfirst, h⟩ := Option.bind_eq_some_iff.1 h
  have hsame : t.skip.rest ≠ [] → t.skip.peek? = some first := by
    intro hne
    obtain ⟨d, v, hv⟩ := t.skip.eq_nil_or_push.resolve_left hne
    rw [append_eq_extend, skip_extend_of_push hv] at hfirst
    rwa [hv]
  split at h
  · rename_i hname
    obtain ⟨hx, hr⟩ := Prod.mk.inj (Option.some.inj h)
    obtain rfl : t.push '\x7b' = s := append_inj hr
    rw [readBoundary_push_brace, hsame (hs rfl), Option.bind_eq_bind, Option.bind_some, if_pos hname, hx]
    rfl
  · rename_i hname
    obtain ⟨hskip, -⟩ := exists_skip_append (shortens_readBoundaryName.suffix h)
    rw [hskip] at h
    have hread := shortens_readBoundaryName.shorten h trivial
    rw [readBoundary_push_brace, hsame (ne_nil_of_readBoundaryName hread), Option.bind_eq_bind,
      Option.bind_some, if_neg hname, hread]

private theorem shortens_readBoundary : ShortensIf (fun _ s => s.SeesBrace) readBoundary where
  suffix h := (local_readBoundary.follows h).suffix
  shorten {r x s more} h hs := by
    by_cases hpeek : (r.append more).peek? = some '\x7b'
    · rcases r.eq_nil_or_push with hr | ⟨c, t, rfl⟩
      · rw [peek?, rest_append, hr, List.nil_append] at hpeek
        obtain ⟨tail, rfl⟩ := List.head?_eq_some_iff.1 hpeek
        exact readBoundary_of_append_brace hr h
      · obtain rfl : c = '\x7b' := Option.some.inj hpeek
        exact readBoundary_push_of_append h hs
    · rw [readBoundary_of_ne hpeek] at h
      obtain ⟨hx, hr⟩ := Prod.mk.inj (Option.some.inj h)
      rw [readBoundary_of_ne fun hnext => hpeek (peek?_extend_of_some hnext), hx, append_inj hr]

end Boundaries

private theorem shortens_readEscape : ShortensIf (fun x s => (∃ a, x = .assertion a) → s.SeesBrace) readEscape := by
  refine .of_push (fun r hr => by rw [readEscape, peek?, hr]; rfl) fun c => ?_
  by_cases hc : c ∈ ['x', 'u', 'U', 'p', 'P', 'b']
  · simp only [List.mem_cons, List.not_mem_nil, or_false] at hc
    rcases hc with rfl | rfl | rfl | rfl | rfl | rfl
    · exact (shortens_readHex 2 'x').mono fun _ _ _ => trivial
    · exact (shortens_readHex 4 'u').mono fun _ _ _ => trivial
    · exact (shortens_readHex 8 'U').mono fun _ _ _ => trivial
    · exact (shortens_readNamedClass false 'p').mono fun _ _ _ => trivial
    · exact (shortens_readNamedClass true 'P').mono fun _ _ _ => trivial
    · have hboundary : (fun r => readEscape (push r 'b')) =
          fun r => (readBoundary r).map fun p => (Primitive.assertion p.1, p.2) := by
        funext r
        change (readBoundary r >>= fun p => some (Primitive.assertion p.1, p.2)) = _
        cases readBoundary r <;> rfl
      rw [hboundary]
      exact .map Primitive.assertion (shortens_readBoundary.mono fun kind s hs => hs ⟨kind, rfl⟩)
  · have hpush : (fun r => readEscape (push r c)) = _ := funext (readEscape_push hc)
    rw [hpush]
    cases readEscape (push ⟨[], false, []⟩ c) with
    | none => exact .none
    | some p => exact .pure p.1

theorem shortens_readPrimitive (c : Char) :
    ShortensIf (fun _ s => s.SeesBrace) fun r => readPrimitive (push r c) := by
  by_cases hc : c = '\\'
  · rw [hc]
    exact shortens_readEscape.mono fun _ _ hs _ => hs
  · obtain ⟨x, hx⟩ := exists_readPrimitive_push hc
    simp only [hx]
    exact .pure x

/-! ### Classes -/

private theorem shortens_readClassItem :
    ShortensIf (fun x s => (∃ a, x = .assertion a) → s.SeesBrace) readClassItem := by
  refine .of_push (fun r hr => by rw [readClassItem, peek?, hr]; rfl) fun c => ?_
  by_cases hc : c = '\\'
  · rw [hc]
    exact shortens_readEscape
  · have hpush : (fun r => readClassItem (push r c)) = fun r => some (.literal c false, r) :=
      funext fun r => if_neg hc
    rw [hpush]
    exact .pure _

private theorem shorten_readClassItem {r v s : Reader} {x : Primitive} {more : List Char}
    (h : readClassItem (r.append more) = some (x, v)) (hx : x.toClassExpr?.isSome ∨ x.toChar?.isSome)
    (hv : (s.append more).rest <:+ v.rest) : ∃ u : Reader, v = u.append more ∧ s.rest <:+ u.rest ∧
      readClassItem r = some (x, u) := by
  obtain ⟨u, rfl, hsuffix⟩ := exists_append hv
  refine ⟨u, rfl, hsuffix, shortens_readClassItem.shorten h ?_⟩
  rintro ⟨a, rfl⟩
  rcases hx with hx | hx
  · cases hx
  · cases hx

private theorem shorten_readRangeLast {first : Primitive} {r s : Reader} {x : ClassExpr} {more : List Char}
    (h : readRangeLast first (r.append more) = some (x, s.append more)) :
    readRangeLast first r = some (x, s) ∧ first.toChar?.isSome := by
  obtain ⟨⟨last, v⟩, hv, h⟩ := Option.bind_eq_some_iff.1 h
  obtain ⟨a, ha, h⟩ := Option.bind_eq_some_iff.1 h
  obtain ⟨b, hb, h⟩ := Option.bind_eq_some_iff.1 h
  split at h
  · rename_i hle
    obtain ⟨hx, rfl⟩ := Prod.mk.inj (Option.some.inj h)
    obtain ⟨u, hu, -, hitem⟩ := shorten_readClassItem hv (.inr (Option.isSome_of_eq_some hb)) List.suffix_rfl
    obtain rfl := append_inj hu
    refine ⟨?_, Option.isSome_of_eq_some ha⟩
    rw [readRangeLast, hitem]
    simp only [Option.bind_eq_bind, Option.bind_some, ha, hb, if_pos hle, hx]
    rfl
  · cases h

private theorem visible_ne_nil_of_mem {text : List Char} (h : ']' ∈ text) : visible text ≠ [] := by
  have hkept : ∀ {text : List Char}, ']' ∈ text → ']' ∈ text.dropWhile Unicode.isWhiteSpace := by
    intro text h
    rw [← List.takeWhile_append_dropWhile (p := Unicode.isWhiteSpace) (l := text), List.mem_append] at h
    refine h.resolve_left fun hblank => ?_
    have hbracket : ¬Unicode.isWhiteSpace ']' = true := not_isWhiteSpace (by decide)
    exact hbracket (List.all_eq_true.1 List.all_takeWhile _ hblank)
  have hmem := hkept h
  rw [visible]
  split
  · rename_i comment heq
    rw [heq, List.mem_cons] at hmem
    exact List.ne_nil_of_mem (hkept (hmem.resolve_left (by decide)))
  · exact List.ne_nil_of_mem hmem

private theorem shorten_readRangeEnd {first : Primitive} {r s : Reader} {x : ClassExpr} {more : List Char}
    (h : readRangeEnd first (r.append more) = some (x, s.append more)) (hs : ']' ∈ s.rest) :
    readRangeEnd first r = some (x, s) ∧ (first.toClassExpr?.isSome ∨ first.toChar?.isSome) := by
  have hsuffix : s.rest <:+ r.rest := append_suffix_append ((local_readRangeEnd first).follows h).suffix
  rcases r.eq_nil_or_push with hrest | ⟨c, t, rfl⟩
  · rw [hrest, List.suffix_nil] at hsuffix
    rw [hsuffix] at hs
    cases hs
  have hpeek : ((push t c).append more).peek? = some c := rfl
  have hnext : c = '-' → ((push t c).append more).peekNext? = (push t c).peekNext? := by
    rintro rfl
    have hmem : ']' ∈ t.rest := (List.mem_cons.1 (hsuffix.subset hs)).resolve_left (by decide)
    exact peekNext?_extend (List.ne_nil_of_mem hmem) (fun _ => visible_ne_nil_of_mem hmem) '-' more _
  have halone : (c ≠ '-' || ((push t c).append more).peekNext? = some ']' ||
      ((push t c).append more).peekNext? = some '-') = (c ≠ '-' || (push t c).peekNext? = some ']' ||
      (push t c).peekNext? = some '-') := by
    by_cases hc : c = '-'
    · rw [hnext hc]
    · simp [hc]
  rw [readRangeEnd, hpeek, Option.bind_eq_bind, Option.bind_some, halone] at h
  rw [readRangeEnd, peek?_push, Option.bind_eq_bind, Option.bind_some]
  split at h
  · rename_i hmember
    rw [if_pos hmember]
    obtain ⟨member, hm, h⟩ := Option.bind_eq_some_iff.1 h
    obtain ⟨hx, hr⟩ := Prod.mk.inj (Option.some.inj h)
    rw [hm, hx, append_inj (r := push t c) hr]
    exact ⟨rfl, .inl rfl⟩
  · rename_i hmember
    rw [if_neg hmember]
    rw [append_push, bumpSkip_push] at h
    obtain ⟨hskip, -⟩ := exists_skip_append ((local_readRangeLast first).follows h).suffix
    rw [hskip] at h
    obtain ⟨hlast, hfirst⟩ := shorten_readRangeLast h
    exact ⟨hlast, .inr hfirst⟩

private theorem shorten_readClassRange {r s : Reader} {x : ClassExpr} {more : List Char}
    (h : readClassRange (r.append more) = some (x, s.append more)) (hs : ']' ∈ s.rest) :
    readClassRange r = some (x, s) := by
  rw [readClassRange_eq] at h ⊢
  obtain ⟨⟨first, v⟩, hv, h⟩ := Option.bind_eq_some_iff.1 h
  have hend := ((local_readRangeEnd first).follows h).suffix
  obtain ⟨u, rfl, -⟩ := exists_append (hend.trans (Follows.skip v).suffix)
  obtain ⟨hskip, -⟩ := exists_skip_append hend
  dsimp only at h
  rw [hskip] at h
  obtain ⟨hread, hfirst⟩ := shorten_readRangeEnd h hs
  obtain ⟨w, hw, -, hitem⟩ := shorten_readClassItem (s := u) hv hfirst List.suffix_rfl
  obtain rfl := append_inj hw
  rw [hitem]
  exact hread

private theorem shorten_readPosixClass? {t u : Reader} {item : ClassExpr} {more : List Char}
    (h : readPosixClass? ((push t '[').append more) = some (item, u.append more)) (hu : ']' ∈ u.rest) :
    readPosixClass? (push t '[') = some (item, u) := by
  have hsuffix : u.rest <:+ t.rest := by
    rw [append_push] at h
    exact append_suffix_append (readPosixClass?_extend h).1.suffix
  rw [append_eq_extend] at h
  cases hread : readPosixClass? (push t '[') with
  | none =>
      rw [readPosixClass?_extend_none hread (hsuffix.subset hu)] at h
      cases h
  | some p =>
      obtain ⟨x, w⟩ := p
      obtain ⟨hfollows, hextend⟩ := readPosixClass?_extend hread
      rw [hextend] at h
      obtain ⟨hx, hw⟩ := Prod.mk.inj (Option.some.inj h)
      have hnames : w.groupNames = (push t '[').groupNames := hfollows.groupNames
      rw [← hnames, ← append_eq_extend] at hw
      rw [hx, append_inj hw]

private theorem shortens_openClass : Shortens openClass := by
  have hnegation : Shortens fun r => some (readNegation r) := by
    simp only [readNegation, apply_ite some]
    exact .ite_peek (F := fun r => some (true, r.bumpSkip)) (ShortensIf.pure true).skip (.pure false)
  have hbracket : ∀ items, Shortens fun r => some (readFirstBracket items r) := by
    intro items
    simp only [readFirstBracket, apply_ite some]
    exact .ite (.ite_peek (F := fun r => some ([ClassExpr.literal ']'], r.bumpSkip))
      (ShortensIf.pure [ClassExpr.literal ']']).skip (.pure items)) (.pure items)
  refine hnegation.bind fun negated => ?_
  exact shortens_leadingHyphens.bind fun items => (hbracket items).bind fun items => .pure (negated, items)

private theorem readClassRange_push_suffix {t u : Reader} {c : Char} {x : ClassExpr}
    (h : readClassRange (push t c) = some (x, u)) : u.rest <:+ t.rest := by
  rw [readClassRange_eq] at h
  obtain ⟨⟨first, v⟩, hv, h⟩ := Option.bind_eq_some_iff.1 h
  have hfirst : v.rest <:+ t.rest := by
    by_cases hc : c = '\\'
    · obtain rfl := hc
      exact (local_readEscape.follows hv).suffix
    · have hplain : readClassItem (push t c) = some (.literal c false, t) := if_neg hc
      cases hplain.symm.trans hv
      exact List.suffix_rfl
  exact ((local_readRangeEnd first).follows h).suffix.trans ((Follows.skip v).suffix.trans hfirst)

section ClassBody

variable {n m : Nat} {waiting : Option (ClassOperator × ClassExpr)} {items : List ClassExpr} {r s : Reader}
  {x : ClassExpr} {more : List Char}

private theorem exists_append_of_readClassBody {u : Reader}
    (h : readClassBody n waiting items u = some (x, s.append more)) :
    ∃ v : Reader, u = v.append more ∧ ']' ∈ v.rest := by
  have hfollows := (readClassBody_follows h).suffix
  obtain ⟨v, hv, hsuffix⟩ := exists_append (s := s.push ']') hfollows
  exact ⟨v, hv, hsuffix.subset List.mem_cons_self⟩

private theorem readPosixClass?_eq_none_of_append (h : readPosixClass? (push (r.append more) '[') = none) :
    readPosixClass? (push r '[') = none := by
  cases hread : readPosixClass? (push r '[') with
  | none => rfl
  | some p =>
      have hmore := (readPosixClass?_extend hread).2 more r.groupNames
      rw [extend_push, ← append_eq_extend, h] at hmore
      cases hmore

private theorem readClassBody_of_append (h : readClassBody n waiting items (r.append more) = some (x, s.append more)) :
    readClassBody n waiting items r = some (x, s) := by
  induction n generalizing waiting items r x s with
  | zero => cases h
  | succ n ih =>
      cases classStep h with
      | close ht hx =>
          rw [readClassBody_close (skip_push_of_append ht), hx]
      | @posix t u item ht hitem hrest =>
          obtain ⟨v, rfl, hmem⟩ := exists_append_of_readClassBody hrest
          obtain ⟨w, rfl, -⟩ := exists_append (u := t) (s := v) (readPosixClass?_extend hitem).1.suffix
          rw [readClassBody_posix (skip_push_of_append ht) (shorten_readPosixClass? hitem hmem)]
          exact ih hrest
      | @nested t u v negated inner body ht hposix hopen hbody hrest =>
          obtain ⟨w, rfl, -⟩ := exists_append_of_readClassBody hrest
          obtain ⟨y, rfl, hmem⟩ := exists_append_of_readClassBody hbody
          obtain ⟨z, rfl, -⟩ :=
            exists_append ((shortens_openClass.suffix hopen).trans (Follows.skip t).suffix)
          obtain ⟨hskip, hsuffix⟩ := exists_skip_append (shortens_openClass.suffix hopen)
          rw [hskip] at hopen
          rw [readClassBody_nested (skip_push_of_append ht) (readPosixClass?_eq_none_of_append hposix),
            shortens_openClass.shorten hopen trivial]
          simp only [Option.bind_eq_bind, Option.bind_some, ih hbody]
          exact ih hrest
      | @operator c t o ht ho hpeek hrest =>
          rcases t.eq_nil_or_push with hnil | ⟨d, u, rfl⟩
          · exact absurd hnil (ne_nil_of_peek? hpeek)
          · obtain ⟨v, rfl, -⟩ := exists_append_of_readClassBody (u := u) hrest
            rw [readClassBody_operator (s := v.push d) (skip_push_of_append ht) ho hpeek]
            exact ih hrest
      | @member c t u item ht hclose hopen hsingle hitem hrest =>
          obtain ⟨v, rfl, hmem⟩ := exists_append_of_readClassBody hrest
          obtain ⟨w, rfl, -⟩ := exists_append (readClassRange_push_suffix hitem)
          have hsingle' : w.peek? = some c → classOperator? c = none := fun hpeek =>
            hsingle (peek?_extend_of_some hpeek)
          rw [← append_push] at hitem
          rw [readClassBody_member (skip_push_of_append ht) hclose hopen hsingle', shorten_readClassRange hitem hmem]
          exact ih hrest

private theorem readClassBody_of_length {p : ClassExpr × Reader} (h : readClassBody n waiting items r = some p)
    (hm : r.rest.length < m) : readClassBody m waiting items r = some p := by
  induction n generalizing m waiting items r p with
  | zero => cases h
  | succ n ih =>
      obtain ⟨x, s⟩ := p
      obtain ⟨m, rfl⟩ : ∃ k, m = k + 1 := ⟨m - 1, by omega⟩
      have hshorter : ∀ {c : Char} {t u : Reader}, r.skip = push t c → u.rest <:+ t.rest → u.rest.length < m := by
        intro c t u ht hu
        have hle := (Follows.of_skip ht).suffix.length_le
        have hle' := hu.length_le
        rw [push, List.length_cons] at hle
        omega
      cases classStep h with
      | close ht hx => rw [readClassBody_close ht, hx]
      | posix ht hitem hrest =>
          rw [readClassBody_posix ht hitem]
          exact ih hrest (hshorter ht (readPosixClass?_extend hitem).1.suffix)
      | nested ht hposix hopen hbody hrest =>
          have hinner := (local_openClass.follows hopen).trans (.skip _)
          have hbehind := ((Follows.push _ ']').trans (readClassBody_follows hbody)).trans hinner
          rw [readClassBody_nested ht hposix, hopen]
          simp only [Option.bind_eq_bind, Option.bind_some, ih hbody (hshorter ht hinner.suffix)]
          exact ih hrest (hshorter ht hbehind.suffix)
      | @operator c t o ht ho hpeek hrest =>
          rw [readClassBody_operator ht ho hpeek]
          exact ih hrest (hshorter ht (List.tail_suffix t.rest))
      | @member c t u item ht hclose hopen hsingle hitem hrest =>
          rw [readClassBody_member ht hclose hopen hsingle, hitem]
          exact ih hrest (hshorter ht (readClassRange_push_suffix hitem))

end ClassBody

theorem shortens_readClass : Shortens readClass := by
  have hbody : ∀ n items, Shortens (readClassBody n none items) := fun n items =>
    { suffix := fun h => ((Follows.push _ ']').trans (readClassBody_follows h)).suffix
      shorten := fun h _ => readClassBody_of_append h }
  rw [readClass_eq]
  refine ShortensIf.skip (shortens_openClass.bind fun p => ?_)
  exact (ShortensIf.of_fuel (fun n => hbody n p.2) readClassBody_of_length).bind fun body =>
    .pure (Expr.bracketed p.1 body)

end CorpusSearch.Regex
