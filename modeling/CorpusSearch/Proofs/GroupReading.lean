import CorpusSearch.Proofs.ClassReading

/-!
Openings of groups and counts of repetitions are read alike in front of more text. A named group can be refused in a
longer text, as its name can be taken there. Main statement: an opening is read in the same way behind other groups,
and refused exactly if the name that it gives is taken.
-/

set_option autoImplicit false

namespace CorpusSearch.Regex

open Reader

/-! ### Openings -/

private theorem readFlags_append {negated : Bool} {settings found : FlagSettings} {text after : List Char}
    (h : readFlags negated settings text = some (found, after)) (more : List Char) :
    readFlags negated settings (text ++ more) = some (found, after ++ more) := by
  induction text generalizing negated settings with
  | nil => cases h
  | cons c text ih =>
      unfold readFlags at h
      rw [List.cons_append]
      unfold readFlags
      split at h
      · rename_i hstop
        rw [if_pos hstop]
        cases h
        rfl
      · rename_i hstop
        rw [if_neg hstop]
        split at h
        · rename_i hhyphen
          rw [if_pos hhyphen]
          cases text with
          | nil => cases h
          | cons d text =>
              dsimp only [List.cons_append] at h ⊢
              split at h
              · cases h
              · rename_i hsecond
                rw [if_neg hsecond]
                exact ih h
        · rename_i hhyphen
          rw [if_neg hhyphen]
          obtain ⟨flag, hflag, h⟩ := Option.bind_eq_some_iff.1 h
          simp only [hflag, Option.bind_eq_bind, Option.bind_some]
          split at h
          · cases h
          · rename_i hnew
            rw [if_neg hnew]
            exact ih h

theorem readFlags_suffix {negated : Bool} {settings found : FlagSettings} {text after : List Char}
    (h : readFlags negated settings text = some (found, after)) :
    after <:+ text ∧ ∃ c rest, after = c :: rest ∧ (c = ':' ∨ c = ')') := by
  induction text generalizing negated settings with
  | nil => cases h
  | cons c text ih =>
      have hlater : ∀ {negated settings}, readFlags negated settings text = some (found, after) → _ := fun h =>
        And.imp_left (fun hs : after <:+ text => hs.trans (List.suffix_cons c text)) (ih h)
      unfold readFlags at h
      split at h
      · rename_i hstop
        cases h
        exact ⟨List.suffix_rfl, c, text, rfl, by simpa using hstop⟩
      · split at h
        · cases text with
          | nil => cases h
          | cons d text =>
              dsimp only at h
              split at h
              · cases h
              · exact hlater h
        · obtain ⟨flag, hflag, h⟩ := Option.bind_eq_some_iff.1 h
          split at h
          · cases h
          · exact hlater h

section Openings

variable {r s t : Reader} {o : Opening} {F G : Reader → Option (Opening × Reader)} {more : List Char}
  {new names : List (List Char)}

/--
An opening has been read that gives names to groups. From a text that goes on it is read in the same way, unless one of
the names is taken there.
-/
structure Opens (F : Reader → Option (Opening × Reader)) (r : Reader) (o : Opening) (s : Reader)
    (new : List (List Char)) : Prop where
  suffix : s.rest <:+ r.rest
  ignoreWhitespace : s.ignoreWhitespace = r.ignoreWhitespace
  groupNames : s.groupNames = new ++ r.groupNames
  extend (more : List Char) (names : List (List Char)) : F (r.extend more names) =
    if new.any names.contains then none else some (o, s.extend more (new ++ names))

namespace Opens

private theorem of_follows (h : Opens F t o s new) (hfollows : t.Follows r)
    (hread : ∀ more names, G (r.extend more names) = F (t.extend more names)) : Opens G r o s new where
  suffix := h.suffix.trans hfollows.suffix
  ignoreWhitespace := h.ignoreWhitespace.trans hfollows.ignoreWhitespace
  groupNames := hfollows.groupNames ▸ h.groupNames
  extend more names := (hread more names).trans (h.extend more names)

theorem extend_eq_some {p : Opening × Reader} (h : Opens F r o s new) (hp : F (r.extend more names) = some p) :
    p = (o, s.extend more (new ++ names)) := by
  rw [h.extend more names] at hp
  split at hp
  · cases hp
  · exact (Option.some.inj hp).symm

theorem extend_of_disjoint (h : Opens F r o s new) (hfree : new.Disjoint names) (more : List Char) :
    F (r.extend more names) = some (o, s.extend more (new ++ names)) := by
  rw [h.extend more names, if_neg]
  rw [List.any_eq_true]
  rintro ⟨name, hnew, hold⟩
  exact hfree hnew (List.contains_iff_mem.1 hold)

end Opens

theorem exists_of_readGroupName (h : readGroupName r = some s) : ∃ name c after,
    r.rest.dropWhile (· ≠ '>') = c :: after ∧ s = ⟨after, r.ignoreWhitespace, name :: r.groupNames⟩ ∧
      ∀ more names, readGroupName (r.extend more names) =
        if names.contains name then none else some ⟨after ++ more, r.ignoreWhitespace, name :: names⟩ := by
  unfold readGroupName at h
  dsimp only at h
  split at h
  · rename_i first others c after htake hdrop
    split at h
    · rename_i hname
      cases h
      obtain ⟨hchars, -⟩ := (Bool.and_eq_true _ _).mp hname
      refine ⟨_, c, after, hdrop, rfl, fun more names => ?_⟩
      have hne : r.rest.dropWhile (· ≠ '>') ≠ [] := hdrop ▸ List.cons_ne_nil c after
      unfold readGroupName
      rw [rest_extend, takeWhile_append_of_ne_nil hne, dropWhile_append_of_ne_nil hne, htake, hdrop]
      dsimp only [List.cons_append]
      rw [hchars, Bool.true_and]
      by_cases hold : first :: others ∈ names <;> simp [extend, hold]
    · cases h
  · cases h

/-- What follows an opening parenthesis and a question mark, if it is no name. -/
def readFlagGroup (r : Reader) : Option (Opening × Reader) := do
  match ← readFlags false [] r.rest with
  | (settings, ')' :: rest) => if settings.isEmpty then none else return (.flags settings, { r with rest })
  | (settings, _ :: rest) => return (.group settings, { r with rest })
  | (_, []) => none

def readNamedGroup (r : Reader) : Option (Opening × Reader) := do return (.group [], ← readGroupName r)

def readQuestion (r : Reader) : Option (Opening × Reader) :=
  match r.rest with
  | '=' :: _ | '!' :: _ | '<' :: '=' :: _ | '<' :: '!' :: _ => none
  | 'P' :: '<' :: rest => readNamedGroup { r with rest }
  | '<' :: rest => readNamedGroup { r with rest }
  | _ => readFlagGroup r

theorem readOpening_of_ne {c : Char} (h : r.skip = push s c) (hc : c ≠ '?') :
    readOpening r = some (.group [], push s c) := by
  rw [readOpening, h]
  split <;> first | rfl | (rename_i heq; exact absurd (List.cons.inj heq).1 hc)

theorem readOpening_end (h : r.skip.rest = []) : readOpening r = some (.group [], r.skip) := by
  rw [readOpening, h]

theorem readOpening_question (h : r.skip = push s '?') : readOpening r = readQuestion s := by
  have hrest : (push s '?').rest = '?' :: s.rest := rfl
  rw [readOpening, h, hrest, readQuestion]
  split <;> simp_all [readNamedGroup, readFlagGroup]
  all_goals rfl

theorem readQuestion_of_flags {x : FlagSettings × List Char} (h : readFlags false [] r.rest = some x) :
    readQuestion r = readFlagGroup r := by
  unfold readQuestion
  split
  · rename_i heq
    rw [heq] at h
    cases h
  · rename_i heq
    rw [heq] at h
    cases h
  · rename_i heq
    rw [heq] at h
    cases h
  · rename_i heq
    rw [heq] at h
    cases h
  · rename_i heq
    rw [heq] at h
    cases h
  · rename_i heq
    rw [heq] at h
    cases h
  · rfl

theorem readQuestion_of_name {rest : List Char} (h : r.rest = '<' :: rest) (hequal : rest.head? ≠ some '=')
    (hnot : rest.head? ≠ some '!') : readQuestion r = readNamedGroup { r with rest } := by
  unfold readQuestion
  rw [h]
  split
  · rename_i heq
    cases heq
  · rename_i heq
    cases heq
  · rename_i heq
    obtain rfl := (List.cons.inj heq).2
    exact absurd rfl hequal
  · rename_i heq
    obtain rfl := (List.cons.inj heq).2
    exact absurd rfl hnot
  · rename_i heq
    cases heq
  · rename_i heq
    obtain rfl := (List.cons.inj heq).2
    rfl
  · rename_i hother
    exact absurd rfl (hother rest)

theorem opens_readNamedGroup (h : readNamedGroup r = some (o, s)) : ∃ new, Opens readNamedGroup r o s new := by
  obtain ⟨t, ht, h⟩ := Option.bind_eq_some_iff.1 h
  cases h
  obtain ⟨name, c, after, hdrop, rfl, hextend⟩ := exists_of_readGroupName ht
  have hbehind : after <:+ r.rest := (List.suffix_cons c after).trans (hdrop ▸ List.dropWhile_suffix _)
  refine ⟨[name], hbehind, rfl, rfl, fun more names => ?_⟩
  rw [readNamedGroup, hextend, List.any_cons, List.any_nil, Bool.or_false]
  split <;> rfl

private theorem opens_readFlagGroup (h : readFlagGroup r = some (o, s)) : Opens readQuestion r o s [] := by
  obtain ⟨⟨settings, after⟩, hflags, h⟩ := Option.bind_eq_some_iff.1 h
  obtain ⟨hsuffix, c, rest, rfl, hc⟩ := readFlags_suffix hflags
  have hbehind : rest <:+ r.rest := (List.suffix_cons c rest).trans hsuffix
  rcases hc with rfl | rfl
  · cases h
    refine ⟨hbehind, rfl, rfl, fun more names => ?_⟩
    have hmore := readFlags_append hflags more
    rw [readQuestion_of_flags hmore, readFlagGroup, rest_extend, hmore]
    rfl
  · change (if settings.isEmpty = true then none else some (Opening.flags settings, { r with rest })) = _ at h
    by_cases hempty : settings.isEmpty = true
    · rw [if_pos hempty] at h
      cases h
    · rw [if_neg hempty] at h
      cases h
      refine ⟨hbehind, rfl, rfl, fun more names => ?_⟩
      have hmore := readFlags_append hflags more
      rw [readQuestion_of_flags hmore, readFlagGroup, rest_extend, hmore]
      exact if_neg hempty

theorem opens_readQuestion (h : readQuestion r = some (o, s)) : ∃ new, Opens readQuestion r o s new := by
  unfold readQuestion at h
  split at h
  · cases h
  · cases h
  · cases h
  · cases h
  · rename_i rest heq
    obtain ⟨new, hopens⟩ := opens_readNamedGroup h
    refine ⟨new, hopens.of_follows ⟨heq ▸ (List.suffix_cons _ _).trans (List.suffix_cons _ _), rfl, rfl⟩ ?_⟩
    intro more names
    rw [readQuestion, rest_extend, heq]
    rfl
  · rename_i rest hequal hnot heq
    obtain ⟨new, hopens⟩ := opens_readNamedGroup h
    refine ⟨new, hopens.of_follows ⟨heq ▸ List.suffix_cons _ _, rfl, rfl⟩ fun more names => ?_⟩
    cases rest with
    | nil => cases h
    | cons d rest =>
        have hmore : (r.extend more names).rest = '<' :: (d :: rest ++ more) := by rw [rest_extend, heq]; rfl
        have hd : d ≠ '=' ∧ d ≠ '!' :=
          ⟨fun hd => hequal rest (congrArg (· :: rest) hd), fun hd => hnot rest (congrArg (· :: rest) hd)⟩
        exact readQuestion_of_name hmore (fun hhead => hd.1 (Option.some.inj hhead))
          fun hhead => hd.2 (Option.some.inj hhead)
  · exact ⟨[], opens_readFlagGroup h⟩

theorem opens_readOpening (h : readOpening r = some (o, s)) (hs : s.rest ≠ [] ∨ ∃ settings, o = .flags settings) :
    ∃ new, Opens readOpening r o s new := by
  rcases r.skip.eq_nil_or_push with hend | ⟨c, t, ht⟩
  · rw [readOpening_end hend] at h
    cases h
    rcases hs with hs | ⟨settings, heq⟩
    · exact absurd hend hs
    · cases heq
  have hskip : ∀ more names, (r.extend more names).skip = push (t.extend more names) c :=
    fun more names => skip_extend_of_push ht more names
  have hbehind : (push t c).Follows r := .of_skip ht
  by_cases hc : c = '?'
  · obtain rfl := hc
    rw [readOpening_question ht] at h
    obtain ⟨new, hopens⟩ := opens_readQuestion h
    exact ⟨new, hopens.of_follows ((Follows.push t '?').trans hbehind) fun more names =>
      readOpening_question (hskip more names)⟩
  · rw [readOpening_of_ne ht hc] at h
    cases h
    exact ⟨[], hbehind.suffix, hbehind.ignoreWhitespace, hbehind.groupNames, fun more names =>
      readOpening_of_ne (hskip more names) hc⟩

end Openings

/-! ### Repetitions -/

theorem local_dropSpaces : Local fun r => some ((), dropSpaces r) where
  follows h := by
    cases h
    exact ⟨List.dropWhile_suffix _, rfl, rfl⟩
  extend {r x r' more} names h hapart := by
    cases h
    by_cases hrest : (dropSpaces r).rest = []
    · obtain ⟨hignore, hhead⟩ := hapart.resolve_left (absurd hrest)
      have hkept : more.dropWhile Unicode.isWhiteSpace = more := by
        rcases hhead with hhead | hhead
        all_goals
          obtain ⟨tail, rfl⟩ := List.head?_eq_some_iff.1 hhead
          exact List.dropWhile_cons_of_neg (not_isWhiteSpace (by decide))
      have hrest' : r.rest.dropWhile Unicode.isWhiteSpace = [] := hrest
      have hall : (r.rest ++ more).dropWhile Unicode.isWhiteSpace = more := by
        rw [List.dropWhile_append, if_pos (List.isEmpty_iff.2 hrest'), hkept]
      refine ⟨.inr ⟨hignore, hhead⟩,
        congrArg (fun rest => some ((), (⟨rest, r.ignoreWhitespace, names⟩ : Reader))) ?_⟩
      rw [rest_extend, hall, hrest]
      rfl
    · refine ⟨apart_of_ne_nil fun hnil => hrest ?_, ?_⟩
      · rw [dropSpaces, hnil]
        rfl
      · exact congrArg (fun rest => some ((), (⟨rest, r.ignoreWhitespace, names⟩ : Reader)))
          (dropWhile_append_of_ne_nil hrest more)

theorem local_skipLazy : Local fun r => some ((), skipLazy r) := by
  simp only [skipLazy, apply_ite (Prod.mk ()), apply_ite some]
  exact .ite_peek (F := fun r => some ((), r.bump)) (by decide) (by decide) (.pure ()) (.pure ())

def countOf? (digits : List Char) (r : Reader) : Option (Option Nat × Reader) :=
  if digits.isEmpty then some (none, r) else Text.natural? digits >>= fun n =>
    if n < 4294967296 then some (some n, r) else none

private theorem local_countOf? (digits : List Char) : Local (countOf? digits) :=
  .ite (.pure none) (.option_bind (Text.natural? digits) fun n => .ite (.pure (some n)) .none)

theorem local_readCount : Local readCount := by
  have hread : readCount = fun r => some ((), dropSpaces r) >>= fun p =>
      some (readDecimal (p.2.rest.length + 1) [] p.2) >>= fun p =>
      some ((), dropSpaces p.2) >>= fun q => countOf? p.1 q.2 := rfl
  rw [hread]
  refine local_dropSpaces.bind fun _ => local_readDecimal.bind fun digits => ?_
  exact local_dropSpaces.bind (K := fun q => countOf? digits q.2) fun _ => local_countOf? digits

def readHigh (low : Nat) (r : Reader) : Option ((Nat × Option Nat) × Reader) := do
  let (high, r) ← readCount r
  let high ← high
  if r.peek? = some '\x7d' then if low ≤ high then return ((low, some high), r.bumpSkip) else none else none

def readBeyond (low : Option Nat) (r : Reader) : Option ((Nat × Option Nat) × Reader) :=
  if r.peek? = some '\x7d' then low >>= fun low => some ((low, none), r.bumpSkip)
  else low >>= fun low => readHigh low r

def readUpper (low : Option Nat) (r : Reader) : Option ((Nat × Option Nat) × Reader) :=
  if r.peek? = some ',' then readBeyond low r.bumpSkip
  else if r.peek? = some '\x7d' then low >>= fun low => some ((low, some low), r.bumpSkip)
  else none

def readBounds (r : Reader) : Option ((Nat × Option Nat) × Reader) := do
  let (low, r) ← readCount r.skip
  readUpper low r

private theorem map_readHigh (low : Nat) (r : Reader) : ((readHigh low r).map fun p => (p.1.1, p.1.2, p.2)) = (do
    let (high, r) ← readCount r
    let high ← high
    if r.peek? = some '\x7d' && low ≤ high then return (low, some high, r.bumpSkip) else none) := by
  rw [readHigh]
  rcases readCount r with _ | ⟨_ | high, s⟩
  · rfl
  · rfl
  · simp only [Option.bind_eq_bind, Option.bind_some]
    by_cases hclose : s.peek? = some '\x7d'
    · by_cases hle : low ≤ high
      · simp [hclose, hle]
      · simp [hclose, hle]
    · simp [hclose]

theorem readCounts_eq (r : Reader) : readCounts r = (readBounds r).map fun p => (p.1.1, p.1.2, p.2) := by
  rw [readCounts, readBounds]
  rcases readCount r.skip with _ | ⟨low, s⟩
  · rfl
  simp only [Option.bind_eq_bind, Option.bind_some]
  rw [readUpper]
  split
  · rename_i hcomma
    rw [if_pos hcomma, readBeyond]
    cases low with
    | none => split <;> rfl
    | some low =>
        split
        · rfl
        · exact (map_readHigh low _).symm
  · rename_i hclose
    rw [hclose, if_neg (by decide), if_pos rfl]
    cases low <;> rfl
  · rename_i hcomma hclose
    rw [if_neg hcomma, if_neg hclose]
    rfl

private theorem local_readHigh (low : Nat) : Local (readHigh low) := by
  refine local_readCount.bind fun high => .option_bind high fun high => ?_
  exact .ite_peek (F := fun r => if low ≤ high then some ((low, some high), r.bumpSkip) else none) (by decide)
    (by decide) (.ite (Local.pure _).skip .none) .none

private theorem local_readBeyond (low : Option Nat) : Local (readBeyond low) :=
  .ite_peek (F := fun r => low >>= fun low => some ((low, none), r.bumpSkip)) (by decide) (by decide)
    (.option_bind low fun low => (Local.pure (low, none)).skip) (.option_bind low local_readHigh)

private theorem local_readUpper (low : Option Nat) : Local (readUpper low) := by
  refine .ite_peek (F := fun r => readBeyond low r.bumpSkip) (by decide) (by decide) (local_readBeyond low).skip ?_
  exact .ite_peek (F := fun r => low >>= fun low => some ((low, some low), r.bumpSkip)) (by decide) (by decide)
    (.option_bind low fun low => (Local.pure (low, some low)).skip) .none

theorem local_readBounds : Local readBounds := (local_readCount.bind local_readUpper).skip

end CorpusSearch.Regex
