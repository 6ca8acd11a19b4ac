import CorpusSearch.Proofs.GroupReading

/-!
Expressions in front of more text. An expression is read item by item: each is a part of its own or repeats the last
part. Main statement: an expression that ends before the end of its text, as the body of a group does, is read to be
the same in every longer text that can be read. What is read with some fuel is read with more.
-/

set_option autoImplicit false

namespace CorpusSearch.Regex

open Reader

/-! ### Items -/

/-- What is read next in a branch: a part, or a repetition of the last one. -/
inductive Item where
  | part (e : Expr)
  | repeated (min : Nat) (max : Option Nat)

def Item.addTo? : Item → List Expr → Option (List Expr)
  | part e, parts => some (e :: parts)
  | repeated min max, parts => repeatLast min max parts

theorem repeatLast_cons {low : Nat} {high : Option Nat} {e : Expr} {parts : List Expr} (hempty : e = .empty → False)
    (hflags : ∀ settings, e = .flags settings → False) :
    repeatLast low high (e :: parts) = some (.repetition low high e :: parts) := by
  unfold repeatLast
  split <;> simp_all

theorem addTo?_append {item : Item} {parts later : List Expr} (h : item.addTo? parts = some later) (front : List Expr) :
    item.addTo? (parts ++ front) = some (later ++ front) := by
  cases item with
  | part e =>
      cases h
      rfl
  | repeated low high =>
      rw [Item.addTo?] at h ⊢
      unfold repeatLast at h
      split at h
      · cases h
      · cases h
      · cases h
      · rename_i body rest hempty hflags
        cases h
        exact repeatLast_cons hempty hflags

def readBody (fuel : Nat) (settings : FlagSettings) (inner : Reader) : Option (Item × Reader) := do
  let (body, after) ← readExpr fuel [] []
    { inner with ignoreWhitespace := setsIgnoreWhitespace settings inner.ignoreWhitespace }
  match after.rest with
  | ')' :: rest =>
    return (.part (.group settings body), { after with rest, ignoreWhitespace := inner.ignoreWhitespace })
  | _ => none

def readGroup (fuel : Nat) (r : Reader) : Option (Item × Reader) := do
  match ← readOpening r with
  | (.flags settings, r) =>
    return (.part (.flags settings),
      { r with ignoreWhitespace := setsIgnoreWhitespace settings r.ignoreWhitespace })
  | (.group settings, inner) => readBody fuel settings inner

def readLazy (min : Nat) (max : Option Nat) (r : Reader) : Option (Item × Reader) :=
  some (.repeated min max, skipLazy r)

def readItem (fuel : Nat) (c : Char) (r : Reader) : Option (Item × Reader) :=
  if c = '(' then readGroup fuel r
  else if c = '[' then (readClass r).map fun p => (.part p.1, p.2)
  else if c = '?' then readLazy 0 (some 1) r
  else if c = '*' then readLazy 0 none r
  else if c = '+' then readLazy 1 none r
  else if c = '\x7b' then readBounds r >>= fun p => readLazy p.1.1 p.1.2 p.2
  else (readPrimitive (r.push c)).map fun p => (.part p.1.toExpr, p.2)

section Steps

variable {fuel : Nat} {branches parts : List Expr} {r s : Reader} {c : Char}

theorem readExpr_end (h : r.skip.rest = []) :
    readExpr (fuel + 1) branches parts r = some (joinBranches branches parts, r.skip) := by
  rw [readExpr]
  dsimp only
  rw [h]

theorem readExpr_close (h : r.skip = push s ')') :
    readExpr (fuel + 1) branches parts r = some (joinBranches branches parts, push s ')') := by
  rw [readExpr, h]
  rfl

theorem readExpr_bar (h : r.skip = push s '|') :
    readExpr (fuel + 1) branches parts r = readExpr fuel (.sequence parts.reverse :: branches) [] s := by
  rw [readExpr, h]
  rfl

theorem readExpr_opening (h : r.skip = push s '(') : readExpr (fuel + 1) branches parts r = (do
    let (item, s) ← readGroup fuel s
    let parts ← item.addTo? parts
    readExpr fuel branches parts s) := by
  rw [readExpr, h, readGroup]
  have hrest : (push s '(').rest = '(' :: s.rest := rfl
  have hopening : readOpening { push s '(' with rest := s.rest } = readOpening s := rfl
  rw [hrest]
  simp only [hopening]
  rcases readOpening s with _ | ⟨settings | settings, inner⟩
  · rfl
  · rfl
  · simp only [Option.bind_eq_bind, Option.bind_some, readBody]
    rcases readExpr fuel [] [] _ with _ | ⟨body, text, ignored, names⟩
    · rfl
    · simp only [Option.bind_some]
      rcases text with _ | ⟨d, text⟩
      · rfl
      · by_cases hd : d = ')'
        · rw [hd]
          rfl
        · simp [hd]

/-- An item is read and taken to the parts. -/
theorem readExpr_item (h : r.skip = push s c) (hclose : c ≠ ')') (hbar : c ≠ '|') :
    readExpr (fuel + 1) branches parts r = (do
      let (item, s) ← readItem fuel c s
      let parts ← item.addTo? parts
      readExpr fuel branches parts s) := by
  unfold readItem
  by_cases hgroup : c = '('
  · obtain rfl := hgroup
    exact readExpr_opening h
  rw [if_neg hgroup, readExpr, h]
  by_cases hclass : c = '['
  · obtain rfl := hclass
    rw [if_pos rfl]
    change ((readClass s).bind fun p => readExpr fuel branches (p.1 :: parts) p.2) = _
    cases readClass s <;> rfl
  rw [if_neg hclass]
  by_cases hquestion : c = '?'
  · obtain rfl := hquestion
    rfl
  rw [if_neg hquestion]
  by_cases hstar : c = '*'
  · obtain rfl := hstar
    rfl
  rw [if_neg hstar]
  by_cases hplus : c = '+'
  · obtain rfl := hplus
    rfl
  rw [if_neg hplus]
  by_cases hbrace : c = '\x7b'
  · obtain rfl := hbrace
    rw [if_pos rfl]
    change ((readCounts s).bind fun p => (repeatLast p.1 p.2.1 parts).bind fun later =>
      readExpr fuel branches later (skipLazy p.2.2)) = _
    rw [readCounts_eq]
    cases readBounds s <;> rfl
  rw [if_neg hbrace]
  refine Eq.trans (b := (readPrimitive (push s c)).bind fun p => readExpr fuel branches (p.1.toExpr :: parts) p.2) ?_
    (by cases readPrimitive (push s c) <;> rfl)
  have hrest : (push s c).rest = c :: s.rest := rfl
  rw [hrest]
  split <;> first | rfl | (rename_i heq; exact absurd (List.cons.inj heq).1 (by assumption)) | cases ‹_ = _›

/-- How an expression is read: up to its end, or one step further and then the rest. -/
inductive ReadStep (fuel : Nat) (branches parts : List Expr) (r : Reader) (e : Expr) (s : Reader) : Prop
  | done (hend : r.skip.rest = []) (he : e = joinBranches branches parts) (hs : s = r.skip)
  | close {t : Reader} (ht : r.skip = push t ')') (he : e = joinBranches branches parts) (hs : s = push t ')')
  | bar {t : Reader} (ht : r.skip = push t '|')
      (hrest : readExpr fuel (.sequence parts.reverse :: branches) [] t = some (e, s))
  | item {c : Char} {t u : Reader} {item : Item} {later : List Expr} (ht : r.skip = push t c) (hclose : c ≠ ')')
      (hbar : c ≠ '|') (hitem : readItem fuel c t = some (item, u)) (hlater : item.addTo? parts = some later)
      (hrest : readExpr fuel branches later u = some (e, s))

theorem exists_fuel {p : Expr × Reader} (h : readExpr fuel branches parts r = some p) : ∃ n, fuel = n + 1 := by
  cases fuel with
  | zero => cases h
  | succ n => exact ⟨n, rfl⟩

theorem readStep {e : Expr} (h : readExpr (fuel + 1) branches parts r = some (e, s)) :
    ReadStep fuel branches parts r e s := by
  rcases r.skip.eq_nil_or_push with hend | ⟨c, t, ht⟩
  · rw [readExpr_end hend] at h
    cases h
    exact .done hend rfl rfl
  by_cases hclose : c = ')'
  · obtain rfl := hclose
    rw [readExpr_close ht] at h
    cases h
    exact .close ht rfl rfl
  by_cases hbar : c = '|'
  · obtain rfl := hbar
    rw [readExpr_bar ht] at h
    exact .bar ht h
  rw [readExpr_item ht hclose hbar] at h
  obtain ⟨⟨item, u⟩, hitem, h⟩ := Option.bind_eq_some_iff.1 h
  obtain ⟨later, hlater, h⟩ := Option.bind_eq_some_iff.1 h
  exact .item ht hclose hbar hitem hlater h

end Steps

/-! ### Reading on -/

section Extend

variable {fuel n : Nat} {branches parts : List Expr} {r s : Reader} {e : Expr} {more : List Char}
  {names : List (List Char)}

private theorem ne_nil_of_readExpr (h : readExpr fuel branches parts r = some (e, s)) (hs : s.rest ≠ []) :
    r.rest ≠ [] := by
  obtain ⟨fuel, rfl⟩ := exists_fuel h
  refine (Follows.skip r).ne_nil fun hend => ?_
  rw [readExpr_end hend] at h
  cases h
  exact hs hend

/-- What an expression that stops before the end of the text is read to be, it is in a text that goes on. -/
def ReadsOn (fuel : Nat) : Prop := ∀ {branches parts : List Expr} {r s : Reader} {e : Expr},
  readExpr fuel branches parts r = some (e, s) → s.rest ≠ [] → ∀ {n : Nat} {more : List Char}
    {names : List (List Char)} {p : Expr × Reader}, readExpr n branches parts (r.extend more names) = some p →
      ∃ others, p = (e, s.extend more others)

theorem exists_of_readBody {settings : FlagSettings} {p : Item × Reader} (h : readBody fuel settings r = some p) :
    ∃ body after rest, readExpr fuel [] []
        { r with ignoreWhitespace := setsIgnoreWhitespace settings r.ignoreWhitespace } = some (body, after) ∧
      after.rest = ')' :: rest ∧
      p = (.part (.group settings body), ⟨rest, r.ignoreWhitespace, after.groupNames⟩) := by
  obtain ⟨⟨body, after⟩, hbody, h⟩ := Option.bind_eq_some_iff.1 h
  dsimp only at h
  split at h
  · rename_i rest hafter
    cases h
    exact ⟨body, after, rest, hbody, hafter, rfl⟩
  · cases h

theorem ne_nil_of_readBody {settings : FlagSettings} {after : Reader} {rest : List Char}
    (h : readExpr fuel [] [] { r with ignoreWhitespace := setsIgnoreWhitespace settings r.ignoreWhitespace } =
      some (e, after)) (hafter : after.rest = ')' :: rest) : r.rest ≠ [] :=
  ne_nil_of_readExpr (r := { r with ignoreWhitespace := setsIgnoreWhitespace settings r.ignoreWhitespace }) h
    (hafter ▸ List.cons_ne_nil _ _)

private theorem readGroup_extend (hreads : ReadsOn fuel) {item : Item} {p : Item × Reader}
    (h : readGroup fuel r = some (item, s)) (hp : readGroup n (r.extend more names) = some p) :
    ∃ others, p = (item, s.extend more others) := by
  obtain ⟨⟨o, inner⟩, hinner, h⟩ := Option.bind_eq_some_iff.1 h
  obtain ⟨⟨o', inner'⟩, hinner', hp⟩ := Option.bind_eq_some_iff.1 hp
  cases o with
  | flags settings =>
      obtain ⟨new, hopens⟩ := opens_readOpening hinner (.inr ⟨settings, rfl⟩)
      cases hopens.extend_eq_some hinner'
      cases h
      cases hp
      exact ⟨new ++ names, rfl⟩
  | group settings =>
      obtain ⟨body, after, rest, hbody, hafter, hsame⟩ := exists_of_readBody h
      cases hsame
      obtain ⟨new, hopens⟩ := opens_readOpening hinner (.inl (ne_nil_of_readBody hbody hafter))
      cases hopens.extend_eq_some hinner'
      obtain ⟨body', after', rest', hbody', hafter', rfl⟩ := exists_of_readBody hp
      obtain ⟨others', hsame⟩ := hreads hbody (hafter ▸ List.cons_ne_nil _ _) hbody'
      cases hsame
      rw [rest_extend, hafter] at hafter'
      cases hafter'
      exact ⟨others', rfl⟩

private theorem ignoreWhitespace_of_readGroup {item : Item} (h : readGroup fuel r = some (item, s))
    (hflags : ∀ settings, item ≠ .part (.flags settings)) : s.ignoreWhitespace = r.ignoreWhitespace := by
  obtain ⟨⟨o, inner⟩, hinner, h⟩ := Option.bind_eq_some_iff.1 h
  cases o with
  | flags settings =>
      cases h
      exact absurd rfl (hflags settings)
  | group settings =>
      obtain ⟨body, after, rest, hbody, hafter, hsame⟩ := exists_of_readBody h
      cases hsame
      obtain ⟨new, hopens⟩ := opens_readOpening hinner (.inl (ne_nil_of_readBody hbody hafter))
      exact hopens.ignoreWhitespace

private theorem local_readLazy (low : Nat) (high : Option Nat) : Local (readLazy low high) :=
  local_skipLazy.map fun _ => Item.repeated low high

theorem local_readItem {c : Char} (hc : c ≠ '(') (fuel : Nat) : Local (readItem fuel c) := by
  have hread : readItem fuel c = fun r => _ := funext fun r => if_neg hc
  rw [hread]
  refine .ite (local_readClass.map Item.part) (.ite (local_readLazy _ _) (.ite (local_readLazy _ _) (.ite
    (local_readLazy _ _) (.ite ?_ ((local_readPrimitive c).map fun part => Item.part part.toExpr)))))
  exact local_readBounds.bind fun bounds => local_readLazy bounds.1 bounds.2

private theorem readItem_of_ne {c : Char}
    (hc : c ≠ '(') (n m : Nat) (r : Reader) : readItem n c r = readItem m c r := by
  rw [readItem, readItem, if_neg hc, if_neg hc]

theorem readItem_extend (hreads : ReadsOn fuel) {c : Char} {item : Item} {p : Item × Reader}
    (h : readItem fuel c r = some (item, s)) (hp : readItem n c (r.extend more names) = some p)
    (hapart : s.Apart more) : ∃ others, p = (item, s.extend more others) := by
  by_cases hc : c = '('
  · rw [readItem, if_pos hc] at h hp
    exact readGroup_extend hreads h hp
  · obtain ⟨-, hread⟩ := (local_readItem hc fuel).extend names h hapart
    rw [readItem_of_ne hc n fuel] at hp
    exact ⟨names, Option.some.inj (hp.symm.trans hread)⟩

/-- Only flags that are set change how white space is read. -/
theorem ignoreWhitespace_of_readItem {c : Char} {item : Item} (h : readItem fuel c r = some (item, s))
    (hflags : ∀ settings, item ≠ .part (.flags settings)) : s.ignoreWhitespace = r.ignoreWhitespace := by
  by_cases hc : c = '('
  · rw [readItem, if_pos hc] at h
    exact ignoreWhitespace_of_readGroup h hflags
  · exact ((local_readItem hc fuel).follows h).ignoreWhitespace

theorem readsOn (fuel : Nat) : ReadsOn fuel := by
  induction fuel with
  | zero => exact fun h => nomatch h
  | succ fuel ih =>
      intro branches parts r s e h hs n more names p hp
      obtain ⟨n, rfl⟩ := exists_fuel hp
      cases readStep h with
      | done hend _ heq => exact absurd (heq ▸ hend) hs
      | close ht he heq =>
          rw [readExpr_close (skip_extend_of_push ht more names)] at hp
          cases hp
          exact ⟨names, by rw [he, heq, extend_push]⟩
      | bar ht hrest =>
          rw [readExpr_bar (skip_extend_of_push ht more names)] at hp
          exact ih hrest hs hp
      | item ht hclose hbar hitem hlater hrest =>
          rw [readExpr_item (skip_extend_of_push ht more names) hclose hbar] at hp
          obtain ⟨⟨item', u'⟩, hitem', hp⟩ := Option.bind_eq_some_iff.1 hp
          obtain ⟨later', hlater', hp⟩ := Option.bind_eq_some_iff.1 hp
          have hne := ne_nil_of_readExpr hrest hs
          obtain ⟨others, hsame⟩ := readItem_extend ih hitem hitem' (apart_of_ne_nil hne)
          cases hsame
          cases hlater.symm.trans hlater'
          exact ih hrest hs hp

end Extend

/-! ### Fuel -/

section Fuel

variable {n m : Nat} {r : Reader} {x : Item × Reader}

theorem readBody_of_readExpr {settings : FlagSettings} {body : Expr} {after : Reader} {rest : List Char}
    (h : readExpr n [] [] { r with ignoreWhitespace := setsIgnoreWhitespace settings r.ignoreWhitespace } =
      some (body, after)) (hafter : after.rest = ')' :: rest) : readBody n settings r =
        some (.part (.group settings body), ⟨rest, r.ignoreWhitespace, after.groupNames⟩) := by
  rw [readBody, h, Option.bind_eq_bind, Option.bind_some]
  dsimp only
  rw [hafter]
  rfl

theorem readItem_of_readExpr (hmore : ∀ {s : Reader} {p : Expr × Reader}, s.rest <:+ r.rest →
      readExpr n [] [] s = some p → readExpr m [] [] s = some p)
    {c : Char} (h : readItem n c r = some x) : readItem m c r = some x := by
  by_cases hc : c = '('
  · obtain rfl := hc
    obtain ⟨⟨o, inner⟩, hinner, h⟩ := Option.bind_eq_some_iff.1 (h : readGroup n r = some x)
    change readGroup m r = some x
    rw [readGroup, hinner, Option.bind_eq_bind, Option.bind_some]
    cases o with
    | flags settings => exact h
    | group settings =>
        obtain ⟨body, after, rest, hbody, hafter, rfl⟩ := exists_of_readBody h
        obtain ⟨new, hopens⟩ := opens_readOpening hinner (.inl (ne_nil_of_readBody hbody hafter))
        exact readBody_of_readExpr (hmore hopens.suffix hbody) hafter
  · rwa [readItem_of_ne hc m n]

theorem readExpr_of_readItem {branches parts later : List Expr} {c : Char} {t u : Reader} {item : Item}
    (ht : r.skip = push t c) (hclose : c ≠ ')') (hbar : c ≠ '|') (hitem : readItem n c t = some (item, u))
    (hlater : item.addTo? parts = some later) :
    readExpr (n + 1) branches parts r = readExpr n branches later u := by
  rw [readExpr_item ht hclose hbar, hitem, Option.bind_eq_bind, Option.bind_some]
  dsimp only
  rw [hlater]
  rfl

/-- What is read with some fuel is read with more fuel. -/
theorem readExpr_of_le {branches parts : List Expr} {p : Expr × Reader} (h : readExpr n branches parts r = some p)
    (hle : n ≤ m) : readExpr m branches parts r = some p := by
  induction n generalizing m branches parts r p with
  | zero => cases h
  | succ n ih =>
      obtain ⟨m, rfl⟩ : ∃ k, m = k + 1 := ⟨m - 1, by omega⟩
      have hfewer : n ≤ m := Nat.le_of_succ_le_succ hle
      cases readStep h with
      | done hend he hs =>
          rw [readExpr_end hend, ← he, ← hs]
      | close ht he hs =>
          rw [readExpr_close ht, ← he, ← hs]
      | bar ht hrest =>
          rw [readExpr_bar ht]
          exact ih hrest hfewer
      | item ht hclose hbar hitem hlater hrest =>
          have hitem' := readItem_of_readExpr (fun _ h => ih h hfewer) hitem
          rw [readExpr_of_readItem ht hclose hbar hitem' hlater]
          exact ih hrest hfewer

end Fuel

end CorpusSearch.Regex
