import CorpusSearch.Proofs.LastItems
import CorpusSearch.Proofs.OnwardReading
import CorpusSearch.Proofs.TrimmedExpressions

/-!
Expressions without their anchors. The text of an expression is read in the same way without the anchors at its start
and the one at its end, so that the same is left of the expression but for conditions that always hold. Only where a
sign of repetition follows the anchors at the start is nothing left that the sign could repeat. Main statement: an
expression that does not ignore white space is accepted without its anchors and matches the same values if and only if
that is not so.
-/

set_option autoImplicit false

namespace CorpusSearch.Regex

open Reader

/-! ### White space that is ignored -/

mutual

/-- Whether an expression switches the ignoring of white space on. -/
def Expr.isVerbose : Expr → Bool
  | .flags settings => settings.contains (.ignoreWhitespace, true)
  | .group settings body => settings.contains (.ignoreWhitespace, true) || body.isVerbose
  | .repetition _ _ body => body.isVerbose
  | .alternation branches => Expr.anyVerbose branches
  | .concatenation parts => Expr.anyVerbose parts
  | _ => false

def Expr.anyVerbose : List Expr → Bool
  | [] => false
  | part :: parts => part.isVerbose || Expr.anyVerbose parts

end

section Verbose

variable {n : Nat} {branches parts later : List Expr} {e : Expr} {item : Item} {c : Char} {r s : Reader}
  {text : String}

private theorem anyVerbose_eq_any (parts : List Expr) : Expr.anyVerbose parts = parts.any Expr.isVerbose := by
  induction parts with
  | nil => rfl
  | cons part parts ih => rw [Expr.anyVerbose, ih, List.any_cons]

private theorem isVerbose_sequence (parts : List Expr) : (Expr.sequence parts).isVerbose = Expr.anyVerbose parts := by
  match parts with
  | [] => rfl
  | [part] => exact (Bool.or_false _).symm
  | part :: other :: rest => rfl

private theorem isVerbose_joinBranches (h : Expr.anyVerbose branches = true ∨ Expr.anyVerbose parts = true) :
    (joinBranches branches parts).isVerbose = true := by
  cases branches with
  | nil =>
      have hparts := h.resolve_left Bool.false_ne_true
      rwa [joinBranches, isVerbose_sequence, anyVerbose_eq_any, List.any_reverse, ← anyVerbose_eq_any]
  | cons branch branches =>
      show Expr.anyVerbose (Expr.sequence parts.reverse :: branch :: branches).reverse = true
      rw [anyVerbose_eq_any, List.any_reverse, List.any_cons, isVerbose_sequence, anyVerbose_eq_any, List.any_reverse,
        ← anyVerbose_eq_any, ← anyVerbose_eq_any, Bool.or_eq_true]
      exact h.symm

private theorem anyVerbose_addTo? (h : item.addTo? parts = some later) (hparts : Expr.anyVerbose parts = true) :
    Expr.anyVerbose later = true := by
  cases item with
  | part e =>
      cases h
      rw [Expr.anyVerbose, hparts, Bool.or_true]
  | repeated low high =>
      rw [Item.addTo?] at h
      unfold repeatLast at h
      split at h
      · cases h
      · cases h
      · cases h
      · cases h
        exact hparts

private theorem isVerbose_of_readExpr (h : readExpr n branches parts r = some (e, s))
    (hverbose : Expr.anyVerbose branches = true ∨ Expr.anyVerbose parts = true) : e.isVerbose = true := by
  induction n generalizing branches parts r with
  | zero => cases h
  | succ n ih =>
      cases readStep h with
      | done _ he _ => exact he ▸ isVerbose_joinBranches hverbose
      | close _ he _ => exact he ▸ isVerbose_joinBranches hverbose
      | bar _ hrest =>
          refine ih hrest (.inl ?_)
          rw [Expr.anyVerbose, isVerbose_sequence, anyVerbose_eq_any, List.any_reverse, ← anyVerbose_eq_any,
            Bool.or_eq_true]
          exact hverbose.symm
      | item _ _ _ _ hlater hrest => exact ih hrest (hverbose.imp_right (anyVerbose_addTo? hlater))

private theorem mem_of_setsIgnoreWhitespace {settings : FlagSettings} (h : setsIgnoreWhitespace settings false = true) :
    (.ignoreWhitespace, true) ∈ settings := by
  rw [setsIgnoreWhitespace] at h
  cases hfind : settings.find? fun s => s.1 = .ignoreWhitespace with
  | none => simp [hfind] at h
  | some setting =>
      have hname := List.find?_some hfind
      rw [hfind] at h
      obtain ⟨flag, value⟩ := setting
      obtain rfl : flag = .ignoreWhitespace := of_decide_eq_true hname
      obtain rfl : value = true := h
      exact List.mem_of_find?_eq_some hfind

private theorem ignoreWhitespace_of_readGroup_flags {settings : FlagSettings}
    (h : readGroup n r = some (.part (.flags settings), s)) :
    s.ignoreWhitespace = setsIgnoreWhitespace settings r.ignoreWhitespace := by
  obtain ⟨⟨o, inner⟩, hinner, h⟩ := Option.bind_eq_some_iff.1 h
  cases o with
  | flags settings =>
      obtain ⟨new, hopens⟩ := opens_readOpening hinner (.inr ⟨settings, rfl⟩)
      cases h
      exact congrArg (setsIgnoreWhitespace settings) hopens.ignoreWhitespace
  | group =>
      obtain ⟨body, after, rest, -, -, heq⟩ := exists_of_readBody h
      cases heq

private theorem ignoreWhitespace_or_isVerbose (h : readItem n c r = some (item, s)) (hr : r.ignoreWhitespace = false) :
    s.ignoreWhitespace = false ∨ ∃ x, item = .part x ∧ x.isVerbose = true := by
  by_cases hflags : ∃ settings, item = .part (.flags settings)
  · obtain ⟨settings, rfl⟩ := hflags
    by_cases hgroup : c = '('
    · rw [readItem, if_pos hgroup] at h
      rw [ignoreWhitespace_of_readGroup_flags h, hr, or_iff_not_imp_left, Bool.not_eq_false]
      exact fun hset => ⟨_, rfl, List.contains_iff_mem.2 (mem_of_setsIgnoreWhitespace hset)⟩
    · exact .inl (((local_readItem hgroup n).follows h).ignoreWhitespace.trans hr)
  · exact .inl ((ignoreWhitespace_of_readItem h (not_exists.1 hflags)).trans hr)

private theorem ignoreWhitespace_of_readExpr (h : readExpr n branches parts r = some (e, s))
    (hr : r.ignoreWhitespace = false) (he : e.isVerbose = false) : s.ignoreWhitespace = false := by
  have hskip : ∀ {c : Char} {r t : Reader}, r.skip = push t c → r.ignoreWhitespace = false →
      t.ignoreWhitespace = false := fun ht hr => (Follows.of_skip ht).ignoreWhitespace.trans hr
  induction n generalizing branches parts r with
  | zero => cases h
  | succ n ih =>
      cases readStep h with
      | done _ _ hs => exact hs ▸ (Follows.skip r).ignoreWhitespace.trans hr
      | @close t ht _ hs =>
          rw [hs]
          exact (hskip ht hr : t.ignoreWhitespace = false)
      | bar ht hrest => exact ih hrest (hskip ht hr)
      | item ht _ _ hitem hlater hrest =>
          obtain hplain | ⟨x, rfl, hx⟩ := ignoreWhitespace_or_isVerbose hitem (hskip ht hr)
          · exact ih hrest hplain
          · cases hlater
            rw [isVerbose_of_readExpr hrest (.inr (by rw [Expr.anyVerbose, hx, Bool.true_or]))] at he
            cases he

private theorem exists_readAlone (h : Expr.read? text.toList = some e) (he : e.isVerbose = false) :
    ∃ c : ReadAlone text, c.expr = e := by
  obtain ⟨⟨rest, ignore, names⟩, hread, rfl⟩ := readExpr_of_read? h
  obtain rfl : ignore = false := ignoreWhitespace_of_readExpr hread rfl he
  exact ⟨⟨e, names, hread⟩, rfl⟩

end Verbose

/-! ### Anchors at the start -/

def repetitionSigns : List Char := ['*', '+', '?', '\x7b']

section Starts

variable {n : Nat} {branches branches' parts parts' later : List Expr} {x e : Expr} {item : Item} {c : Char}
  {r s t : Reader} {text : List Char} {names : List (List Char)}

private theorem part_of_readItem (h : readItem n c r = some (item, s)) (hc : c ∉ repetitionSigns) :
    ∃ e, item = .part e := by
  simp only [repetitionSigns, List.mem_cons, List.not_mem_nil, or_false, not_or] at hc
  obtain ⟨hstar, hplus, hquestion, hbrace⟩ := hc
  by_cases hgroup : c = '('
  · rw [readItem, if_pos hgroup] at h
    obtain ⟨⟨o, inner⟩, hinner, h⟩ := Option.bind_eq_some_iff.1 h
    cases o with
    | flags settings => exact ⟨_, (Prod.mk.inj (Option.some.inj h)).1.symm⟩
    | group settings =>
        obtain ⟨body, after, rest, -, -, heq⟩ := exists_of_readBody h
        exact ⟨_, (Prod.mk.inj heq).1⟩
  · rw [readItem, if_neg hgroup, if_neg hstar, if_neg hplus, if_neg hquestion, if_neg hbrace] at h
    split at h
    · obtain ⟨p, -, heq⟩ := Option.map_eq_some_iff.1 h
      exact ⟨_, (Prod.mk.inj heq).1.symm⟩
    · obtain ⟨p, -, heq⟩ := Option.map_eq_some_iff.1 h
      exact ⟨_, (Prod.mk.inj heq).1.symm⟩

private theorem addTo?_of_append (h : item.addTo? (parts ++ [x]) = some later)
    (hne : parts ≠ [] ∨ ∃ e, item = .part e) :
    ∃ parts', later = parts' ++ [x] ∧ parts' ≠ [] ∧ item.addTo? parts = some parts' := by
  cases item with
  | part e =>
      cases h
      exact ⟨e :: parts, rfl, List.cons_ne_nil _ _, rfl⟩
  | repeated low high =>
      cases parts with
      | nil =>
          obtain ⟨e, he⟩ := hne.resolve_left (absurd rfl)
          cases he
      | cons part parts =>
          rw [Item.addTo?, List.cons_append] at h
          unfold repeatLast at h
          split at h
          · cases h
          · cases h
          · cases h
          · rename_i body rest hempty hflags heq
            cases heq
            cases h
            exact ⟨_, rfl, List.cons_ne_nil _ _, repeatLast_cons hempty hflags⟩

def Reader.StartsPart (r : Reader) : Prop := ∀ {c : Char} {t : Reader}, r.skip = push t c → c ∉ repetitionSigns

private theorem readExpr_fronted (h : readExpr n branches parts r = some (e, s))
    (hfront : Fronted x branches parts branches' parts')
    (hstart : branches' ≠ [] ∨ parts' ≠ [] ∨ r.StartsPart) : ∃ all last all' last', e = joinBranches all last ∧
      Fronted x all last all' last' ∧ readExpr n branches' parts' r = some (joinBranches all' last', s) := by
  induction n generalizing branches parts branches' parts' r with
  | zero => cases h
  | succ n ih =>
      cases readStep h with
      | done hend he hs => exact ⟨_, _, _, _, he, hfront, by rw [readExpr_end hend, hs]⟩
      | close ht he hs => exact ⟨_, _, _, _, he, hfront, by rw [readExpr_close ht, hs]⟩
      | bar ht hrest =>
          rw [readExpr_bar ht]
          cases hfront with
          | first =>
              rw [List.reverse_append] at hrest
              exact ih hrest (.later [] parts'.reverse []) (.inl (List.cons_ne_nil _ _))
          | later branches front =>
              exact ih hrest (.later (.sequence parts.reverse :: branches) front []) (.inl (List.cons_ne_nil _ _))
      | @item c t u item later ht hclose hbar hitem hlater hrest =>
          cases hfront with
          | first =>
              have hpart : parts' ≠ [] ∨ ∃ e, item = .part e :=
                (hstart.resolve_left (absurd rfl)).imp_right fun hstart => part_of_readItem hitem (hstart ht)
              obtain ⟨next, rfl, hne, hnext⟩ := addTo?_of_append hlater hpart
              rw [readExpr_of_readItem ht hclose hbar hitem hnext]
              exact ih hrest (.first next) (.inr (.inl hne))
          | later branches front =>
              rw [readExpr_of_readItem ht hclose hbar hitem hlater]
              exact ih hrest (.later branches front later) (.inl (by simp))

/-- Whether the anchors at the start of a text are followed by a sign of repetition. -/
def repeatsAnchor (text : List Char) : Bool :=
  (text.dropWhile fun c => c = '^').head?.any repetitionSigns.contains

/-- What a text is read as by itself, where white space counts at its end. -/
def ReadsTo (text : List Char) (names : List (List Char)) (e : Expr) : Prop :=
  readExpr (text.length + 1) [] [] (.ofText text) = some (e, ⟨[], false, names⟩)

private theorem exists_readsTo_dropStart (h : ReadsTo text names e) (hnot : repeatsAnchor text = false) :
    ∃ e', ReadsTo (text.dropWhile fun c => c = '^') names e' ∧ Trims e e' := by
  induction text generalizing e with
  | nil => exact ⟨e, h, .refl e⟩
  | cons c text ih =>
      by_cases hc : c = '^'
      · obtain rfl := hc
        have hdrop : ('^' :: text).dropWhile (fun c => c = '^') = text.dropWhile fun c => c = '^' :=
          List.dropWhile_cons_of_pos (by decide)
        rw [repeatsAnchor, hdrop] at hnot
        have hread : readExpr (text.length + 1) [] ([] ++ [.assertion .lineStart]) (.ofText text) =
            some (e, ⟨[], false, names⟩) := h
        have hstart : (ofText text).StartsPart := by
          intro d t ht hd
          obtain rfl : text = d :: t.rest := congrArg Reader.rest ht
          have hne : d ≠ '^' := by
            rintro rfl
            exact absurd hd (by decide)
          rw [List.dropWhile_cons_of_neg (by simpa using hne), List.head?_cons, Option.any_some,
            List.contains_iff_mem.2 hd] at hnot
          cases hnot
        obtain ⟨all, last, all', last', rfl, hfront, hread'⟩ := readExpr_fronted hread (.first []) (.inr (.inr hstart))
        obtain ⟨e', hread'', htrims⟩ := ih hread' hnot
        rw [hdrop]
        exact ⟨e', hread'', hfront.trims.trans htrims⟩
      · rw [List.dropWhile_cons_of_neg (by simpa using hc)]
        exact ⟨e, h, .refl e⟩

private theorem repeated_of_readItem (h : readItem n c r = some (item, s)) (hc : c ∈ repetitionSigns) :
    ∃ low high, item = .repeated low high := by
  have hlazy : ∀ {low high} {r : Reader}, readLazy low high r = some (item, s) →
      ∃ low high, item = .repeated low high := fun h => ⟨_, _, (Prod.mk.inj (Option.some.inj h)).1.symm⟩
  simp only [repetitionSigns, List.mem_cons, List.not_mem_nil, or_false] at hc
  rcases hc with rfl | rfl | rfl | rfl
  · exact hlazy h
  · exact hlazy h
  · exact hlazy h
  · obtain ⟨bounds, -, h⟩ := Option.bind_eq_some_iff.1 (h : readBounds r >>= _ = _)
    exact hlazy h

private theorem read?_sign (hc : c ∈ repetitionSigns) (text : List Char) : Expr.read? (c :: text) = none := by
  have hsigns : ∀ d ∈ repetitionSigns, d ≠ ')' ∧ d ≠ '|' := by decide
  obtain ⟨hclose, hbar⟩ := hsigns c hc
  rw [Expr.read?, Option.bind_eq_bind, Option.bind_eq_none_iff]
  rintro ⟨e, s⟩ hread
  rw [readExpr_item (s := ofText text) rfl hclose hbar] at hread
  obtain ⟨⟨item, u⟩, hitem, hread⟩ := Option.bind_eq_some_iff.1 hread
  obtain ⟨parts, hparts, -⟩ := Option.bind_eq_some_iff.1 hread
  obtain ⟨low, high, rfl⟩ := repeated_of_readItem hitem hc
  cases hparts

end Starts

/-! ### Stripping -/

section Stripping

variable {text : String} {names : List (List Char)} {e : Expr} {chars before : List Char}

private theorem namedSet?_dollar (f : Flags) (negated : Bool) : namedSet? f (.name ['$']) negated = none := by
  have hunknown : CharSet.ofName? ['$'] = none := by decide
  rw [namedSet?]
  split
  · rw [hunknown]
    rfl
  · rfl

private theorem exists_readsTo_dropEnd (h : ReadsTo (before ++ ['$']) names e)
    (hplain : Text.endsEscaping before = false)
    (hresolve : (e.toCore? .default).isSome) : ∃ e', ReadsTo before names e' ∧ Trims e e' := by
  obtain ⟨branches, parts, ⟨hread, rfl⟩ | ⟨negated, rfl⟩⟩ :=
    exists_of_readExpr_dollar (r := .ofText before) h rfl rfl hplain
  · exact ⟨_, readExpr_of_length hread (Nat.lt_succ_self _), trims_joinBranches_lineEnd branches parts⟩
  · obtain ⟨⟨c, g⟩, hcore⟩ := Option.isSome_iff_exists.1 hresolve
    obtain ⟨k, p, hp⟩ := exists_toCore?_of_joinBranches hcore
    rw [Expr.toCore?, namedSet?_dollar] at hp
    cases hp

private theorem stripAnchorChars_cases (text : List Char) :
    Text.stripAnchorChars text = text.dropWhile (fun c => c = '^') ∨
      ∃ before, text.dropWhile (fun c => c = '^') = before ++ ['$'] ∧ Text.endsEscaping before = false ∧
        Text.stripAnchorChars text = before := by
  rw [Text.stripAnchorChars]
  split
  · rename_i before hunsnoc
    split
    · exact .inl rfl
    · rename_i hplain
      exact .inr ⟨before, Text.eq_append_of_unsnoc? hunsnoc, by simpa using hplain, rfl⟩
  · exact .inl rfl

private theorem exists_readsTo_stripAnchors (h : ReadsTo chars names e) (hnot : repeatsAnchor chars = false)
    (hresolve : (e.toCore? .default).isSome) : ∃ e', ReadsTo (Text.stripAnchorChars chars) names e' ∧ Trims e e' := by
  obtain ⟨e', hread, htrims⟩ := exists_readsTo_dropStart h hnot
  rcases stripAnchorChars_cases chars with hsame | ⟨before, hbody, hplain, hstrip⟩
  · rw [hsame]
    exact ⟨e', hread, htrims⟩
  · rw [hbody] at hread
    obtain ⟨⟨c, g⟩, hcore⟩ := Option.isSome_iff_exists.1 hresolve
    obtain ⟨c', hcore', -⟩ := htrims.exists_core hcore
    obtain ⟨e'', hread', htrims'⟩ := exists_readsTo_dropEnd hread hplain (Option.isSome_of_eq_some hcore')
    rw [hstrip]
    exact ⟨e'', hread', htrims.trans htrims'⟩

private theorem read?_stripAnchorChars (h : repeatsAnchor chars = true) :
    Expr.read? (Text.stripAnchorChars chars) = none := by
  rw [repeatsAnchor, Option.any_eq_true] at h
  obtain ⟨c, hhead, hc⟩ := h
  rw [List.contains_iff_mem] at hc
  obtain ⟨rest, hbody⟩ := List.head?_eq_some_iff.1 hhead
  rcases stripAnchorChars_cases chars with hsame | ⟨before, hdollar, -, hstrip⟩
  · rw [hsame, hbody]
    exact read?_sign hc rest
  · rw [hstrip]
    cases before with
    | nil =>
        rw [hbody] at hdollar
        obtain rfl : c = '$' := (List.cons.inj hdollar).1
        exact absurd hc (by decide)
    | cons d before =>
        rw [hbody] at hdollar
        obtain rfl : c = d := (List.cons.inj hdollar).1
        exact read?_sign hc before

/-! ### Whole values -/

/-- Whether an expression is valid, and matches the whole values that another one does. -/
def Replaces (nestLimit : Nat) (text other : String) : Prop :=
  (∃ core, Expr.readWithin nestLimit other = .ok core) ∧ IsValid other ∧ ∀ m n core core',
    compileWithin m text = .ok core → compileWithin n other = .ok core' →
      ∀ value, core.isMatch value = core'.isMatch value

private theorem replaces_of_trims {nestLimit : Nat} {other : String} (c : ReadAlone text) (c' : ReadAlone other)
    (htrims : Trims c.expr c'.expr) {a : Core} (hwithin : Expr.readWithin nestLimit text = .ok a)
    (hvalid : IsValid text) : Replaces nestLimit text other := by
  obtain ⟨e, hread, hdepth, hresolve⟩ := readWithin_eq_ok.1 hwithin
  obtain rfl := Option.some.inj (c.read?.symm.trans hread)
  obtain ⟨sizeLimit, whole, hwhole⟩ := hvalid
  obtain ⟨e, hread, hdepth', hresolve'⟩ := readWithin_eq_ok.1 (compileWithin_eq_ok.1 hwhole).1
  obtain rfl := Option.some.inj (c.read?_wholeMatch.symm.trans hread)
  rw [resolve?_anchored, hresolve] at hresolve'
  obtain rfl := Option.some.inj hresolve'
  rw [depth_anchored] at hdepth'
  obtain ⟨⟨b, g⟩, hcore, hb⟩ := Option.map_eq_some_iff.1 hresolve
  obtain rfl : b = a := hb
  obtain ⟨a', hcore', hmatch⟩ := htrims.exists_core hcore
  have hle := htrims.depth_le
  have hresolve' : c'.expr.resolve? = some a' := Option.map_eq_some_iff.2 ⟨_, hcore', rfl⟩
  obtain ⟨sizeLimit', hcompile⟩ : ∃ sizeLimit', compileWithin sizeLimit' other = .ok a'.anchored := by
    refine ⟨a'.anchored.size, ?_⟩
    rw [compileWithin_of_read _ c'.read?_wholeMatch hresolve' (by omega), if_neg (Nat.lt_irrefl _)]
  refine ⟨⟨a', readWithin_eq_ok.2 ⟨_, c'.read?, by omega, hresolve'⟩⟩, ⟨_, _, hcompile⟩, ?_⟩
  intro m n core core' hm hn value
  obtain rfl := compileWithin_inj hwhole hm
  obtain rfl := compileWithin_inj hcompile hn
  rw [Bool.eq_iff_iff, isMatch_anchored, isMatch_anchored]
  exact hmatch value.toList

private theorem ReadAlone.replaces_stripAnchors_iff {nestLimit : Nat} (c : ReadAlone text) {a : Core}
    (hwithin : Expr.readWithin nestLimit text = .ok a) (hvalid : IsValid text) :
    Replaces nestLimit text (Text.stripAnchors text) ↔ repeatsAnchor text.toList = false := by
  have htoList : (Text.stripAnchors text).toList = Text.stripAnchorChars text.toList := String.toList_ofList
  constructor
  · rintro ⟨⟨core, hstripped⟩, -⟩
    obtain ⟨e, hread, -⟩ := readWithin_eq_ok.1 hstripped
    rw [← Bool.not_eq_true]
    intro hsign
    rw [htoList, read?_stripAnchorChars hsign] at hread
    cases hread
  · intro hnot
    obtain ⟨e, hread, -, hresolve⟩ := readWithin_eq_ok.1 hwithin
    obtain rfl := Option.some.inj (c.read?.symm.trans hread)
    obtain ⟨p, hp, -⟩ := Option.map_eq_some_iff.1 hresolve
    obtain ⟨e', hread', htrims⟩ := exists_readsTo_stripAnchors c.read hnot (Option.isSome_of_eq_some hp)
    rw [← htoList] at hread'
    exact replaces_of_trims c ⟨e', c.names, hread'⟩ htrims hwithin hvalid

/--
Without its anchors a valid expression that counts white space is valid, nested no deeper than any limit that it keeps
to, and matches the same values, unless a sign of repetition follows the anchors at its start.
-/
theorem stripAnchors_replaces_iff {nestLimit : Nat} {a : Core} (hwithin : Expr.readWithin nestLimit text = .ok a)
    (hvalid : IsValid text) (hread : Expr.read? text.toList = some e) (hplain : e.isVerbose = false) :
    Replaces nestLimit text (Text.stripAnchors text) ↔ repeatsAnchor text.toList = false := by
  obtain ⟨c, -⟩ := exists_readAlone hread hplain
  exact c.replaces_stripAnchors_iff hwithin hvalid

/-- The anchors of `^fo.*$` are redundant, that of `^*fox` is what is repeated. -/
theorem stripAnchors_repeated :
    Replaces 50 "^fo.*$" "fo.*" ∧ IsValid "^*fox" ∧ ¬ Replaces 50 "^*fox" (Text.stripAnchors "^*fox") := by
  have hstrip : Text.stripAnchors "^fo.*$" = "fo.*" := by decide
  have hanchored : IsValid "^fo.*$" := ⟨defaultSizeLimit, _, rfl⟩
  have hrepeated : IsValid "^*fox" := ⟨defaultSizeLimit, _, rfl⟩
  refine ⟨?_, hrepeated, ?_⟩
  · rw [← hstrip, stripAnchors_replaces_iff rfl hanchored rfl rfl]
    decide
  · rw [stripAnchors_replaces_iff rfl hrepeated rfl rfl]
    decide

end Stripping

end CorpusSearch.Regex
