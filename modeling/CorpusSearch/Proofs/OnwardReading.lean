import CorpusSearch.FieldName
import CorpusSearch.Proofs.LiteralExpression

/-!
Expressions that are put into longer texts. What is read to the end of a text is read in the same way in front of a
colon or a closing parenthesis and behind other groups, if no two groups have the same name and white space counts at
the end. Main statement: an expression whose text, with the parentheses that it is given, is not open to alternatives
beside it is read to the same parts in a longer text.
-/

set_option autoImplicit false

namespace CorpusSearch.Regex

open Reader

/-! ### Behind other groups -/

/-- The reader of a text that goes on, where other groups have been named before. -/
def Reader.within (r : Reader) (more : List Char) (earlier : List (List Char)) : Reader :=
  r.extend more (r.groupNames ++ earlier)

section Within

variable {α : Type} {F : Reader → Option (α × Reader)} {x : α} {r s t : Reader} {more : List Char}
  {earlier : List (List Char)} {fuel n : Nat} {branches parts : List Expr} {e : Expr} {item : Item} {c : Char}

private theorem skip_within_of_push (h : r.skip = push t c) (more : List Char) (earlier : List (List Char)) :
    (r.within more earlier).skip = push (t.within more earlier) c := by
  have hnames : t.groupNames = r.groupNames := (Follows.of_skip h).groupNames
  rw [within, skip_extend_of_push h, within, hnames]

/-- What has been read is read in the same way from a text that goes on behind groups that have other names. -/
structure GoesOn (F : Reader → Option (α × Reader)) (more : List Char) (r : Reader) (x : α) (s : Reader) : Prop where
  groupNames : r.groupNames ⊆ s.groupNames
  within {earlier : List (List Char)} (hfree : s.groupNames.Disjoint earlier) :
    F (r.within more earlier) = some (x, s.within more earlier)

theorem Local.goesOn (hF : Local F) (h : F r = some (x, s)) (hapart : s.Apart more) : GoesOn F more r x s := by
  have hnames : s.groupNames = r.groupNames := (hF.follows h).groupNames
  refine ⟨hnames ▸ List.Subset.refl _, fun {earlier} _ => ?_⟩
  rw [within, within, hnames]
  exact (hF.extend _ h hapart).2

theorem Opens.goesOn {G : Reader → Option (Opening × Reader)} {o : Opening} {new : List (List Char)}
    (h : Opens G r o s new) (hread : G r = some (o, s)) : GoesOn G more r o s := by
  have hown : new.Disjoint r.groupNames := by
    have hself := h.extend [] r.groupNames
    rw [extend_self, hread] at hself
    intro name hnew hold
    rw [if_pos (List.any_eq_true.2 ⟨name, hnew, List.contains_iff_mem.2 hold⟩)] at hself
    cases hself
  refine ⟨h.groupNames ▸ List.subset_append_right _ _, fun {earlier} hfree => ?_⟩
  have hnew : new.Disjoint (r.groupNames ++ earlier) := by
    rw [h.groupNames, List.disjoint_append_left] at hfree
    exact List.disjoint_append_right.2 ⟨hown, hfree.1⟩
  rw [within, within, h.extend_of_disjoint hnew, h.groupNames, List.append_assoc]

private theorem apart_of_readExpr (h : readExpr fuel branches parts r = some (e, s)) (hs : s.Apart more) :
    r.Apart more := by
  obtain ⟨fuel, rfl⟩ := exists_fuel h
  by_cases hrest : r.skip.rest = []
  · rw [readExpr_end hrest] at h
    cases h
    exact hs.of_skip
  · exact Apart.of_skip (.inl hrest)

/-- How far an expression has been read in a text that goes on: to a closing parenthesis of its own or of the rest. -/
def IsClosed (s : Reader) (more : List Char) : Prop :=
  s.rest ≠ [] ∨ s.ignoreWhitespace = false ∧ more.head? = some ')'

theorem IsClosed.apart (h : IsClosed s more) : s.Apart more := h.imp_right fun hend => ⟨hend.1, .inr hend.2⟩

private theorem goesOn_readGroup (hreads : ∀ {r s : Reader} {e : Expr}, readExpr fuel [] [] r = some (e, s) →
      IsClosed s more → GoesOn (readExpr fuel [] []) more r e s)
    (h : readGroup fuel r = some (item, s)) : GoesOn (readGroup fuel) more r item s := by
  obtain ⟨⟨o, inner⟩, hinner, h⟩ := Option.bind_eq_some_iff.1 h
  cases o with
  | flags settings =>
      obtain ⟨new, hopens⟩ := opens_readOpening hinner (.inr ⟨settings, rfl⟩)
      have hstart : GoesOn readOpening more r _ inner := hopens.goesOn hinner
      cases h
      refine ⟨hstart.groupNames, fun hfree => ?_⟩
      rw [readGroup, hstart.within hfree]
      rfl
  | group settings =>
      obtain ⟨body, after, rest, hbody, hafter, heq⟩ := exists_of_readBody h
      cases heq
      obtain ⟨new, hopens⟩ := opens_readOpening hinner (.inl (ne_nil_of_readBody hbody hafter))
      have hstart : GoesOn readOpening more r _ inner := hopens.goesOn hinner
      have hinside := hreads hbody (.inl (hafter ▸ List.cons_ne_nil _ _))
      refine ⟨List.Subset.trans hstart.groupNames hinside.groupNames, fun {earlier} hfree => ?_⟩
      have hnames : inner.groupNames.Disjoint earlier := fun name hname => hfree (hinside.groupNames hname)
      have hclose : (after.within more earlier).rest = ')' :: (rest ++ more) := by
        rw [within, rest_extend, hafter, List.cons_append]
      rw [readGroup, hstart.within hnames, Option.bind_eq_bind, Option.bind_some]
      exact readBody_of_readExpr (hinside.within hfree) hclose

private theorem goesOn_readItem (hreads : ∀ {r s : Reader} {e : Expr}, readExpr fuel [] [] r = some (e, s) →
      IsClosed s more → GoesOn (readExpr fuel [] []) more r e s)
    (h : readItem fuel c r = some (item, s)) (hapart : s.Apart more) : GoesOn (readItem fuel c) more r item s := by
  by_cases hc : c = '('
  · obtain rfl := hc
    exact goesOn_readGroup hreads h
  · exact (local_readItem hc fuel).goesOn h hapart

private theorem goesOn_readExpr (h : readExpr fuel branches parts r = some (e, s)) (hclosed : IsClosed s more) :
    GoesOn (readExpr fuel branches parts) more r e s := by
  induction fuel generalizing branches parts r s e with
  | zero => cases h
  | succ fuel ih =>
      cases readStep h with
      | done hend he hs =>
          obtain ⟨hignore, hhead⟩ := hclosed.resolve_left fun hne => hne (hs ▸ hend)
          obtain ⟨tail, rfl⟩ := List.head?_eq_some_iff.1 hhead
          have hfollows : s.Follows r := hs ▸ .skip r
          have hplain : r.skip = r := skip_eq_self (hfollows.ignoreWhitespace ▸ hignore)
          rw [hplain] at hs hend
          obtain rfl := hs
          refine ⟨List.Subset.refl _, fun {earlier} _ => ?_⟩
          have hclose : (s.within (')' :: tail) earlier).skip = push ⟨tail, false, s.groupNames ++ earlier⟩ ')' := by
            rw [within, extend, hend, hignore]
            rfl
          rw [readExpr_close hclose, he, within, extend, hend, hignore]
          rfl
      | close ht he hs =>
          have hnames := (Follows.of_skip ht).groupNames
          rw [hs, he]
          refine ⟨hnames ▸ List.Subset.refl _, fun {earlier} _ => ?_⟩
          exact readExpr_close (skip_within_of_push ht more earlier)
      | bar ht hrest =>
          have hlater := ih hrest hclosed
          have hnames := (Follows.of_skip ht).groupNames
          refine ⟨fun name hname => hlater.groupNames (hnames.symm ▸ hname), fun {earlier} hfree => ?_⟩
          rw [readExpr_bar (skip_within_of_push ht more earlier)]
          exact hlater.within hfree
      | item ht hclose hbar hitem hlater hrest =>
          have hbehind := ih hrest hclosed
          have hfirst := goesOn_readItem ih hitem (apart_of_readExpr hrest hclosed.apart)
          have hnames := (Follows.of_skip ht).groupNames
          refine ⟨fun name hname => hbehind.groupNames (hfirst.groupNames (hnames.symm ▸ hname)),
            fun {earlier} hfree => ?_⟩
          have hitem' := hfirst.within fun name hname => hfree (hbehind.groupNames hname)
          rw [readExpr_of_readItem (skip_within_of_push ht more earlier) hclose hbar hitem' hlater]
          exact hbehind.within hfree

private theorem groupNames_of_readExpr (h : readExpr fuel branches parts r = some (e, s))
    (hs : s.rest ≠ [] ∨ s.ignoreWhitespace = false) : r.groupNames ⊆ s.groupNames := by
  have hclosed : IsClosed s [')'] := hs.imp_right fun hignore => ⟨hignore, rfl⟩
  exact (goesOn_readExpr h hclosed).groupNames

private theorem exists_alternation_of_readExpr (h : readExpr fuel branches parts r = some (e, s))
    (hopen : branches ≠ []) : ∃ all, e = .alternation all := by
  have hjoin : ∀ {branches : List Expr}, branches ≠ [] →
      ∀ parts, ∃ all, joinBranches branches parts = .alternation all := by
    intro branches hopen parts
    cases branches with
    | nil => exact absurd rfl hopen
    | cons branch branches => exact ⟨_, rfl⟩
  induction fuel generalizing branches parts r with
  | zero => cases h
  | succ fuel ih =>
      cases readStep h with
      | done _ he _ => exact he ▸ hjoin hopen parts
      | close _ he _ => exact he ▸ hjoin hopen parts
      | bar _ hrest => exact ih hrest (List.cons_ne_nil _ _)
      | item _ _ _ _ _ hrest => exact ih hrest hopen

private theorem exists_parts_within (h : readExpr fuel [] parts r = some (e, s)) (hs : s.rest = [])
    (hignore : s.ignoreWhitespace = false) (hone : ∀ all, e ≠ .alternation all) :
    ∃ later, e = .sequence later.reverse ∧ ∀ {n m : Nat} {branches front : List Expr} {more : List Char}
      {earlier : List (List Char)} {p : Expr × Reader}, more.head? = some ':' ∨ more.head? = some ')' →
        s.groupNames.Disjoint earlier → fuel + n ≤ m + 1 →
          readExpr n branches (later ++ front) ⟨more, false, s.groupNames ++ earlier⟩ = some p →
            readExpr m branches (parts ++ front) (r.within more earlier) = some p := by
  induction fuel generalizing parts r with
  | zero => cases h
  | succ fuel ih =>
      cases readStep h with
      | done hend he heq =>
          have hfollows : s.Follows r := heq ▸ .skip r
          have hplain : r.skip = r := skip_eq_self (hfollows.ignoreWhitespace ▸ hignore)
          obtain rfl : s = r := heq.trans hplain
          refine ⟨parts, he, fun {n m branches front more earlier p} _ _ hle hp => ?_⟩
          rw [within, extend, hs, hignore]
          exact readExpr_of_le hp (by omega)
      | close _ _ heq =>
          rw [heq] at hs
          cases hs
      | bar _ hrest =>
          obtain ⟨all, rfl⟩ := exists_alternation_of_readExpr hrest (List.cons_ne_nil _ _)
          exact absurd rfl (hone all)
      | @item c t u item next ht hclose hbar hitem hnext hrest =>
          obtain ⟨later, he, hread⟩ := ih hrest
          have hnames : u.groupNames ⊆ s.groupNames := groupNames_of_readExpr hrest (.inr hignore)
          refine ⟨later, he, fun {n m branches front more earlier p} hmore hfree hle hp => ?_⟩
          obtain ⟨n, rfl⟩ := exists_fuel hp
          obtain ⟨m, rfl⟩ : ∃ k, m = k + 1 := ⟨m - 1, by omega⟩
          have hfirst := goesOn_readItem goesOn_readExpr hitem (apart_of_readExpr hrest (.inr ⟨hignore, hmore⟩))
          have hwithin := hfirst.within fun name hname => hfree (hnames hname)
          have hmono := readItem_of_readExpr (fun _ h => readExpr_of_le h (by omega : fuel ≤ m)) hwithin
          rw [readExpr_of_readItem (skip_within_of_push ht more earlier) hclose hbar hmono (addTo?_append hnext front)]
          exact hread hmore hfree (by omega) hp

end Within

/-! ### Texts as parts -/

/-- A text that is read as parts in front of a colon or a closing parenthesis and behind groups with other names. -/
structure Spells (text : List Char) (parts : List Expr) (names : List (List Char)) : Prop where
  goesOn {n : Nat} {branches front : List Expr} {more : List Char} {earlier : List (List Char)} {p : Expr × Reader}
    (hmore : more.head? = some ':' ∨ more.head? = some ')') (hfree : names.Disjoint earlier)
    (hp : readExpr n branches (parts ++ front) ⟨more, false, names ++ earlier⟩ = some p) :
    readExpr (text.length + n) branches front ⟨text ++ more, false, earlier⟩ = some p

section Spells

variable {text other : List Char} {parts others : List Expr} {names names' earlier : List (List Char)} {n k : Nat}
  {branches front : List Expr} {more : List Char} {e : Expr} {p : Expr × Reader}

theorem Spells.append (h : Spells text parts names) (h' : Spells other others names') (hhead : other.head? = some ':')
    (hapart : names'.Disjoint names) : Spells (text ++ other) (others ++ parts) (names' ++ names) := by
  refine ⟨fun {n branches front more earlier p} hmore hfree hp => ?_⟩
  obtain ⟨hfree', hfree⟩ := List.disjoint_append_left.1 hfree
  rw [List.append_assoc, List.append_assoc] at hp
  have hbehind : (other ++ more).head? = some ':' := by rw [List.head?_append, hhead]; rfl
  have hsecond := h'.goesOn hmore (List.disjoint_append_right.2 ⟨hapart, hfree'⟩) hp
  rw [List.length_append, Nat.add_assoc, List.append_assoc]
  exact h.goesOn (.inl hbehind) hfree hsecond

theorem Spells.colon (h : Spells text parts names) : Spells (':' :: text) (parts ++ [.literal ':' false]) names := by
  refine ⟨fun {n branches front more earlier p} hmore hfree hp => ?_⟩
  rw [List.append_assoc] at hp
  have hrest := h.goesOn hmore hfree hp
  rw [List.length_cons, Nat.add_right_comm, List.cons_append, readExpr_plain (by decide)]
  exact hrest

theorem Spells.readInside (h : Spells text parts names) (hfree : names.Disjoint earlier) (more : List Char) :
    readExpr (text.length + 1) [] [] ⟨text ++ ')' :: more, false, earlier⟩ =
      some (.sequence parts.reverse, ⟨')' :: more, false, names ++ earlier⟩) := by
  refine h.goesOn (.inr rfl) hfree ?_
  rw [readExpr_close (s := ⟨more, false, names ++ earlier⟩) rfl, List.append_nil]
  rfl

end Spells

/-! ### Expressions by themselves -/

/--
A text that is an expression by itself: what it is read as, with the names of its groups. White space counts at its
end.
-/
structure ReadAlone (text : String) where
  expr : Expr
  names : List (List Char)
  read : readExpr (text.toList.length + 1) [] [] (.ofText text.toList) = some (expr, ⟨[], false, names⟩)

namespace ReadAlone

variable {text : String}

theorem head?_ne (c : ReadAlone text) : text.toList.head? ≠ some '?' := by
  intro hhead
  have hread := c.read
  obtain ⟨rest, hrest⟩ := List.head?_eq_some_iff.1 hhead
  rw [hrest] at hread
  cases hread

theorem read? (c : ReadAlone text) : Expr.read? text.toList = some c.expr := read?_of_readExpr c.read rfl

theorem readInside (c : ReadAlone text) {earlier : List (List Char)} (hfree : c.names.Disjoint earlier)
    (more : List Char) : readExpr (text.toList.length + 1) [] [] ⟨text.toList ++ ')' :: more, false, earlier⟩ =
      some (c.expr, ⟨')' :: more, false, c.names ++ earlier⟩) :=
  (goesOn_readExpr c.read (.inr ⟨rfl, rfl⟩)).within hfree

theorem read?_wholeMatch (c : ReadAlone text) : Expr.read? (Text.wholeMatch text).toList = some c.expr.anchored :=
  read?_wholeMatch_of_body c.head?_ne (c.readInside (List.disjoint_nil_right _) _)

private theorem exists_spells (c : ReadAlone text) (hone : ∀ all, c.expr ≠ .alternation all) :
    ∃ parts, c.expr = .sequence parts.reverse ∧ Spells text.toList parts c.names := by
  obtain ⟨parts, he, hread⟩ := exists_parts_within c.read rfl rfl hone
  refine ⟨parts, he, ⟨fun {n branches front more earlier p} hmore hfree hp => ?_⟩⟩
  exact hread hmore hfree (by omega) hp

theorem exists_spells_grouped (c : ReadAlone text)
    (hone : FieldName.grouped text = text → ∀ all, c.expr ≠ .alternation all) :
    ∃ parts, Spells (FieldName.grouped text).toList parts c.names ∧
      (parts = [.group [] c.expr] ∨ FieldName.grouped text = text ∧ c.expr = .sequence parts.reverse) := by
  have hgrouped : FieldName.grouped text = text ∨
      (FieldName.grouped text).toList = '(' :: (text.toList ++ [')']) := by
    unfold FieldName.grouped
    dsimp only
    split
    · exact .inl rfl
    · exact .inr (String.toList_ofList)
  rcases hgrouped with hsame | hgroup
  · obtain ⟨parts, he, hspells⟩ := c.exists_spells (hone hsame)
    exact ⟨parts, hsame.symm ▸ hspells, .inr ⟨hsame, he⟩⟩
  · refine ⟨[.group [] c.expr], ⟨fun {n branches front more earlier p} hmore hfree hp => ?_⟩, .inl rfl⟩
    have hread := readExpr_group_of_body c.head?_ne (c.readInside hfree more) hp
    have hlength : ('(' :: (text.toList ++ [')'])).length + n = text.toList.length + 1 + n + 1 := by
      simp only [List.length_cons, List.length_append, List.length_nil]
      omega
    have htext : '(' :: (text.toList ++ [')']) ++ more = '(' :: (text.toList ++ ')' :: more) := by simp
    rw [hgroup, hlength, htext]
    exact hread

end ReadAlone

end CorpusSearch.Regex
