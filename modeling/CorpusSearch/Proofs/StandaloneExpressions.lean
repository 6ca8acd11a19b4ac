import CorpusSearch.Proofs.LiteralExpression
import CorpusSearch.Proofs.RelationTypes

/-!
Expressions that stand alone: they set no flags and have no alternatives outside of groups. In front of more text such
an expression is read as its parts, and the same flags are in force behind it, so that parentheses around it change
nothing. Main statement: a class and a type that stand alone match the same with parentheses around them and without.
-/

set_option autoImplicit false

namespace CorpusSearch.Regex

open Reader

/-! ### Expressions that stand alone -/

mutual

/-- Whether an expression sets no flags and leaves no choice open for what stands beside it. -/
def Expr.standsAlone : Expr → Bool
  | .flags _ | .alternation _ => false
  | .repetition _ _ body => body.standsAlone
  | .concatenation parts => Expr.allStandAlone parts
  | _ => true

def Expr.allStandAlone : List Expr → Bool
  | [] => true
  | part :: parts => part.standsAlone && Expr.allStandAlone parts

end

def standsAlone (text : List Char) : Bool := (Expr.read? text).any Expr.standsAlone

private theorem allStandAlone_iff {parts : List Expr} :
    Expr.allStandAlone parts = true ↔ ∀ part ∈ parts, part.standsAlone = true := by
  induction parts with
  | nil => simp [Expr.allStandAlone]
  | cons part parts ih => simp [Expr.allStandAlone, ih]

private theorem standsAlone_sequence {parts : List Expr} :
    (Expr.sequence parts).standsAlone = true ↔ ∀ part ∈ parts, part.standsAlone = true := by
  match parts with
  | [] => simp [Expr.sequence, Expr.standsAlone]
  | [part] => simp [Expr.sequence]
  | part :: other :: parts =>
      have hsequence : Expr.sequence (part :: other :: parts) = .concatenation (part :: other :: parts) := rfl
      rw [hsequence, Expr.standsAlone, allStandAlone_iff]

section StandAlone

variable {fuel : Nat} {branches parts : List Expr} {r s : Reader} {e : Expr}

private theorem flags_mem_addTo? {item : Item} {settings : FlagSettings} {later : List Expr}
    (h : item.addTo? parts = some later) (hmem : .flags settings ∈ parts) : .flags settings ∈ later := by
  cases item with
  | part e =>
      cases h
      exact List.mem_cons_of_mem e hmem
  | repeated low high =>
      rw [Item.addTo?] at h
      unfold repeatLast at h
      split at h
      · cases h
      · cases h
      · cases h
      · rename_i body rest hempty hflags
        cases h
        rcases List.mem_cons.1 hmem with heq | hmem
        · exact absurd heq.symm (hflags settings)
        · exact List.mem_cons_of_mem _ hmem

private theorem not_standsAlone_of_readExpr (h : readExpr fuel branches parts r = some (e, s))
    (hopen : branches ≠ [] ∨ ∃ settings, .flags settings ∈ parts) : e.standsAlone = false := by
  have hjoin : ∀ {branches parts}, (branches ≠ [] ∨ ∃ settings, .flags settings ∈ parts) →
      (joinBranches branches parts).standsAlone = false := by
    intro branches parts hopen
    cases branches with
    | nil =>
        obtain ⟨settings, hmem⟩ := hopen.resolve_left (absurd rfl)
        rw [joinBranches, ← Bool.not_eq_true, standsAlone_sequence]
        exact fun hall => Bool.false_ne_true (hall _ (List.mem_reverse.2 hmem))
    | cons branch branches => rfl
  induction fuel generalizing branches parts r with
  | zero => cases h
  | succ fuel ih =>
      cases readStep h with
      | done _ he _ => exact he ▸ hjoin hopen
      | close _ he _ => exact he ▸ hjoin hopen
      | bar _ hrest => exact ih hrest (.inl (List.cons_ne_nil _ _))
      | item _ _ _ _ hlater hrest =>
          refine ih hrest (hopen.imp_right ?_)
          rintro ⟨settings, hmem⟩
          exact ⟨settings, flags_mem_addTo? hlater hmem⟩

/-- Reading a text in front of more goes on behind it with the parts that it stands for. -/
structure ReadsAs (text : List Char) (parts : List Expr) : Prop where
  goesOn {n : Nat} {branches front : List Expr} {more : List Char} {names : List (List Char)} {p : Expr × Reader}
    (hmore : more.head? = some ':' ∨ more.head? = some ')')
    (hp : readExpr n branches front ⟨text ++ more, false, names⟩ = some p) :
    ∃ k others, readExpr k branches (parts ++ front) ⟨more, false, others⟩ = some p

private theorem exists_parts_of_readExpr (h : readExpr fuel [] parts r = some (e, s)) (hs : s.rest = [])
    (hignore : r.ignoreWhitespace = false) (halone : e.standsAlone = true) :
    ∃ later, e = .sequence later.reverse ∧
      ∀ {n : Nat} {branches front : List Expr} {more : List Char} {names : List (List Char)} {p : Expr × Reader},
        more.head? = some ':' ∨ more.head? = some ')' →
          readExpr n branches (parts ++ front) (r.extend more names) = some p →
            ∃ k others, readExpr k branches (later ++ front) ⟨more, false, others⟩ = some p := by
  induction fuel generalizing parts r with
  | zero => cases h
  | succ fuel ih =>
      have hskip : r.skip = r := skip_eq_self hignore
      cases readStep h with
      | done hend he _ =>
          refine ⟨parts, he, fun {n branches front more names p} hmore hp => ⟨n, names, ?_⟩⟩
          rw [hskip] at hend
          rwa [Reader.extend, hend, hignore] at hp
      | close _ _ heq =>
          rw [heq] at hs
          cases hs
      | bar _ hrest =>
          rw [not_standsAlone_of_readExpr hrest (.inl (List.cons_ne_nil _ _))] at halone
          cases halone
      | @item c t u item later ht hclose hbar hitem hlater hrest =>
          have hflags : ∀ settings, item ≠ .part (.flags settings) := by
            rintro settings rfl
            cases hlater
            rw [not_standsAlone_of_readExpr hrest (.inr ⟨settings, List.mem_cons_self⟩)] at halone
            cases halone
          have hbehind : u.ignoreWhitespace = false := by
            rw [ignoreWhitespace_of_readItem hitem hflags, ← hignore, ← hskip, ht]
            rfl
          obtain ⟨final, he, hread⟩ := ih hrest hbehind
          refine ⟨final, he, fun {n branches front more names p} hmore hp => ?_⟩
          obtain ⟨n, rfl⟩ := exists_fuel hp
          rw [readExpr_item (skip_extend_of_push ht more names) hclose hbar] at hp
          obtain ⟨⟨item', u'⟩, hitem', hp⟩ := Option.bind_eq_some_iff.1 hp
          obtain ⟨later', hlater', hp⟩ := Option.bind_eq_some_iff.1 hp
          obtain ⟨others, hsame⟩ := readItem_extend (readsOn fuel) hitem hitem' (.inr ⟨hbehind, hmore⟩)
          cases hsame
          cases (addTo?_append hlater front).symm.trans hlater'
          exact hread hmore hp

private theorem exists_readsAs {text : List Char} (h : standsAlone text = true) : text.head? ≠ some '?' ∧
    ∃ parts, (∀ part ∈ parts, part.standsAlone = true) ∧ ReadsAs text parts := by
  rw [standsAlone] at h
  cases hread : Expr.read? text with
  | none =>
      rw [hread] at h
      cases h
  | some e =>
      rw [hread, Option.any_some] at h
      obtain ⟨⟨e', s⟩, hexpr, hend⟩ := Option.bind_eq_some_iff.1 hread
      dsimp only at hend
      split at hend
      · rename_i hs
        cases hend
        obtain ⟨parts, he, hreads⟩ := exists_parts_of_readExpr hexpr (List.isEmpty_iff.1 hs) rfl h
        refine ⟨fun hhead => ?_, parts, fun part hpart => ?_, ⟨fun hmore hp => hreads hmore hp⟩⟩
        · obtain ⟨rest, rfl⟩ := List.head?_eq_some_iff.1 hhead
          cases hexpr
        · rw [he, standsAlone_sequence] at h
          exact h part (List.mem_reverse.2 hpart)
      · cases hend

theorem ReadsAs.append {first second : List Char} {parts others : List Expr} (hfirst : ReadsAs first parts)
    (hsecond : ReadsAs second others) (hhead : second.head? = some ':') :
    ReadsAs (first ++ second) (others ++ parts) := by
  refine ⟨fun {n branches front more names p} hmore hp => ?_⟩
  rw [List.append_assoc] at hp
  have hbehind : (second ++ more).head? = some ':' := by rw [List.head?_append, hhead]; rfl
  obtain ⟨k, names', hp⟩ := hfirst.goesOn (.inl hbehind) hp
  rw [List.append_assoc]
  exact hsecond.goesOn hmore hp

theorem ReadsAs.colon {text : List Char} {parts : List Expr} (h : ReadsAs text parts) :
    ReadsAs (':' :: text) (parts ++ [.literal ':' false]) := by
  refine ⟨fun {n branches front more names p} hmore hp => ?_⟩
  obtain ⟨n, rfl⟩ := exists_fuel hp
  rw [List.cons_append, readExpr_plain (by decide)] at hp
  rw [List.append_assoc]
  exact h.goesOn hmore hp

/-- A group around a text that is read as its parts. -/
theorem ReadsAs.group {text : List Char} {parts : List Expr} (h : ReadsAs text parts)
    (hhead : text.head? ≠ some '?') {n : Nat} {branches front : List Expr} {more : List Char}
    {names : List (List Char)} {p : Expr × Reader}
    (hp : readExpr n branches front ⟨'(' :: (text ++ ')' :: more), false, names⟩ = some p) :
    ∃ k others,
      readExpr k branches (.group [] (.sequence parts.reverse) :: front) ⟨more, false, others⟩ = some p := by
  obtain ⟨n, rfl⟩ := exists_fuel hp
  rw [readExpr_opening (s := ⟨text ++ ')' :: more, false, names⟩) rfl, readGroup, readOpening_literal hhead] at hp
  obtain ⟨⟨item, u⟩, hu, hp⟩ := Option.bind_eq_some_iff.1 hp
  obtain ⟨body, after, rest, hinner, hafter, heq⟩ := exists_of_readBody hu
  cases heq
  obtain ⟨k, others, hinner⟩ := h.goesOn (.inr rfl) hinner
  cases k with
  | zero => cases hinner
  | succ k =>
      rw [readExpr_close (s := ⟨more, false, others⟩) rfl, List.append_nil] at hinner
      cases hinner
      cases hafter
      exact ⟨n, others, hp⟩

end StandAlone

/-! ### Whole matches -/

private theorem eq_anchored_of_readsAs {text : String} {parts : List Expr} {e : Expr} (h : ReadsAs text.toList parts)
    (hhead : text.toList.head? ≠ some '?') (hread : Expr.read? (Text.wholeMatch text).toList = some e) :
    e = (Expr.sequence parts.reverse).anchored := by
  obtain ⟨⟨e', s⟩, hexpr, hend⟩ := Option.bind_eq_some_iff.1 hread
  dsimp only at hend
  split at hend
  · cases hend
    rw [wholeMatch_toList, List.length_cons, Reader.ofText, readExpr_textStart] at hexpr
    obtain ⟨k, others, hexpr⟩ := h.group hhead hexpr
    rcases k with _ | _ | k
    · cases hexpr
    · cases hexpr
    · rw [readExpr_textEnd] at hexpr
      cases hexpr
      rfl
  · cases hend

/-! ### Parts in sequence -/

section Sequences

variable {f g h : Flags} {a b c : Core} {parts others : List Expr}

def Core.chain : Core → Core → Core
  | .seq first rest, other => .seq first (rest.chain other)
  | _, other => other

theorem toSeq?_append (f : Flags) (parts others : List Expr) : Expr.toSeq? f (parts ++ others) =
    (Expr.toSeq? f parts).bind fun p => (Expr.toSeq? p.2 others).map fun q => (p.1.chain q.1, q.2) := by
  induction parts generalizing f with
  | nil =>
      rw [List.nil_append, Expr.toSeq?, Option.bind_some]
      cases Expr.toSeq? f others <;> rfl
  | cons part parts ih =>
      rw [List.cons_append, Expr.toSeq?, Expr.toSeq?]
      rcases part.toCore? f with _ | ⟨first, g⟩
      · rfl
      · simp only [Option.bind_eq_bind, Option.bind_some, ih]
        rcases Expr.toSeq? g parts with _ | ⟨rest, k⟩
        · rfl
        · simp only [Option.bind_some, Option.pure_def]
          cases Expr.toSeq? k others <;> rfl

/-- What goes on behind a sequence starts from the places that the sequence reaches. -/
theorem reach_chain (ha : Expr.toSeq? f parts = some (a, g)) (b : Core) (cs : List Cursor) :
    (a.chain b).reach cs = b.reach (a.reach cs) := by
  induction parts generalizing f a cs with
  | nil =>
      cases ha
      have hempty : Core.empty.reach cs = cs := by rw [Core.reach]
      rw [hempty]
      rfl
  | cons part parts ih =>
      obtain ⟨⟨first, k⟩, _, ha⟩ := Option.bind_eq_some_iff.1 ha
      obtain ⟨⟨rest, l⟩, hrest, ha⟩ := Option.bind_eq_some_iff.1 ha
      cases ha
      rw [Core.chain, Core.reach, ih hrest, Core.reach]

theorem exists_of_toSeq?_append (hseq : Expr.toSeq? f (parts ++ others) = some (c, h)) :
    ∃ a g b, Expr.toSeq? f parts = some (a, g) ∧ Expr.toSeq? g others = some (b, h) ∧
      ∀ cs, c.reach cs = b.reach (a.reach cs) := by
  rw [toSeq?_append] at hseq
  obtain ⟨⟨a, g⟩, ha, hseq⟩ := Option.bind_eq_some_iff.1 hseq
  obtain ⟨⟨b, k⟩, hb, hseq⟩ := Option.map_eq_some_iff.1 hseq
  cases hseq
  exact ⟨a, g, b, ha, hb, reach_chain ha b⟩

theorem exists_of_toCore?_sequence (hcore : (Expr.sequence parts).toCore? f = some (c, g)) :
    ∃ a, Expr.toSeq? f parts = some (a, g) ∧ ∀ cs, a.reach cs = c.reach cs := by
  match parts with
  | [] => exact ⟨c, hcore, fun _ => rfl⟩
  | [part] =>
      refine ⟨.seq c .empty, ?_, fun cs => by rw [Core.reach, Core.reach]⟩
      have hpart : part.toCore? f = some (c, g) := hcore
      rw [Expr.toSeq?, hpart]
      rfl
  | part :: other :: rest => exact ⟨c, hcore, fun _ => rfl⟩

theorem maxDepth_append (parts others : List Expr) :
    Expr.maxDepth (parts ++ others) = max (Expr.maxDepth parts) (Expr.maxDepth others) := by
  induction parts with
  | nil => exact (Nat.zero_max _).symm
  | cons part parts ih => rw [List.cons_append, Expr.maxDepth, Expr.maxDepth, ih, Nat.max_assoc]

theorem exists_toCore?_sequence (ha : Expr.toSeq? f parts = some (a, g)) : ∃ c,
    (Expr.sequence parts).toCore? f = some (c, g) ∧ ∀ cs, c.reach cs = a.reach cs := by
  match parts with
  | [] => exact ⟨a, ha, fun _ => rfl⟩
  | [part] =>
      obtain ⟨⟨c, k⟩, hpart, ha⟩ := Option.bind_eq_some_iff.1 ha
      cases ha
      exact ⟨c, hpart, fun cs => by rw [Core.reach, Core.reach]⟩
  | part :: other :: rest => exact ⟨a, ha, fun _ => rfl⟩

end Sequences

mutual

private theorem flags_of_standsAlone (e : Expr) {f g : Flags} {c : Core} (halone : e.standsAlone = true)
    (h : e.toCore? f = some (c, g)) : g = f := by
  cases e with
  | flags settings => cases halone
  | alternation branches => cases halone
  | empty =>
      cases h
      rfl
  | assertion a =>
      cases h
      rfl
  | literal d byte =>
      obtain ⟨_, _, h⟩ := Option.map_eq_some_iff.1 h
      cases h
      rfl
  | dot =>
      obtain ⟨_, _, h⟩ := Option.map_eq_some_iff.1 h
      cases h
      rfl
  | letter d negated =>
      obtain ⟨_, _, h⟩ := Option.map_eq_some_iff.1 h
      cases h
      rfl
  | named d negated =>
      obtain ⟨_, _, h⟩ := Option.map_eq_some_iff.1 h
      cases h
      rfl
  | bracketed negated body =>
      obtain ⟨_, _, h⟩ := Option.bind_eq_some_iff.1 h
      obtain ⟨_, _, h⟩ := Option.bind_eq_some_iff.1 h
      cases h
      rfl
  | group settings body =>
      obtain ⟨_, _, h⟩ := Option.bind_eq_some_iff.1 h
      cases h
      rfl
  | repetition low high body =>
      obtain ⟨⟨_, _⟩, hbody, h⟩ := Option.bind_eq_some_iff.1 h
      cases h
      exact flags_of_standsAlone body halone hbody
  | concatenation parts => exact flags_of_allStandAlone parts halone h

private theorem flags_of_allStandAlone (parts : List Expr) {f g : Flags} {c : Core}
    (halone : Expr.allStandAlone parts = true) (h : Expr.toSeq? f parts = some (c, g)) : g = f := by
  cases parts with
  | nil =>
      cases h
      rfl
  | cons part parts =>
      rw [Expr.allStandAlone, Bool.and_eq_true] at halone
      obtain ⟨⟨_, k⟩, hpart, h⟩ := Option.bind_eq_some_iff.1 h
      obtain ⟨⟨_, _⟩, hparts, h⟩ := Option.bind_eq_some_iff.1 h
      cases h
      obtain rfl := flags_of_standsAlone part halone.1 hpart
      exact flags_of_allStandAlone parts halone.2 hparts

end

private theorem exists_of_toSeq?_group {settings : FlagSettings} {e : Expr} {f g : Flags} {a : Core}
    (h : Expr.toSeq? f [.group settings e] = some (a, g)) :
    g = f ∧ ∃ c k, e.toCore? (f.apply settings) = some (c, k) ∧ ∀ cs, a.reach cs = c.reach cs := by
  obtain ⟨⟨_, _⟩, hgroup, h⟩ := Option.bind_eq_some_iff.1 h
  obtain ⟨⟨_, k⟩, hbody, hgroup⟩ := Option.bind_eq_some_iff.1 hgroup
  cases hgroup
  cases h
  exact ⟨rfl, _, k, hbody, fun cs => by rw [Core.reach, Core.reach]⟩

/-- Lists of parts that reach the same and leave the same flags in force, if both have a form without flags. -/
def Alike (parts others : List Expr) : Prop := ∀ (f g h : Flags) (a b : Core),
  Expr.toSeq? f parts = some (a, g) → Expr.toSeq? f others = some (b, h) → g = h ∧ ∀ cs, a.reach cs = b.reach cs

namespace Alike

variable {parts others parts' others' : List Expr}

theorem refl (parts : List Expr) : Alike parts parts := by
  intro f g h a b ha hb
  cases ha.symm.trans hb
  exact ⟨rfl, fun _ => rfl⟩

theorem append (h : Alike parts others) (h' : Alike parts' others') :
    Alike (parts ++ parts') (others ++ others') := by
  intro f g k a b ha hb
  obtain ⟨a₁, f₁, a₂, hparts, hparts', hreach⟩ := exists_of_toSeq?_append ha
  obtain ⟨b₁, f₂, b₂, hothers, hothers', hreach'⟩ := exists_of_toSeq?_append hb
  obtain ⟨rfl, hfirst⟩ := h _ _ _ _ _ hparts hothers
  obtain ⟨rfl, hsecond⟩ := h' _ _ _ _ _ hparts' hothers'
  exact ⟨rfl, fun cs => by rw [hreach, hreach', hfirst, hsecond]⟩

private theorem inGroup (h : Alike parts others) (settings : FlagSettings) :
    Alike [.group settings (.sequence parts)] [.group settings (.sequence others)] := by
  intro f g k a b ha hb
  obtain ⟨rfl, c, _, hc, hreach⟩ := exists_of_toSeq?_group ha
  obtain ⟨rfl, d, _, hd, hreach'⟩ := exists_of_toSeq?_group hb
  obtain ⟨_, hparts, hfirst⟩ := exists_of_toCore?_sequence hc
  obtain ⟨_, hothers, hsecond⟩ := exists_of_toCore?_sequence hd
  exact ⟨rfl, fun cs => by rw [hreach, hreach', ← hfirst, ← hsecond, (h _ _ _ _ _ hparts hothers).2]⟩

/-- Parentheses around parts that stand alone change nothing. -/
theorem group (h : ∀ part ∈ parts, part.standsAlone = true) : Alike parts [.group [] (.sequence parts)] := by
  intro f g k a b ha hb
  obtain ⟨rfl, c, _, hc, hreach⟩ := exists_of_toSeq?_group hb
  obtain ⟨_, hparts, hfirst⟩ := exists_of_toCore?_sequence hc
  cases ha.symm.trans hparts
  exact ⟨flags_of_allStandAlone parts (allStandAlone_iff.2 h) ha, fun cs => by rw [hreach, hfirst]⟩

end Alike

/-! ### Matching -/

def matchesWhole (expression value : String) : Bool :=
  match compileWhole expression with
  | .ok core => core.isMatch value
  | .error _ => false

private theorem matchesWhole_of_alike {text other : String} {parts others : List Expr} {core core' : Core}
    (h : ReadsAs text.toList parts) (hhead : text.toList.head? ≠ some '?') (hcore : compileWhole text = .ok core)
    (h' : ReadsAs other.toList others) (hhead' : other.toList.head? ≠ some '?')
    (hcore' : compileWhole other = .ok core') (halike : Alike parts.reverse others.reverse) (value : String) :
    matchesWhole text value = matchesWhole other value := by
  have hreach : ∀ cs, core.reach cs = core'.reach cs := by
    obtain ⟨e, hread, hresolve⟩ := exists_of_compileWithin hcore
    obtain ⟨e', hread', hresolve'⟩ := exists_of_compileWithin hcore'
    obtain rfl := eq_anchored_of_readsAs h hhead hread
    obtain rfl := eq_anchored_of_readsAs h' hhead' hread'
    obtain ⟨⟨_, g⟩, hseq, heq⟩ := Option.map_eq_some_iff.1 hresolve
    obtain ⟨⟨_, g'⟩, hseq', heq'⟩ := Option.map_eq_some_iff.1 hresolve'
    cases heq
    cases heq'
    have hend := (halike.inGroup []).append (.refl [.assertion .textEnd])
    exact ((Alike.refl [.assertion .textStart]).append hend _ _ _ _ _ hseq hseq').2
  rw [matchesWhole, matchesWhole, hcore, hcore']
  dsimp only
  rw [Core.isMatch, Core.isMatch, hreach]

theorem head?_grouped {text : String} (h : text.toList.head? ≠ some '?') :
    (FieldName.grouped text).toList.head? ≠ some '?' := by
  unfold FieldName.grouped
  dsimp only
  split
  · exact h
  · rw [String.toList_ofList]
    exact fun heq => absurd (Option.some.inj heq) (by decide)

private theorem exists_readsAs_grouped {text : String} {parts : List Expr} (h : ReadsAs text.toList parts)
    (hhead : text.toList.head? ≠ some '?') (halone : ∀ part ∈ parts, part.standsAlone = true) :
    ∃ others, ReadsAs (FieldName.grouped text).toList others ∧ Alike parts.reverse others.reverse := by
  unfold FieldName.grouped
  dsimp only
  split
  · exact ⟨parts, h, Alike.refl _⟩
  · have hreversed : ∀ part ∈ parts.reverse, part.standsAlone = true := fun part hpart =>
      halone part (List.mem_reverse.1 hpart)
    refine ⟨[.group [] (.sequence parts.reverse)], ?_, Alike.group hreversed⟩
    rw [String.toList_ofList]
    refine ⟨fun {n branches front more names p} _ hp => ?_⟩
    have hmore : '(' :: text.toList ++ [')'] ++ more = '(' :: (text.toList ++ ')' :: more) := by simp
    rw [hmore] at hp
    exact h.group hhead hp

theorem matchesWhole_fullType {type cls proper : String} {core core' : Core}
    (htype : type.toList = cls.toList ++ ':' :: ':' :: proper.toList) (hcls : standsAlone cls.toList = true)
    (hproper : standsAlone proper.toList = true) (hcore : compileWhole type = .ok core)
    (hcore' : compileWhole (FieldName.fullType cls proper) = .ok core') (value : String) :
    matchesWhole type value = matchesWhole (FieldName.fullType cls proper) value := by
  obtain ⟨hclsHead, cparts, hcalone, hc⟩ := exists_readsAs hcls
  obtain ⟨hproperHead, tparts, htalone, ht⟩ := exists_readsAs hproper
  obtain ⟨cothers, hc', hcalike⟩ := exists_readsAs_grouped hc hclsHead hcalone
  obtain ⟨tothers, ht', htalike⟩ := exists_readsAs_grouped ht hproperHead htalone
  have hhead : ∀ {front : List Char} {rest}, front.head? ≠ some '?' → (front ++ ':' :: rest).head? ≠ some '?' := by
    intro front rest h
    cases front with
    | nil => exact fun heq => absurd (Option.some.inj heq) (by decide)
    | cons c front => exact h
  have hreads : ReadsAs type.toList (tparts ++ [.literal ':' false] ++ [.literal ':' false] ++ cparts) := by
    rw [htype]
    exact hc.append ht.colon.colon rfl
  have hreads' : ReadsAs (FieldName.fullType cls proper).toList
      (tothers ++ [.literal ':' false] ++ [.literal ':' false] ++ cothers) := by
    rw [FieldName.toList_fullType]
    exact hc'.append ht'.colon.colon rfl
  refine matchesWhole_of_alike hreads ?_ hcore hreads' ?_ hcore' ?_ value
  · rw [htype]
    exact hhead hclsHead
  · rw [FieldName.toList_fullType]
    exact hhead (head?_grouped hclsHead)
  · simp only [List.reverse_append]
    exact hcalike.append ((Alike.refl _).append ((Alike.refl _).append htalike))

end CorpusSearch.Regex
