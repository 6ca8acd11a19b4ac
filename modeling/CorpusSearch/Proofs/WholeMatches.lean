import CorpusSearch.Proofs.ExpressionReading
import CorpusSearch.Proofs.Matching

/-!
Expressions for whole matches. A text is put into parentheses, between the start and the end of what it is to match.
What is read in the parentheses is compiled unless it is nested too deeply or becomes too large. Main statement: what
is compiled matches a value exactly if the expression matches it with nothing around it.
-/

set_option autoImplicit false

namespace CorpusSearch.Regex

open Reader

/-! ### Reading -/

section Reading

variable {e : Expr} {text more : List Char} {names earlier : List (List Char)} {n k : Nat} {branches front : List Expr}
  {p : Expr × Reader}

theorem readExpr_of_read? (h : Expr.read? text = some e) :
    ∃ s : Reader, readExpr (text.length + 1) [] [] (.ofText text) = some (e, s) ∧ s.rest = [] := by
  obtain ⟨⟨e', s⟩, hread, h⟩ := Option.bind_eq_some_iff.1 h
  dsimp only at h
  split at h
  · rename_i hend
    cases h
    exact ⟨s, hread, List.isEmpty_iff.1 hend⟩
  · cases h

theorem read?_of_readExpr {s : Reader} (h : readExpr (text.length + 1) [] [] (.ofText text) = some (e, s))
    (hs : s.rest = []) : Expr.read? text = some e := by
  rw [Expr.read?, h, Option.bind_eq_bind, Option.bind_some]
  exact if_pos (List.isEmpty_iff.2 hs)

theorem readOpening_literal (h : text.head? ≠ some '?') (more : List Char) (names : List (List Char)) :
    readOpening ⟨text ++ ')' :: more, false, names⟩ = some (.group [], ⟨text ++ ')' :: more, false, names⟩) := by
  obtain ⟨c, tail, htext, hc⟩ : ∃ c tail, text ++ ')' :: more = c :: tail ∧ c ≠ '?' := by
    cases text with
    | nil => exact ⟨')', more, rfl, by decide⟩
    | cons c text => exact ⟨c, text ++ ')' :: more, rfl, fun hc => h (congrArg some hc)⟩
  rw [htext, readOpening]
  dsimp only [Reader.skip]
  rw [if_neg (by decide)]
  split
  case h_8 => rfl
  all_goals simp_all

theorem readExpr_group_of_body (hhead : text.head? ≠ some '?')
    (hbody : readExpr k [] [] ⟨text ++ ')' :: more, false, earlier⟩ = some (e, ⟨')' :: more, false, names⟩))
    (hp : readExpr n branches (.group [] e :: front) ⟨more, false, names⟩ = some p) :
    readExpr (k + n + 1) branches front ⟨'(' :: (text ++ ')' :: more), false, earlier⟩ = some p := by
  have hgroup : readItem (k + n) '(' ⟨text ++ ')' :: more, false, earlier⟩ =
      some (.part (.group [] e), ⟨more, false, names⟩) := by
    show readGroup (k + n) _ = _
    rw [readGroup, readOpening_literal hhead]
    exact @readBody_of_readExpr (k + n) ⟨text ++ ')' :: more, false, earlier⟩ [] e ⟨')' :: more, false, names⟩ more
      (readExpr_of_le hbody (Nat.le_add_right k n)) rfl
  rw [readExpr_of_readItem (t := ⟨text ++ ')' :: more, false, earlier⟩) rfl (by decide) (by decide) hgroup rfl]
  exact readExpr_of_le hp (Nat.le_add_left n k)

theorem readExpr_textStart (fuel : Nat) (parts : List Expr) (rest : List Char) (names : List (List Char)) :
    readExpr (fuel + 1) [] parts ⟨'\\' :: 'A' :: rest, false, names⟩ =
      readExpr fuel [] (.assertion .textStart :: parts) ⟨rest, false, names⟩ := by
  rw [readExpr]
  rfl

theorem readExpr_textEnd (fuel : Nat) (parts : List Expr) (names : List (List Char)) :
    readExpr (fuel + 2) [] parts ⟨['\\', 'z'], false, names⟩ =
      some (joinBranches [] (.assertion .textEnd :: parts), ⟨[], false, names⟩) := by
  rw [readExpr]
  dsimp only [Reader.skip]
  rw [if_neg (by decide)]
  simp only [readPrimitive, readEscape, Reader.peek?, Reader.bump, List.head?_cons, List.tail_cons,
    Option.bind_eq_bind, Option.bind_some, Option.pure_def, Primitive.toExpr]
  rw [readExpr]
  rfl

/-- The expression that matches with whole values what an expression matches. -/
def Expr.anchored (e : Expr) : Expr := .concatenation [.assertion .textStart, .group [] e, .assertion .textEnd]

theorem wholeMatch_toList (text : String) :
    (Text.wholeMatch text).toList = '\\' :: 'A' :: '(' :: (text.toList ++ ')' :: ['\\', 'z']) := by
  show (String.ofList ("\\A(".toList ++ text.toList ++ ")\\z".toList)).toList = _
  rw [String.toList_ofList]
  simp

/-- What is read in parentheses is what is compiled for whole matches. -/
theorem read?_wholeMatch_of_body {text : String} (hhead : text.toList.head? ≠ some '?')
    (hbody : readExpr (text.toList.length + 1) [] [] ⟨text.toList ++ ')' :: ['\\', 'z'], false, []⟩ =
      some (e, ⟨')' :: ['\\', 'z'], false, names⟩)) :
    Expr.read? (Text.wholeMatch text).toList = some e.anchored := by
  have hfuel : ('\\' :: 'A' :: '(' :: (text.toList ++ ')' :: ['\\', 'z'])).length + 1 =
      text.toList.length + 1 + 4 + 1 + 1 := by
    simp only [List.length_cons, List.length_append, List.length_nil]
  have hend : readExpr 4 [] [.group [] e, .assertion .textStart] ⟨['\\', 'z'], false, names⟩ = some _ :=
    readExpr_textEnd 2 _ names
  have hwhole := readExpr_group_of_body hhead hbody hend
  rw [Expr.read?, wholeMatch_toList, hfuel, Reader.ofText, readExpr_textStart, hwhole]
  rfl

end Reading

/-! ### Compiling -/

/-- What matches an expression between the start and the end of a text. -/
def Core.anchored (e : Core) : Core := .seq (.look .textStart) (.seq e (.seq (.look .textEnd) .empty))

theorem resolve?_anchored (e : Expr) : e.anchored.resolve? = e.resolve?.map Core.anchored := by
  have happly : Flags.default.apply [] = .default := rfl
  have hstart : Expr.toCore? .default (.assertion .textStart) = some (.look .textStart, .default) := rfl
  rw [Expr.resolve?, Expr.resolve?, Expr.anchored, Expr.toCore?, Expr.toSeq?, hstart, Option.bind_eq_bind,
    Option.bind_some]
  dsimp only
  rw [Expr.toSeq?, Expr.toCore?, happly]
  cases e.toCore? .default <;> rfl

theorem depth_anchored (e : Expr) : e.anchored.depth = e.depth + 2 := by
  simp only [Expr.anchored, Expr.depth, Expr.maxDepth]
  omega

theorem compileWithin_of_read {text : String} {e : Expr} {core : Core} (sizeLimit : Nat)
    (hread : Expr.read? (Text.wholeMatch text).toList = some e.anchored) (hresolve : e.resolve? = some core)
    (hdepth : e.depth + 2 ≤ compileNestLimit) : compileWithin sizeLimit text =
      if sizeLimit < core.anchored.size then .error .tooLarge else .ok core.anchored := by
  rw [compileWithin, Expr.readWithin, hread]
  dsimp only
  rw [depth_anchored, if_neg (Nat.not_lt.2 hdepth), resolve?_anchored, hresolve]
  rfl

/-- Expressions that are compiled for whole matches where there is room enough for them. -/
def IsValid (text : String) : Prop := ∃ sizeLimit core, compileWithin sizeLimit text = .ok core

theorem size_anchored (a : Core) : a.anchored.size = a.size + 96 := by
  simp only [Core.anchored, Core.size]
  omega

theorem isValid_of_read {text : String} {e : Expr} {a : Core}
    (hread : Expr.read? (Text.wholeMatch text).toList = some e.anchored) (hresolve : e.resolve? = some a)
    (hdepth : e.depth + 2 ≤ compileNestLimit) : IsValid text := by
  refine ⟨a.anchored.size, a.anchored, ?_⟩
  rw [compileWithin_of_read _ hread hresolve hdepth, if_neg (Nat.lt_irrefl _)]

theorem compileWhole_of_read {text : String} {e : Expr} {a : Core}
    (hread : Expr.read? (Text.wholeMatch text).toList = some e.anchored)
    (hresolve : e.resolve? = some a) (hdepth : e.depth + 2 ≤ compileNestLimit)
    (hsize : a.size + 96 ≤ defaultSizeLimit) : compileWhole text = .ok a.anchored := by
  rw [← size_anchored] at hsize
  rw [compileWhole, compileWithin_of_read _ hread hresolve hdepth, if_neg (Nat.not_lt.2 hsize)]

theorem readWithin_eq_ok {nestLimit : Nat} {text : String} {core : Core} : Expr.readWithin nestLimit text = .ok core ↔
    ∃ e, Expr.read? text.toList = some e ∧ e.depth ≤ nestLimit ∧ e.resolve? = some core := by
  unfold Expr.readWithin
  cases Expr.read? text.toList with
  | none => simp
  | some e =>
      by_cases hdepth : nestLimit < e.depth
      · simp [hdepth, Nat.not_le.2 hdepth]
      · cases hresolve : e.resolve? <;> simp [hdepth, hresolve, Nat.not_lt.1 hdepth]

theorem compileWithin_eq_ok {sizeLimit : Nat} {text : String} {core : Core} : compileWithin sizeLimit text = .ok core ↔
    Expr.readWithin compileNestLimit (Text.wholeMatch text) = .ok core ∧ core.size ≤ sizeLimit := by
  unfold compileWithin
  cases Expr.readWithin compileNestLimit (Text.wholeMatch text) with
  | error f => simp
  | ok core' =>
      by_cases hsize : sizeLimit < core'.size
      · simp only [hsize, if_true, reduceCtorEq, Except.ok.injEq, false_iff]
        rintro ⟨rfl, hle⟩
        omega
      · simp only [hsize, if_false, Except.ok.injEq]
        constructor
        · rintro rfl
          exact ⟨rfl, Nat.not_lt.1 hsize⟩
        · exact And.left

private theorem isValid_iff {text : String} :
    IsValid text ↔ ∃ core, Expr.readWithin compileNestLimit (Text.wholeMatch text) = .ok core := by
  constructor
  · rintro ⟨sizeLimit, core, hcore⟩
    exact ⟨core, (compileWithin_eq_ok.1 hcore).1⟩
  · rintro ⟨core, hcore⟩
    exact ⟨core.size, core, compileWithin_eq_ok.2 ⟨hcore, Nat.le_refl _⟩⟩

theorem compileWithin_inj {m n : Nat} {text : String} {a b : Core} (ha : compileWithin m text = .ok a)
    (hb : compileWithin n text = .ok b) : a = b :=
  Except.ok.inj ((compileWithin_eq_ok.1 ha).1.symm.trans (compileWithin_eq_ok.1 hb).1)

/-- Only the lack of room keeps a valid expression from being compiled. -/
theorem IsValid.compileWithin {text : String} (h : IsValid text) (sizeLimit : Nat) :
    (∃ core, compileWithin sizeLimit text = .ok core) ∨ compileWithin sizeLimit text = .error .tooLarge := by
  obtain ⟨core, hcore⟩ := isValid_iff.1 h
  rw [Regex.compileWithin, hcore]
  dsimp only
  split
  · exact .inr rfl
  · exact .inl ⟨core, rfl⟩

theorem exists_of_compileWithin {sizeLimit : Nat} {text : String} {core : Core}
    (h : compileWithin sizeLimit text = .ok core) :
    ∃ e, Expr.read? (Text.wholeMatch text).toList = some e ∧ e.resolve? = some core := by
  obtain ⟨e, hread, -, hresolve⟩ := readWithin_eq_ok.1 (compileWithin_eq_ok.1 h).1
  exact ⟨e, hread, hresolve⟩

/-! ### Matching -/

private theorem filter_textStart_onward {before : List Char} (h : before ≠ []) (text : List Char) :
    (Cursor.onward before text).filter Look.textStart.holds = [] := by
  rw [List.filter_eq_nil_iff]
  induction text generalizing before with
  | nil => simp [Cursor.onward, Look.holds, h]
  | cons c text ih =>
      rw [Cursor.onward]
      refine List.forall_mem_cons.2 ⟨by simp [Look.holds, h], ?_⟩
      exact ih (List.cons_ne_nil c before)

private theorem filter_textStart_all (text : List Char) :
    (Cursor.all text).filter Look.textStart.holds = [Cursor.start text] := by
  cases text with
  | nil => rfl
  | cons c text =>
      rw [Cursor.all, Cursor.onward, List.filter_cons_of_pos rfl,
        filter_textStart_onward (List.cons_ne_nil c [])]
      rfl

/-- Compiled for whole matches, an expression matches the values that it matches with nothing around them. -/
theorem isMatch_anchored (e : Core) (value : String) :
    e.anchored.isMatch value = true ↔ e.Matches [] value.toList [] := by
  have hend : ∀ q, q ∈ (e.reach [Cursor.start value.toList]).filter Look.textEnd.holds ↔
      q = ⟨value.toList.reverse, []⟩ ∧ e.Matches [] value.toList [] := by
    intro q
    have hone : ∀ c ∈ [Cursor.start value.toList], c.IsAt value.toList := List.forall_mem_singleton.2 rfl
    rw [List.mem_filter, performs_reach e hone]
    constructor
    · rintro ⟨⟨p, hp, piece, hafter, hbefore, hmatch⟩, hholds⟩
      obtain rfl := List.mem_singleton.1 hp
      obtain ⟨before, after⟩ := q
      obtain rfl : after = [] := List.isEmpty_iff.1 hholds
      obtain rfl : value.toList = piece := hafter.trans (List.append_nil piece)
      obtain rfl : before = value.toList.reverse := hbefore.trans (List.append_nil _)
      exact ⟨rfl, hmatch⟩
    · rintro ⟨rfl, hmatch⟩
      exact ⟨⟨_, List.mem_singleton_self _, value.toList, (List.append_nil _).symm, (List.append_nil _).symm, hmatch⟩,
        rfl⟩
  rw [Core.isMatch, Bool.not_eq_true', List.isEmpty_eq_false_iff_exists_mem]
  simp only [Core.anchored, Core.reach, filter_textStart_all, hend]
  constructor
  · rintro ⟨_, -, hmatch⟩
    exact hmatch
  · intro hmatch
    exact ⟨_, rfl, hmatch⟩

end CorpusSearch.Regex
