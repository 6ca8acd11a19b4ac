import CorpusSearch.Proofs.ShorterExpressions
import CorpusSearch.Proofs.WholeMatches

/-!
Expressions that become whole by the parentheses around them. A text is put into parentheses before it is read, so that
one that closes a parenthesis it has not opened is compiled as if it had, and one that begins with a question mark says
what kind of group the parentheses are. Main statement: what is compiled for whole matches is what the expression asks
for by itself, unless its text is of one of these kinds.
-/

set_option autoImplicit false

namespace CorpusSearch.Regex

open Reader

/-- Whether a text is read as an expression up to a closing parenthesis that it has not opened. -/
def closesEarly (text : List Char) : Bool :=
  (readExpr (text.length + 1) [] [] (.ofText text)).any fun p => !p.2.isAtEnd

/-- Whether what is compiled for a text accepts the values that the text matches, as an expression by itself. -/
def IsFaithful (text : String) (whole : Core) : Prop :=
  ∃ core, Expr.readWithin compileNestLimit text = .ok core ∧ core.size ≤ defaultSizeLimit ∧
    ∀ value : String, whole.isMatch value = true ↔ core.Matches [] value.toList []

section Reading

variable {text : List Char} {e : Expr}

private theorem head?_ne_of_read? (h : Expr.read? text = some e) : text.head? ≠ some '?' := by
  intro hhead
  obtain ⟨rest, rfl⟩ := List.head?_eq_some_iff.1 hhead
  obtain ⟨s, hread, -⟩ := readExpr_of_read? h
  cases hread

private theorem closesEarly_of_read? (h : Expr.read? text = some e) : closesEarly text = false := by
  obtain ⟨s, hread, hs⟩ := readExpr_of_read? h
  rw [closesEarly, hread, Option.any_some, isAtEnd, hs]
  rfl

private theorem exists_of_close_suffix {rest : List Char} (h : ')' :: rest <:+ text ++ [')', '\\', 'z']) :
    ∃ before, ')' :: rest = before ++ [')', '\\', 'z'] := by
  obtain ⟨front, hfront⟩ := h
  rcases List.append_eq_append_iff.1 hfront with ⟨between, -, hrest⟩ | ⟨between, -, hend⟩
  · exact ⟨between, hrest⟩
  · cases between with
    | nil => exact ⟨[], hend.symm⟩
    | cons c between =>
        have hmem : ')' ∈ ['\\', 'z'] := by
          rw [(List.cons.inj hend).2]
          exact List.mem_append_right _ List.mem_cons_self
        exact absurd hmem (by decide)

private theorem exists_of_read?_wholeMatch {text : String} (h : Expr.read? (Text.wholeMatch text).toList = some e)
    (hhead : text.toList.head? ≠ some '?') : ∃ (n : Nat) (body : Expr) (rest : List Char) (after s : Reader),
      readExpr n [] [] ((ofText text.toList).append [')', '\\', 'z']) = some (body, after) ∧ after.rest = ')' :: rest ∧
        readExpr n [] [.group [] body, .assertion .textStart] ⟨rest, false, after.groupNames⟩ = some (e, s) := by
  obtain ⟨s, hread, -⟩ := readExpr_of_read? h
  rw [wholeMatch_toList, List.length_cons, Reader.ofText, readExpr_textStart, List.length_cons,
    readExpr_opening (s := ⟨text.toList ++ ')' :: ['\\', 'z'], false, []⟩) rfl, readGroup,
    readOpening_literal hhead] at hread
  obtain ⟨⟨item, u⟩, hitem, hread⟩ := Option.bind_eq_some_iff.1 hread
  obtain ⟨body, after, rest, hbody, hafter, heq⟩ := exists_of_readBody hitem
  cases heq
  exact ⟨_, body, rest, after, s, hbody, hafter, hread⟩

private theorem read?_of_wholeMatch {text : String} (h : Expr.read? (Text.wholeMatch text).toList = some e)
    (hhead : text.toList.head? ≠ some '?') (hopen : closesEarly text.toList = false) :
    ∃ body, Expr.read? text.toList = some body ∧ e = body.anchored := by
  obtain ⟨n, body, rest, after, s, hbody, hafter, hbehind⟩ := exists_of_read?_wholeMatch h hhead
  obtain ⟨before, hbefore⟩ := exists_of_close_suffix (hafter ▸ readExpr_suffix hbody)
  obtain ⟨_, ignore, names⟩ := after
  obtain rfl := hafter.trans hbefore
  have halone : readExpr (text.toList.length + 1) [] [] (.ofText text.toList) = some (body, ⟨before, ignore, names⟩) :=
    readExpr_of_append (r := .ofText text.toList) (s := ⟨before, ignore, names⟩) hbody
  have hnone : before = [] := by
    rwa [closesEarly, halone, Option.any_some, Bool.not_eq_false', isAtEnd, List.isEmpty_iff] at hopen
  obtain rfl := hnone
  obtain rfl : rest = ['\\', 'z'] := (List.cons.inj hbefore).2
  have hend : readExpr (n + 2) [] [.group [] body, .assertion .textStart] ⟨['\\', 'z'], false, names⟩ = some (e, s) :=
    readExpr_of_le hbehind (Nat.le_add_right n 2)
  rw [readExpr_textEnd] at hend
  cases hend
  exact ⟨body, read?_of_readExpr halone rfl, rfl⟩

end Reading

/-- What is compiled for whole matches is what the expression asks for, unless the parentheses change what it says. -/
theorem isFaithful_iff {text : String} {whole : Core} (h : compileWhole text = .ok whole) :
    IsFaithful text whole ↔ text.toList.head? ≠ some '?' ∧ closesEarly text.toList = false := by
  constructor
  · rintro ⟨core, hcore, -⟩
    obtain ⟨e, hread, -⟩ := readWithin_eq_ok.1 hcore
    exact ⟨head?_ne_of_read? hread, closesEarly_of_read? hread⟩
  · rintro ⟨hhead, hopen⟩
    obtain ⟨hwithin, hsize⟩ := compileWithin_eq_ok.1 h
    obtain ⟨e, hread, hdepth, hresolve⟩ := readWithin_eq_ok.1 hwithin
    obtain ⟨body, hbody, rfl⟩ := read?_of_wholeMatch hread hhead hopen
    rw [resolve?_anchored] at hresolve
    obtain ⟨core, hcore, rfl⟩ := Option.map_eq_some_iff.1 hresolve
    rw [depth_anchored] at hdepth
    rw [size_anchored] at hsize
    refine ⟨core, readWithin_eq_ok.2 ⟨body, hbody, by omega, hcore⟩, by omega, fun value => ?_⟩
    exact isMatch_anchored core value

/-- `a)|(b` is no expression by itself, but is compiled, and matches the start of a value. -/
theorem isFaithful_iff_alternatives :
    (∃ whole, compileWhole "fo.*" = .ok whole ∧ IsFaithful "fo.*" whole) ∧
      ∃ whole, compileWhole "a)|(b" = .ok whole ∧ ¬IsFaithful "a)|(b" whole ∧ whole.isMatch "ax" = true := by
  have hopen : closesEarly "a)|(b".toList = true := by decide
  refine ⟨⟨_, rfl, (isFaithful_iff rfl).2 ⟨by decide, by decide⟩⟩, _, rfl, fun h => ?_, by decide⟩
  exact Bool.false_ne_true (((isFaithful_iff rfl).1 h).2.symm.trans hopen)

end CorpusSearch.Regex
