import CorpusSearch.Proofs.ExpressionCharacters
import CorpusSearch.Proofs.WholeMatches

/-!
Expressions that write a literal, as its characters or with a backslash before them. Such an expression is read as the
characters one after the other. Main statement: compiled for whole matches, it matches the literal and nothing else,
and it is compiled unless the literal is too long.
-/

set_option autoImplicit false

namespace CorpusSearch

theorem Text.IsPlain.ne {c d : Char} (hc : IsPlain c) (hd : ¬IsPlain d) : c ≠ d := by
  rintro rfl
  exact hd hc

namespace Regex

open Text (IsPlain)

/-! ### Reading -/

def literals (text : List Char) : List Expr := text.map fun c => .literal c false

private theorem readPrimitive_plain {c : Char} (hc : IsPlain c) (rest : List Char) (names : List (List Char)) :
    readPrimitive ⟨c :: rest, false, names⟩ = some (.literal c false, ⟨rest, false, names⟩) := by
  have hbackslash : c ≠ '\\' := hc.ne (by decide)
  have hdot : c ≠ '.' := hc.ne (by decide)
  have hcaret : c ≠ '^' := hc.ne (by decide)
  have hdollar : c ≠ '$' := hc.ne (by decide)
  unfold readPrimitive
  simp only [Reader.peek?, List.head?_cons, Option.bind_eq_bind, Option.bind_some]
  rfl

/-- How an expression writes a literal: a character stands for itself, or has a backslash before it. -/
inductive Writes : List Char → List Char → Prop
  | nil : Writes [] []
  | plain {c : Char} {expression literal : List Char} (hc : IsPlain c) (h : Writes expression literal) :
      Writes (c :: expression) (c :: literal)
  | escaped {c : Char} {expression literal : List Char} (hc : c ∈ Text.metaCharacters) (h : Writes expression literal) :
      Writes ('\\' :: c :: expression) (c :: literal)

theorem writes_of_plain {text : List Char} (h : ∀ c ∈ text, IsPlain c) : Writes text text := by
  induction text with
  | nil => exact .nil
  | cons c text ih => exact .plain (h c List.mem_cons_self) (ih fun d hd => h d (List.mem_cons_of_mem _ hd))

theorem Writes.append {first second literal literal' : List Char} (h : Writes first literal)
    (h' : Writes second literal') : Writes (first ++ second) (literal ++ literal') := by
  induction h with
  | nil => exact h'
  | plain hc _ ih => exact .plain hc ih
  | escaped hc _ ih => exact .escaped hc ih

theorem Writes.length_le {expression literal : List Char} (h : Writes expression literal) :
    literal.length ≤ expression.length := by
  induction h with
  | nil => exact Nat.le_refl _
  | plain _ _ ih => exact Nat.succ_le_succ ih
  | escaped _ _ ih => exact Nat.le_succ_of_le (Nat.succ_le_succ ih)

theorem Writes.head?_ne {expression literal : List Char} (h : Writes expression literal) :
    expression.head? ≠ some '?' := by
  intro hhead
  cases h with
  | nil => cases hhead
  | plain hc _ =>
      obtain rfl := Option.some.inj hhead
      exact hc (by decide)
  | escaped _ _ => exact absurd (Option.some.inj hhead) (by decide)

theorem readExpr_plain {c : Char} (hc : IsPlain c) (fuel : Nat) (branches parts : List Expr)
    (rest : List Char) (names : List (List Char)) :
    readExpr (fuel + 1) branches parts ⟨c :: rest, false, names⟩ =
      readExpr fuel branches (.literal c false :: parts) ⟨rest, false, names⟩ := by
  have hclose : c ≠ ')' := hc.ne (by decide)
  have hbar : c ≠ '|' := hc.ne (by decide)
  have hopen : c ≠ '(' := hc.ne (by decide)
  have hbracket : c ≠ '[' := hc.ne (by decide)
  have hquestion : c ≠ '?' := hc.ne (by decide)
  have hstar : c ≠ '*' := hc.ne (by decide)
  have hplus : c ≠ '+' := hc.ne (by decide)
  have hbrace : c ≠ '\x7b' := hc.ne (by decide)
  rw [readExpr]
  dsimp only [Reader.skip]
  rw [if_neg (by decide)]
  split
  case h_10 => simp [readPrimitive_plain hc, Primitive.toExpr]
  all_goals simp_all

private theorem readEscape_meta {c : Char} (hc : c ∈ Text.metaCharacters) (rest : List Char)
    (names : List (List Char)) :
    readEscape ⟨c :: rest, false, names⟩ = some (.literal c false, ⟨rest, false, names⟩) := by
  have hescapable : isEscapable c = true := by
    rw [isEscapable, Bool.or_eq_true]
    exact .inl (List.contains_iff_mem.2 hc)
  simp only [readEscape, Reader.peek?, Reader.bump, List.head?_cons, List.tail_cons, Option.bind_eq_bind,
    Option.bind_some]
  split
  case h_24 => rw [if_pos hescapable]; rfl
  all_goals exact absurd hc (by decide)

private theorem readExpr_escaped {c : Char} (hc : c ∈ Text.metaCharacters) (fuel : Nat) (branches parts : List Expr)
    (rest : List Char) (names : List (List Char)) :
    readExpr (fuel + 1) branches parts ⟨'\\' :: c :: rest, false, names⟩ =
      readExpr fuel branches (.literal c false :: parts) ⟨rest, false, names⟩ := by
  rw [readExpr]
  dsimp only [Reader.skip]
  rw [if_neg (by decide)]
  simp only [readPrimitive, Reader.peek?, Reader.bump, List.head?_cons, List.tail_cons, Option.bind_eq_bind,
    Option.bind_some, readEscape_meta hc]
  rfl

private theorem readExpr_literals {text literal : List Char} (h : Writes text literal) (fuel : Nat)
    (branches parts : List Expr) (rest : List Char) (names : List (List Char)) :
    readExpr (literal.length + fuel) branches parts ⟨text ++ rest, false, names⟩ =
      readExpr fuel branches ((literals literal).reverse ++ parts) ⟨rest, false, names⟩ := by
  have hfuel : ∀ (c : Char) (literal : List Char), (c :: literal).length + fuel = literal.length + fuel + 1 := by
    intro c literal
    rw [List.length_cons]
    omega
  induction h generalizing parts with
  | nil =>
      rw [List.length_nil, Nat.zero_add]
      rfl
  | plain hc _ ih =>
      rw [hfuel, List.cons_append, readExpr_plain hc, ih]
      simp [literals]
  | escaped hc _ ih =>
      rw [hfuel, List.cons_append, List.cons_append, readExpr_escaped hc, ih]
      simp [literals]

theorem read?_wholeMatch {text : String} {literal : List Char} (h : Writes text.toList literal) :
    Expr.read? (Text.wholeMatch text).toList = some (Expr.sequence (literals literal)).anchored := by
  have hbody : readExpr (literal.length + 1) [] [] ⟨text.toList ++ ')' :: ['\\', 'z'], false, []⟩ =
      some (.sequence (literals literal), ⟨')' :: ['\\', 'z'], false, []⟩) := by
    rw [readExpr_literals h, readExpr_close (s := ⟨['\\', 'z'], false, []⟩) rfl, joinBranches, List.append_nil,
      List.reverse_reverse]
    rfl
  exact read?_wholeMatch_of_body h.head?_ne (readExpr_of_le hbody (Nat.succ_le_succ h.length_le))

/-! ### Matching -/

def literalCores : List Char → Core
  | [] => .empty
  | c :: text => .seq (.chars (.single c)) (literalCores text)

def literalCore : List Char → Core
  | [c] => .chars (.single c)
  | text => literalCores text

theorem toSeq?_literals (text : List Char) :
    Expr.toSeq? .default (literals text) = some (literalCores text, .default) := by
  induction text with
  | nil => rfl
  | cons c text ih =>
      have htail : literals (c :: text) = .literal c false :: literals text := rfl
      have hhead : Expr.toCore? .default (.literal c false) = some (.chars (.single c), .default) := rfl
      rw [htail, Expr.toSeq?, hhead, Option.bind_eq_bind, Option.bind_some]
      dsimp only
      rw [ih]
      rfl

private theorem toCore?_literals (text : List Char) :
    Expr.toCore? .default (.sequence (literals text)) = some (literalCore text, .default) := by
  match text with
  | [] => rfl
  | [c] => rfl
  | c :: d :: text => exact toSeq?_literals (c :: d :: text)

def wholeCore (literal : List Char) : Core := (literalCore literal).anchored

theorem maxDepth_literals (text : List Char) : Expr.maxDepth (literals text) = 0 := by
  induction text with
  | nil => rfl
  | cons c text ih =>
      have hcons : literals (c :: text) = .literal c false :: literals text := rfl
      rw [hcons, Expr.maxDepth, ih]
      rfl

theorem depth_sequence_le (parts : List Expr) : (Expr.sequence parts).depth ≤ Expr.maxDepth parts + 1 := by
  match parts with
  | [] => exact Nat.zero_le _
  | [part] => exact Nat.le_succ_of_le (Nat.le_max_left _ _)
  | part :: other :: parts => exact Nat.le_refl _

private theorem compileWithin_literal {text : String} {literal : List Char} (h : Writes text.toList literal)
    (sizeLimit : Nat) : compileWithin sizeLimit text =
      if sizeLimit < (wholeCore literal).size then .error .tooLarge else .ok (wholeCore literal) := by
  have hresolve : (Expr.sequence (literals literal)).resolve? = some (literalCore literal) := by
    rw [Expr.resolve?, toCore?_literals]
    rfl
  have hdepth : (Expr.sequence (literals literal)).depth + 2 ≤ compileNestLimit := by
    have hle := depth_sequence_le (literals literal)
    rw [maxDepth_literals] at hle
    rw [compileNestLimit]
    omega
  exact compileWithin_of_read sizeLimit (read?_wholeMatch h) hresolve hdepth

theorem isValid_of_writes {text : String} {literal : List Char} (h : Writes text.toList literal) : IsValid text := by
  refine ⟨(wholeCore literal).size, wholeCore literal, ?_⟩
  rw [compileWithin_literal h, if_neg (Nat.lt_irrefl _)]

private theorem contains_single (c d : Char) : (CharSet.single c).contains d = decide (c = d) := by
  rw [Bool.eq_iff_iff, decide_eq_true_iff, CharSet.single, CharSet.contains, Bool.and_eq_true,
    decide_eq_true_iff, decide_eq_true_iff]
  constructor
  · rintro ⟨hle, hge⟩
    exact Char.le_antisymm hle hge
  · rintro rfl
    exact ⟨Char.le_refl c, Char.le_refl c⟩

private theorem matches_single {c : Char} {before text after : List Char} :
    (Core.chars (.single c)).Matches before text after ↔ text = [c] := by
  constructor
  · rintro ⟨d, rfl, hd⟩
    rw [contains_single, decide_eq_true_iff] at hd
    rw [hd]
  · rintro rfl
    exact ⟨c, rfl, by rw [contains_single, decide_eq_true_iff]⟩

theorem matches_literalCores (literal : List Char) {before text after : List Char} :
    (literalCores literal).Matches before text after ↔ text = literal := by
  induction literal generalizing before text with
  | nil => exact Iff.rfl
  | cons c literal ih =>
      constructor
      · rintro ⟨_, second, rfl, hfirst, hsecond⟩
        obtain rfl := matches_single.1 hfirst
        obtain rfl := ih.1 hsecond
        rfl
      · rintro rfl
        exact ⟨[c], literal, rfl, matches_single.2 rfl, ih.2 rfl⟩

private theorem matches_literalCore (literal : List Char) {before text after : List Char} :
    (literalCore literal).Matches before text after ↔ text = literal := by
  match literal with
  | [] => exact matches_literalCores []
  | [c] => exact matches_single
  | c :: d :: literal => exact matches_literalCores (c :: d :: literal)

private theorem isMatch_wholeCore (literal : List Char) (value : String) :
    (wholeCore literal).isMatch value = decide (value.toList = literal) := by
  rw [wholeCore, Bool.eq_iff_iff, decide_eq_true_iff, isMatch_anchored, matches_literalCore]

theorem isMatch_of_writes {text : String} {literal : List Char} (h : Writes text.toList literal) {core : Core}
    (hcore : compileWhole text = .ok core) (value : String) :
    core.isMatch value = decide (value.toList = literal) := by
  rw [compileWhole, compileWithin_literal h] at hcore
  split at hcore
  · cases hcore
  · rw [← Except.ok.inj hcore]
    exact isMatch_wholeCore literal value

theorem isMatch_of_plain {text : String} (h : ∀ c ∈ text.toList, IsPlain c) {core : Core}
    (hcore : compileWhole text = .ok core) (value : String) :
    core.isMatch value = (value == text) := by
  rw [isMatch_of_writes (writes_of_plain h) hcore, Bool.eq_iff_iff, decide_eq_true_iff, beq_iff_eq, String.toList_inj]

end Regex

end CorpusSearch
