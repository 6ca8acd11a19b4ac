import CorpusSearch.Proofs.OnwardReading
import CorpusSearch.Proofs.SeamMatching
import CorpusSearch.Proofs.StandaloneExpressions

/-!
What the expression of a full relation type matches. It is made from the expressions of class and type, each put into
parentheses unless it looks as if it were in parentheses already. Main statement: unless that look deceives, it is
valid and matches what the class matches, the separator and what the type matches.
-/

set_option autoImplicit false

namespace CorpusSearch.Regex

/-! ### Parts in sequence -/

section Sequences

variable {f g : Flags} {a : Core} {parts others : List Expr} {e : Expr}

/-- Parts that stand for an expression in a sequence: they match alike, and are not nested much deeper. -/
structure StandFor (parts : List Expr) (e : Expr) (a : Core) (f : Flags) : Prop where
  depth : Expr.maxDepth parts ≤ e.depth + 1
  resolves : ∃ b, Expr.toSeq? .default parts = some (b, f) ∧ ∀ cs, b.reach cs = a.reach cs

private theorem standFor_group (h : e.toCore? .default = some (a, f)) : StandFor [.group [] e] e a .default where
  depth := by
    rw [Expr.maxDepth, Expr.depth, Expr.maxDepth]
    omega
  resolves := by
    have happly : Flags.default.apply [] = .default := rfl
    refine ⟨.seq a .empty, ?_, fun cs => by rw [Core.reach, Core.reach]⟩
    rw [Expr.toSeq?, Expr.toCore?, happly, h]
    rfl

private theorem standFor_sequence (h : (Expr.sequence parts).toCore? .default = some (a, f)) :
    StandFor parts (.sequence parts) a f := by
  match parts with
  | [] => exact ⟨Nat.zero_le _, a, h, fun _ => rfl⟩
  | [part] =>
      refine ⟨?_, .seq a .empty, ?_, fun cs => by rw [Core.reach, Core.reach]⟩
      · show max part.depth 0 ≤ part.depth + 1
        omega
      · have hpart : part.toCore? .default = some (a, f) := h
        rw [Expr.toSeq?, hpart]
        rfl
  | part :: other :: rest =>
      refine ⟨?_, a, h, fun _ => rfl⟩
      exact Nat.le_succ_of_le (Nat.le_succ _)

end Sequences

/-! ### Pieces around a separator -/

section Separated

variable {a b : Core} {before text after : List Char}

private theorem matches_separated (hend : ∀ l ∈ a.looks, l.isEnd = false) (hstart : ∀ l ∈ b.looks, l.isStart = false)
    (text : List Char) : (Core.seq a (.seq (literalCores [':', ':']) b)).Matches [] text [] ↔
      ∃ x y, text = x ++ ':' :: ':' :: y ∧ a.Matches [] x [] ∧ b.Matches [] y [] := by
  constructor
  · rintro ⟨x, _, rfl, hx, separator, y, rfl, hseparator, hy⟩
    obtain rfl := (matches_literalCores _).1 hseparator
    exact ⟨x, y, rfl, (matches_in_front hend).1 hx, (matches_behind hstart).1 hy⟩
  · rintro ⟨x, y, rfl, hx, hy⟩
    exact ⟨x, ':' :: ':' :: y, rfl, (matches_in_front hend).2 hx, [':', ':'], y, rfl, (matches_literalCores _).2 rfl,
      (matches_behind hstart).2 hy⟩

end Separated

/-! ### Classes and types -/

section FullTypes

variable {cls type : String} {a b : Core} {f g : Flags} {e d : Expr} {cparts tparts : List Expr}
  {names names' : List (List Char)}

namespace ReadAlone

/-- The conditions on positions in an expression, with flags resolved. -/
def looks (c : ReadAlone cls) : List Look := c.expr.resolve?.elim [] Core.looks

/-- The flags in force behind an expression. -/
def flags (c : ReadAlone cls) : Flags := (c.expr.toCore? .default).elim .default Prod.snd

/-- A valid expression has a form without flags that is compiled for whole matches. -/
theorem exists_of_compileWithin {sizeLimit : Nat} (c : ReadAlone cls) (ha : compileWithin sizeLimit cls = .ok a) :
    ∃ b, c.expr.toCore? .default = some (b, c.flags) ∧ c.looks = b.looks ∧ a = b.anchored := by
  obtain ⟨e, hread, hresolve⟩ := Regex.exists_of_compileWithin ha
  obtain rfl := Option.some.inj (c.read?_wholeMatch.symm.trans hread)
  rw [resolve?_anchored] at hresolve
  obtain ⟨b, hb, rfl⟩ := Option.map_eq_some_iff.1 hresolve
  obtain ⟨⟨b, f⟩, hcore, rfl⟩ := Option.map_eq_some_iff.1 hb
  refine ⟨b, ?_, ?_, rfl⟩
  · rw [flags, hcore]
    rfl
  · rw [looks, hb]
    rfl

private theorem exists_standFor (c : ReadAlone cls) (ha : c.expr.toCore? .default = some (a, f))
    (hone : FieldName.grouped cls = cls → ∀ all, c.expr ≠ .alternation all) :
    ∃ parts k, Spells (FieldName.grouped cls).toList parts c.names ∧ StandFor parts.reverse c.expr a k ∧
      (k = .default ∨ FieldName.grouped cls = cls ∧ k = f) := by
  obtain ⟨parts, hspells, rfl | ⟨hsame, he⟩⟩ := c.exists_spells_grouped hone
  · exact ⟨_, .default, hspells, standFor_group ha, .inl rfl⟩
  · refine ⟨parts, f, hspells, ?_, .inr ⟨hsame, rfl⟩⟩
    rw [he] at ha ⊢
    exact standFor_sequence ha

end ReadAlone

private theorem read?_fullType (hcls : Spells (FieldName.grouped cls).toList cparts names)
    (htype : Spells (FieldName.grouped type).toList tparts names') (hnames : names.Disjoint names')
    (hhead : (FieldName.grouped cls).toList.head? ≠ some '?') :
    Expr.read? (Text.wholeMatch (FieldName.fullType cls type)).toList =
      some (Expr.sequence (cparts.reverse ++ (literals [':', ':'] ++ tparts.reverse))).anchored := by
  have hspells := hcls.append htype.colon.colon rfl (List.disjoint_symm hnames)
  rw [← FieldName.toList_fullType] at hspells
  have hparts : (tparts ++ [Expr.literal ':' false] ++ [Expr.literal ':' false] ++ cparts).reverse =
      cparts.reverse ++ (literals [':', ':'] ++ tparts.reverse) := by
    simp [literals]
  have hfront : (FieldName.fullType cls type).toList.head? ≠ some '?' := by
    rw [FieldName.toList_fullType]
    cases hgrouped : (FieldName.grouped cls).toList with
    | nil => exact fun heq => absurd (Option.some.inj heq) (by decide)
    | cons c text =>
        rw [hgrouped] at hhead
        exact hhead
  have hbody := hspells.readInside (List.disjoint_nil_right _) ['\\', 'z']
  rw [hparts] at hbody
  exact read?_wholeMatch_of_body hfront hbody

private theorem exists_separated (hcls : StandFor cparts e a .default) (htype : StandFor tparts d b g) :
    ∃ core, Expr.resolve? (.sequence (cparts ++ (literals [':', ':'] ++ tparts))) = some core ∧
      (∀ cs, core.reach cs = (Core.seq a (.seq (literalCores [':', ':']) b)).reach cs) ∧
      Expr.depth (.sequence (cparts ++ (literals [':', ':'] ++ tparts))) ≤ max e.depth d.depth + 2 := by
  obtain ⟨hcdepth, first, hfirst, hfirstReach⟩ := hcls
  obtain ⟨htdepth, last, hlast, hlastReach⟩ := htype
  have hcolons := toSeq?_literals [':', ':']
  have hseq : Expr.toSeq? .default (cparts ++ (literals [':', ':'] ++ tparts)) =
      some (first.chain ((literalCores [':', ':']).chain last), g) := by
    rw [toSeq?_append, hfirst, Option.bind_some, toSeq?_append, hcolons, Option.bind_some, hlast]
    rfl
  obtain ⟨core, hcore, hreach⟩ := exists_toCore?_sequence hseq
  refine ⟨core, congrArg (Option.map Prod.fst) hcore, fun cs => ?_, ?_⟩
  · rw [hreach, reach_chain hfirst, reach_chain hcolons, hfirstReach, hlastReach, Core.reach, Core.reach]
  · have hle := depth_sequence_le (cparts ++ (literals [':', ':'] ++ tparts))
    rw [maxDepth_append, maxDepth_append, maxDepth_literals] at hle
    omega

/--
A full relation type means class, separator and type. An expression that begins and ends with parentheses, and so is
given none, must have no alternatives outside of groups, and a class then must not leave flags set; class and type must
not share names of groups, and not ask for an end or a start where they meet. It is valid unless it is nested too
deeply.
-/
theorem fullType_matches {m n : Nat} (c : ReadAlone cls) (t : ReadAlone type) (ha : compileWithin m cls = .ok a)
    (hb : compileWithin n type = .ok b) (hnames : c.names.Disjoint t.names)
    (hcls : FieldName.grouped cls = cls → (∀ all, c.expr ≠ .alternation all) ∧ c.flags = .default)
    (htype : FieldName.grouped type = type → ∀ all, t.expr ≠ .alternation all)
    (hend : ∀ l ∈ c.looks, l.isEnd = false) (hstart : ∀ l ∈ t.looks, l.isStart = false) :
    (max c.expr.depth t.expr.depth + 4 ≤ compileNestLimit → IsValid (FieldName.fullType cls type)) ∧
    ∀ sizeLimit core, compileWithin sizeLimit (FieldName.fullType cls type) = .ok core → ∀ value : String,
      core.isMatch value = true ↔ ∃ x y, value = x ++ "::" ++ y ∧ a.isMatch x = true ∧ b.isMatch y = true := by
  obtain ⟨first, hfirst, hfirstLooks, rfl⟩ := c.exists_of_compileWithin ha
  obtain ⟨last, hlast, hlastLooks, rfl⟩ := t.exists_of_compileWithin hb
  obtain ⟨cparts, k, hcspells, hcparts, hk⟩ := c.exists_standFor hfirst fun h => (hcls h).1
  obtain ⟨tparts, l, htspells, htparts, -⟩ := t.exists_standFor hlast htype
  obtain rfl : k = .default := hk.elim id fun h => h.2.trans (hcls h.1).2
  have hread := read?_fullType hcspells htspells hnames (head?_grouped c.head?_ne)
  obtain ⟨whole, hresolve, hreach, hdepth⟩ := exists_separated hcparts htparts
  constructor
  · intro hnested
    exact isValid_of_read hread hresolve (by omega)
  · intro sizeLimit core hcore value
    obtain ⟨e, hread', hresolve'⟩ := exists_of_compileWithin hcore
    obtain rfl := Option.some.inj (hread.symm.trans hread')
    rw [resolve?_anchored, hresolve] at hresolve'
    obtain rfl := Option.some.inj hresolve'
    rw [isMatch_anchored, matches_congr hreach, matches_separated (hfirstLooks ▸ hend) (hlastLooks ▸ hstart)]
    simp only [isMatch_anchored]
    constructor
    · rintro ⟨x, y, hvalue, hx, hy⟩
      refine ⟨String.ofList x, String.ofList y, ?_, ?_, ?_⟩
      · rw [← String.toList_inj, hvalue]
        simp
      · rwa [String.toList_ofList]
      · rwa [String.toList_ofList]
    · rintro ⟨x, y, rfl, hx, hy⟩
      exact ⟨x.toList, y.toList, by simp, hx, hy⟩

end FullTypes

/-- A class with alternatives is put into parentheses; a type that is one group is taken as it is. -/
def depOrUd : ReadAlone "dep|ud" where
  expr := .alternation [.sequence (literals "dep".toList), .sequence (literals "ud".toList)]
  names := []
  read := by rfl

def nsubjOrObj : ReadAlone "(nsubj|obj)" where
  expr := .group [] (.alternation [.sequence (literals "nsubj".toList), .sequence (literals "obj".toList)])
  names := []
  read := by rfl

theorem fullType_matches_alternatives :
    FieldName.fullType "dep|ud" "(nsubj|obj)" = "(dep|ud)::(nsubj|obj)" ∧
      ∃ a b sizeLimit core, compileWhole "dep|ud" = .ok a ∧ compileWhole "(nsubj|obj)" = .ok b ∧
        compileWithin sizeLimit (FieldName.fullType "dep|ud" "(nsubj|obj)") = .ok core ∧ ∀ value : String,
          core.isMatch value = true ↔ ∃ x y, value = x ++ "::" ++ y ∧ a.isMatch x = true ∧ b.isMatch y = true := by
  let either (first second : String) : Core :=
    .alt (literalCores first.toList) (.alt (literalCores second.toList) (.chars .empty))
  have hcls : compileWhole "dep|ud" = .ok (either "dep" "ud").anchored :=
    compileWhole_of_read depOrUd.read?_wholeMatch rfl (by decide) (by decide +kernel)
  have htype : compileWhole "(nsubj|obj)" = .ok (either "nsubj" "obj").anchored :=
    compileWhole_of_read nsubjOrObj.read?_wholeMatch rfl (by decide) (by decide +kernel)
  have hwrapped : FieldName.grouped "dep|ud" ≠ "dep|ud" := by decide
  have hend : ∀ l ∈ depOrUd.looks, l.isEnd = false := by decide
  have hstart : ∀ l ∈ nsubjOrObj.looks, l.isStart = false := by decide
  obtain ⟨hvalid, hmeans⟩ := fullType_matches depOrUd nsubjOrObj hcls htype (List.disjoint_nil_left _)
    (fun h => absurd h hwrapped) (fun _ _ => nofun) hend hstart
  obtain ⟨sizeLimit, core, hcore⟩ := hvalid (by decide)
  exact ⟨by decide, _, _, sizeLimit, core, hcls, htype, hcore, hmeans sizeLimit core hcore⟩

theorem fullType_splits_alternatives :
    FieldName.fullType "(dep)|(ud)" "nsubj" = "(dep)|(ud)::(nsubj)" ∧
      matchesWhole "(dep)|(ud)" "dep" = true ∧ matchesWhole "nsubj" "nsubj" = true ∧
      matchesWhole (FieldName.fullType "(dep)|(ud)" "nsubj") ("dep" ++ "::" ++ "nsubj") = false := by
  decide

end CorpusSearch.Regex
