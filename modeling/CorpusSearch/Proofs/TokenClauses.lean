import CorpusSearch.Proofs.HarmlessRules
import CorpusSearch.Proofs.IndexFields

/-!
Clauses that find tokens. Values, expressions, any token, negations, and what `and` and `or` make of them find single
tokens of the field that is searched, and nothing else. Main statement: what such a clause is planned as has only
tokens for hits, in every document; so it can be negated twice.
-/

set_option autoImplicit false

namespace CorpusSearch

def Document.Fits (d : Document) (field : String) : Prop :=
  ∀ content, d.get? field = some content → content.size < 4294967296

private theorem Document.size_of_fits {d : Document} {field : String} {content : FieldContent} (h : d.Fits field)
    (hcontent : d.get? field = some content) : d.size field = content.size := by
  simp only [Document.size, hcontent, UInt32.toNat_ofNat']
  exact Nat.mod_eq_of_lt (h content hcontent)

/-- A pattern that is built from tests of one token. -/
inductive Pattern.OneToken : Pattern → Prop
  | term (test : TokenTest) : OneToken (.term test)
  | regex (test : TokenTest) : OneToken (.regex test)
  | anyToken : OneToken (.anyToken 1 1)
  | not (x : Pattern) : OneToken (.modify .not x)
  | join {connective : Connective} (hconnective : connective ≠ .sequence) {clauses : List Pattern}
      (hclauses : ∀ x ∈ clauses, OneToken x) : OneToken (.join connective clauses)

variable {scope : SearchScope} {exact : Bool} {field : String}

namespace Hit

/-- The hits of a look-up are the tokens with a value that passes the test. -/
theorem mem_tokenHits {d : Document} (hname : FieldName.layerSeparator ∉ field.toList) {layer : String}
    {s : Sensitivity} {test : String → Bool} {hs : List Hit}
    (h : tokenHits d (FieldName.indexField field layer s) test = .ok hs) {a : Hit} :
    a ∈ hs ↔ ∃ p values x, ((d.get? field).getD FieldContent.empty).tokens[p]? = some values ∧
      values.get? layer = some x ∧ test (s.desensitize x) = true ∧ ofSpan (token p) = a := by
  rw [tokenHits, Document.readIndexField_of_not_mem hname] at h
  obtain rfl := Except.ok.inj h
  rw [List.mem_filterMap]
  constructor
  · rintro ⟨⟨values, p⟩, hmem, hfound⟩
    have hget := List.mk_mem_zipIdx_iff_getElem?.1 hmem
    dsimp only at hfound
    split at hfound
    · rename_i x hx
      split at hfound
      · rename_i htest
        exact ⟨p, values, x, hget, hx, htest, Option.some.inj hfound⟩
      · cases hfound
    · cases hfound
  · rintro ⟨p, values, x, hget, hx, htest, rfl⟩
    refine ⟨(values, p), List.mk_mem_zipIdx_iff_getElem?.2 hget, ?_⟩
    simp only [hx, htest, if_true]

theorem lt_size_of_getElem? {d : Document} (hfits : d.Fits field) {p : Nat} {values : Token}
    (h : ((d.get? field).getD FieldContent.empty).tokens[p]? = some values) :
    p < d.size field ∧ d.size field < 4294967296 := by
  have hposition := (List.getElem?_eq_some_iff.1 h).1
  cases hcontent : d.get? field with
  | none =>
      rw [hcontent] at hposition
      exact absurd hposition (Nat.not_lt_zero p)
  | some content =>
      rw [hcontent] at hposition
      rw [Document.size_of_fits hfits hcontent]
      exact ⟨hposition, hfits content hcontent⟩

private theorem exists_of_mem_tokenHits {d : Document} (hname : FieldName.layerSeparator ∉ field.toList)
    (hfits : d.Fits field) {layer : String} {s : Sensitivity} {test : String → Bool} {hs : List Hit}
    (h : tokenHits d (FieldName.indexField field layer s) test = .ok hs) {a : Hit} (ha : a ∈ hs) :
    ∃ p < d.size field, ofSpan (token p) = a := by
  obtain ⟨p, values, _, hget, _, _, rfl⟩ := (mem_tokenHits hname h).1 ha
  exact ⟨p, (lt_size_of_getElem? hfits hget).1, rfl⟩

end Hit

namespace Plan

private theorem isTokenHit_ofSpan {p : Nat} (hp : p < scope.document.size field) :
    IsTokenHit scope exact field (Hit.ofSpan (Hit.token p)) :=
  ⟨⟨p, hp, rfl⟩, fun _ => rfl⟩

private theorem isTokenHit_of_mem_tokenHits {layer : String} {s : Sensitivity} {test : String → Bool}
    (hname : FieldName.layerSeparator ∉ field.toList) (hfits : scope.document.Fits field) {found : List Hit}
    (hfound : Hit.tokenHits scope.document (FieldName.indexField field layer s) test = .ok found) {h : Hit}
    (hmem : h ∈ Hit.sorted found) : IsTokenHit scope exact field h := by
  obtain ⟨p, hp, rfl⟩ := Hit.exists_of_mem_tokenHits hname hfits hfound (Hit.mem_sorted.1 hmem)
  exact isTokenHit_ofSpan hp

private theorem onlyTokens_term {layer : String} {s : Sensitivity} (hname : FieldName.layerSeparator ∉ field.toList)
    (hfits : scope.document.Fits field) (value : String) :
    (Plan.term (FieldName.indexField field layer s) value).OnlyTokens scope exact field := by
  intro hs hhits h hmem
  rw [SearchScope.hits] at hhits
  obtain ⟨found, hfound, hhits⟩ := Result.bind_eq_ok.1 hhits
  obtain rfl := Except.ok.inj hhits
  exact isTokenHit_of_mem_tokenHits hname hfits hfound hmem

private theorem onlyTokens_regex {layer : String} {s : Sensitivity} (hname : FieldName.layerSeparator ∉ field.toList)
    (hfits : scope.document.Fits field) (expression : String) :
    (Plan.regex (FieldName.indexField field layer s) expression).OnlyTokens scope exact field := by
  intro hs hhits h hmem
  rw [SearchScope.hits] at hhits
  obtain ⟨core, _, hhits⟩ := Result.bind_eq_ok.1 hhits
  obtain ⟨found, hfound, hhits⟩ := Result.bind_eq_ok.1 hhits
  obtain rfl := Except.ok.inj hhits
  exact isTokenHit_of_mem_tokenHits hname hfits hfound hmem

private theorem onlyTokens_anyToken : (Plan.anyToken field 1 1).OnlyTokens scope exact field := by
  intro hs hhits h hmem
  obtain rfl := Except.ok.inj hhits
  obtain ⟨n, hlow, hhigh, start, hstart, rfl⟩ := Hit.mem_nGrams.1 (Hit.mem_sorted.1 hmem)
  have hn : n = 1 := Nat.le_antisymm hhigh hlow
  subst hn
  exact isTokenHit_ofSpan (Nat.lt_of_succ_le hstart)

private theorem onlyTokens_not (p : Plan) : (Plan.modify (.not field) p).OnlyTokens scope exact field := by
  intro hs hhits h hmem
  rw [SearchScope.hits] at hhits
  obtain ⟨_, _, hhits⟩ := Result.bind_eq_ok.1 hhits
  obtain ⟨xs, _, hhits⟩ := Result.bind_eq_ok.1 hhits
  obtain rfl := Except.ok.inj hhits
  have hmem : h ∈ Hit.complement (scope.document.size field) xs := Hit.mem_sorted.1 hmem
  obtain ⟨p, hp, -, rfl⟩ := Hit.mem_complement.1 hmem
  exact isTokenHit_ofSpan hp

private theorem isTokenHit_of_mem_intersect {xs ys : List Hit} (hx : ∀ h ∈ xs, IsTokenHit scope exact field h)
    (hy : ∀ h ∈ ys, IsTokenHit scope exact field h) {h : Hit} (hmem : h ∈ Hit.intersect false xs ys) :
    IsTokenHit scope exact field h := by
  rw [Hit.intersect, Hit.mem_sorted, List.mem_flatMap] at hmem
  obtain ⟨a, ha, hmem⟩ := hmem
  obtain ⟨b, hb, rfl⟩ := List.mem_map.1 hmem
  have hb := List.mem_of_mem_filter hb
  refine ⟨(hx a ha).1, fun he => ?_⟩
  have hmerged := Hit.merge_ofSpan a.span b.span a.span
  rw [(hx a ha).2 he, (hy b hb).2 he] at hmerged
  exact ((hx a ha).2 he).trans hmerged.symm

private theorem isTokenHit_of_mem_foldl_intersect {xss : List (List Hit)} {xs : List Hit}
    (h : ∀ ys ∈ xs :: xss, ∀ h ∈ ys, IsTokenHit scope exact field h) :
    ∀ h ∈ xss.foldl (Hit.intersect false) xs, IsTokenHit scope exact field h := by
  induction xss generalizing xs with
  | nil => exact h xs List.mem_cons_self
  | cons ys xss ih =>
      obtain ⟨hxs, hrest⟩ := List.forall_mem_cons.1 h
      obtain ⟨hys, hrest⟩ := List.forall_mem_cons.1 hrest
      refine ih (List.forall_mem_cons.2 ⟨fun a ha => ?_, hrest⟩)
      exact isTokenHit_of_mem_intersect hxs hys ha

private theorem forall_of_hitLists {P : Hit → Prop} {plans : List Plan} {hss : List (List Hit)}
    (hhits : scope.hitLists plans = .ok hss)
    (h : ∀ p ∈ plans, ∀ hs, scope.hits p = .ok hs → ∀ a ∈ hs, P a) : ∀ hs ∈ hss, ∀ a ∈ hs, P a := by
  induction plans generalizing hss with
  | nil =>
      obtain rfl := Except.ok.inj hhits
      exact List.forall_mem_nil _
  | cons p plans ih =>
      obtain ⟨hp, hplans⟩ := List.forall_mem_cons.1 h
      rw [SearchScope.hitLists] at hhits
      obtain ⟨first, hfirst, hhits⟩ := Result.bind_eq_ok.1 hhits
      obtain ⟨rest, hrest, hhits⟩ := Result.bind_eq_ok.1 hhits
      obtain rfl := Except.ok.inj hhits
      exact List.forall_mem_cons.2 ⟨hp first hfirst, ih hrest hplans⟩

private theorem onlyTokens_join {connective : PlanConnective} (hconnective : connective = .and ∨ connective = .or)
    {plans : List Plan} (h : ∀ p ∈ plans, p.OnlyTokens scope exact field) :
    (Plan.join connective plans).OnlyTokens scope exact field := by
  intro hs hhits a hmem
  rw [SearchScope.hits] at hhits
  obtain ⟨hss, hhss, hhits⟩ := Result.bind_eq_ok.1 hhits
  obtain rfl := Except.ok.inj hhits
  have hclauses := forall_of_hitLists hhss h
  have hmem := Hit.mem_sorted.1 hmem
  rcases hconnective with rfl | rfl
  · cases hss with
    | nil => cases hmem
    | cons xs xss => exact isTokenHit_of_mem_foldl_intersect hclauses a hmem
  · obtain ⟨xs, hxs, ha⟩ := List.mem_flatten.1 hmem
    exact hclauses xs hxs a ha

end Plan

theorem Context.fieldName_of_withLayerAndSensitivity {c d : Context} {layer : Option String}
    {s : Option Sensitivity} (h : c.withLayerAndSensitivity layer s = .ok d) : d.fieldName = c.fieldName := by
  obtain ⟨moved, hmoved, h⟩ := Result.bind_eq_ok.1 h
  obtain rfl := Except.ok.inj h
  cases layer with
  | none =>
      obtain rfl := Except.ok.inj hmoved
      rfl
  | some layer =>
      obtain ⟨_, _, hmoved⟩ := Result.bind_eq_ok.1 hmoved
      obtain rfl := Except.ok.inj hmoved
      rfl

private theorem Context.exists_of_indexField {c : Context} {name : String} (h : c.indexField = .ok name) :
    ∃ s, name = FieldName.indexField c.fieldName c.layer s := by
  obtain ⟨s, _, h⟩ := Result.bind_eq_ok.1 h
  exact ⟨s, (Except.ok.inj h).symm⟩

namespace Planner

variable {p : Planner} {c : Context}

private theorem onlyTokens_of_planTerm {test : TokenTest} {plan : Plan} (h : planTerm c test = .ok plan)
    (hname : FieldName.layerSeparator ∉ c.fieldName.toList) (hfits : scope.document.Fits c.fieldName) :
    plan.OnlyTokens scope exact c.fieldName := by
  obtain ⟨d, hd, h⟩ := Result.bind_eq_ok.1 h
  obtain ⟨name, hindex, h⟩ := Result.bind_eq_ok.1 h
  obtain ⟨value, _, h⟩ := Result.bind_eq_ok.1 h
  obtain rfl := Except.ok.inj h
  obtain ⟨s, rfl⟩ := Context.exists_of_indexField hindex
  rw [Context.fieldName_of_withLayerAndSensitivity hd]
  exact Plan.onlyTokens_term hname hfits value

private theorem onlyTokens_of_planRegex {test : TokenTest} {plan : Plan} (h : p.planRegex c test = .ok plan)
    (hname : FieldName.layerSeparator ∉ c.fieldName.toList) (hfits : scope.document.Fits c.fieldName) :
    plan.OnlyTokens scope exact c.fieldName := by
  obtain ⟨d, hd, h⟩ := Result.bind_eq_ok.1 h
  obtain ⟨e, he, h⟩ := Result.bind_eq_ok.1 h
  obtain ⟨_, _, h⟩ := Result.bind_eq_ok.1 h
  obtain ⟨name, hindex, h⟩ := Result.bind_eq_ok.1 h
  obtain ⟨s, _, h⟩ := Result.bind_eq_ok.1 h
  obtain rfl := Except.ok.inj h
  obtain ⟨s, rfl⟩ := Context.exists_of_indexField hindex
  rw [Context.fieldName_of_withLayerAndSensitivity he, Context.fieldName_of_withLayerAndSensitivity hd]
  exact Plan.onlyTokens_regex hname hfits _

private theorem findsTokens_of_planNode {x : Pattern}
    (h : ∀ depth, Planning.Yields (p.plain.planNode (p.plain.planWithin depth) c x)
      (Plan.OnlyTokens scope exact c.fieldName)) : p.FindsTokens scope exact c x := by
  intro depth
  cases depth with
  | zero => exact .throw _
  | succ depth => exact h depth

theorem findsTokens_of_oneToken {x : Pattern} (h : x.OneToken)
    (hname : FieldName.layerSeparator ∉ c.fieldName.toList) (hfits : scope.document.Fits c.fieldName) :
    p.FindsTokens scope exact c x := by
  induction h with
  | term test =>
      refine findsTokens_of_planNode fun depth => ?_
      exact (Planning.Yields.liftM _).imp fun _ hplan => onlyTokens_of_planTerm hplan hname hfits
  | regex test =>
      refine findsTokens_of_planNode fun depth => ?_
      exact (Planning.Yields.liftM _).imp fun _ hplan => onlyTokens_of_planRegex hplan hname hfits
  | anyToken => exact findsTokens_of_planNode fun depth => .pure Plan.onlyTokens_anyToken
  | not x =>
      refine findsTokens_of_planNode fun depth => ?_
      exact (Planning.Yields.trivial _).bind fun plan _ => .pure (Plan.onlyTokens_not plan)
  | @join connective hconnective clauses _ ih =>
      refine findsTokens_of_planNode fun depth => ?_
      refine (Planning.Yields.mapM fun x hx => ih x hx depth).bind fun plans hplans => .pure ?_
      refine Plan.onlyTokens_join ?_ hplans
      cases connective with
      | and => exact .inl rfl
      | or => exact .inr rfl
      | sequence => exact absurd rfl hconnective

end Planner

end CorpusSearch
