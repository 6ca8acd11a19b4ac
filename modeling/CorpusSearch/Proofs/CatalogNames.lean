import CorpusSearch.Proofs.VisitedNodes

/-!
What a plan may name of an index. A layer that a query names is looked for in the field and the version in which it
is read; the layer that a query takes over from its defaults is looked for in the field without a version only. Main
statement: a plan names what the catalog offers, but for tests that take over their layer in a version of the
document that does not have it.
-/

set_option autoImplicit false

namespace CorpusSearch

open Result (Succeeds)

/-! ### What is offered -/

/-- Whether an index has what is named. A layer without forms of its values is looked up in any form. -/
def Catalog.Offers (catalog : Catalog) : PlanMention → Prop
  | .values name => ∃ f field l layer s, catalog.field? f = some field ∧ field.layers.get? l = some layer ∧
    (layer.offers s = true ∨ layer.sensitivities = []) ∧ name = FieldName.indexField f l s
  | .relations name => ∃ f field, catalog.field? f = some field ∧ field.relations = true ∧
    name = FieldName.indexField f FieldName.relationLayer .sensitive
  | .tokens f => ∃ field, catalog.field? f = some field
  | .reading f layers => ∃ field, catalog.field? f = some field ∧
    ∀ l ∈ layers.names, field.layers.contains l = true
  | .span _ => True

theorem Layer.offers_resolve (layer : Layer) (requested : Sensitivity) :
    layer.offers (layer.resolve requested) = true ∨ layer.sensitivities = [] := by
  rw [resolve]
  split
  · rename_i hoffers
    exact .inl hoffers
  · split
    · rename_i s hs
      exact .inl (List.find?_some hs)
    · cases hsensitivities : layer.sensitivities with
      | nil => exact .inr rfl
      | cons s rest =>
          left
          rw [offers, hsensitivities]
          simp

namespace Context

variable {c d : Context}

/-- Whether the field of a context, in its version, has a layer. -/
def HasLayer (c : Context) (layer : String) : Prop :=
  ∃ field, c.field = .ok field ∧ field.layers.contains layer = true

theorem field_eq_ok_iff {field : AnnotatedField} :
    c.field = .ok field ↔ c.catalog.field? c.fieldName = some field := by
  rw [Context.field]
  split
  · rename_i found hfound
    rw [hfound, Except.ok.injEq, Option.some.injEq]
  · rename_i hnone
    rw [hnone]
    constructor
    · intro h
      cases h
    · intro h
      cases h

private theorem hasLayer_of_checkLayer {layer : String} (h : c.checkLayer layer = .ok ()) : c.HasLayer layer := by
  obtain ⟨field, hfield, h⟩ := Result.bind_eq_ok.1 h
  split at h
  · rename_i hcontains
    exact ⟨field, hfield, hcontains⟩
  · cases h

private theorem refused_of_not_hasLayer {layer : String} (hfield : Succeeds c.field) (h : ¬c.HasLayer layer) :
    c.withLayer (some layer) = .error (.invalidQuery (.unknownLayer layer c.fieldName)) ∧
      Constraint.readLayer c layer = .error (.invalidQuery (.unknownConstraintLayer layer c.fieldName)) := by
  obtain ⟨field, hfield⟩ := hfield
  have hcontains : field.layers.contains layer = false := by
    rw [← Bool.not_eq_true]
    exact fun hcontains => h ⟨field, hfield, hcontains⟩
  constructor
  · simp [withLayer, checkLayer, hfield, hcontains]
  · simp [Constraint.readLayer, hfield, hcontains]

theorem hasLayer_of_readLayer {layer : String} {layers : NameSet}
    (h : Constraint.readLayer c layer = .ok layers) : layers = NameSet.single layer ∧ c.HasLayer layer := by
  obtain ⟨field, hfield, h⟩ := Result.bind_eq_ok.1 h
  split at h
  · rename_i hcontains
    exact ⟨(Except.ok.inj h).symm, field, hfield, hcontains⟩
  · cases h

private theorem offers_or_eq_of_indexField {name : String} (h : c.indexField = .ok name)
    (hvalues : c.onRelations = false) :
    c.catalog.Offers (.values name) ∨ ¬c.HasLayer c.valueLayer ∧
      name = FieldName.indexField c.fieldName c.valueLayer c.requested := by
  obtain ⟨s, hs, h⟩ := Result.bind_eq_ok.1 h
  obtain rfl := Except.ok.inj h
  rw [sensitivity, if_neg (by simp [hvalues])] at hs
  obtain ⟨field, hfield, hs⟩ := Result.bind_eq_ok.1 hs
  rw [layer, if_neg (by simp [hvalues])]
  cases hlayer : field.layers.get? c.valueLayer with
  | some layer =>
      rw [hlayer] at hs
      obtain rfl := Except.ok.inj hs
      exact .inl ⟨_, field, _, layer, _, field_eq_ok_iff.1 hfield, hlayer, layer.offers_resolve _, rfl⟩
  | none =>
      rw [hlayer] at hs
      obtain rfl := Except.ok.inj hs
      refine .inr ⟨?_, rfl⟩
      rintro ⟨found, hfound, hcontains⟩
      obtain rfl := Except.ok.inj (hfield.symm.trans hfound)
      rw [NameMap.contains, hlayer] at hcontains
      cases hcontains

private theorem offers_of_names {m : PlanMention} (h : c.Names m) (hfield : Succeeds c.field) : c.catalog.Offers m := by
  cases h with
  | tokens =>
      obtain ⟨field, hfield⟩ := hfield
      exact ⟨field, field_eq_ok_iff.1 hfield⟩
  | relations h =>
      obtain ⟨d, hd, h⟩ := Result.bind_eq_ok.1 h
      obtain ⟨field, hfield, hd⟩ := Result.bind_eq_ok.1 hd
      split at hd
      · rename_i hrelations
        obtain rfl := Except.ok.inj hd
        obtain ⟨s, hs, h⟩ := Result.bind_eq_ok.1 h
        obtain rfl := Except.ok.inj hs
        obtain rfl := Except.ok.inj h
        exact ⟨_, field, field_eq_ok_iff.1 hfield, hrelations, rfl⟩
      · cases hd

end Context

/-! ### Conditions -/

def Filter.layers : Filter → List String
  | .and a b | .or a b | .implies a b | .compare a b _ _ | .equals a b _ => a.layers ++ b.layers
  | .not a => a.layers
  | .sameTokens _ _ layer _ | .tokenValue _ layer | .tokenEquals _ layer _ _ => [layer]
  | .text _ | .call _ _ => []

namespace Constraint

variable {c : Context} {predicates : NameMap Predicate}

/-- The layers that are noted for a condition are the layers that its filter names, and the field has them. -/
structure ReadsFrom (c : Context) (filter : Filter) (reading : ReadingConstraint) : Prop where
  named : ∀ l ∈ reading.layers.names, l ∈ filter.layers
  found : ∀ l ∈ filter.layers, c.HasLayer l

private theorem readsFrom_of_join {a b filter : Filter} {reading : ReadingConstraint}
    {join : Constraint → Constraint → Constraint}
    (ha : ∀ {r}, ofFilter c predicates a = .ok r → ReadsFrom c a r)
    (hb : ∀ {r}, ofFilter c predicates b = .ok r → ReadsFrom c b r)
    (hlayers : filter.layers = a.layers ++ b.layers)
    (h : (do
      let x ← ofFilter c predicates a
      return joinReading join x (← ofFilter c predicates b)) = Except.ok reading) :
    ReadsFrom c filter reading := by
  obtain ⟨x, hx, h⟩ := Result.bind_eq_ok.1 h
  obtain ⟨y, hy, h⟩ := Result.bind_eq_ok.1 h
  obtain rfl := Except.ok.inj h
  constructor
  · intro l hl
    obtain ⟨e, he, rfl⟩ := List.mem_map.1 hl
    rw [hlayers, List.mem_append]
    rcases NameMap.mem_union he with he | he
    · exact .inl ((ha hx).named _ (List.mem_map_of_mem he))
    · exact .inr ((hb hy).named _ (List.mem_map_of_mem he))
  · rw [hlayers]
    exact List.forall_mem_append.2 ⟨(ha hx).found, (hb hy).found⟩

private theorem readsFrom_of_readLayer {filter : Filter} {reading : ReadingConstraint} {constraint : Constraint}
    {layer : String} (hlayers : filter.layers = [layer])
    (h : (do return ⟨constraint, ← readLayer c layer⟩) = Except.ok reading) : ReadsFrom c filter reading := by
  obtain ⟨layers, hread, h⟩ := Result.bind_eq_ok.1 h
  obtain rfl := Except.ok.inj h
  obtain ⟨rfl, hlayer⟩ := Context.hasLayer_of_readLayer hread
  constructor
  · intro l hl
    rw [hlayers]
    exact hl
  · rw [hlayers]
    exact List.forall_mem_singleton.2 hlayer

private theorem readsFrom_of_empty {filter : Filter} {constraint : Constraint} (hlayers : filter.layers = []) :
    ReadsFrom c filter ⟨constraint, NameMap.empty⟩ := by
  constructor
  · intro l hl
    cases hl
  · rw [hlayers]
    exact List.forall_mem_nil _

private theorem readsFrom_of_ofFilter {filter : Filter} {reading : ReadingConstraint}
    (h : ofFilter c predicates filter = .ok reading) : ReadsFrom c filter reading := by
  induction filter generalizing reading with
  | and a b iha ihb => exact readsFrom_of_join iha ihb rfl h
  | or a b iha ihb => exact readsFrom_of_join iha ihb rfl h
  | implies a b iha ihb => exact readsFrom_of_join iha ihb rfl h
  | compare a b operator s iha ihb => exact readsFrom_of_join iha ihb rfl h
  | equals a b s iha ihb => exact readsFrom_of_join iha ihb rfl h
  | not a ih =>
      obtain ⟨x, hx, h⟩ := Result.bind_eq_ok.1 h
      obtain rfl := Except.ok.inj h
      exact ⟨(ih hx).named, (ih hx).found⟩
  | sameTokens a b layer s => exact readsFrom_of_readLayer rfl h
  | tokenValue capture layer => exact readsFrom_of_readLayer rfl h
  | tokenEquals capture layer value s => exact readsFrom_of_readLayer rfl h
  | text value =>
      obtain rfl := Except.ok.inj h
      exact readsFrom_of_empty rfl
  | call name capture =>
      rw [ofFilter] at h
      split at h
      · obtain rfl := Except.ok.inj h
        exact readsFrom_of_empty rfl
      · cases h

end Constraint

/-! ### Plans -/

namespace Planner

variable {p : Planner} {c d : Context} {x y : Pattern} {plan : Plan} {m : PlanMention}

/-- A visited test that names no layer, in a version that does not have the layer of its context. -/
structure MissesLayer (p : Planner) (c : Context) (x : Pattern) (d : Context) (test : TokenTest) : Prop where
  visited : p.Visits c x d (.term test) ∨ p.Visits c x d (.regex test)
  inherited : test.layer = none
  missing : ¬d.HasLayer d.valueLayer

private theorem NodeNames.offers_or (h : NodeNames Context.Names p d y m) (hfield : Succeeds d.field)
    (hvalues : d.onRelations = false) :
    d.catalog.Offers m ∨ ∃ test, (y = .term test ∨ y = .regex test) ∧ test.layer = none ∧
      ¬d.HasLayer d.valueLayer ∧ ∃ s, m = .values (FieldName.indexField d.fieldName d.valueLayer s) := by
  cases h with
  | @value _ test moved name s hx hmoved hname =>
      cases hlayer : test.layer with
      | none =>
          rw [hlayer] at hmoved
          obtain rfl := Except.ok.inj hmoved
          rcases Context.offers_or_eq_of_indexField hname hvalues with hoffers | ⟨hmissing, rfl⟩
          · exact .inl hoffers
          · exact .inr ⟨test, hx, hlayer, hmissing, s, rfl⟩
      | some layer =>
          rw [hlayer] at hmoved
          obtain ⟨_, hchecked, hmoved⟩ := Result.bind_eq_ok.1 hmoved
          obtain rfl := Except.ok.inj hmoved
          rcases Context.offers_or_eq_of_indexField hname rfl with hoffers | ⟨hmissing, -⟩
          · exact .inl hoffers
          · exact absurd (Context.hasLayer_of_checkLayer hchecked) hmissing
  | span s => exact .inl trivial
  | @reading filter clause reading h =>
      have hreads := Constraint.readsFrom_of_ofFilter h
      obtain ⟨field, hfield⟩ := hfield
      refine .inl ⟨field, Context.field_eq_ok_iff.1 hfield, fun l hl => ?_⟩
      obtain ⟨found, hfound, hcontains⟩ := hreads.found l (hreads.named l hl)
      obtain rfl := Except.ok.inj (hfield.symm.trans hfound)
      exact hcontains
  | context hd hm =>
      have hoffers := Context.offers_of_names hm (hd.field hfield)
      rw [hd.eq] at hoffers
      exact .inl hoffers
  | call hm => exact .inl (Context.offers_of_names hm hfield)

private theorem hasLayer_of_valueContext {test : TokenTest} (h : valueContext c test = .ok d) {layer : String}
    (hlayer : test.layer = some layer) : c.HasLayer layer := by
  obtain ⟨moved, hmoved, _⟩ := Result.bind_eq_ok.1 h
  rw [hlayer] at hmoved
  obtain ⟨_, hchecked, _⟩ := Result.bind_eq_ok.1 hmoved
  exact Context.hasLayer_of_checkLayer hchecked

/-- The layers that a node itself names. -/
def ownLayers : Pattern → List String
  | .term test | .regex test => test.layer.toList
  | .modify (.constrained filter) _ => filter.layers
  | _ => []

private theorem NodePlan.hasLayer {below : PlanRelation} (h : NodePlan p below d y plan) :
    ∀ layer ∈ ownLayers y, d.HasLayer layer := by
  intro layer hlayer
  cases h with
  | term h =>
      obtain ⟨moved, hmoved, _⟩ := Result.bind_eq_ok.1 h
      exact hasLayer_of_valueContext hmoved (Option.mem_toList.1 hlayer)
  | regex h =>
      obtain ⟨moved, hmoved, _⟩ := Result.bind_eq_ok.1 h
      exact hasLayer_of_valueContext hmoved (Option.mem_toList.1 hlayer)
  | constrained _ _ hreading => exact (Constraint.readsFrom_of_ofFilter hreading).found layer hlayer
  | @modify modifier _ _ _ hm _ =>
      cases modifier with
      | constrained filter => cases hm
      | _ => cases hlayer
  | _ => cases hlayer

end Planner

namespace Context

variable {catalog : Catalog} {defaults : Defaults} {c : Context}

private theorem eq_of_ofDefaults (h : ofDefaults catalog defaults = .ok c) :
    c = ⟨catalog, defaults.field, none, defaults.layer, defaults.sensitivity, false, defaults.relationClass⟩ ∧
      c.HasLayer defaults.layer := by
  obtain ⟨started, hstarted, h⟩ := Result.bind_eq_ok.1 h
  obtain rfl := Except.ok.inj h
  obtain ⟨_, hchecked, hstarted⟩ := Result.bind_eq_ok.1 hstarted
  obtain rfl := Except.ok.inj hstarted
  exact ⟨rfl, hasLayer_of_checkLayer hchecked⟩

end Context

namespace Planner

variable {p : Planner} {catalog : Catalog} {defaults : Defaults} {c : Context} {x : Pattern} {plan : Plan}

/--
A plan names what the catalog offers, but for tests that take over the default layer in a version that lacks it. A
layer that the query itself names is found wherever it is visited, and is refused where it is not.
-/
theorem plan_names_what_is_offered (hfunctions : p.extensions.Name Context.Names)
    (hc : Context.ofDefaults catalog defaults = .ok c) (hplan : p.plan c x = .ok plan) :
    (∀ m ∈ plan.mentions, catalog.Offers m ∨ ∃ d test s, p.MissesLayer c x d test ∧ d.version ≠ none ∧
      m = .values (FieldName.indexField d.fieldName defaults.layer s)) ∧
    ∀ d y, p.Visits c x d y → (∀ layer ∈ ownLayers y, d.HasLayer layer) ∧
      ∀ layer, ¬d.HasLayer layer →
        d.withLayer (some layer) = .error (.invalidQuery (.unknownLayer layer d.fieldName)) ∧
          Constraint.readLayer d layer = .error (.invalidQuery (.unknownConstraintLayer layer d.fieldName)) := by
  obtain ⟨hfirst, hstart⟩ := Context.eq_of_ofDefaults hc
  obtain ⟨field, hfield, -⟩ := id hstart
  constructor
  · intro m hm
    obtain ⟨d, y, hvisits, hnames⟩ := exists_visits_of_mem_mentions hfunctions hplan hm
    have hreached := hvisits.reaches
    have hd := hreached.eq
    have hcatalog : d.catalog = catalog := by rw [hd, hfirst]
    have hvalues : d.onRelations = false := by rw [hd, hfirst]
    have hlayer : d.valueLayer = defaults.layer := by rw [hd, hfirst]
    rcases hnames.offers_or (hreached.field ⟨field, hfield⟩) hvalues with
      hoffers | ⟨test, hy, hinherited, hmissing, s, rfl⟩
    · exact .inl (hcatalog ▸ hoffers)
    · have hvisited : p.Visits c x d (.term test) ∨ p.Visits c x d (.regex test) := by
        rcases hy with rfl | rfl
        · exact .inl hvisits
        · exact .inr hvisits
      have hversion : d.version ≠ none := by
        intro hnone
        rw [hlayer, hd, hnone, hfirst] at hmissing
        exact hmissing (hfirst ▸ hstart)
      exact .inr ⟨d, test, s, ⟨hvisited, hinherited, hmissing⟩, hversion, by rw [hlayer]⟩
  · intro d y hvisits
    refine ⟨forall_visits_of_plan (fun _ _ _ _ => NodePlan.hasLayer) hplan hvisits, fun layer hlayer => ?_⟩
    exact Context.refused_of_not_hasLayer (hvisits.reaches.field ⟨field, hfield⟩) hlayer

/-- A field with words and lemmas, and a translation of it with words only. -/
def parallelText : Catalog :=
  let words := NameMap.empty.insert "word" Layer.standard
  ⟨(NameMap.empty.insert "contents" ⟨true, words.insert "lemma" Layer.standard⟩).insert "contents__nl" ⟨true, words⟩⟩

def lemmaDefaults : Defaults := ⟨"contents", "lemma", .sensitive, FieldName.anyClass⟩

def lemmaContext : Context :=
  ⟨parallelText, "contents", none, "lemma", .sensitive, false, FieldName.anyClass⟩

private theorem not_offers_translated_lemma : ¬parallelText.Offers (.values "contents__nl%lemma@s") := by
  rintro ⟨f, field, l, layer, s, hfield, hlayer, -, hname⟩
  simp only [parallelText, Catalog.field?, NameMap.get?_insert] at hfield
  split at hfield
  · rename_i hf
    obtain rfl := Option.some.inj hfield
    rw [NameMap.get?_insert] at hlayer
    split at hlayer
    · rename_i hl
      rw [hf, hl] at hname
      exact absurd hname (by cases s <;> decide)
    · cases hlayer
  · split at hfield
    · rename_i hf
      obtain rfl := Option.some.inj hfield
      rw [NameMap.get?_insert, NameMap.get?_insert] at hlayer
      split at hlayer
      · rename_i hl
        rw [hf, hl] at hname
        exact absurd hname (by cases s <;> decide)
      · split at hlayer
        · rename_i hl
          rw [hf, hl] at hname
          exact absurd hname (by cases s <;> decide)
        · cases hlayer
    · cases hfield

/-- A word of the translation, asked for by its layer, and a lemma, which the translation does not have. -/
theorem plan_names_what_is_offered_translation :
    let p : Planner := ⟨Extensions.standard, Limits.standard, true⟩
    let x : Pattern := .modify (.version "nl")
      (.join .or [.term ⟨"Vossen", some "word", none⟩, .term ⟨"vos", none, none⟩])
    let plan : Plan := .join .or
      [.term "contents__nl%word@s" "Vossen", .term "contents__nl%lemma@s" "vos"]
    Context.ofDefaults parallelText lemmaDefaults = .ok lemmaContext ∧
      p.plan lemmaContext x = .ok plan ∧
      (∀ m ∈ plan.mentions, parallelText.Offers m ∨ ∃ d test s, p.MissesLayer lemmaContext x d test ∧
        d.version ≠ none ∧ m = .values (FieldName.indexField d.fieldName "lemma" s)) ∧
      ¬parallelText.Offers (.values "contents__nl%lemma@s") := by
  intro p x plan
  have hcontext : Context.ofDefaults parallelText lemmaDefaults = .ok lemmaContext := by rfl
  have hplan : p.plan lemmaContext x = .ok plan := by rfl
  have hnames := plan_names_what_is_offered Extensions.name_standard hcontext hplan
  exact ⟨hcontext, hplan, hnames.1, not_offers_translated_lemma⟩

end Planner

end CorpusSearch
