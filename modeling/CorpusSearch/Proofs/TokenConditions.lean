import CorpusSearch.Proofs.CatalogNames
import CorpusSearch.Proofs.HitPositions
import CorpusSearch.Proofs.SimplifiedSearch

/-!
Conditions on tokens, and terms. A condition reads the value that a token has, and compares it as exactly as is asked
for; a term looks a value up in one of the forms that the layer is indexed in. Main statement: a condition on a token
holds where the value agrees for the requested sensitivity, a term finds the token where it agrees for the closest
one that is offered, and the two are the same for all values only if the requested sensitivity is itself offered, or
none is.
-/

set_option autoImplicit false

namespace CorpusSearch

open Hit (HasSpan)

/-! ### Sensitivities -/

namespace Sensitivity

variable {s t : Sensitivity}

private theorem desensitize_upper (s : Sensitivity) :
    s.desensitize "A" = s.desensitize "a" ↔ s.isCaseSensitive = false := by
  cases s <;> decide +kernel

private theorem desensitize_accent (s : Sensitivity) :
    s.desensitize "é" = s.desensitize "e" ↔ s.isDiacriticsSensitive = false := by
  cases s <;> decide +kernel

private theorem eq_of_desensitize (h : ∀ x v, s.desensitize x = s.desensitize v ↔ t.desensitize x = t.desensitize v) :
    s = t := by
  have hcase : s.isCaseSensitive = false ↔ t.isCaseSensitive = false := by
    rw [← desensitize_upper, ← desensitize_upper]
    exact h "A" "a"
  have hdiacritics : s.isDiacriticsSensitive = false ↔ t.isDiacriticsSensitive = false := by
    rw [← desensitize_accent, ← desensitize_accent]
    exact h "é" "e"
  revert hcase hdiacritics
  cases s <;> cases t <;> decide

end Sensitivity

private theorem Layer.resolve_eq_iff (layer : Layer) (requested : Sensitivity) :
    layer.resolve requested = requested ↔ layer.offers requested = true ∨ layer.sensitivities = [] := by
  constructor
  · intro h
    have hoffers := layer.offers_resolve requested
    rwa [h] at hoffers
  · rintro (hoffers | hnone)
    · rw [resolve, if_pos hoffers]
    · have hoffers : ∀ s, layer.offers s = false := by
        intro s
        rw [offers, hnone]
        rfl
      have hfind : (fallbacks requested).find? layer.offers = none := by
        rw [List.find?_eq_none]
        intro s _
        rw [hoffers s]
        exact Bool.false_ne_true
      rw [resolve, hoffers requested, hfind, hnone]
      rfl

/-! ### A token and its value -/

/-- The token at a position has a value that agrees with `v`, as far as `s` tells. -/
def Document.ReadsAs (d : Document) (field layer : String) (i : Nat) (s : Sensitivity) (v : String) : Prop :=
  ∃ x, d.value? field layer (UInt32.ofNat i) = some x ∧ s.desensitize x = s.desensitize v

private theorem Document.value?_ofNat (d : Document) (field layer : String) {i : Nat} (hi : i < 4294967296) :
    d.value? field layer (UInt32.ofNat i) =
      ((d.get? field).getD FieldContent.empty).tokens[i]?.bind fun values => values.get? layer := by
  have hposition : (UInt32.ofNat i).toNat = i := Span.toNat_ofNat_of_lt hi
  rw [Document.value?, hposition]
  cases d.get? field with
  | none => rfl
  | some content => rfl

namespace Hit

private theorem token_inj {i j : Nat} (hi : i < 4294967296) (hj : j < 4294967296) : token i = token j ↔ i = j := by
  constructor
  · intro h
    exact (ofNat_inj hi hj).1 (congrArg Span.start h)
  · rintro rfl
    rfl

private theorem hasSpan_of_tokenHits {d : Document} {field layer v : String} {s : Sensitivity}
    (hname : FieldName.layerSeparator ∉ field.toList) (hfits : d.Fits field) {hs : List Hit}
    (h : tokenHits d (FieldName.indexField field layer s) (fun x => x == s.desensitize v) = .ok hs) {i : Nat}
    (hi : i < 4294967296) : HasSpan hs (token i) ↔ d.ReadsAs field layer i s v := by
  rw [Document.ReadsAs, d.value?_ofNat field layer hi]
  constructor
  · rintro ⟨a, ha, hspan⟩
    obtain ⟨p, values, x, hget, hx, htest, rfl⟩ := (mem_tokenHits hname h).1 ha
    obtain ⟨hp, hsize⟩ := lt_size_of_getElem? hfits hget
    obtain rfl : p = i := (token_inj (Nat.lt_trans hp hsize) hi).1 hspan
    exact ⟨x, by rw [hget]; exact hx, beq_iff_eq.1 htest⟩
  · rintro ⟨x, hx, heq⟩
    obtain ⟨values, hget, hx⟩ := Option.bind_eq_some_iff.1 hx
    exact ⟨_, (mem_tokenHits hname h).2 ⟨i, values, x, hget, hx, beq_iff_eq.2 heq, rfl⟩, rfl⟩

end Hit

/-! ### A condition and a term -/

section
variable {c : Context} {field : AnnotatedField} {name : String} {layer : Layer}

private theorem Planner.planTerm_layer (hfield : c.field = .ok field) (hlayer : field.layers.get? name = some layer)
    (v : String) (s : Option Sensitivity) : planTerm c ⟨v, some name, s⟩ = .ok (.term
      (FieldName.indexField c.fieldName name (layer.resolve (s.getD c.requested)))
      ((layer.resolve (s.getD c.requested)).desensitize v)) := by
  let moved : Context := { c with valueLayer := name, onRelations := false, requested := s.getD c.requested }
  have hcontains : field.layers.contains name = true := by
    rw [NameMap.contains, hlayer]
    rfl
  have hmoved : valueContext c ⟨v, some name, s⟩ = .ok moved := by
    simp [valueContext, Context.withLayerAndSensitivity, Context.withLayer, Context.checkLayer, hfield, hcontains,
      moved]
  have hsame : moved.field = .ok field := hfield
  have hsensitivity : moved.sensitivity = .ok (layer.resolve (s.getD c.requested)) := by
    rw [Context.sensitivity, if_neg Bool.false_ne_true, hsame, Result.ok_bind]
    split
    · rename_i found hfound
      obtain rfl := Option.some.inj (hlayer.symm.trans hfound)
      rfl
    · rename_i hnone
      cases hlayer.symm.trans hnone
  rw [planTerm, hmoved, Result.ok_bind, Context.indexField, Context.desensitize, hsensitivity]
  rfl

private theorem Constraint.ofFilter_tokenEquals (hfield : c.field = .ok field)
    (hlayer : field.layers.get? name = some layer) (predicates : NameMap Predicate) (capture v : String)
    (s : Option Sensitivity) : ofFilter c predicates (.tokenEquals capture name v s) =
      .ok ⟨.tokenEquals capture name v (s.getD c.requested), NameSet.single name⟩ := by
  have hcontains : field.layers.contains name = true := by
    rw [NameMap.contains, hlayer]
    rfl
  simp [ofFilter, readLayer, hfield, hcontains]

end

private theorem Constraint.holds_tokenEquals {scope : SearchScope} {field capture : String} {h : Hit} {i : Nat}
    (hi : i < 4294967295) {value : CaptureValue} (hcapture : h.captures.get? capture = some value)
    (hcover : value.cover = Hit.token i) (name v : String) (s : Sensitivity) :
    (tokenEquals capture name v s).holds (scope.view field h) = true ↔
      scope.document.ReadsAs field name i s v := by
  have hstart : (UInt32.ofNat i).toNat = i := Span.toNat_ofNat_of_lt (by omega)
  have hstop : (UInt32.ofNat (i + 1)).toNat = i + 1 := Span.toNat_ofNat_of_lt (by omega)
  have hlt : (Hit.token i).start < (Hit.token i).stop := by
    rw [UInt32.lt_iff_toNat_lt]
    show (UInt32.ofNat i).toNat < (UInt32.ofNat (i + 1)).toNat
    omega
  have hread : (scope.view field h).captureValue? capture name =
      scope.document.value? field name (UInt32.ofNat i) := by
    show (do
      let span := (← h.captures.get? capture).cover
      if span.start < span.stop then scope.document.value? field name span.start else none) = _
    rw [hcapture]
    show (if value.cover.start < value.cover.stop then scope.document.value? field name value.cover.start
      else none) = _
    rw [hcover, if_pos hlt]
    rfl
  rw [holds, Constraint.value, hread, Document.ReadsAs]
  cases scope.document.value? field name (UInt32.ofNat i) with
  | none => simp [sameText, ConstraintValue.isTrue]
  | some x => simp [sameText, ConstraintValue.isTrue]

namespace Planner

private theorem plan_term {p : Planner} (hdepth : p.limits.patternDepth ≠ 0) {c : Context} {test : TokenTest} {q : Plan}
    (h : planTerm c test = .ok q) : p.plan c (.term test) = .ok q := by
  obtain ⟨depth, hdepth⟩ := Nat.exists_eq_succ_of_ne_zero hdepth
  rw [plan, hdepth, planWithin_of_simplest rfl, planNode_term, h]
  rfl

/-- A condition that a captured token has a value, and the term for the value, are the same to every token. -/
def ComparesAlike (p : Planner) (c : Context) (predicates : NameMap Predicate) (capture layer v : String)
    (s : Option Sensitivity) : Prop :=
  ∀ reading plan, Constraint.ofFilter c predicates (.tokenEquals capture layer v s) = .ok reading →
    p.plan c (.term ⟨v, some layer, s⟩) = .ok plan →
    ∀ (scope : SearchScope) (h : Hit) (i : Nat) (value : CaptureValue), scope.document.Fits c.fieldName →
      i < 4294967295 → h.captures.get? capture = some value → value.cover = Hit.token i →
      ∀ hs, scope.hits plan = .ok hs →
        (reading.constraint.holds (scope.view c.fieldName h) = true ↔ HasSpan hs (Hit.token i))

def oneToken (field layer x : String) : Document :=
  NameMap.empty.insert field (FieldContent.empty.withValues layer [x])

private theorem oneToken_fits (field layer x other : String) : (oneToken field layer x).Fits other := by
  intro content hcontent
  rw [oneToken, NameMap.get?_insert] at hcontent
  split at hcontent
  · obtain rfl := Option.some.inj hcontent
    show 1 < 4294967296
    decide
  · cases hcontent

private theorem readsAs_oneToken {field layer x v : String} {s : Sensitivity} :
    (oneToken field layer x).ReadsAs field layer 0 s v ↔ s.desensitize x = s.desensitize v := by
  have hvalue : (oneToken field layer x).value? field layer (UInt32.ofNat 0) = some x := by
    rw [Document.value?, oneToken, NameMap.get?_insert, if_pos rfl]
    show (NameMap.empty.insert layer x).get? layer = some x
    rw [NameMap.get?_insert, if_pos rfl]
  rw [Document.ReadsAs, hvalue]
  constructor
  · rintro ⟨y, hy, heq⟩
    obtain rfl := Option.some.inj hy
    exact heq
  · intro heq
    exact ⟨x, rfl, heq⟩

def onlyToken (capture : String) : Hit := (Hit.ofSpan (Hit.token 0)).withCapture capture (.span (Hit.token 0))

private theorem get?_onlyToken (capture : String) :
    (onlyToken capture).captures.get? capture = some (.span (Hit.token 0)) := by
  show (NameMap.empty.insert capture (CaptureValue.span (Hit.token 0))).get? capture = _
  rw [NameMap.get?_insert, if_pos rfl]

private theorem holds_onlyToken {field layer x : String} {predicates : NameMap Predicate} (capture v : String)
    (s : Sensitivity) : (Constraint.tokenEquals capture layer v s).holds
      (SearchScope.view ⟨oneToken field layer x, predicates⟩ field (onlyToken capture)) = true ↔
        s.desensitize x = s.desensitize v := by
  have hzero : 0 < 4294967295 := by decide
  rw [Constraint.holds_tokenEquals hzero (get?_onlyToken capture) rfl, readsAs_oneToken]

/-- Conditions compare a token as exactly as is asked for, terms as exactly as the layer allows. They are the same to
every token and value exactly if the layer offers what is asked for, or offers nothing. -/
theorem conditions_compare_as_asked {p : Planner} (hdepth : p.limits.patternDepth ≠ 0) {c : Context}
    {field : AnnotatedField} (hfield : c.field = .ok field) {name : String} {layer : Layer}
    (hlayer : field.layers.get? name = some layer) (hname : FieldName.layerSeparator ∉ c.fieldName.toList)
    (predicates : NameMap Predicate) (capture : String) (s : Option Sensitivity) :
    let requested := s.getD c.requested
    (∀ v, ∃ reading plan, Constraint.ofFilter c predicates (.tokenEquals capture name v s) = .ok reading ∧
      p.plan c (.term ⟨v, some name, s⟩) = .ok plan ∧
      ∀ scope : SearchScope, scope.document.Fits c.fieldName → ∃ hs, scope.hits plan = .ok hs ∧
        ∀ (h : Hit) (i : Nat) (value : CaptureValue), i < 4294967295 → h.captures.get? capture = some value →
          value.cover = Hit.token i →
          (reading.constraint.holds (scope.view c.fieldName h) = true ↔
            scope.document.ReadsAs c.fieldName name i requested v) ∧
          (HasSpan hs (Hit.token i) ↔
            scope.document.ReadsAs c.fieldName name i (layer.resolve requested) v)) ∧
    ((∀ v, p.ComparesAlike c predicates capture name v s) ↔
      layer.offers requested = true ∨ layer.sensitivities = []) := by
  intro requested
  have hcondition := Constraint.ofFilter_tokenEquals hfield hlayer predicates capture
  have hterm : ∀ v, p.plan c (.term ⟨v, some name, s⟩) = .ok _ :=
    fun v => plan_term hdepth (planTerm_layer hfield hlayer v s)
  have hfound : ∀ v (scope : SearchScope), scope.document.Fits c.fieldName → ∃ hs,
      scope.hits (.term (FieldName.indexField c.fieldName name (layer.resolve requested))
        ((layer.resolve requested).desensitize v)) = .ok hs ∧
      ∀ i < 4294967295, HasSpan hs (Hit.token i) ↔
        scope.document.ReadsAs c.fieldName name i (layer.resolve requested) v := by
    intro v scope hfits
    obtain ⟨hs, htokens⟩ : ∃ hs, Hit.tokenHits scope.document
        (FieldName.indexField c.fieldName name (layer.resolve requested))
        (fun x => x == (layer.resolve requested).desensitize v) = .ok hs := by
      rw [Hit.tokenHits, Document.readIndexField_of_not_mem hname]
      exact ⟨_, rfl⟩
    refine ⟨Hit.sorted hs, by rw [SearchScope.hits, htokens]; rfl, fun i hi => ?_⟩
    rw [Hit.hasSpan_sorted]
    exact Hit.hasSpan_of_tokenHits hname hfits htokens (by omega)
  constructor
  · intro v
    refine ⟨_, _, hcondition v s, hterm v, fun scope hfits => ?_⟩
    obtain ⟨hs, hhits, hspans⟩ := hfound v scope hfits
    refine ⟨hs, hhits, fun h i value hi hcapture hcover => ⟨?_, hspans i hi⟩⟩
    exact Constraint.holds_tokenEquals hi hcapture hcover name v requested
  · rw [← layer.resolve_eq_iff]
    constructor
    · intro halike
      refine (Sensitivity.eq_of_desensitize fun x v => ?_).symm
      let scope : SearchScope := ⟨oneToken c.fieldName name x, predicates⟩
      have hfits : scope.document.Fits c.fieldName := oneToken_fits _ _ _ _
      have hcapture := get?_onlyToken capture
      obtain ⟨hs, hhits, hspans⟩ := hfound v scope hfits
      have hsame := halike v _ _ (hcondition v s) (hterm v) scope (onlyToken capture) 0 _ hfits (by decide) hcapture
        rfl hs hhits
      rw [hspans 0 (by decide), readsAs_oneToken] at hsame
      exact (holds_onlyToken capture v requested).symm.trans hsame
    · intro heq v reading plan hreading hplan scope h i value hfits hi hcapture hcover hs hhits
      obtain rfl := Except.ok.inj ((hcondition v s).symm.trans hreading)
      obtain rfl := Except.ok.inj ((hterm v).symm.trans hplan)
      obtain ⟨found, hfound, hspans⟩ := hfound v scope hfits
      obtain rfl := Except.ok.inj (hfound.symm.trans hhits)
      rw [hspans i hi, heq]
      exact Constraint.holds_tokenEquals hi hcapture hcover name v requested

def classes : Layer := ⟨[.sensitive]⟩

def taggedField : AnnotatedField := ⟨true, (NameMap.empty.insert "pos" classes).insert "word" Layer.standard⟩

/-- A context in a field of words and word classes. -/
def taggedContext (field : String) : Context :=
  ⟨⟨NameMap.empty.insert field taggedField⟩, field, none, "word", .insensitive, false, FieldName.anyClass⟩

private theorem field_taggedContext (field : String) : (taggedContext field).field = .ok taggedField := by
  rw [Context.field_eq_ok_iff]
  show (NameMap.empty.insert field taggedField).get? field = some taggedField
  rw [NameMap.get?_insert, if_pos rfl]

/-- Words are compared alike, and so are word classes if that is done exactly. -/
theorem conditions_compare_as_asked_tagged :
    (∀ v, standard.ComparesAlike (taggedContext "contents") NameMap.empty "A" "word" v none) ∧
      ∀ v, standard.ComparesAlike (taggedContext "contents") NameMap.empty "A" "pos" v (some .sensitive) := by
  have hdepth : standard.limits.patternDepth ≠ 0 := by decide
  have hfield := field_taggedContext "contents"
  have hname : FieldName.layerSeparator ∉ (taggedContext "contents").fieldName.toList := by decide
  have hwords : taggedField.layers.get? "word" = some Layer.standard := by decide
  have hclasses : taggedField.layers.get? "pos" = some classes := by decide
  have hword := conditions_compare_as_asked hdepth hfield hwords hname NameMap.empty "A" none
  have hpos := conditions_compare_as_asked hdepth hfield hclasses hname NameMap.empty "A" (some .sensitive)
  exact ⟨hword.2.2 (.inl (by decide)), hpos.2.2 (.inl (by decide))⟩

/-- A condition takes a word class in capitals for the same, which the term does not find; and a term does not find a
word in a field with a percent sign in its name, for which the condition holds. -/
theorem not_comparesAlike :
    ¬standard.ComparesAlike (taggedContext "contents") NameMap.empty "A" "pos" "a" none ∧
      ¬standard.ComparesAlike (taggedContext "a%b") NameMap.empty "A" "word" "fox" (some .sensitive) := by
  have hdepth : standard.limits.patternDepth ≠ 0 := by decide
  have hcapture := get?_onlyToken "A"
  constructor
  · intro halike
    have hfield := field_taggedContext "contents"
    have hclasses : taggedField.layers.get? "pos" = some classes := by decide
    let scope : SearchScope := ⟨oneToken "contents" "pos" "A", NameMap.empty⟩
    have hfits : scope.document.Fits "contents" := oneToken_fits _ _ _ _
    have hnone : scope.hits (.term "contents%pos@s" "a") = .ok [] := by decide +kernel
    have hequal := (Sensitivity.desensitize_upper .insensitive).2 rfl
    have hsame := halike _ _ (Constraint.ofFilter_tokenEquals hfield hclasses NameMap.empty "A" "a" none)
      (plan_term hdepth (planTerm_layer hfield hclasses "a" none)) scope (onlyToken "A") 0 _ hfits (by decide)
      hcapture rfl [] hnone
    exact Hit.not_hasSpan_nil (hsame.1 ((holds_onlyToken "A" "a" .insensitive).2 hequal))
  · intro halike
    have hfield := field_taggedContext "a%b"
    have hwords : taggedField.layers.get? "word" = some Layer.standard := by decide
    let scope : SearchScope := ⟨oneToken "a%b" "word" "fox", NameMap.empty⟩
    have hfits : scope.document.Fits "a%b" := oneToken_fits _ _ _ _
    have hnone : scope.hits (.term "a%b%word@s" "fox") = .ok [] := by decide +kernel
    have hsame := halike _ _ (Constraint.ofFilter_tokenEquals hfield hwords NameMap.empty "A" "fox" (some .sensitive))
      (plan_term hdepth (planTerm_layer hfield hwords "fox" (some .sensitive))) scope (onlyToken "A") 0 _ hfits
      (by decide) hcapture rfl [] hnone
    exact Hit.not_hasSpan_nil (hsame.1 ((holds_onlyToken "A" "fox" .sensitive).2 rfl))

end Planner

end CorpusSearch
