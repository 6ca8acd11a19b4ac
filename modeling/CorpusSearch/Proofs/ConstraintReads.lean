import CorpusSearch.Proofs.CatalogNames

/-!
What the value of a condition depends on. A condition without calls looks at captures and at values of layers; the
captures are those that its filter refers to, and the layers are among those noted for it while its defaults are
filled in. Main statement: in two views of a hit that are the same in these captures and these layers, the condition
has the same value, however else the views differ.
-/

set_option autoImplicit false

namespace CorpusSearch

/-! ### Views that are partly the same -/

/-- Two views hold the same under some capture names and have the same values in some layers. -/
structure HitView.SameOn (names layers : List String) (v w : HitView) : Prop where
  capture : ∀ name ∈ names, v.captures.get? name = w.captures.get? name
  value : ∀ layer ∈ layers, ∀ position, v.tokens.value? layer position = w.tokens.value? layer position

namespace HitView.SameOn

variable {names names' layers layers' : List String} {v w : HitView}

theorem mono (h : SameOn names layers v w) (hnames : names' ⊆ names) (hlayers : layers' ⊆ layers) :
    SameOn names' layers' v w := by
  constructor
  · intro name hname
    exact h.capture name (hnames hname)
  · intro layer hlayer
    exact h.value layer (hlayers hlayer)

theorem left (h : SameOn (names ++ names') (layers ++ layers') v w) : SameOn names layers v w :=
  h.mono (List.subset_append_left _ _) (List.subset_append_left _ _)

theorem right (h : SameOn (names ++ names') (layers ++ layers') v w) : SameOn names' layers' v w :=
  h.mono (List.subset_append_right _ _) (List.subset_append_right _ _)

theorem captureValue? (h : SameOn names layers v w) {name layer : String} (hname : name ∈ names)
    (hlayer : layer ∈ layers) : v.captureValue? name layer = w.captureValue? name layer := by
  unfold HitView.captureValue?
  rw [h.capture name hname]
  apply Option.bind_congr
  intro found _
  by_cases hspan : found.cover.start < found.cover.stop
  · simp only [hspan, if_true]
    exact h.value layer hlayer found.cover.start
  · simp only [hspan, if_false]

end HitView.SameOn

/-! ### What a condition looks at -/

def Filter.hasCall : Filter → Bool
  | .and a b | .or a b | .implies a b | .compare a b _ _ | .equals a b _ => a.hasCall || b.hasCall
  | .not a => a.hasCall
  | .sameTokens _ _ _ _ | .text _ | .tokenValue _ _ | .tokenEquals _ _ _ _ => false
  | .call _ _ => true

namespace Constraint

/-- The captures that a condition looks at, from left to right. -/
def captures : Constraint → List String
  | and a b | or a b | implies a b | compare a b _ _ => a.captures ++ b.captures
  | not a => a.captures
  | sameTokens a b _ _ => [a, b]
  | text _ => []
  | tokenValue capture _ | tokenEquals capture _ _ _ | call _ capture => [capture]

/-- The layers in which a condition looks up values. -/
def layers : Constraint → List String
  | and a b | or a b | implies a b | compare a b _ _ => a.layers ++ b.layers
  | not a => a.layers
  | sameTokens _ _ layer _ | tokenValue _ layer | tokenEquals _ layer _ _ => [layer]
  | text _ | call _ _ => []

/-- Whether a condition calls a predicate. -/
def hasCall : Constraint → Bool
  | and a b | or a b | implies a b | compare a b _ _ => a.hasCall || b.hasCall
  | not a => a.hasCall
  | sameTokens _ _ _ _ | text _ | tokenValue _ _ | tokenEquals _ _ _ _ => false
  | call _ _ => true

variable {v w : HitView}

private theorem value_congr {k : Constraint} (hcall : k.hasCall = false) (h : v.SameOn k.captures k.layers w) :
    k.value v = k.value w := by
  induction k with
  | and a b iha ihb =>
      obtain ⟨ha, hb⟩ := Bool.or_eq_false_iff.1 hcall
      rw [value, value, iha ha h.left, ihb hb h.right]
  | or a b iha ihb =>
      obtain ⟨ha, hb⟩ := Bool.or_eq_false_iff.1 hcall
      rw [value, value, iha ha h.left, ihb hb h.right]
  | implies a b iha ihb =>
      obtain ⟨ha, hb⟩ := Bool.or_eq_false_iff.1 hcall
      rw [value, value, iha ha h.left, ihb hb h.right]
  | compare a b operator s iha ihb =>
      obtain ⟨ha, hb⟩ := Bool.or_eq_false_iff.1 hcall
      rw [value, value, iha ha h.left, ihb hb h.right]
  | not a ih =>
      have hsame : a.value v = a.value w := ih hcall h
      simp only [value, hsame]
  | sameTokens a b layer s =>
      have ha : v.captureValue? a layer = w.captureValue? a layer :=
        h.captureValue? (by simp [captures]) (by simp [layers])
      have hb : v.captureValue? b layer = w.captureValue? b layer :=
        h.captureValue? (by simp [captures]) (by simp [layers])
      rw [value, value, ha, hb]
  | text x => rfl
  | tokenValue capture layer =>
      have hfound : v.captureValue? capture layer = w.captureValue? capture layer :=
        h.captureValue? (by simp [captures]) (by simp [layers])
      simp only [value, hfound]
  | tokenEquals capture layer x s =>
      have hfound : v.captureValue? capture layer = w.captureValue? capture layer :=
        h.captureValue? (by simp [captures]) (by simp [layers])
      rw [value, value, hfound]
  | call name capture => cases hcall

end Constraint

/-! ### What is noted for a condition -/

namespace Constraint

variable {c : Context} {predicates : NameMap Predicate}

/-- A condition looks at the captures of its filter, and its layers are noted. -/
structure Declares (filter : Filter) (reading : ReadingConstraint) : Prop where
  captures : reading.constraint.captures = filter.captures
  layers : reading.constraint.layers ⊆ reading.layers.names
  hasCall : reading.constraint.hasCall = filter.hasCall

private theorem subset_names_union {a b : NameSet} : a.names ++ b.names ⊆ (a.union b).names := by
  intro name hname
  rw [NameMap.mem_names_iff, NameMap.contains_union, Bool.or_eq_true]
  rcases List.mem_append.1 hname with ha | hb
  · exact .inl (NameMap.mem_names_iff.1 ha)
  · exact .inr (NameMap.mem_names_iff.1 hb)

private theorem declares_of_join {a b filter : Filter} {reading : ReadingConstraint}
    {join : Constraint → Constraint → Constraint}
    (ha : ∀ {r}, ofFilter c predicates a = .ok r → Declares a r)
    (hb : ∀ {r}, ofFilter c predicates b = .ok r → Declares b r)
    (hcaptures : ∀ x y, (join x y).captures = x.captures ++ y.captures)
    (hlayers : ∀ x y, (join x y).layers = x.layers ++ y.layers)
    (hcall : ∀ x y, (join x y).hasCall = (x.hasCall || y.hasCall))
    (hfilter : filter.captures = a.captures ++ b.captures ∧ filter.hasCall = (a.hasCall || b.hasCall))
    (h : (do
      let x ← ofFilter c predicates a
      return joinReading join x (← ofFilter c predicates b)) = Except.ok reading) :
    Declares filter reading := by
  obtain ⟨x, hx, h⟩ := Result.bind_eq_ok.1 h
  obtain ⟨y, hy, h⟩ := Result.bind_eq_ok.1 h
  obtain rfl := Except.ok.inj h
  have hleft := ha hx
  have hright := hb hy
  constructor
  · rw [joinReading, hcaptures, hleft.captures, hright.captures, hfilter.1]
  · rw [joinReading, hlayers]
    intro layer hlayer
    apply subset_names_union
    rcases List.mem_append.1 hlayer with hx | hy
    · exact List.mem_append_left _ (hleft.layers hx)
    · exact List.mem_append_right _ (hright.layers hy)
  · rw [joinReading, hcall, hleft.hasCall, hright.hasCall, hfilter.2]

private theorem declares_of_readLayer {filter : Filter} {reading : ReadingConstraint} {constraint : Constraint}
    {layer : String} (hcaptures : constraint.captures = filter.captures)
    (hlayers : constraint.layers = [layer]) (hcall : constraint.hasCall = filter.hasCall)
    (h : (do return ⟨constraint, ← readLayer c layer⟩) = Except.ok reading) : Declares filter reading := by
  obtain ⟨layers, hread, h⟩ := Result.bind_eq_ok.1 h
  obtain rfl := Except.ok.inj h
  obtain ⟨rfl, -⟩ := Context.hasLayer_of_readLayer hread
  refine ⟨hcaptures, ?_, hcall⟩
  rw [hlayers]
  exact List.Subset.refl _

private theorem declares_of_ofFilter {filter : Filter} {reading : ReadingConstraint}
    (h : ofFilter c predicates filter = .ok reading) : Declares filter reading := by
  induction filter generalizing reading with
  | and a b iha ihb =>
      exact declares_of_join iha ihb (fun _ _ => rfl) (fun _ _ => rfl) (fun _ _ => rfl) ⟨rfl, rfl⟩ h
  | or a b iha ihb =>
      exact declares_of_join iha ihb (fun _ _ => rfl) (fun _ _ => rfl) (fun _ _ => rfl) ⟨rfl, rfl⟩ h
  | implies a b iha ihb =>
      exact declares_of_join iha ihb (fun _ _ => rfl) (fun _ _ => rfl) (fun _ _ => rfl) ⟨rfl, rfl⟩ h
  | compare a b operator s iha ihb =>
      exact declares_of_join iha ihb (fun _ _ => rfl) (fun _ _ => rfl) (fun _ _ => rfl) ⟨rfl, rfl⟩ h
  | equals a b s iha ihb =>
      exact declares_of_join iha ihb (fun _ _ => rfl) (fun _ _ => rfl) (fun _ _ => rfl) ⟨rfl, rfl⟩ h
  | not a ih =>
      obtain ⟨x, hx, h⟩ := Result.bind_eq_ok.1 h
      obtain rfl := Except.ok.inj h
      have hclause := ih hx
      exact ⟨hclause.captures, hclause.layers, hclause.hasCall⟩
  | sameTokens a b layer s => exact declares_of_readLayer rfl rfl rfl h
  | tokenValue capture layer => exact declares_of_readLayer rfl rfl rfl h
  | tokenEquals capture layer value s => exact declares_of_readLayer rfl rfl rfl h
  | text value =>
      obtain rfl := Except.ok.inj h
      exact ⟨rfl, List.nil_subset _, rfl⟩
  | call name capture =>
      rw [ofFilter] at h
      split at h
      · obtain rfl := Except.ok.inj h
        exact ⟨rfl, List.nil_subset _, rfl⟩
      · cases h

/-- A condition without calls looks at nothing but the captures of its filter and the layers noted for it. -/
theorem value_reads_what_is_declared {filter : Filter} {reading : ReadingConstraint}
    (hfilter : ofFilter c predicates filter = .ok reading) (hcall : filter.hasCall = false) {v w : HitView}
    (hsame : v.SameOn filter.captures reading.layers.names w) :
    reading.constraint.value v = reading.constraint.value w := by
  have hdeclares := declares_of_ofFilter hfilter
  apply value_congr (hdeclares.hasCall.trans hcall)
  apply hsame.mono
  · rw [hdeclares.captures]
    exact List.Subset.refl _
  · exact hdeclares.layers

/-- Two tokens by word and lemma; their part of speech is the given one. -/
def foxReader (partOfSpeech : String) : TokenReader where
  value? layer position :=
    if layer = "pos" then some partOfSpeech
    else (if layer = "word" then ["Foxes", "fox"] else ["fox", "fox"])[position.toNat]?

/-- Words with one lemma that are not the same word: a condition on two captures and two layers. -/
theorem value_reads_what_is_declared_lemmas :
    let filter : Filter := .and (.sameTokens "A" "B" "lemma" none)
      (.not (.equals (.tokenValue "A" "word") (.tokenValue "B" "word") (some .sensitive)))
    let reading : ReadingConstraint :=
      ⟨.and (.sameTokens "A" "B" "lemma" .sensitive)
        (.not (.compare (.tokenValue "A" "word") (.tokenValue "B" "word") .equal .sensitive)),
        NameSet.ofList ["lemma", "word"]⟩
    let both : NameMap CaptureValue := NameMap.ofList [("A", .span ⟨0, 1⟩), ("B", .span ⟨1, 2⟩)]
    let v : HitView := ⟨both.insert "C" (.span ⟨0, 2⟩), foxReader "NOUN", NameMap.empty⟩
    let w : HitView := ⟨both, foxReader "VERB", NameMap.empty.insert "noun" fun _ _ => .undefined⟩
    ofFilter Planner.lemmaContext NameMap.empty filter = .ok reading ∧ filter.hasCall = false ∧
      v.SameOn filter.captures reading.layers.names w ∧
      reading.constraint.value v = reading.constraint.value w ∧
      reading.constraint.value w = .truth true := by
  intro filter reading both v w
  have hfilter : ofFilter Planner.lemmaContext NameMap.empty filter = .ok reading := by rfl
  have hsame : v.SameOn filter.captures reading.layers.names w := by
    constructor
    · decide
    · intro layer hlayer position
      have hlayers : reading.layers.names = ["lemma", "word"] := by decide
      rw [hlayers] at hlayer
      rcases List.mem_pair.1 hlayer with rfl | rfl
      · simp [v, w, foxReader]
      · simp [v, w, foxReader]
  exact ⟨hfilter, rfl, hsame, value_reads_what_is_declared hfilter rfl hsame, by decide +kernel⟩

end Constraint

end CorpusSearch
