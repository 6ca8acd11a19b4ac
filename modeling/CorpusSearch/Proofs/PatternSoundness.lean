import CorpusSearch.Pattern.Build
import CorpusSearch.Pattern.Simplify
import CorpusSearch.Proofs.Result
import CorpusSearch.Text.Integer

/-!
What every pattern satisfies at each of its nodes. Building a node refuses parts that would break it, and
simplifying a node or filling in a placeholder keeps it; only the attribute values of an element are taken as they are
given. Main statements: each function that builds a pattern makes a well-formed one of well-formed parts, and so do
simplification and `fillDefault`.
-/

set_option autoImplicit false

namespace CorpusSearch

/-! ### What holds of the parts of a node -/

/-- The type is not empty, versions that are given are not empty, and marks are not combined that exclude
each other. -/
structure RelationOperator.Sound (o : RelationOperator) : Prop where
  type : o.type ≠ ""
  sourceVersion : o.sourceVersion ≠ some ""
  targetVersion : o.targetVersion ≠ some ""
  notBoth : ¬(o.negated = true ∧ o.alignment = true)
  optionalAlignment : o.optional = true → o.alignment = true
  plainRoot : o.direction = .root → o.negated = false ∧ o.alignment = false

structure RelationHead.Sound (head : RelationHead) : Prop where
  operator : head.operator.Sound
  rootMode : head.operator.direction = .root → head.spanMode ≠ .source
  capture : head.capture ≠ some ""

/-- The ends of a range are machine integers. -/
def AttributeValue.Sound : AttributeValue → Prop
  | expression _ => True
  | range min max => Text.fitsInt64 min = true ∧ Text.fitsInt64 max = true

/-- A range does not end before it starts. -/
def AttributeValue.Ordered : AttributeValue → Prop
  | expression _ => True
  | range min max => min ≤ max

/-- Whether the attribute values of an element are such as `values` says is up to who gives them. -/
structure TagPattern.Sound (values : AttributeValue → Prop) (tag : TagPattern) : Prop where
  name : tag.name ≠ ""
  attributes : ∀ e ∈ tag.attributes.entries, e.2.Sound ∧ values e.2
  capture : tag.capture ≠ some ""

/-- Distances are machine integers. -/
structure PositionTest.Sound (test : PositionTest) : Prop where
  leading : Text.fitsInt32 test.adjustLeading = true
  trailing : Text.fitsInt32 test.adjustTrailing = true

def Argument.Sound {α : Type} : Argument α → Prop
  | pattern _ | text _ => True
  | number n => Text.fitsInt64 n = true

/-- What holds of a modifier on a clause. A clause whose length is known is negated only if it is one token. -/
def Modifier.Sound (clause : Pattern) : Modifier → Prop
  | not => clause.length? = none ∨ clause.length? = some (.exactly 1)
  | repeated min max => min ≤ max ∧ 1 ≤ max ∧ ¬(min = 1 ∧ max = 1)
  | expanded _ min max | filteredNGrams _ min max => min ≤ max
  | capture name | version name => name ≠ ""
  | constrained _ | edge _ | settings _ => True

namespace Pattern

/-- What holds of a node, the nodes below it left aside. -/
def NodeSound (values : AttributeValue → Prop) : Pattern → Prop
  | term _ | regex _ | defaultValue => True
  | anyToken min max => min ≤ max ∧ 1 ≤ max
  | fixedSpan span => span.start ≤ span.stop
  | tags tag => tag.Sound values
  | join c clauses => clauses ≠ [] ∧ ∀ q ∈ clauses, ∀ nested, q ≠ join c nested
  | modify m clause => m.Sound clause
  | positionFilter test _ _ => test.Sound
  | relationTarget head _ => head.Sound
  | relationMatch _ targets =>
    targets ≠ [] ∧ ∀ t ∈ targets, t.1.Sound ∧ t.1.operator.direction ≠ .root
  | rootRelations targets =>
    targets ≠ [] ∧
      ∀ t ∈ targets, t.1.Sound ∧ t.1.operator.direction = .root ∧ t.1.spanMode = .target
  | call name arguments => name ≠ "" ∧ ∀ a ∈ arguments, a.Sound

inductive WellFormed (values : AttributeValue → Prop) : Pattern → Prop
  | node {p : Pattern} (sound : p.NodeSound values) (below : ∀ q ∈ p.children, WellFormed values q) :
      WellFormed values p

namespace WellFormed

variable {values : AttributeValue → Prop} {p q : Pattern}

theorem sound (h : p.WellFormed values) : p.NodeSound values := by
  cases h with
  | node sound _ => exact sound

theorem child (h : p.WellFormed values) (hq : q ∈ p.children) : q.WellFormed values := by
  cases h with
  | node _ below => exact below q hq

theorem imp {other : AttributeValue → Prop} (h : p.WellFormed values) (hvalues : ∀ v, values v → other v) :
    p.WellFormed other := by
  induction h with
  | @node p sound _ ih =>
      refine .node ?_ ih
      cases p with
      | tags tag =>
          exact ⟨sound.name, fun e he => (sound.attributes e he).imp_right (hvalues e.2), sound.capture⟩
      | _ => exact sound

theorem leaf (sound : p.NodeSound values) (h : p.children = []) : p.WellFormed values :=
  .node sound (by simp [h])

theorem modify {m : Modifier} (hq : q.WellFormed values) (hm : m.Sound q) : (Pattern.modify m q).WellFormed values :=
  .node hm (by simpa [children] using hq)

end WellFormed

end Pattern

/-! ### Operators and relation targets -/

namespace RelationOperator

theorem typeOrAny_ne_empty (type : String) : typeOrAny type ≠ "" := by
  unfold typeOrAny
  split
  · decide
  · rename_i h
    simpa using h

theorem nonEmpty?_ne_some_empty (text : Option String) : nonEmpty? text ≠ some "" := by
  intro h
  simpa using (Option.filter_eq_some_iff.1 h).2

theorem nonEmpty?_eq_self {text : Option String} (h : text ≠ some "") : nonEmpty? text = text := by
  cases text with
  | none => rfl
  | some t =>
      have ht : t ≠ "" := fun e => h (e ▸ rfl)
      simp [nonEmpty?, Option.filter, ht]

theorem sound_ofType (type : String) : (ofType type).Sound where
  type := typeOrAny_ne_empty type
  sourceVersion := by simp [ofType]
  targetVersion := by simp [ofType]
  notBoth := by simp [ofType]
  optionalAlignment := by simp [ofType]
  plainRoot := by simp [ofType]

theorem sound_of_build {type : String} {direction : RelationDirection} {targetVersion : Option String}
    {negated alignment isOptional : Bool} {o : RelationOperator}
    (h : build type direction targetVersion negated alignment isOptional = .ok o) : o.Sound := by
  unfold build at h
  split at h
  · simp at h
  · rename_i notBoth
    split at h
    · simp at h
    · rename_i optionalAlignment
      split at h
      · simp at h
      · rename_i plainRoot
        obtain rfl := Except.ok.inj h
        exact
          { type := typeOrAny_ne_empty type
            sourceVersion := by simp
            targetVersion := nonEmpty?_ne_some_empty _
            notBoth := by simpa [and_comm] using notBoth
            optionalAlignment := by simpa using optionalAlignment
            plainRoot := by
              intro hroot
              simpa [show direction = .root from hroot, and_comm] using plainRoot }

theorem Sound.withSourceVersion {o : RelationOperator} (h : o.Sound) (version : Option String) :
    (o.withSourceVersion version).Sound :=
  { h with sourceVersion := nonEmpty?_ne_some_empty version }

theorem sound_of_ofText {text : String} {o : RelationOperator} (h : ofText text = .ok o) : o.Sound := by
  simp only [ofText] at h
  split at h
  · simp at h
  · exact sound_of_build h

end RelationOperator

namespace Build

theorem sound_of_relationHead {o : RelationOperator} {mode : SpanMode} {capture : Option String}
    {head : RelationHead} (h : relationHead o mode capture = .ok head) (ho : o.Sound) : head.Sound := by
  unfold relationHead at h
  split at h
  · simp at h
  · rename_i rootMode
    obtain rfl := Except.ok.inj h
    refine ⟨ho, ?_, RelationOperator.nonEmpty?_ne_some_empty _⟩
    intro hroot
    simpa [RelationOperator.isRoot, show o.direction = .root from hroot] using rootMode

theorem ordered_of_attributeRange {min max : Int} {v : AttributeValue} (h : attributeRange min max = .ok v) :
    v = .range min max ∧ v.Ordered := by
  unfold attributeRange at h
  split at h
  · simp at h
  · obtain rfl := Except.ok.inj h
    exact ⟨rfl, Int.not_lt.1 ‹¬max < min›⟩

/-! ### Nodes -/

variable {values : AttributeValue → Prop} {p q : Pattern}

private theorem le_of_checkBounds {node : String} {min max : UInt32}
    (h : checkBounds node min max = .ok ()) : min ≤ max := by
  unfold checkBounds at h
  split at h
  · simp at h
  · simpa using ‹¬max < min›

private theorem of_checkNonEmpty {node : String} {min max : UInt32}
    (h : checkNonEmpty node min max = .ok ()) : min ≤ max ∧ 1 ≤ max := by
  obtain ⟨_, hbounds, hmax⟩ := Result.bind_eq_ok.1 h
  refine ⟨le_of_checkBounds hbounds, ?_⟩
  split at hmax
  · simp at hmax
  · rename_i hne
    have hne : max.toNat ≠ 0 := fun e => hne (UInt32.toNat_inj.1 e)
    exact UInt32.le_iff_toNat_le.2 (Nat.pos_of_ne_zero hne)

theorem wellFormed_term (test : TokenTest) : (term test).WellFormed values := .leaf trivial rfl

theorem wellFormed_regex (test : TokenTest) : (regex test).WellFormed values := .leaf trivial rfl

theorem wellFormed_of_anyToken {min max : UInt32} (h : anyToken min max = .ok p) : p.WellFormed values := by
  obtain ⟨_, hcheck, hp⟩ := Result.bind_eq_ok.1 h
  obtain rfl := Except.ok.inj hp
  exact .leaf (of_checkNonEmpty hcheck) rfl

/-- A connective takes in the clauses of what is joined in the same way, so none of its clauses is. -/
theorem wellFormed_of_join {c : Connective} {clauses : List Pattern} (h : join c clauses = .ok p)
    (hclauses : ∀ q ∈ clauses, q.WellFormed values) : p.WellFormed values := by
  have flat : ∀ q ∈ clauses, clausesFor c q ≠ [] ∧
      ∀ r ∈ clausesFor c q, r.WellFormed values ∧ ∀ nested, r ≠ .join c nested := by
    intro q hq
    have hwell := hclauses q hq
    unfold clausesFor
    split
    · rename_i d nested
      split
      · subst d
        have hsound := hwell.sound
        exact ⟨hsound.1, fun r hr => ⟨hwell.child hr, hsound.2 r hr⟩⟩
      · rename_i hne
        refine ⟨by simp, ?_⟩
        intro r hr
        obtain rfl := List.mem_singleton.1 hr
        exact ⟨hwell, fun _ e => hne (Pattern.join.inj e).1⟩
    · rename_i hother
      refine ⟨by simp, ?_⟩
      intro r hr
      obtain rfl := List.mem_singleton.1 hr
      exact ⟨hwell, fun nested e => hother c nested e⟩
  unfold join at h
  split at h
  · simp at h
  · rename_i hne
    obtain rfl := Except.ok.inj h
    refine .node ⟨?_, ?_⟩ ?_
    · cases clauses with
      | nil => simp at hne
      | cons q rest =>
          intro e
          exact (flat q List.mem_cons_self).1 (List.append_eq_nil_iff.1 e).1
    · intro r hr
      obtain ⟨q, hq, hr⟩ := List.mem_flatMap.1 hr
      exact ((flat q hq).2 r hr).2
    · intro r hr
      obtain ⟨q, hq, hr⟩ := List.mem_flatMap.1 hr
      exact ((flat q hq).2 r hr).1

theorem wellFormed_of_not (h : not q = .ok p) (hq : q.WellFormed values) : p.WellFormed values := by
  unfold not at h
  split at h
  · rename_i hnone
    obtain rfl := Except.ok.inj h
    exact hq.modify (.inl hnone)
  · rename_i l hsome
    split at h
    · rename_i hone
      obtain rfl := Except.ok.inj h
      exact hq.modify (.inr (hone ▸ hsome))
    · simp at h

theorem wellFormed_of_repetition {min max : UInt32} (h : repetition q min max = .ok p)
    (hq : q.WellFormed values) : p.WellFormed values := by
  obtain ⟨_, hcheck, h⟩ := Result.bind_eq_ok.1 h
  obtain ⟨hle, hone⟩ := of_checkNonEmpty hcheck
  split at h
  · obtain rfl := Except.ok.inj h
    exact hq
  · rename_i hnotOnce
    obtain rfl := Except.ok.inj h
    exact hq.modify ⟨hle, hone, by simpa using hnotOnce⟩

theorem wellFormed_of_expansion {direction : ExpansionDirection} {min max : UInt32}
    (h : expansion q direction min max = .ok p) (hq : q.WellFormed values) : p.WellFormed values := by
  obtain ⟨_, hcheck, hp⟩ := Result.bind_eq_ok.1 h
  obtain rfl := Except.ok.inj hp
  exact hq.modify (le_of_checkBounds hcheck)

theorem wellFormed_of_filterNGrams {operation : PositionOperation} {min max : UInt32}
    (h : filterNGrams q operation min max = .ok p) (hq : q.WellFormed values) : p.WellFormed values := by
  obtain ⟨_, hcheck, hp⟩ := Result.bind_eq_ok.1 h
  obtain rfl := Except.ok.inj hp
  exact hq.modify (le_of_checkBounds hcheck)

theorem wellFormed_positionFilter {producer filter : Pattern} {test : PositionTest}
    (hproducer : producer.WellFormed values) (hfilter : filter.WellFormed values) (htest : test.Sound) :
    (positionFilter producer filter test).WellFormed values := by
  refine .node htest ?_
  intro r hr
  rcases List.mem_pair.1 hr with rfl | rfl
  · exact hproducer
  · exact hfilter

theorem wellFormed_of_capture {name : String} (h : capture q name = .ok p) (hq : q.WellFormed values) :
    p.WellFormed values := by
  unfold capture at h
  split at h
  · simp at h
  · rename_i hname
    obtain rfl := Except.ok.inj h
    exact hq.modify (by simpa [Modifier.Sound] using hname)

theorem wellFormed_constrained (hq : q.WellFormed values) (constraint : Filter) :
    (constrained q constraint).WellFormed values := hq.modify trivial

theorem wellFormed_edge (hq : q.WellFormed values) (trailing : Bool) : (edge q trailing).WellFormed values :=
  hq.modify trivial

theorem wellFormed_of_fixedSpan {start stop : UInt32} (h : fixedSpan start stop = .ok p) :
    p.WellFormed values := by
  unfold fixedSpan at h
  split at h
  · simp at h
  · rename_i hle
    obtain rfl := Except.ok.inj h
    exact .leaf (by simpa [Pattern.NodeSound] using hle) rfl

theorem wellFormed_of_tags {name : String} {attributes : NameMap AttributeValue} {adjust : TagAdjust}
    {capture : Option String} (h : tags name attributes adjust capture = .ok p)
    (hattributes : ∀ e ∈ attributes.entries, e.2.Sound ∧ values e.2) : p.WellFormed values := by
  unfold tags at h
  split at h
  · simp at h
  · rename_i hname
    obtain rfl := Except.ok.inj h
    exact .leaf
      ⟨by simpa using hname, hattributes, RelationOperator.nonEmpty?_ne_some_empty _⟩ rfl

theorem wellFormed_relationTarget {head : RelationHead} (hhead : head.Sound) (hq : q.WellFormed values) :
    (relationTarget head q).WellFormed values :=
  .node hhead (by simpa [relationTarget, Pattern.children] using hq)

theorem wellFormed_of_relationMatch {parent : Pattern} {targets : List (RelationHead × Pattern)}
    (h : relationMatch parent targets = .ok p) (hparent : parent.WellFormed values)
    (htargets : ∀ t ∈ targets, t.1.Sound ∧ t.2.WellFormed values) : p.WellFormed values := by
  unfold relationMatch at h
  split at h
  · simp at h
  · rename_i hne
    split at h
    · simp at h
    · rename_i hroot
      obtain rfl := Except.ok.inj h
      refine .node ⟨by simpa using hne, ?_⟩ ?_
      · intro t ht
        refine ⟨(htargets t ht).1, fun e => hroot ?_⟩
        exact List.any_eq_true.2 ⟨t, ht, by simp [RelationOperator.isRoot, e]⟩
      · intro r hr
        rcases List.mem_cons.1 hr with rfl | hr
        · exact hparent
        · obtain ⟨t, ht, rfl⟩ := List.mem_map.1 hr
          exact (htargets t ht).2

theorem wellFormed_of_rootRelations {targets : List (RelationHead × Pattern)}
    (h : rootRelations targets = .ok p) (htargets : ∀ t ∈ targets, t.1.Sound ∧ t.2.WellFormed values) :
    p.WellFormed values := by
  unfold rootRelations at h
  split at h
  · simp at h
  · rename_i hne
    split at h
    · simp at h
    · rename_i hroot
      obtain rfl := Except.ok.inj h
      refine .node ⟨by simpa using hne, ?_⟩ ?_
      · intro t ht
        have fits := List.any_eq_false.1 (Bool.not_eq_true _ ▸ hroot) t ht
        exact ⟨(htargets t ht).1, by simpa [RelationOperator.isRoot] using fits⟩
      · intro r hr
        obtain ⟨t, ht, rfl⟩ := List.mem_map.1 hr
        exact (htargets t ht).2

theorem wellFormed_of_version {name : String} (h : version q name = .ok p) (hq : q.WellFormed values) :
    p.WellFormed values := by
  unfold version at h
  split at h
  · simp at h
  · rename_i hname
    obtain rfl := Except.ok.inj h
    exact hq.modify (by simpa [Modifier.Sound] using hname)

theorem wellFormed_of_call {name : String} {arguments : List (Argument Pattern)}
    (h : call name arguments = .ok p)
    (harguments : ∀ a ∈ arguments, a.Sound ∧ ∀ q, a.pattern? = some q → q.WellFormed values) :
    p.WellFormed values := by
  unfold call at h
  split at h
  · simp at h
  · rename_i hname
    obtain rfl := Except.ok.inj h
    refine .node ⟨by simpa using hname, fun a ha => (harguments a ha).1⟩ ?_
    intro r hr
    obtain ⟨a, ha, hr⟩ := List.mem_filterMap.1 hr
    exact (harguments a ha).2 r hr

theorem wellFormed_settings (hq : q.WellFormed values) (given : NameMap String) :
    (settings q given).WellFormed values := hq.modify trivial

end Build

/-! ### Simplification -/

namespace Pattern

variable {values : AttributeValue → Prop} {p q : Pattern}

theorem wellFormed_anyNGram : anyNGram.WellFormed values := .leaf ⟨by decide, by decide⟩ rfl

/-- A simpler node is built without the checks of the builders; it passes them all the same. -/
theorem WellFormed.simpler? (hq : q.WellFormed values) (h : q.simpler? = some p) : p.WellFormed values := by
  unfold Pattern.simpler? at h
  split at h
  · simp only [TokenTest.simplerRegex?] at h
    split at h
    · obtain rfl := Option.some.inj h
      exact .leaf trivial rfl
    · split at h
      · simp at h
      · obtain rfl := Option.some.inj h
        exact .leaf trivial rfl
  · obtain rfl := Option.some.inj h
    exact (hq.child List.mem_cons_self).child List.mem_cons_self
  · obtain rfl := Option.some.inj h
    exact hq.child List.mem_cons_self
  · obtain rfl := Option.some.inj h
    have hrepeated := hq.sound
    exact .leaf ⟨hrepeated.1, hrepeated.2.1⟩ rfl
  · simp at h

theorem WellFormed.simplifyWithin {fuel : Nat} (hq : q.WellFormed values) :
    (q.simplifyWithin fuel).WellFormed values := by
  induction fuel generalizing q with
  | zero => exact hq
  | succ fuel ih =>
      rw [Pattern.simplifyWithin]
      split
      · rename_i simpler hsimpler
        exact ih (hq.simpler? hsimpler)
      · exact hq

theorem WellFormed.fillDefault (hq : q.WellFormed values) : q.fillDefault.WellFormed values := by
  unfold Pattern.fillDefault
  split
  · exact wellFormed_anyNGram
  · exact wellFormed_anyNGram.modify hq.sound
  · exact hq

end Pattern

end CorpusSearch
