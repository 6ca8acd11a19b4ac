import CorpusSearch.Proofs.CatalogNames
import CorpusSearch.Proofs.IntegerTexts
import Mathlib.Order.Compare

/-!
The two ways to ask for equal values. A filter of its own compares what tokens hold as texts; a comparison of the same
values as operands compares them as integers where both are. Main statement: the two come to the same, for every hit
and in every context, except for one integer that is written in two ways: the filter of its own is then false and the
comparison true.
-/

set_option autoImplicit false

namespace CorpusSearch

/-! ### Values -/

namespace ConstraintValue

def ofToken : Option String → ConstraintValue
  | some v => text v
  | none => undefined

def sameInteger (v w : String) : Bool :=
  match (text v).number?, (text w).number? with
  | some m, some n => m = n
  | _, _ => false

/-- Whether two tokens hold the same integer, but not the same text for a sensitivity. -/
def writtenDifferently (s : Sensitivity) : Option String → Option String → Bool
  | some v, some w => sameInteger v w && s.desensitize v ≠ s.desensitize w
  | _, _ => false

variable {s : Sensitivity} {v w : String} {x y : Option String}

private theorem number?_desensitize {n : Int} (s : Sensitivity) (h : (text v).number? = some n) :
    (text (s.desensitize v)).number? = some n := by
  show Text.integer? (Text.trim (s.desensitize v).toList) = some n
  rw [Sensitivity.desensitize, String.toList_ofList]
  exact Text.integer?_desensitizeChars s h

private theorem eq_of_desensitize_eq {m n : Int} (h : s.desensitize v = s.desensitize w)
    (hm : (text v).number? = some m) (hn : (text w).number? = some n) : m = n := by
  have hm := number?_desensitize s hm
  rw [h, number?_desensitize s hn] at hm
  exact (Option.some.inj hm).symm

private theorem holds_equal {α : Type} [Ord α] [Std.LawfulEqOrd α] (a b : α) [Decidable (a = b)] :
    Comparison.equal.holds (compare a b) = decide (a = b) := by
  simp only [Comparison.holds, Std.compare_eq_iff_eq]

private theorem compareBy_equal_text (s : Sensitivity) (v w : String) : (text v).compareBy .equal s (text w) =
    truth (sameInteger v w || s.desensitize v = s.desensitize w) := by
  unfold compareBy order? sameInteger
  cases hm : (text v).number? with
  | none => simp only [text?, holds_equal, Bool.false_or]
  | some m =>
      cases hn : (text w).number? with
      | none => simp only [text?, holds_equal, Bool.false_or]
      | some n =>
          have htexts : s.desensitize v = s.desensitize w → m = n := fun h => eq_of_desensitize_eq h hm hn
          by_cases hnumbers : m = n
          · simp only [holds_equal, decide_eq_true hnumbers, Bool.true_or]
          · simp only [holds_equal, decide_eq_false hnumbers, decide_eq_false (mt htexts hnumbers), Bool.or_false]

private theorem compareBy_equal (s : Sensitivity) (x y : Option String) : (ofToken x).compareBy .equal s (ofToken y) =
    if writtenDifferently s x y then truth true else Constraint.sameText s x y := by
  rcases x with _ | v
  · rfl
  · rcases y with _ | w
    · unfold compareBy order? ofToken
      cases (text v).number? <;> rfl
    · rw [ofToken, ofToken, compareBy_equal_text, writtenDifferently, Constraint.sameText]
      by_cases htexts : s.desensitize v = s.desensitize w
      · simp [htexts]
      · cases sameInteger v w <;> simp [htexts]

private theorem sameText_of_writtenDifferently (h : writtenDifferently s x y = true) :
    Constraint.sameText s x y = truth false := by
  rcases x with _ | v
  · cases h
  · rcases y with _ | w
    · cases h
    · have htexts : s.desensitize v ≠ s.desensitize w := of_decide_eq_true (Bool.and_eq_true_iff.1 h).2
      rw [Constraint.sameText, decide_eq_false htexts]

end ConstraintValue

/-! ### Filters -/

namespace Filter

open ConstraintValue (ofToken writtenDifferently)

variable (c : Context) (predicates : NameMap Predicate) (view : HitView)

/-- What a filter comes to for a hit: the layers that it reads and its value, or why it has no meaning. -/
def valueIn (f : Filter) : Result (NameSet × ConstraintValue) := do
  let reading ← Constraint.ofFilter c predicates f
  return (reading.layers, reading.constraint.value view)

/-- A value that is read from one layer; it does not exist if the field has no such layer. -/
def readFrom (layer : String) (value : ConstraintValue) : Result (NameSet × ConstraintValue) := do
  let layers ← Constraint.readLayer c layer
  return (layers, value)

variable (a b layer v : String) (s : Option Sensitivity)

private theorem value_tokenValue :
    (Constraint.tokenValue a layer).value view = ofToken (view.captureValue? a layer) := by
  rw [Constraint.value]
  cases view.captureValue? a layer <;> rfl

private theorem value_compare (right : Constraint) (requested : Sensitivity) :
    (Constraint.compare (.tokenValue a layer) right .equal requested).value view =
      (ofToken (view.captureValue? a layer)).compareBy .equal requested (right.value view) := by
  rw [Constraint.value, value_tokenValue]

private theorem valueIn_tokenEquals : valueIn c predicates view (.tokenEquals a layer v s) =
    readFrom c layer (Constraint.sameText (s.getD c.requested) (view.captureValue? a layer) (some v)) := by
  simp only [valueIn, readFrom, Constraint.ofFilter, bind_assoc, pure_bind, Constraint.value]

private theorem valueIn_sameTokens : valueIn c predicates view (.sameTokens a b layer s) =
    readFrom c layer
      (Constraint.sameText (s.getD c.requested) (view.captureValue? a layer) (view.captureValue? b layer)) := by
  simp only [valueIn, readFrom, Constraint.ofFilter, bind_assoc, pure_bind, Constraint.value]

private theorem valueIn_equals_text : valueIn c predicates view (.equals (.tokenValue a layer) (.text v) s) =
    readFrom c layer
      ((ofToken (view.captureValue? a layer)).compareBy .equal (s.getD c.requested) (ofToken (some v))) := by
  simp only [valueIn, readFrom, Constraint.ofFilter, bind_assoc, pure_bind, Constraint.joinReading, value_compare,
    NameMap.union_empty]
  rfl

private theorem valueIn_equals_tokenValue :
    valueIn c predicates view (.equals (.tokenValue a layer) (.tokenValue b layer) s) =
    readFrom c layer ((ofToken (view.captureValue? a layer)).compareBy .equal (s.getD c.requested)
      (ofToken (view.captureValue? b layer))) := by
  simp only [valueIn, readFrom, Constraint.ofFilter, bind_assoc, pure_bind, Constraint.joinReading, value_compare,
    value_tokenValue]
  cases Constraint.readLayer c layer with
  | error e => rfl
  | ok layers => simp only [Result.ok_bind, NameMap.union_self]

/-- Two filters come to the same for a hit; but where the tokens differ in how they write an integer, the first one is
false and the second one true. -/
def AgreeUnless (differ : Bool) (layer : String) (special general : Filter) : Prop :=
  if differ then
    special.valueIn c predicates view = readFrom c layer (.truth false) ∧
      general.valueIn c predicates view = readFrom c layer (.truth true)
  else special.valueIn c predicates view = general.valueIn c predicates view

private theorem agreeUnless_writtenDifferently {layer : String} {special general : Filter} {requested : Sensitivity}
    {x y : Option String}
    (hspecial : special.valueIn c predicates view = readFrom c layer (Constraint.sameText requested x y))
    (hgeneral : general.valueIn c predicates view =
      readFrom c layer ((ofToken x).compareBy .equal requested (ofToken y))) :
    AgreeUnless c predicates view (writtenDifferently requested x y) layer special general := by
  rw [ConstraintValue.compareBy_equal] at hgeneral
  unfold AgreeUnless
  by_cases hdiffer : writtenDifferently requested x y = true
  · rw [ConstraintValue.sameText_of_writtenDifferently hdiffer] at hspecial
    rw [if_pos hdiffer] at hgeneral
    rw [if_pos hdiffer]
    exact ⟨hspecial, hgeneral⟩
  · rw [if_neg hdiffer] at hgeneral
    rw [if_neg hdiffer, hspecial, hgeneral]

/-- The value of a token is compared with a text, or with the value of another token, alike in both ways, unless both
write the same integer, and for the sensitivity do so differently. -/
theorem equality_filters_agree (c : Context) (predicates : NameMap Predicate) (view : HitView)
    (a b layer v : String) (s : Option Sensitivity) :
    let requested := s.getD c.requested
    let x := view.captureValue? a layer
    let y := view.captureValue? b layer
    AgreeUnless c predicates view (writtenDifferently requested x (some v)) layer (.tokenEquals a layer v s)
        (.equals (.tokenValue a layer) (.text v) s) ∧
      AgreeUnless c predicates view (writtenDifferently requested x y) layer (.sameTokens a b layer s)
        (.equals (.tokenValue a layer) (.tokenValue b layer) s) := by
  constructor
  · exact agreeUnless_writtenDifferently c predicates view (valueIn_tokenEquals c predicates view a layer v s)
      (valueIn_equals_text c predicates view a layer v s)
  · exact agreeUnless_writtenDifferently c predicates view (valueIn_sameTokens c predicates view a b layer s)
      (valueIn_equals_tokenValue c predicates view a b layer s)

def paddedView : HitView :=
  ⟨(NameMap.empty.insert "A" (.span ⟨0, 1⟩)).insert "B" (.span ⟨1, 2⟩), ⟨fun _ i => ["03", "3"][i.toNat]?⟩,
    NameMap.empty⟩

theorem equality_filters_differ :
    let value := fun f : Filter => (f.valueIn Planner.lemmaContext NameMap.empty paddedView).map (·.2)
    value (.tokenEquals "A" "lemma" "3" none) = .ok (.truth false) ∧
      value (.equals (.tokenValue "A" "lemma") (.text "3") none) = .ok (.truth true) ∧
      value (.sameTokens "A" "B" "lemma" none) = .ok (.truth false) ∧
      value (.equals (.tokenValue "A" "lemma") (.tokenValue "B" "lemma") none) = .ok (.truth true) := by
  decide +kernel

end Filter

end CorpusSearch
