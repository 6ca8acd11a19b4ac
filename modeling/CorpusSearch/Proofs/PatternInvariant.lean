import CorpusSearch.Proofs.PatternReading

/-!
Patterns that come out of this library: built from parts, read from JSON, simplified, or with a placeholder
filled in, in any order and number. Main statement: each node of such a pattern is sound, whichever of the ways
made it; only an attribute range that is given to an element as it is may end before it starts.
-/

set_option autoImplicit false

namespace CorpusSearch

/-! ### All nodes of a pattern -/

namespace Pattern

private theorem sizeAll_append (ps qs : List Pattern) : sizeAll (ps ++ qs) = sizeAll ps + sizeAll qs := by
  induction ps with
  | nil => simp [sizeAll]
  | cons p ps ih => simp [sizeAll, ih, Nat.add_assoc]

private theorem sizeTargets_eq (targets : List (RelationHead × Pattern)) :
    sizeTargets targets = sizeAll (targets.map (·.2)) := by
  induction targets with
  | nil => rfl
  | cons t targets ih => simp [sizeTargets, sizeAll, ih]

private theorem sizeArguments_eq (arguments : List (Argument Pattern)) :
    sizeArguments arguments = sizeAll (arguments.filterMap Argument.pattern?) := by
  induction arguments with
  | nil => rfl
  | cons a arguments ih =>
      cases a <;> simp [sizeArguments, sizeAll, Argument.pattern?, List.filterMap_cons, ih]

theorem size_eq (p : Pattern) : p.size = sizeAll p.children + 1 := by
  cases p <;> simp [size, children, sizeAll, sizeTargets_eq, sizeArguments_eq]

private theorem size_le_sizeAll {x : Pattern} {xs : List Pattern} (h : x ∈ xs) : x.size ≤ sizeAll xs := by
  induction xs with
  | nil => cases h
  | cons y ys ih =>
      rw [sizeAll]
      rcases List.mem_cons.1 h with rfl | h
      · exact Nat.le_add_right _ _
      · exact Nat.le_add_left_of_le (ih h)

theorem size_lt_of_mem_children (x : Pattern) : ∀ y ∈ x.children, y.size < x.size := by
  intro y hy
  rw [size_eq x]
  exact Nat.lt_succ_of_le (size_le_sizeAll hy)

/-- What holds of a node if it holds of its children, holds of all patterns. -/
theorem children_induction {P : Pattern → Prop} (step : ∀ p, (∀ q ∈ p.children, P q) → P p) (p : Pattern) : P p := by
  induction hsize : p.size using Nat.strong_induction_on generalizing p with
  | h size ih => exact step p fun q hq => ih q.size (hsize ▸ size_lt_of_mem_children p q hq) q rfl

theorem walkStack_eq_flatMap {fuel : Nat} {stack : List Pattern} (h : sizeAll stack ≤ fuel) :
    walkStack fuel stack = stack.flatMap walk := by
  induction fuel using Nat.strongRecOn generalizing stack with
  | ind fuel ih =>
      cases stack with
      | nil => cases fuel <;> rfl
      | cons p rest =>
          rw [sizeAll, size_eq] at h
          cases fuel with
          | zero => omega
          | succ fuel =>
              have hrest : walkStack fuel (p.children ++ rest) = (p.children ++ rest).flatMap walk :=
                ih fuel (Nat.lt_succ_self fuel) (by rw [sizeAll_append]; omega)
              have hfirst : walkStack (sizeAll p.children) (p.children ++ []) = (p.children ++ []).flatMap walk :=
                ih _ (by omega) (by rw [List.append_nil])
              rw [walkStack, hrest, List.flatMap_cons, List.flatMap_append, walk, size_eq, walkStack, hfirst,
                List.append_nil, List.cons_append]

/-- A node is visited before what is below it. -/
theorem walk_eq (p : Pattern) : p.walk = p :: p.children.flatMap walk := by
  rw [walk, size_eq, walkStack, List.append_nil, walkStack_eq_flatMap (Nat.le_refl _)]

end Pattern

/-! ### What can be made -/

/-- Operators that are built, read or taken for a type, with any source versions set afterwards. -/
inductive RelationOperator.Made : RelationOperator → Prop
  | build {type : String} {direction : RelationDirection} {targetVersion : Option String}
      {negated alignment isOptional : Bool} {o : RelationOperator}
      (h : build type direction targetVersion negated alignment isOptional = .ok o) : Made o
  | text {text : String} {o : RelationOperator} (h : ofText text = .ok o) : Made o
  | type (type : String) : Made (ofType type)
  | sourceVersion {o : RelationOperator} (ho : Made o) (version : Option String) :
      Made (o.withSourceVersion version)

inductive RelationHead.Made : RelationHead → Prop
  | build {o : RelationOperator} {mode : SpanMode} {capture : Option String} {head : RelationHead}
      (ho : o.Made) (h : Build.relationHead o mode capture = .ok head) : Made head

/--
Patterns that come out of this library, with elements whose attribute values are such as `given` says. An element takes
any values; those that `attributeRange` makes are ordered.
-/
inductive Pattern.Made (given : AttributeValue → Prop) : Pattern → Prop
  | term (test : TokenTest) : Made given (Build.term test)
  | regex (test : TokenTest) : Made given (Build.regex test)
  | anyToken {min max : UInt32} {p : Pattern} (h : Build.anyToken min max = .ok p) : Made given p
  | anyNGram : Made given anyNGram
  | join {c : Connective} {clauses : List Pattern} {p : Pattern} (hclauses : ∀ q ∈ clauses, Made given q)
      (h : Build.join c clauses = .ok p) : Made given p
  | not {q p : Pattern} (hq : Made given q) (h : Build.not q = .ok p) : Made given p
  | repetition {q p : Pattern} {min max : UInt32} (hq : Made given q)
      (h : Build.repetition q min max = .ok p) : Made given p
  | expansion {q p : Pattern} {direction : ExpansionDirection} {min max : UInt32} (hq : Made given q)
      (h : Build.expansion q direction min max = .ok p) : Made given p
  | positionFilter {producer filter : Pattern} {test : PositionTest} (hproducer : Made given producer)
      (hfilter : Made given filter) (htest : test.Sound) : Made given (Build.positionFilter producer filter test)
  | filterNGrams {q p : Pattern} {operation : PositionOperation} {min max : UInt32} (hq : Made given q)
      (h : Build.filterNGrams q operation min max = .ok p) : Made given p
  | capture {q p : Pattern} {name : String} (hq : Made given q) (h : Build.capture q name = .ok p) : Made given p
  | constrained {q : Pattern} (hq : Made given q) (constraint : Filter) :
      Made given (Build.constrained q constraint)
  | edge {q : Pattern} (hq : Made given q) (trailing : Bool) : Made given (Build.edge q trailing)
  | fixedSpan {start stop : UInt32} {p : Pattern} (h : Build.fixedSpan start stop = .ok p) : Made given p
  | tags {name : String} {attributes : NameMap AttributeValue} {adjust : TagAdjust}
      {capture : Option String} {p : Pattern} (hattributes : ∀ e ∈ attributes.entries, e.2.Sound ∧ given e.2)
      (h : Build.tags name attributes adjust capture = .ok p) : Made given p
  | relationTarget {head : RelationHead} {q : Pattern} (hhead : head.Made) (hq : Made given q) :
      Made given (Build.relationTarget head q)
  | relationMatch {parent p : Pattern} {targets : List (RelationHead × Pattern)}
      (hparent : Made given parent) (hheads : ∀ t ∈ targets, t.1.Made) (htargets : ∀ t ∈ targets, Made given t.2)
      (h : Build.relationMatch parent targets = .ok p) : Made given p
  | rootRelations {p : Pattern} {targets : List (RelationHead × Pattern)}
      (hheads : ∀ t ∈ targets, t.1.Made) (htargets : ∀ t ∈ targets, Made given t.2)
      (h : Build.rootRelations targets = .ok p) : Made given p
  | defaultValue : Made given .defaultValue
  | version {q p : Pattern} {name : String} (hq : Made given q) (h : Build.version q name = .ok p) : Made given p
  | call {name : String} {arguments : List (Argument Pattern)} {p : Pattern}
      (hnumbers : ∀ a ∈ arguments, a.Sound)
      (harguments : ∀ a ∈ arguments, ∀ q, a.pattern? = some q → Made given q)
      (h : Build.call name arguments = .ok p) : Made given p
  | settings {q : Pattern} (hq : Made given q) (values : NameMap String) : Made given (Build.settings q values)
  | json {v : Json} {p : Pattern} (h : ofJson v = .ok p) : Made given p
  | simpler {q p : Pattern} (hq : Made given q) (h : q.simpler? = some p) : Made given p
  | fillDefault {q : Pattern} (hq : Made given q) : Made given q.fillDefault

theorem RelationOperator.Made.sound {o : RelationOperator} (h : o.Made) : o.Sound := by
  induction h with
  | build h => exact sound_of_build h
  | text h => exact sound_of_ofText h
  | type type => exact sound_ofType type
  | sourceVersion _ version ih => exact ih.withSourceVersion version

theorem RelationHead.Made.sound {head : RelationHead} (h : head.Made) : head.Sound := by
  cases h with
  | build ho h => exact Build.sound_of_relationHead h ho.sound

namespace Pattern

variable {given : AttributeValue → Prop}

theorem wellFormed_of_made {p : Pattern} (h : p.Made given) : p.WellFormed fun v => v.Ordered ∨ given v := by
  induction h with
  | term test => exact Build.wellFormed_term test
  | regex test => exact Build.wellFormed_regex test
  | anyToken h => exact Build.wellFormed_of_anyToken h
  | anyNGram => exact wellFormed_anyNGram
  | join _ h ih => exact Build.wellFormed_of_join h ih
  | not _ h ih => exact Build.wellFormed_of_not h ih
  | repetition _ h ih => exact Build.wellFormed_of_repetition h ih
  | expansion _ h ih => exact Build.wellFormed_of_expansion h ih
  | positionFilter _ _ htest ihproducer ihfilter =>
      exact Build.wellFormed_positionFilter ihproducer ihfilter htest
  | filterNGrams _ h ih => exact Build.wellFormed_of_filterNGrams h ih
  | capture _ h ih => exact Build.wellFormed_of_capture h ih
  | constrained _ constraint ih => exact Build.wellFormed_constrained ih constraint
  | edge _ trailing ih => exact Build.wellFormed_edge ih trailing
  | fixedSpan h => exact Build.wellFormed_of_fixedSpan h
  | tags hattributes h =>
      exact Build.wellFormed_of_tags h fun e he => (hattributes e he).imp_right .inr
  | relationTarget hhead _ ih => exact Build.wellFormed_relationTarget hhead.sound ih
  | relationMatch _ hheads _ h ihparent ihtargets =>
      exact Build.wellFormed_of_relationMatch h ihparent
        fun t ht => ⟨(hheads t ht).sound, ihtargets t ht⟩
  | rootRelations hheads _ h ihtargets =>
      exact Build.wellFormed_of_rootRelations h fun t ht => ⟨(hheads t ht).sound, ihtargets t ht⟩
  | defaultValue => exact .leaf trivial rfl
  | version _ h ih => exact Build.wellFormed_of_version h ih
  | call hnumbers _ h ih => exact Build.wellFormed_of_call h fun a ha => ⟨hnumbers a ha, ih a ha⟩
  | settings _ values ih => exact Build.wellFormed_settings ih values
  | json h => exact (wellFormed_of_ofJson h).imp fun v hv => .inl hv
  | simpler _ h ih => exact ih.simpler? h
  | fillDefault _ ih => exact ih.fillDefault

/-- With ordered attribute values, all values are ordered. -/
theorem wellFormed_of_made_ordered {p : Pattern} (h : p.Made AttributeValue.Ordered) :
    p.WellFormed AttributeValue.Ordered :=
  (wellFormed_of_made h).imp fun _ hv => hv.elim id id

end Pattern

end CorpusSearch
