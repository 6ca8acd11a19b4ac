import CorpusSearch.Plan.OfPattern
import CorpusSearch.Proofs.PlanningSteps
import CorpusSearch.Relations.Function

/-!
What functions receive for the arguments of calls. Each argument is planned in the type that its place declares, and
places that are left open take their default. Main statement: a function receives values of the types it declares, in
every place what was given there or else the default, if its defaults are of these types; those of the relation
functions are.
-/

set_option autoImplicit false

namespace CorpusSearch

open Planning (Yields)

def Argument.type {α : Type} : Argument α → ArgumentType
  | .pattern _ => .query
  | .text _ => .text
  | .number _ => .number

def DefaultArgument.type : DefaultArgument → ArgumentType
  | anyNGram => .query
  | text _ => .text
  | number _ => .number

@[simp] theorem DefaultArgument.type_resolve (d : DefaultArgument) (c : Context) : (d.resolve c).type = d.type := by
  cases d <;> rfl

/-! ### Open places -/

namespace QueryFunction

variable {f : QueryFunction} {c : Context}

theorem fillArguments_succ (f : QueryFunction) (c : Context) (count index : Nat)
    (given : List (Option (Argument Plan))) :
    f.fillArguments c (count + 1) index given = (do
      let first ← (given.head?.join.map Except.ok).getD (f.defaultAt c index)
      let rest ← f.fillArguments c count (index + 1) given.tail
      return first :: rest) := by
  rw [fillArguments]
  cases given.head?.join <;> rfl

theorem getElem?_of_fillArguments {count index : Nat} {given : List (Option (Argument Plan))}
    {filled : List (Argument Plan)} (h : f.fillArguments c count index given = .ok filled) {i : Nat} (hi : i < count) :
    ∃ a, filled[i]? = some a ∧
      (given[i]?.join = some a ∨ given[i]?.join = none ∧ f.defaultAt c (index + i) = .ok a) := by
  induction count generalizing index given filled i with
  | zero => exact absurd hi (Nat.not_lt_zero i)
  | succ count ih =>
      rw [fillArguments_succ] at h
      obtain ⟨first, hfirst, h⟩ := Result.bind_eq_ok.1 h
      obtain ⟨rest, hrest, h⟩ := Result.bind_eq_ok.1 h
      obtain rfl := Except.ok.inj h
      cases i with
      | zero =>
          refine ⟨first, rfl, ?_⟩
          rw [← List.head?_eq_getElem?]
          cases hhead : given.head?.join with
          | none =>
              rw [hhead] at hfirst
              exact .inr ⟨rfl, hfirst⟩
          | some a =>
              rw [hhead] at hfirst
              exact .inl (congrArg some (Except.ok.inj hfirst))
      | succ i =>
          have hplace := ih hrest (Nat.lt_of_succ_lt_succ hi)
          rw [List.getElem?_tail] at hplace
          rw [List.getElem?_cons_succ, ← Nat.add_assoc, Nat.add_right_comm]
          exact hplace

theorem length_of_fillArguments {count index : Nat} {given : List (Option (Argument Plan))}
    {filled : List (Argument Plan)} (h : f.fillArguments c count index given = .ok filled) : filled.length = count := by
  induction count generalizing index given filled with
  | zero =>
      obtain rfl := Except.ok.inj h
      rfl
  | succ count ih =>
      rw [fillArguments_succ] at h
      obtain ⟨first, _, h⟩ := Result.bind_eq_ok.1 h
      obtain ⟨rest, hrest, h⟩ := Result.bind_eq_ok.1 h
      obtain rfl := Except.ok.inj h
      rw [List.length_cons, ih hrest]

/-- How many values a function receives when a number of arguments is given. -/
def received (f : QueryFunction) (given : Nat) : Nat :=
  if f.variadic then max given (f.types.length - 1) else f.types.length

theorem received_of_not_variadic (h : f.variadic = false) (given : Nat) : f.received given = f.types.length := by
  rw [received, h, if_neg Bool.false_ne_true]

theorem received_received (f : QueryFunction) (given : Nat) : f.received (f.received given) = f.received given := by
  unfold received
  split
  · exact Nat.max_eq_left (Nat.le_max_right _ _)
  · rfl

/-- A place of a type among the values that a function receives when a number of arguments is given. -/
structure HasPlace (f : QueryFunction) (given index : Nat) (type : ArgumentType) : Prop where
  lt : index < f.received given
  type_eq : f.typeAt? index = some type

theorem HasPlace.of_types (hvariadic : f.variadic = false) {index : Nat} {type : ArgumentType}
    (h : f.types[index]? = some type) (given : Nat) : f.HasPlace given index type := by
  refine ⟨?_, ?_⟩
  · rw [received_of_not_variadic hvariadic]
    exact (List.getElem?_eq_some_iff.1 h).1
  · rw [typeAt?, h]

theorem fillArguments_of_completeArguments {given : List (Option (Argument Plan))} {complete : List (Argument Plan)}
    (h : f.completeArguments c given = .ok complete) :
    given.length ≤ f.received given.length ∧
      f.fillArguments c (f.received given.length) 0 given = .ok complete := by
  unfold completeArguments at h
  unfold received
  split at h
  · rename_i hvariadic
    rw [if_pos hvariadic]
    exact ⟨Nat.le_max_left _ _, h⟩
  · rename_i hvariadic
    rw [if_neg hvariadic]
    split at h
    · cases h
    · rename_i hlength
      exact ⟨Nat.not_lt.1 hlength, h⟩

/-- Every value that a function receives is given, or a default. -/
theorem given_or_default_of_completeArguments {given : List (Option (Argument Plan))} {complete : List (Argument Plan)}
    (h : f.completeArguments c given = .ok complete) {a : Argument Plan} (ha : a ∈ complete) :
    some a ∈ given ∨ ∃ i, f.defaultAt c i = .ok a := by
  obtain ⟨-, hfill⟩ := fillArguments_of_completeArguments h
  obtain ⟨i, hi⟩ := List.mem_iff_getElem?.1 ha
  have hlt : i < f.received given.length := by
    rw [← length_of_fillArguments hfill]
    exact (List.getElem?_eq_some_iff.1 hi).1
  obtain ⟨b, hb, hplace⟩ := getElem?_of_fillArguments hfill hlt
  obtain rfl := Option.some.inj (hi.symm.trans hb)
  rcases hplace with hgiven | ⟨-, hdefault⟩
  · exact .inl (List.mem_of_getElem? (Option.join_eq_some_iff.1 hgiven))
  · exact .inr ⟨_, hdefault⟩

def TypesDefaults (f : QueryFunction) : Prop :=
  ∀ i d, f.defaults[i]? = some (some d) → f.typeAt? i = some d.type

private theorem TypesDefaults.of_defaultAt (h : f.TypesDefaults) {i : Nat} {a : Argument Plan}
    (ha : f.defaultAt c i = .ok a) : f.typeAt? i = some a.type := by
  unfold defaultAt at ha
  split at ha
  · rename_i d hd
    obtain rfl := Except.ok.inj ha
    rw [DefaultArgument.type_resolve]
    exact h i d (Option.join_eq_some_iff.1 hd)
  · cases ha

end QueryFunction

/-! ### Given arguments -/

/-- What a place of a type is given for an argument of a call; for a placeholder nothing. -/
inductive ArgumentGiven (planned : Pattern → Plan → Prop) :
    ArgumentType → Argument Pattern → Option (Argument Plan) → Prop
  | placeholder (type : ArgumentType) : ArgumentGiven planned type (.pattern .defaultValue) none
  | pattern {x : Pattern} {q : Plan} (hx : x ≠ .defaultValue) (hq : planned x q) :
      ArgumentGiven planned .query (.pattern x) (some (.pattern q))
  | text (value : String) : ArgumentGiven planned .text (.text value) (some (.text value))
  | number (n : Int) : ArgumentGiven planned .number (.number n) (some (.number n))
  | numberAsText (n : Int) : ArgumentGiven planned .text (.number n) (some (.text (toString n)))
  | textAsNumber {value : String} {n : Int} (h : Text.integer? (Text.trim value.toList) = some n) :
      ArgumentGiven planned .number (.text value) (some (.number n))

/-- What the places from `index` on are given for the arguments of a call. -/
inductive ArgumentsGiven (f : QueryFunction) (planned : Pattern → Plan → Prop) :
    Nat → List (Argument Pattern) → List (Option (Argument Plan)) → Prop
  | nil (index : Nat) : ArgumentsGiven f planned index [] []
  | cons {index : Nat} {type : ArgumentType} {a : Argument Pattern} {b : Option (Argument Plan)}
      {arguments : List (Argument Pattern)} {given : List (Option (Argument Plan))}
      (htype : f.typeAt? index = some type) (ha : ArgumentGiven planned type a b)
      (harguments : ArgumentsGiven f planned (index + 1) arguments given) :
      ArgumentsGiven f planned index (a :: arguments) (b :: given)

section Given

variable {planned : Pattern → Plan → Prop} {type : ArgumentType} {a : Argument Pattern} {b : Argument Plan}

theorem ArgumentGiven.type_eq (h : ArgumentGiven planned type a (some b)) : b.type = type := by
  cases h <;> rfl

private theorem ArgumentGiven.eq_none_iff {given : Option (Argument Plan)} (h : ArgumentGiven planned type a given) :
    given = none ↔ a = .pattern .defaultValue := by
  cases h with
  | placeholder type => simp
  | pattern hx hq => simpa using hx
  | _ => simp

namespace ArgumentsGiven

variable {f : QueryFunction} {index : Nat} {arguments : List (Argument Pattern)}
  {given : List (Option (Argument Plan))}

theorem length_eq (h : ArgumentsGiven f planned index arguments given) : given.length = arguments.length := by
  induction h with
  | nil index => rfl
  | cons _ _ _ ih => rw [List.length_cons, List.length_cons, ih]

theorem getElem? (h : ArgumentsGiven f planned index arguments given) {i : Nat} (ha : arguments[i]? = some a) :
    ∃ type b, f.typeAt? (index + i) = some type ∧ given[i]? = some b ∧ ArgumentGiven planned type a b := by
  induction h generalizing i with
  | nil index => cases ha
  | cons htype hfirst _ ih =>
      cases i with
      | zero =>
          obtain rfl := Option.some.inj ha
          exact ⟨_, _, htype, rfl, hfirst⟩
      | succ i =>
          obtain ⟨type, b, htype, hb, hgiven⟩ := ih ha
          rw [Nat.add_right_comm] at htype
          exact ⟨type, b, htype, hb, hgiven⟩

theorem getElem?_eq_none (h : ArgumentsGiven f planned index arguments given) {i : Nat} (ha : arguments[i]? = none) :
    given[i]? = none := by
  rw [List.getElem?_eq_none_iff, h.length_eq]
  exact List.getElem?_eq_none_iff.1 ha

end ArgumentsGiven

end Given

namespace Planner

variable {below : PlansBelow} {c : Context} {planned : Pattern → Plan → Prop}
  (hbelow : ∀ x, Yields (below c x) (planned x))

include hbelow

private theorem given_planArgument (function : String) (number : Nat) (expected : ArgumentType) (a : Argument Pattern) :
    Yields (planArgument below c function number expected a) (ArgumentGiven planned expected a) := by
  unfold planArgument
  split
  · exact .pure (.placeholder _)
  · rename_i x hx
    exact (hbelow x).bind fun q hq => .pure (.pattern (fun h => hx h) hq)
  · exact .pure (.text _)
  · exact .pure (.number _)
  · exact .pure (.numberAsText _)
  · split
    · rename_i n hn
      exact .pure (.textAsNumber hn)
    · exact .fail _
  · exact .fail _

theorem given_planArguments (f : QueryFunction) (function : String) (arguments : List (Argument Pattern)) :
    ∀ index, Yields (planArguments below c f function index arguments) (ArgumentsGiven f planned index arguments) := by
  induction arguments with
  | nil => exact fun index => .pure (.nil index)
  | cons a arguments ih =>
      intro index
      rw [planArguments]
      split
      · exact .fail _
      · rename_i expected htype
        refine (given_planArgument hbelow function (index + 1) expected a).bind fun b hb => ?_
        exact (ih (index + 1)).bind fun given hgiven => .pure (.cons htype hb hgiven)

end Planner

/-! ### Received values -/

/-- What a function receives for the arguments of a call, place by place. -/
structure Receives (f : QueryFunction) (c : Context) (planned : Pattern → Plan → Prop)
    (arguments : List (Argument Pattern)) (values : List (Argument Plan)) : Prop where
  length : values.length = f.received arguments.length
  /-- No argument of the call is dropped. -/
  length_le : arguments.length ≤ values.length
  type : ∀ (i : Nat) b, values[i]? = some b → f.typeAt? i = some b.type
  given : ∀ (i : Nat) a b, arguments[i]? = some a → a ≠ .pattern .defaultValue → values[i]? = some b →
    ArgumentGiven planned b.type a (some b)
  leftOpen : ∀ (i : Nat) b, arguments[i]?.getD (.pattern .defaultValue) = .pattern .defaultValue →
    values[i]? = some b → f.defaultAt c i = .ok b

section Received

variable {f : QueryFunction} {c : Context} {planned : Pattern → Plan → Prop} {arguments : List (Argument Pattern)}
  {given : List (Option (Argument Plan))} {complete : List (Argument Plan)}

theorem ArgumentsGiven.place (hgiven : ArgumentsGiven f planned 0 arguments given)
    (hcomplete : f.completeArguments c given = .ok complete) {i : Nat} {b : Argument Plan}
    (hb : complete[i]? = some b) :
    (∃ a type, arguments[i]? = some a ∧ f.typeAt? i = some type ∧ ArgumentGiven planned type a (some b)) ∨
      arguments[i]?.getD (.pattern .defaultValue) = .pattern .defaultValue ∧ f.defaultAt c i = .ok b := by
  obtain ⟨-, hfill⟩ := QueryFunction.fillArguments_of_completeArguments hcomplete
  have hi : i < f.received given.length := by
    rw [← QueryFunction.length_of_fillArguments hfill]
    exact (List.getElem?_eq_some_iff.1 hb).1
  obtain ⟨b', hb', hplace⟩ := QueryFunction.getElem?_of_fillArguments hfill hi
  obtain rfl := Option.some.inj (hb.symm.trans hb')
  rw [Nat.zero_add] at hplace
  cases ha : arguments[i]? with
  | none =>
      rw [hgiven.getElem?_eq_none ha] at hplace
      rcases hplace with hplace | ⟨-, hdefault⟩
      · cases hplace
      · exact .inr ⟨rfl, hdefault⟩
  | some a =>
      obtain ⟨type, g, htype, hg, hstands⟩ := hgiven.getElem? ha
      rw [Nat.zero_add] at htype
      rw [hg] at hplace
      rcases hplace with hplace | ⟨hplace, hdefault⟩
      · obtain rfl : g = some b := hplace
        exact .inl ⟨a, type, rfl, htype, hstands⟩
      · obtain rfl : g = none := hplace
        exact .inr ⟨hstands.eq_none_iff.1 rfl, hdefault⟩

theorem ArgumentsGiven.receives (hdefaults : f.TypesDefaults) (hgiven : ArgumentsGiven f planned 0 arguments given)
    (hcomplete : f.completeArguments c given = .ok complete) : Receives f c planned arguments complete := by
  obtain ⟨hle, hfill⟩ := QueryFunction.fillArguments_of_completeArguments hcomplete
  have hlength := QueryFunction.length_of_fillArguments hfill
  rw [hgiven.length_eq] at hle hlength
  refine ⟨hlength, hlength ▸ hle, fun i b hb => ?_, fun i a b ha hne hb => ?_, fun i b ha hb => ?_⟩
  · rcases hgiven.place hcomplete hb with ⟨a, type, -, htype, hstands⟩ | ⟨-, hdefault⟩
    · rw [hstands.type_eq, htype]
    · exact hdefaults.of_defaultAt hdefault
  · rcases hgiven.place hcomplete hb with ⟨a', type, ha', -, hstands⟩ | ⟨hopen, -⟩
    · obtain rfl := Option.some.inj (ha.symm.trans ha')
      rw [hstands.type_eq]
      exact hstands
    · rw [ha] at hopen
      exact absurd hopen hne
  · rcases hgiven.place hcomplete hb with ⟨a', type, ha', -, hstands⟩ | ⟨-, hdefault⟩
    · rw [ha'] at ha
      cases hstands.eq_none_iff.2 ha
    · exact hdefault

end Received

def QueryFunction.Takes (f : QueryFunction) (c : Context) (values : List (Argument Plan)) : Prop :=
  ∃ planned arguments given, ArgumentsGiven f planned 0 arguments given ∧ f.completeArguments c given = .ok values

/-! ### The relation functions -/

theorem RelationFunction.typeAt?_rmatch (index : Nat) : rmatch.typeAt? index = some .query := by
  cases index <;> rfl

namespace Extensions

private theorem of_get?_registerAll {fs : List QueryFunction} {e : Extensions} {name : String} {f : QueryFunction}
    (h : (fs.foldl register e).functions.get? name = some f) :
    f ∈ fs ∧ f.name = name ∨ e.functions.get? name = some f := by
  induction fs generalizing e with
  | nil => exact .inr h
  | cons g fs ih =>
      rcases ih h with ⟨hmem, hname⟩ | h
      · exact .inl ⟨List.mem_cons_of_mem _ hmem, hname⟩
      · rw [register, NameMap.get?_insert] at h
        split at h
        · rename_i hname
          obtain rfl := Option.some.inj h
          exact .inl ⟨List.mem_cons_self, hname.symm⟩
        · exact .inr h

open RelationFunction (rel rmatch rspan rcapture rcapture2)

/-- What holds of the relation functions holds of all that stand in the standard extensions. -/
theorem standard_cases {P : QueryFunction → Prop} (hrel : P rel) (hrmatch : P rmatch) (hrspan : P rspan)
    (hrcapture : P rcapture) (hrcapture2 : P rcapture2) {name : String} {f : QueryFunction}
    (h : standard.functions.get? name = some f) : P f := by
  rcases of_get?_registerAll h with ⟨hmem, -⟩ | hempty
  · simp only [List.mem_cons, List.not_mem_nil, or_false] at hmem
    rcases hmem with rfl | rfl | rfl | rfl | rfl
    · exact hrel
    · exact hrmatch
    · exact hrspan
    · exact hrcapture
    · exact hrcapture2
  · cases hempty

theorem standard_name {name : String} {f : QueryFunction} (h : standard.functions.get? name = some f) :
    f.name = name := by
  rcases of_get?_registerAll h with ⟨-, hname⟩ | hempty
  · exact hname
  · cases hempty

/-- Each relation function stands under its own name. -/
theorem get?_standard : ∀ f ∈ [rel, rmatch, rspan, rcapture, rcapture2],
    standard.functions.get? f.name = some f := by
  intro f hf
  simp only [List.mem_cons, List.not_mem_nil, or_false] at hf
  rcases hf with rfl | rfl | rfl | rfl | rfl <;>
    simp [standard, register, NameMap.get?_insert, rel, rmatch, rspan, rcapture, rcapture2]

theorem typesDefaults_standard {name : String} {f : QueryFunction} (h : standard.functions.get? name = some f) :
    f.TypesDefaults := by
  have hplaces : ∀ e ∈ f.defaults.zipIdx, ∀ d ∈ e.1, f.typeAt? e.2 = some d.type := by
    refine standard_cases (P := fun f => ∀ e ∈ f.defaults.zipIdx, ∀ d ∈ e.1, f.typeAt? e.2 = some d.type)
      ?_ ?_ ?_ ?_ ?_ h <;> decide
  intro i d hd
  exact hplaces (some d, i) (List.mk_mem_zipIdx_iff_getElem?.2 hd) d rfl

end Extensions

end CorpusSearch
