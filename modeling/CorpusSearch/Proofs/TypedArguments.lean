import CorpusSearch.Proofs.PlanningErrors

/-!
Calls of the relation functions. Main statement: as soon as the arguments of a call are planned and completed, its
function receives one value for each argument that it declares, or that is given to `rmatch`, of the type that it
declares; it never reads one as what it is not, and no query is refused for that.
-/

set_option autoImplicit false

namespace CorpusSearch

open RelationFunction (rel rmatch rspan rcapture rcapture2 textAt planAt)

/-- Errors for which a function is refused though it reads each of its values as what it is. -/
def QueryError.SparesArguments (e : QueryError) : Prop :=
  ∀ fault, e = .invalidQuery fault → fault.isMisreading = false

private theorem QueryError.OfContext.sparesArguments {e : QueryError} (h : e.OfContext) : e.SparesArguments := by
  rintro fault rfl
  cases h with
  | meaning hfault => exact hfault

namespace Receives

variable {f : QueryFunction} {c : Context} {planned : Pattern → Plan → Prop} {arguments : List (Argument Pattern)}
  {values : List (Argument Plan)} {P : QueryError → Prop} {i : Nat}

private theorem exists_value (h : Receives f c planned arguments values) {type : ArgumentType}
    (hplace : f.HasPlace values.length i type) : ∃ b, values[i]? = some b ∧ b.type = type := by
  have hlt : i < values.length := by
    have hlt := hplace.lt
    rwa [h.length, QueryFunction.received_received, ← h.length] at hlt
  have hvalue := List.getElem?_eq_getElem hlt
  exact ⟨values[i], hvalue, Option.some.inj ((h.type i _ hvalue).symm.trans hplace.type_eq)⟩

theorem textAt_refuses (h : Receives f c planned arguments values) (hplace : f.HasPlace values.length i .text) :
    (textAt values i).Refuses P := by
  obtain ⟨b, hvalue, htype⟩ := h.exists_value hplace
  cases b with
  | text value =>
      rw [textAt, hvalue]
      exact .pure value
  | pattern q => cases htype
  | number n => cases htype

theorem planAt_refuses (h : Receives f c planned arguments values) (hplace : f.HasPlace values.length i .query) :
    (planAt values i).Refuses P := by
  obtain ⟨b, hvalue, htype⟩ := h.exists_value hplace
  cases b with
  | pattern q =>
      rw [planAt, hvalue]
      exact .pure q
  | text value => cases htype
  | number n => cases htype

/-- A relation function reads what it receives as what it is. -/
theorem build_refuses {name : String} (hf : Extensions.standard.functions.get? name = some f)
    (h : Receives f c planned arguments values) : (f.build c values).Refuses QueryError.SparesArguments :=
  Extensions.build_refuses (fun _ h => h.sparesArguments) hf c (fun _ => h.textAt_refuses)
    fun _ => h.planAt_refuses

private theorem length_relationFunction (hf : f ∈ [rel, rmatch, rspan, rcapture, rcapture2])
    (h : Receives f c planned arguments values) :
    values.length = if f.name = rmatch.name then arguments.length else f.types.length := by
  rw [h.length]
  simp only [List.mem_cons, List.not_mem_nil, or_false] at hf
  rcases hf with rfl | rfl | rfl | rfl | rfl
  · rfl
  · exact Nat.max_eq_left (Nat.zero_le _)
  · rfl
  · rfl
  · rfl

end Receives

namespace Planner

/-- What a pattern is planned as, with some names in use. -/
def Plans (below : PlansBelow) (c : Context) (x : Pattern) (plan : Plan) : Prop :=
  ∃ names names', (below c x).run names = .ok (plan, names')

variable {p : Planner} {below : PlansBelow} {c : Context}

private theorem planCall_run {f : QueryFunction} {name : String} (hf : p.extensions.functions.get? name = some f)
    {arguments : List (Argument Pattern)} {given : List (Option (Argument Plan))} {values : List (Argument Plan)}
    {names names' : CaptureNames} (hgiven : (planArguments below c f name 0 arguments).run names = .ok (given, names'))
    (hvalues : f.completeArguments c given = .ok values) :
    (p.planCall below c name arguments).run names = (f.build c values).run names' := by
  rw [planCall, hf]
  dsimp only
  rw [StateT.run_bind, hgiven, Result.ok_bind, hvalues]
  rfl

/-- The relation functions receive what they declare, and are never refused for reading it as something else. -/
theorem relation_functions_receive_declared_arguments
    (hfunctions : p.extensions.functions = Extensions.standard.functions) :
    (∀ f ∈ [rel, rmatch, rspan, rcapture, rcapture2], ∀ below c arguments names names' given values,
      (planArguments below c f f.name 0 arguments).run names = .ok (given, names') →
        f.completeArguments c given = .ok values →
          (p.planCall below c f.name arguments).run names = (f.build c values).run names' ∧
            values.length = (if f.name = rmatch.name then arguments.length else f.types.length) ∧
            Receives f c (Plans below c) arguments values ∧
            ∀ fault, (f.build c values).run names' = .error (.invalidQuery fault) → fault.isMisreading = false) ∧
      ∀ c x fault, p.plan c x = .error (.invalidQuery fault) → fault.isMisreading = false := by
  refine ⟨fun f hf below c arguments names names' given values hrun hvalues => ?_, fun c x fault h => ?_⟩
  · have hget := Extensions.get?_standard f hf
    have hplans : ∀ x, Planning.Yields (below c x) (Plans below c x) := fun _ names r hr => ⟨names, r.2, hr⟩
    have hgiven := given_planArguments hplans f f.name arguments 0 _ _ hrun
    have hreceives := hgiven.receives (Extensions.typesDefaults_standard hget) hvalues
    refine ⟨planCall_run (hfunctions ▸ hget) hrun hvalues, hreceives.length_relationFunction hf, hreceives, ?_⟩
    exact fun fault h => hreceives.build_refuses hget names' _ h fault rfl
  · have hbuild : ∀ name f, p.extensions.functions.get? name = some f → ∀ c values, f.Takes c values →
        (f.build c values).Refuses QueryError.SparesArguments := by
      rintro name f hf c values ⟨planned, arguments, given, hgiven, hvalues⟩
      rw [hfunctions] at hf
      exact (hgiven.receives (Extensions.typesDefaults_standard hf) hvalues).build_refuses hf
    exact plan_refuses (fun _ h => h.sparesArguments) nofun hbuild c x _ h fault rfl

/-- A number becomes a text where a name is asked for, a placeholder and what is not given become the defaults. -/
theorem relation_functions_receive_declared_arguments_rcapture2 :
    let p : Planner := ⟨Extensions.standard, Limits.standard, true⟩
    let c : Context := ⟨⟨NameMap.empty⟩, "contents", none, "word", .insensitive, false, FieldName.anyClass⟩
    let below : PlansBelow := p.planWithin 3
    let arguments : List (Argument Pattern) := [.pattern (.anyToken 1 1), .number 7, .pattern .defaultValue]
    let token : Plan := .anyToken c.fieldName 1 1
    let values : List (Argument Plan) := [.pattern token, .text "7", .text "rels", .text FieldName.anyType]
    let missing := QueryFault.missingArgument "rcapture2" 1
    (planArguments below c rcapture2 rcapture2.name 0 arguments).run CaptureNames.empty =
        .ok ([some (.pattern token), some (.text "7"), none], CaptureNames.empty) ∧
      rcapture2.completeArguments c [some (.pattern token), some (.text "7"), none] = .ok values ∧
      values.length = rcapture2.types.length ∧ Receives rcapture2 c (Plans below c) arguments values ∧
      p.plan c (.call rcapture2.name []) = .error (.invalidQuery missing) ∧ missing.isMisreading = false := by
  intro p c below arguments token values missing
  have hrun : (planArguments below c rcapture2 rcapture2.name 0 arguments).run CaptureNames.empty =
      .ok ([some (.pattern token), some (.text "7"), none], CaptureNames.empty) := by rfl
  have hvalues : rcapture2.completeArguments c [some (.pattern token), some (.text "7"), none] = .ok values := by rfl
  have hplan : p.plan c (.call rcapture2.name []) = .error (.invalidQuery missing) := by rfl
  obtain ⟨hcalls, hplans⟩ := relation_functions_receive_declared_arguments (p := p) rfl
  obtain ⟨-, hlength, hreceives, -⟩ := hcalls rcapture2 (by simp) below c arguments _ _ _ values hrun hvalues
  exact ⟨hrun, hvalues, hlength, hreceives, hplan, hplans c _ _ hplan⟩

end Planner

end CorpusSearch
