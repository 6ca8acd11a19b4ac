import CorpusSearch.Proofs.PlanCaptureNames

/-!
Why a pattern cannot be planned. A node is refused for a fault of its own, which is one of its meaning or of a regular
expression in it, because a function it calls refuses what it receives, or because one of its parts is refused. Main
statements: what holds of these errors of a node holds of all errors of the node, and of the pattern if it holds of
a nesting that is too deep too.
-/

set_option autoImplicit false

namespace CorpusSearch

open Planning (Yields)

/-! ### Steps that fail -/

/-- The error of a planning step, if it fails, has a property, whatever names are in use. -/
def Planning.Refuses {α : Type} (x : Planning α) (P : QueryError → Prop) : Prop :=
  ∀ names, Result.Refuses (x.run names) P

namespace Planning.Refuses

variable {α β : Type} {P : QueryError → Prop} {x : Planning α}

theorem pure (a : α) : Refuses (Pure.pure a : Planning α) P := fun _ => .ok _

theorem throw {e : QueryError} (h : P e) : Refuses (throw e : Planning α) P := fun _ => .error h

theorem bind {f : α → Planning β} (hx : x.Refuses P) (hf : ∀ a, (f a).Refuses P) : (x >>= f).Refuses P := by
  intro names
  rw [StateT.run_bind]
  exact (hx names).bind fun r => hf r.1 r.2

theorem imp {Q : QueryError → Prop} (hx : x.Refuses P) (h : ∀ e, P e → Q e) : x.Refuses Q := fun names =>
  (hx names).imp h

private theorem bind_yields {R : α → Prop} {f : α → Planning β} (hx : x.Refuses P) (hyields : Yields x R)
    (hf : ∀ a, R a → (f a).Refuses P) : (x >>= f).Refuses P := by
  intro names e h
  rw [StateT.run_bind] at h
  rcases Result.bind_eq_error.1 h with h | ⟨r, hr, h⟩
  · exact hx names e h
  · exact hf r.1 (hyields names r hr) r.2 e h

theorem liftM {x : Result α} (hx : x.Refuses P) : Refuses (liftM x : Planning α) P := fun _ => hx.bind fun _ => .ok _

theorem uniqueName (base : String) : Refuses (uniqueName base) P := fun _ => .ok _

theorem mapM {f : α → Planning β} {items : List α} (h : ∀ a ∈ items, (f a).Refuses P) :
    Refuses (items.mapM f) P := by
  induction items with
  | nil =>
      rw [List.mapM_nil]
      exact .pure []
  | cons a items ih =>
      rw [List.mapM_cons]
      have hrest := ih fun b hb => h b (List.mem_cons_of_mem _ hb)
      exact (h a List.mem_cons_self).bind fun b => hrest.bind fun bs => .pure (b :: bs)

theorem forM {f : α → Planning PUnit} {items : List α} (h : ∀ a ∈ items, (f a).Refuses P) :
    Refuses (items.forM f) P := by
  induction items with
  | nil => exact .pure _
  | cons a items ih =>
      exact (h a List.mem_cons_self).bind fun _ => ih fun b hb => h b (List.mem_cons_of_mem _ hb)

end Planning.Refuses

/-! ### Faults of single nodes -/

/-- Errors for which a node is refused whatever its parts are. -/
inductive QueryError.OfNode : QueryError → Prop
  | meaning (fault : QueryFault) : OfNode (.invalidQuery fault)
  | expressionDepth (limit : Nat) : OfNode (.patternTooLarge (.expressionDepth limit))
  | expressionSize (limit : Nat) : OfNode (.patternTooLarge (.expressionSize limit))

/-- Whether a function read a value as what it is not. -/
def QueryFault.isMisreading : QueryFault → Bool
  | notAString _ | notAQuery _ => true
  | _ => false

/-- Errors for which a node is refused whatever its parts are and whatever functions are given. -/
inductive QueryError.OfContext : QueryError → Prop
  | meaning {fault : QueryFault} (h : fault.isMisreading = false) : OfContext (.invalidQuery fault)
  | expressionDepth (limit : Nat) : OfContext (.patternTooLarge (.expressionDepth limit))
  | expressionSize (limit : Nat) : OfContext (.patternTooLarge (.expressionSize limit))

theorem QueryError.OfContext.ofNode {e : QueryError} (h : e.OfContext) : e.OfNode := by
  cases h with
  | meaning _ => exact .meaning _
  | expressionDepth limit => exact .expressionDepth limit
  | expressionSize limit => exact .expressionSize limit

open QueryError (OfNode OfContext)

open Result (Refuses)

namespace Context

variable (c : Context)

private theorem field_refuses : c.field.Refuses OfContext := by
  unfold field
  split
  · exact .ok _
  · exact .error (.meaning rfl)

private theorem checkLayer_refuses (layer : String) : (c.checkLayer layer).Refuses OfContext :=
  c.field_refuses.bind fun _ => .ite (.ok _) (.error (.meaning rfl))

theorem sensitivity_refuses : c.sensitivity.Refuses OfContext := by
  refine .ite (.ok _) (c.field_refuses.bind fun field => ?_)
  split
  · exact .ok _
  · exact .ok _

private theorem indexField_refuses : c.indexField.Refuses OfContext := c.sensitivity_refuses.bind fun _ => .ok _

private theorem desensitize_refuses (value : String) : (c.desensitize value).Refuses OfContext :=
  c.sensitivity_refuses.bind fun _ => .ok _

private theorem withLayerAndSensitivity_refuses (layer : Option String) (s : Option Sensitivity) :
    (c.withLayerAndSensitivity layer s).Refuses OfContext := by
  refine Refuses.bind ?_ fun _ => .ok _
  cases layer with
  | none => exact .ok _
  | some layer => exact (c.checkLayer_refuses layer).bind fun _ => .ok _

private theorem relationsField_refuses : c.relationsField.Refuses OfContext := by
  refine Refuses.bind (c.field_refuses.bind fun field => ?_) fun d => d.indexField_refuses
  exact .ite (.ok _) (.error (.meaning rfl))

private theorem inVersion_refuses (version : Option String) : (c.inVersion version).Refuses OfContext :=
  (field_refuses _).bind fun _ => .ok _

private theorem inVersion?_refuses (version : Option String) : (c.inVersion? version).Refuses OfContext := by
  cases version with
  | none => exact .ok _
  | some version => exact c.inVersion_refuses _

end Context

namespace Constraint

variable (c : Context) (predicates : NameMap Predicate)

private theorem readLayer_refuses (layer : String) : (readLayer c layer).Refuses OfContext :=
  c.field_refuses.bind fun _ => .ite (.ok _) (.error (.meaning rfl))

private theorem ofFilter_refuses (filter : Filter) : (ofFilter c predicates filter).Refuses OfContext := by
  induction filter with
  | and a b iha ihb => exact iha.bind fun _ => ihb.bind fun _ => .ok _
  | or a b iha ihb => exact iha.bind fun _ => ihb.bind fun _ => .ok _
  | implies a b iha ihb => exact iha.bind fun _ => ihb.bind fun _ => .ok _
  | compare a b operator s iha ihb => exact iha.bind fun _ => ihb.bind fun _ => .ok _
  | equals a b s iha ihb => exact iha.bind fun _ => ihb.bind fun _ => .ok _
  | not a ih => exact ih.bind fun _ => .ok _
  | sameTokens a b layer s => exact (readLayer_refuses c layer).bind fun _ => .ok _
  | tokenValue capture layer => exact (readLayer_refuses c layer).bind fun _ => .ok _
  | tokenEquals capture layer value s => exact (readLayer_refuses c layer).bind fun _ => .ok _
  | text value => exact .ok _
  | call name capture =>
      rw [ofFilter]
      exact .ite (.ok _) (.error (.meaning rfl))

end Constraint

private theorem checkRelationType_refuses (type : String) : (checkRelationType type).Refuses OfContext := by
  unfold checkRelationType
  split
  · exact .ok _
  · exact .error (.meaning rfl)

namespace QueryFunction

variable (f : QueryFunction) (c : Context)

private theorem defaultAt_refuses (index : Nat) : (f.defaultAt c index).Refuses OfContext := by
  unfold defaultAt
  split
  · exact .ok _
  · exact .error (.meaning rfl)

private theorem fillArguments_refuses (count index : Nat) (given : List (Option (Argument Plan))) :
    (f.fillArguments c count index given).Refuses OfContext := by
  induction count generalizing index given with
  | zero => exact .ok _
  | succ count ih =>
      have hrest : ∀ first, Refuses (do
          return first :: (← f.fillArguments c count (index + 1) given.tail)) OfContext := fun first =>
        (ih _ _).bind fun _ => .ok _
      rw [fillArguments]
      split
      · exact Refuses.bind (.ok _) hrest
      · exact (f.defaultAt_refuses c index).bind hrest

private theorem completeArguments_refuses (given : List (Option (Argument Plan))) :
    (f.completeArguments c given).Refuses OfContext :=
  .ite (f.fillArguments_refuses c _ _ _) (.ite (.error (.meaning rfl)) (f.fillArguments_refuses c _ _ _))

end QueryFunction

namespace Planner

variable (p : Planner) (c : Context)

private theorem checkExpression_refuses (expression : String) : (p.checkExpression expression).Refuses OfContext := by
  unfold checkExpression
  split
  · exact .ok _
  · exact .error (.meaning rfl)
  · exact .error (.expressionDepth _)
  · exact .error (.expressionSize _)

private theorem planTerm_refuses (test : TokenTest) : (planTerm c test).Refuses OfContext := by
  refine (c.withLayerAndSensitivity_refuses _ _).bind fun d => ?_
  exact d.indexField_refuses.bind fun _ => (d.desensitize_refuses _).bind fun _ => .ok _

private theorem planRegex_refuses (test : TokenTest) : (p.planRegex c test).Refuses OfContext := by
  refine (c.withLayerAndSensitivity_refuses _ _).bind fun d => ?_
  refine (d.withLayerAndSensitivity_refuses _ _).bind fun d => ?_
  refine (p.checkExpression_refuses _).bind fun _ => d.indexField_refuses.bind fun _ => ?_
  exact d.sensitivity_refuses.bind fun _ => .ok _

private theorem planConstrained_refuses (clause : Plan) (filter : Filter) :
    (p.planConstrained c clause filter).Refuses OfContext := by
  unfold planConstrained
  dsimp only
  split
  · exact .error (.meaning rfl)
  · exact (Constraint.ofFilter_refuses c _ filter).bind fun _ => .ok _

end Planner

/-! ### Relations -/

open Planning (Refuses)

private theorem captureFor_refuses {P : QueryError → Prop} (name : Option String) (type : String) :
    (captureFor name type).Refuses P := by
  cases name with
  | none => exact .uniqueName _
  | some name => exact .pure name

private theorem relationPlan_refuses (c : Context) (fullType : String) (target : Option Plan)
    (direction : RelationDirection) (mode : SpanMode) (capture : Option String) :
    (relationPlan c fullType target direction mode capture).Refuses OfContext := by
  rw [relationPlan_eq]
  refine (Refuses.liftM (checkRelationType_refuses fullType)).bind fun _ => ?_
  exact (Refuses.liftM c.relationsField_refuses).bind fun _ => (captureFor_refuses _ _).bind fun _ => .pure _

namespace RelationFunction

theorem textAt_refuses (arguments : List (Argument Plan)) (index : Nat) : (textAt arguments index).Refuses OfNode := by
  unfold textAt
  split
  · exact .pure _
  · exact .throw (.meaning _)

theorem planAt_refuses (arguments : List (Argument Plan)) (index : Nat) : (planAt arguments index).Refuses OfNode := by
  unfold planAt
  split
  · exact .pure _
  · exact .throw (.meaning _)

theorem decode_refuses {α : Type} [Coded α] (code : String) : (decode α code).Refuses OfContext := by
  unfold decode
  split
  · exact .pure _
  · exact .throw (.meaning rfl)

private theorem captureWithin_refuses (c : Context) (clause : Plan) (within : Option String) (capture type : String) :
    (captureWithin c clause within capture type).Refuses OfContext := by
  refine (Refuses.liftM (checkRelationType_refuses _)).bind fun _ => ?_
  exact (Refuses.liftM c.relationsField_refuses).bind fun _ => (Refuses.uniqueName _).bind fun _ => .pure _

end RelationFunction

/-- A function that refuses its arguments for faults of the call only. -/
def QueryFunction.RefusesAsNode (f : QueryFunction) : Prop :=
  ∀ c arguments, (f.build c arguments).Refuses OfNode

open RelationFunction in
/--
A relation function is refused for a fault of the call in its context, or because it reads a value as what it is not.
-/
theorem Extensions.build_refuses {P : QueryError → Prop} (hown : ∀ e, OfContext e → P e) {name : String}
    {f : QueryFunction} (h : standard.functions.get? name = some f) (c : Context) {values : List (Argument Plan)}
    (htext : ∀ i, f.HasPlace values.length i .text → (textAt values i).Refuses P)
    (hplan : ∀ i, f.HasPlace values.length i .query → (planAt values i).Refuses P) :
    (f.build c values).Refuses P := by
  have hdecode {α : Type} [Coded α] (code : String) : (decode α code).Refuses P :=
    (decode_refuses code).imp hown
  have hwithin clause within capture type : (captureWithin c clause within capture type).Refuses P :=
    (captureWithin_refuses c clause within capture type).imp hown
  revert htext hplan
  refine standard_cases (P := fun f =>
    (∀ i, f.HasPlace values.length i .text → (textAt values i).Refuses P) →
      (∀ i, f.HasPlace values.length i .query → (planAt values i).Refuses P) →
        (f.build c values).Refuses P) ?_ ?_ ?_ ?_ ?_ h <;> intro htext hplan
  · refine (htext 0 (.of_types rfl rfl _)).bind fun type => (hplan 1 (.of_types rfl rfl _)).bind fun target => ?_
    refine (htext 2 (.of_types rfl rfl _)).bind fun modeCode => (hdecode _).bind fun mode => ?_
    refine (htext 3 (.of_types rfl rfl _)).bind fun capture => ?_
    refine (htext 4 (.of_types rfl rfl _)).bind fun directionCode => ?_
    exact (hdecode _).bind fun direction => (relationPlan_refuses _ _ _ _ _ _).imp hown
  · have hplaces : ∀ i ∈ List.range values.length, (planAt values i).Refuses P := fun i hi =>
      hplan i ⟨Nat.lt_of_lt_of_le (List.mem_range.1 hi) (Nat.le_max_left _ _), typeAt?_rmatch i⟩
    exact (Refuses.mapM hplaces).bind fun clauses => .pure _
  · refine (hplan 0 (.of_types rfl rfl _)).bind fun clause => (htext 1 (.of_types rfl rfl _)).bind fun modeCode => ?_
    exact (hdecode _).bind fun mode => .pure _
  · refine (hplan 0 (.of_types rfl rfl _)).bind fun clause => (htext 1 (.of_types rfl rfl _)).bind fun capture => ?_
    exact (htext 2 (.of_types rfl rfl _)).bind fun type => hwithin _ _ _ _
  · refine (hplan 0 (.of_types rfl rfl _)).bind fun clause => (htext 1 (.of_types rfl rfl _)).bind fun within => ?_
    refine (htext 2 (.of_types rfl rfl _)).bind fun capture => (htext 3 (.of_types rfl rfl _)).bind fun type => ?_
    exact hwithin _ _ _ _

theorem Extensions.refusesAsNode_standard {name : String} {f : QueryFunction}
    (h : standard.functions.get? name = some f) : f.RefusesAsNode := fun c values =>
  build_refuses (fun _ => OfContext.ofNode) h c (fun i _ => RelationFunction.textAt_refuses values i)
    fun i _ => RelationFunction.planAt_refuses values i

/-! ### Nodes -/

/-- The pattern that is planned for an argument of a call; for a placeholder none is. -/
def Argument.plannedPart? : Argument Pattern → Option Pattern
  | .pattern .defaultValue => none
  | a => a.pattern?

theorem Argument.plannedPart?_pattern {y : Pattern} (h : y ≠ .defaultValue) :
    (Argument.pattern y).plannedPart? = some y := by
  unfold plannedPart?
  split
  · rename_i heq
    cases heq
    exact absurd rfl h
  · rfl

/--
The patterns that are planned for the parts of a node: placeholders that are targets of relations are filled in, and
those that are arguments of calls are left out.
-/
def Pattern.plannedParts : Pattern → List Pattern
  | relationTarget _ target => [target.fillDefault]
  | relationMatch parent targets => parent :: targets.map (·.2.fillDefault)
  | rootRelations targets => targets.map (·.2.fillDefault)
  | call _ arguments => arguments.filterMap Argument.plannedPart?
  | x => x.children

namespace Planner

section Below

variable {p : Planner} {c : Context} {below : PlansBelow} {P : QueryError → Prop} (hown : ∀ e, OfContext e → P e)

include hown

private theorem planTarget_refuses {source : Context} {head : RelationHead} {target : Pattern}
    (hbelow : ∀ d, (below d target.fillDefault).Refuses P) : (planTarget below source head target).Refuses P := by
  refine (Refuses.liftM ((source.inVersion?_refuses _).imp hown)).bind fun d => ?_
  exact (hbelow d).bind fun _ => .pure _

private theorem planRelation_refuses {head : RelationHead} {target : Pattern}
    (hbelow : ∀ d, (below d target.fillDefault).Refuses P) : (planRelation below c head target).Refuses P := by
  refine (Refuses.liftM ((c.inVersion?_refuses _).imp hown)).bind fun source => ?_
  refine (planTarget_refuses hown hbelow).bind fun r => ?_
  exact (relationPlan_refuses _ _ _ _ _ _).imp hown

private theorem planAlignment_refuses {head : RelationHead} {target : Pattern}
    (hbelow : ∀ d, (below d target.fillDefault).Refuses P) : (planAlignment below c head target).Refuses P := by
  refine (Refuses.liftM ((c.inVersion?_refuses _).imp hown)).bind fun source => ?_
  refine (planTarget_refuses hown hbelow).bind fun r => ?_
  refine (Refuses.liftM ((checkRelationType_refuses _).imp hown)).bind fun _ => ?_
  refine (captureFor_refuses _ _).bind fun name => ?_
  exact (Refuses.liftM (source.relationsField_refuses.imp hown)).bind fun field => .pure _

private theorem planParts_refuses {targets : List (RelationHead × Pattern)}
    (hbelow : ∀ t ∈ targets, ∀ d, (below d t.2.fillDefault).Refuses P) : (planParts below c targets).Refuses P := by
  induction targets with
  | nil => exact .pure _
  | cons t targets ih =>
      have hfirst := hbelow t List.mem_cons_self
      have hrest := ih fun u hu => hbelow u (List.mem_cons_of_mem _ hu)
      rw [planParts]
      split
      · exact (planAlignment_refuses hown hfirst).bind fun a => hrest.bind fun parts => .pure _
      · refine (planRelation_refuses hown hfirst).bind fun q => hrest.bind fun parts => ?_
        split
        · exact .pure _
        · exact .pure _

private theorem planRelations_refuses {parent : Plan} {targets : List (RelationHead × Pattern)}
    (hbelow : ∀ t ∈ targets, ∀ d, (below d t.2.fillDefault).Refuses P) :
    (planRelations below c parent targets).Refuses P := by
  rw [planRelations_eq]
  exact (planParts_refuses hown hbelow).bind fun parts => .pure _

private theorem planSingleRelation_refuses {head : RelationHead} {target : Pattern}
    (hbelow : ∀ d, (below d target.fillDefault).Refuses P) : (planSingleRelation below c head target).Refuses P := by
  unfold planSingleRelation
  dsimp only
  split
  · exact .throw (hown _ (.meaning rfl))
  · refine (planRelation_refuses hown hbelow).bind fun q => ?_
    split
    · exact .pure _
    · exact .pure _

private theorem planArgument_refuses {function : String} {number : Nat} {expected : ArgumentType} {a : Argument Pattern}
    (hbelow : ∀ y, a = .pattern y → y ≠ .defaultValue → ∀ d, (below d y).Refuses P) :
    (planArgument below c function number expected a).Refuses P := by
  unfold planArgument
  split
  · exact .pure _
  · rename_i y hy
    exact (hbelow y rfl (fun h => hy h) c).bind fun q => .pure _
  · exact .pure _
  · exact .pure _
  · exact .pure _
  · split
    · exact .pure _
    · exact .throw (hown _ (.meaning rfl))
  · exact .throw (hown _ (.meaning rfl))

private theorem planArguments_refuses {f : QueryFunction} {function : String} {arguments : List (Argument Pattern)}
    (hbelow : ∀ y, .pattern y ∈ arguments → y ≠ .defaultValue → ∀ d, (below d y).Refuses P) :
    ∀ index, (planArguments below c f function index arguments).Refuses P := by
  induction arguments with
  | nil => exact fun _ => .pure _
  | cons a arguments ih =>
      intro index
      rw [planArguments]
      split
      · exact .throw (hown _ (.meaning rfl))
      · have hfirst : ∀ y, a = .pattern y → y ≠ .defaultValue → ∀ d, (below d y).Refuses P := by
          rintro y rfl hne
          exact hbelow y List.mem_cons_self hne
        refine (planArgument_refuses hown hfirst).bind fun first => ?_
        exact (ih (fun y hy => hbelow y (List.mem_cons_of_mem _ hy)) _).bind fun given => .pure _

private theorem planCall_refuses
    (hbuild : ∀ name f, p.extensions.functions.get? name = some f → ∀ c values, f.Takes c values →
      (f.build c values).Refuses P) {name : String} {arguments : List (Argument Pattern)}
    (hbelow : ∀ y, .pattern y ∈ arguments → y ≠ .defaultValue → ∀ d, (below d y).Refuses P) :
    (p.planCall below c name arguments).Refuses P := by
  unfold planCall
  split
  · exact .throw (hown _ (.meaning rfl))
  · rename_i f hf
    have hgiven : Yields (planArguments below c f name 0 arguments) (ArgumentsGiven f (fun _ _ => True) 0 arguments) :=
      given_planArguments (fun _ => .trivial _) f name arguments 0
    refine (planArguments_refuses hown hbelow 0).bind_yields hgiven fun given hgiven => ?_
    have hcomplete := (f.completeArguments_refuses c given).imp hown
    refine (Refuses.liftM hcomplete).bind_yields (.liftM _) fun values hvalues => ?_
    exact hbuild name f hf c values ⟨_, arguments, given, hgiven, hvalues⟩

private theorem planTags_refuses (tag : TagPattern) : (p.planTags c tag).Refuses P := by
  refine (Refuses.forM fun e _ => .liftM ?_).bind fun _ => ?_
  · cases e.2 with
    | expression text => exact (p.checkExpression_refuses text).imp hown
    | range low high => exact .ok _
  · refine (Refuses.liftM (c.relationsField_refuses.imp hown)).bind fun field => ?_
    dsimp only
    cases tag.capture with
    | none => exact (Refuses.uniqueName _).bind fun name => .pure _
    | some name => exact .pure _

private theorem planModifier_refuses {m : Modifier} {clause : Pattern} (hbelow : ∀ d, (below d clause).Refuses P) :
    (p.planModifier below c clause m).Refuses P := by
  cases m with
  | constrained filter =>
      exact (hbelow c).bind fun q => .liftM ((p.planConstrained_refuses c q filter).imp hown)
  | version name => exact (Refuses.liftM ((c.inVersion_refuses _).imp hown)).bind fun d => hbelow d
  | settings values => exact hbelow c
  | _ => exact (hbelow c).bind fun q => .pure _

theorem planNode_refuses
    (hbuild : ∀ name f, p.extensions.functions.get? name = some f → ∀ c values, f.Takes c values →
      (f.build c values).Refuses P)
    {x : Pattern} (hbelow : ∀ y ∈ x.plannedParts, ∀ d, (below d y).Refuses P) : (p.planNode below c x).Refuses P := by
  cases x with
  | term test => exact .liftM ((planTerm_refuses c test).imp hown)
  | regex test => exact .liftM ((p.planRegex_refuses c test).imp hown)
  | anyToken min max => exact .pure _
  | fixedSpan span => exact .pure _
  | tags tag => exact planTags_refuses hown tag
  | defaultValue => exact .throw (hown _ (.meaning rfl))
  | join connective clauses => exact (Refuses.mapM fun x hx => hbelow x hx c).bind fun plans => .pure _
  | modify m clause => exact planModifier_refuses hown (hbelow clause List.mem_cons_self)
  | positionFilter test producer filter =>
      refine (hbelow producer List.mem_cons_self c).bind fun q => ?_
      exact (hbelow filter (List.mem_cons_of_mem _ List.mem_cons_self) c).bind fun r => .pure _
  | relationTarget head target => exact planSingleRelation_refuses hown (hbelow _ List.mem_cons_self)
  | relationMatch parent targets =>
      refine (hbelow parent List.mem_cons_self c).bind fun q => ?_
      exact planRelations_refuses hown fun t ht => hbelow _ (List.mem_cons_of_mem _ (List.mem_map_of_mem ht))
  | rootRelations targets => exact planRelations_refuses hown fun t ht => hbelow _ (List.mem_map_of_mem ht)
  | call name arguments =>
      refine planCall_refuses hown hbuild fun y hy hne => hbelow y ?_
      exact List.mem_filterMap.2 ⟨_, hy, Argument.plannedPart?_pattern hne⟩

/-- What holds of all faults that nodes have themselves, and of a nesting that is too deep, holds of every error. -/
theorem plan_refuses (hlimit : P (.patternTooLarge (.patternDepth p.limits.patternDepth)))
    (hbuild : ∀ name f, p.extensions.functions.get? name = some f → ∀ c values, f.Takes c values →
      (f.build c values).Refuses P) (c : Context) (x : Pattern) : (p.plan c x).Refuses P := by
  have hwithin : ∀ depth d y, (p.planWithin depth d y).Refuses P := by
    intro depth
    induction depth with
    | zero => exact fun _ _ => .throw hlimit
    | succ depth ih => exact fun d y => planNode_refuses hown hbuild fun z _ e => ih e z
  exact (hwithin _ c x _).bind fun _ => .ok _

end Below

end Planner

end CorpusSearch
