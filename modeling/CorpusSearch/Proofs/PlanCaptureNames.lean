import CorpusSearch.Proofs.IssuedNames
import CorpusSearch.Proofs.NodeCaptures

/-!
Where the capture names of a plan come from. Each is given in the query, in a node or as an argument of a call, or made
up while the node is planned. Main statement: the names that are made up are different, no node of the query gives one
of them, and each stands at a single node of the plan unless a call asks for it in an argument.
-/

set_option autoImplicit false

namespace CorpusSearch

open CaptureNames (Issued)
open Planning (Gives Yields)

/-! ### Arguments -/

namespace Argument

def text? : Argument Plan → Option String
  | .pattern _ => none
  | .text value => some value
  | .number _ => none

def nodeCaptures (a : Argument Plan) : List String := a.pattern?.elim [] Plan.nodeCaptures

def givenCaptures (a : Argument Pattern) : List String := a.pattern?.elim [] Pattern.givenCaptures

private theorem flatMap_givenCaptures (arguments : List (Argument Pattern)) :
    (arguments.filterMap Argument.pattern?).flatMap Pattern.givenCaptures = arguments.flatMap givenCaptures := by
  induction arguments with
  | nil => rfl
  | cons a arguments ih =>
      rw [List.flatMap_cons, List.filterMap_cons, ← ih, givenCaptures]
      cases a.pattern? with
      | none => rfl
      | some x => rw [List.flatMap_cons, Option.elim_some]

end Argument

def optionalCaptures (a : Option (Argument Plan)) : List String := a.elim [] Argument.nodeCaptures

namespace QueryFunction

variable {f : QueryFunction} {c : Context}

private theorem nodeCaptures_of_defaultAt {index : Nat} {a : Argument Plan} (h : f.defaultAt c index = .ok a) :
    a.nodeCaptures = [] := by
  unfold defaultAt at h
  split at h
  · rename_i d _
    obtain rfl := Except.ok.inj h
    cases d with
    | anyNGram => exact Plan.nodeCaptures_anyNGram c.fieldName
    | text value => rfl
    | number value => rfl
  · cases h

private theorem nodeCaptures_of_fillArguments {count index : Nat} {given : List (Option (Argument Plan))}
    {filled : List (Argument Plan)} (h : f.fillArguments c count index given = .ok filled)
    (hlength : given.length ≤ count) : filled.flatMap Argument.nodeCaptures = given.flatMap optionalCaptures := by
  induction count generalizing index given filled with
  | zero =>
      obtain rfl := Except.ok.inj h
      rw [List.length_eq_zero_iff.1 (Nat.le_zero.1 hlength)]
      rfl
  | succ count ih =>
      rw [fillArguments_succ] at h
      obtain ⟨first, hfirst, h⟩ := Result.bind_eq_ok.1 h
      obtain ⟨rest, hrest, h⟩ := Result.bind_eq_ok.1 h
      obtain rfl := Except.ok.inj h
      rw [List.flatMap_cons, ih hrest (by rw [List.length_tail]; omega)]
      cases given with
      | nil => rw [nodeCaptures_of_defaultAt hfirst, List.nil_append, List.tail_nil]
      | cons g given =>
          rw [List.flatMap_cons, List.tail_cons]
          cases g with
          | none => rw [nodeCaptures_of_defaultAt hfirst, optionalCaptures, Option.elim_none]
          | some a =>
              obtain rfl := Except.ok.inj hfirst
              rfl

private theorem nodeCaptures_of_completeArguments {given : List (Option (Argument Plan))}
    {complete : List (Argument Plan)} (h : f.completeArguments c given = .ok complete) :
    complete.flatMap Argument.nodeCaptures = given.flatMap optionalCaptures := by
  obtain ⟨hlength, hfill⟩ := fillArguments_of_completeArguments h
  exact nodeCaptures_of_fillArguments hfill hlength

/-- The capture name that a function takes from its arguments: `rel` is the only one that does. -/
def argumentCapture? (f : QueryFunction) (arguments : List (Argument Plan)) : Option String :=
  if f.name = RelationFunction.rel.name then RelationOperator.nonEmpty? (arguments[3]?.bind Argument.text?) else none

/-- Whether the names in a plan are those of the arguments, the one that is taken from them, and those made up. -/
def GivesCaptures (f : QueryFunction) : Prop :=
  ∀ c arguments, (f.variadic = false → arguments.length = f.types.length) →
    Gives Plan.nodeCaptures (f.build c arguments)
      ((f.argumentCapture? arguments).toList ++ arguments.flatMap Argument.nodeCaptures)

end QueryFunction

/-! ### Relations -/

private theorem gives_captureFor (name : Option String) (type : String) :
    Gives (fun name => [name]) (captureFor name type) name.toList := by
  cases name with
  | none => exact Gives.uniqueName _
  | some name => exact .pure (.refl _)

private theorem gives_relationPlan (c : Context) (fullType : String) (target : Option Plan)
    (direction : RelationDirection) (mode : SpanMode) (capture : Option String) :
    Gives Plan.nodeCaptures (relationPlan c fullType target direction mode capture)
      ((RelationOperator.nonEmpty? capture).toList ++ target.toList.flatMap Plan.nodeCaptures) := by
  rw [relationPlan_eq]
  refine .liftM_bind fun _ _ => .liftM_bind fun field _ => ?_
  refine (gives_captureFor _ _).bind fun name => .pure ?_
  rw [Plan.nodeCaptures_restrictedRelations]
  exact .refl _

namespace RelationFunction

variable {β : Type} {captures : β → List String} {given : List String} {arguments : List (Argument Plan)} {index : Nat}

private theorem gives_textAt_bind {k : String → Planning β}
    (hk : ∀ value, arguments[index]? = some (.text value) → Gives captures (k value) given) :
    Gives captures (textAt arguments index >>= k) given := by
  unfold textAt
  split
  · rename_i value hvalue
    exact hk value hvalue
  · exact .throw _

private theorem gives_planAt_bind {k : Plan → Planning β}
    (hk : ∀ q, arguments[index]? = some (.pattern q) → Gives captures (k q) given) :
    Gives captures (planAt arguments index >>= k) given := by
  unfold planAt
  split
  · rename_i q hq
    exact hk q hq
  · exact .throw _

private theorem gives_decode_bind {α : Type} [Coded α] {code : String} {k : α → Planning β}
    (hk : ∀ a, Gives captures (k a) given) : Gives captures (decode α code >>= k) given := by
  unfold decode
  split
  · exact hk _
  · exact .throw _

private theorem gives_captureWithin (c : Context) (clause : Plan) (within : Option String) (capture type : String) :
    Gives Plan.nodeCaptures (captureWithin c clause within capture type) clause.nodeCaptures := by
  refine .liftM_bind fun _ _ => .liftM_bind fun field _ => ?_
  exact (Gives.uniqueName capture).bind fun name => .pure (.refl _)

private theorem givesCaptures_rel : rel.GivesCaptures := by
  intro c arguments hlength
  obtain ⟨_, _, _, _, _, rfl⟩ : ∃ a₀ a₁ a₂ a₃ a₄, arguments = [a₀, a₁, a₂, a₃, a₄] := by
    match arguments, hlength rfl with
    | [a₀, a₁, a₂, a₃, a₄], _ => exact ⟨a₀, a₁, a₂, a₃, a₄, rfl⟩
  refine gives_textAt_bind fun type htype => gives_planAt_bind fun target htarget => ?_
  refine gives_textAt_bind fun modeCode hmode => gives_decode_bind fun mode => ?_
  refine gives_textAt_bind fun capture hcapture => gives_textAt_bind fun directionCode hdirection => ?_
  refine gives_decode_bind fun direction => ?_
  obtain rfl := Option.some.inj htype
  obtain rfl := Option.some.inj htarget
  obtain rfl := Option.some.inj hmode
  obtain rfl := Option.some.inj hcapture
  obtain rfl := Option.some.inj hdirection
  refine (gives_relationPlan _ _ _ _ _ _).congr (.of_eq ?_)
  rw [Plan.nodeCaptures_restrictingPlan?, QueryFunction.argumentCapture?, if_pos rfl]
  exact congrArg _ (List.append_nil _).symm

private theorem gives_planAt (arguments : List (Argument Plan)) (index : Nat) :
    Gives Plan.nodeCaptures (planAt arguments index) (optionalCaptures arguments[index]?) := by
  unfold planAt
  split
  · rename_i q hq
    rw [hq]
    exact .pure (.refl _)
  · exact .throw _

private theorem givesCaptures_rmatch : rmatch.GivesCaptures := by
  intro c arguments _
  have harguments : (List.range arguments.length).map (fun i => arguments[i]?) = arguments.map some := by
    refine List.ext_getElem (by simp) fun i hi _ => ?_
    rw [List.getElem_map, List.getElem_range, List.getElem_map]
    exact List.getElem?_eq_getElem (by simpa using hi)
  have hcaptures : (List.range arguments.length).flatMap (fun i => optionalCaptures arguments[i]?) =
      arguments.flatMap Argument.nodeCaptures := by
    calc
      _ = ((List.range arguments.length).map fun i => arguments[i]?).flatMap optionalCaptures :=
        (List.flatMap_map _ _ _).symm
      _ = (arguments.map some).flatMap optionalCaptures := by rw [harguments]
      _ = arguments.flatMap Argument.nodeCaptures := List.flatMap_map _ _ _
  have hclauses : Gives (fun plans => plans.flatMap Plan.nodeCaptures)
      ((List.range arguments.length).mapM (planAt arguments)) (arguments.flatMap Argument.nodeCaptures) :=
    hcaptures ▸ Gives.mapM fun i _ => gives_planAt arguments i
  exact hclauses.map fun clauses => .of_eq (Plan.nodeCaptures_relationMatchPlan _ clauses)

private theorem givesCaptures_rspan : rspan.GivesCaptures := by
  intro c arguments hlength
  obtain ⟨_, _, rfl⟩ : ∃ a₀ a₁, arguments = [a₀, a₁] := List.length_eq_two.1 (hlength rfl)
  refine gives_planAt_bind fun clause hclause => gives_textAt_bind fun modeCode hmode => ?_
  refine gives_decode_bind fun mode => .pure (.of_eq ?_)
  obtain rfl := Option.some.inj hclause
  obtain rfl := Option.some.inj hmode
  exact (List.append_nil _).symm

private theorem givesCaptures_rcapture : rcapture.GivesCaptures := by
  intro c arguments hlength
  obtain ⟨_, _, _, rfl⟩ : ∃ a₀ a₁ a₂, arguments = [a₀, a₁, a₂] := List.length_eq_three.1 (hlength rfl)
  refine gives_planAt_bind fun clause hclause => gives_textAt_bind fun capture hcapture => ?_
  refine gives_textAt_bind fun type htype => (gives_captureWithin _ _ _ _ _).congr (.of_eq ?_)
  obtain rfl := Option.some.inj hclause
  obtain rfl := Option.some.inj hcapture
  obtain rfl := Option.some.inj htype
  exact (List.append_nil _).symm

private theorem givesCaptures_rcapture2 : rcapture2.GivesCaptures := by
  intro c arguments hlength
  obtain ⟨_, _, _, _, rfl⟩ : ∃ a₀ a₁ a₂ a₃, arguments = [a₀, a₁, a₂, a₃] := by
    match arguments, hlength rfl with
    | [a₀, a₁, a₂, a₃], _ => exact ⟨a₀, a₁, a₂, a₃, rfl⟩
  refine gives_planAt_bind fun clause hclause => gives_textAt_bind fun within hwithin => ?_
  refine gives_textAt_bind fun capture hcapture => gives_textAt_bind fun type htype => ?_
  refine (gives_captureWithin _ _ _ _ _).congr (.of_eq ?_)
  obtain rfl := Option.some.inj hclause
  obtain rfl := Option.some.inj hwithin
  obtain rfl := Option.some.inj hcapture
  obtain rfl := Option.some.inj htype
  exact (List.append_nil _).symm

end RelationFunction

namespace Extensions

private theorem givesCaptures_standard {name : String} {f : QueryFunction} (h : standard.functions.get? name = some f) :
    f.GivesCaptures ∧ (f.name = RelationFunction.rel.name → f = RelationFunction.rel) := by
  refine standard_cases (P := fun f => f.GivesCaptures ∧ (f.name = RelationFunction.rel.name → f = _))
    ?_ ?_ ?_ ?_ ?_ h
  · exact ⟨RelationFunction.givesCaptures_rel, fun _ => rfl⟩
  · exact ⟨RelationFunction.givesCaptures_rmatch, fun h => absurd h (by decide)⟩
  · exact ⟨RelationFunction.givesCaptures_rspan, fun h => absurd h (by decide)⟩
  · exact ⟨RelationFunction.givesCaptures_rcapture, fun h => absurd h (by decide)⟩
  · exact ⟨RelationFunction.givesCaptures_rcapture2, fun h => absurd h (by decide)⟩

end Extensions

namespace Planner

/-! ### Texts in arguments -/

section Texts

variable {c : Context} {below : PlansBelow}

private theorem text?_of_argumentsGiven {f : QueryFunction} {planned : Pattern → Plan → Prop}
    {arguments : List (Argument Pattern)} {given : List (Option (Argument Plan))}
    (h : ArgumentsGiven f planned 0 arguments given) {i : Nat} (htype : f.typeAt? i = some .text) :
    given[i]?.join.bind Argument.text? = arguments[i]?.bind Argument.asText? := by
  cases ha : arguments[i]? with
  | none =>
      rw [h.getElem?_eq_none ha]
      rfl
  | some a =>
      obtain ⟨type, b, htype', hb, hstands⟩ := h.getElem? ha
      rw [Nat.zero_add] at htype'
      obtain rfl := Option.some.inj (htype.symm.trans htype')
      rw [hb]
      cases hstands <;> rfl

private theorem argumentCapture?_of_complete {arguments : List (Argument Pattern)}
    {given : List (Option (Argument Plan))}
    {complete : List (Argument Plan)} (hcomplete : RelationFunction.rel.completeArguments c given = .ok complete)
    (htext : given[3]?.join.bind Argument.text? = arguments[3]?.bind Argument.asText?) :
    RelationOperator.nonEmpty? (complete[3]?.bind Argument.text?) =
      RelationOperator.nonEmpty? (arguments[3]?.bind Argument.asText?) := by
  obtain ⟨-, hfill⟩ := QueryFunction.fillArguments_of_completeArguments hcomplete
  rw [QueryFunction.received_of_not_variadic rfl] at hfill
  obtain ⟨a, ha, hgiven | ⟨hnone, hdefault⟩⟩ := QueryFunction.getElem?_of_fillArguments hfill (i := 3) (by decide)
  · rw [ha, ← htext, hgiven]
  · obtain rfl := Except.ok.inj hdefault
    rw [ha, ← htext, hnone]
    rfl

end Texts

/-! ### Planning a node -/

section Leaves

variable {p : Planner} {c : Context} {plan : Plan}

private theorem exists_of_planTerm {test : TokenTest} (h : planTerm c test = .ok plan) :
    ∃ field value, plan = .term field value := by
  obtain ⟨_, _, h⟩ := Result.bind_eq_ok.1 h
  obtain ⟨field, _, h⟩ := Result.bind_eq_ok.1 h
  obtain ⟨value, _, h⟩ := Result.bind_eq_ok.1 h
  obtain rfl := Except.ok.inj h
  exact ⟨field, value, rfl⟩

private theorem exists_of_planRegex {test : TokenTest} (h : p.planRegex c test = .ok plan) :
    ∃ field expression, plan = .regex field expression := by
  obtain ⟨_, _, h⟩ := Result.bind_eq_ok.1 h
  obtain ⟨_, _, h⟩ := Result.bind_eq_ok.1 h
  obtain ⟨_, _, h⟩ := Result.bind_eq_ok.1 h
  obtain ⟨field, _, h⟩ := Result.bind_eq_ok.1 h
  obtain ⟨_, _, h⟩ := Result.bind_eq_ok.1 h
  obtain rfl := Except.ok.inj h
  exact ⟨field, _, rfl⟩

private theorem gives_planTags (tag : TagPattern) : Gives Plan.nodeCaptures (p.planTags c tag) tag.capture.toList := by
  have hattributes : Gives (fun _ => []) (tag.attributes.entries.forM fun e => liftM (p.checkAttribute e.2)) [] :=
    Gives.forM fun e _ => .liftM fun _ _ => .refl _
  refine hattributes.bind fun _ => .liftM_bind fun field _ => ?_
  dsimp only
  cases tag.capture with
  | none => exact (Gives.uniqueName tag.name).map fun name => .refl _
  | some name => exact .pure (.refl _)

end Leaves

/-- The names that relations below a parent give, with those in their targets. -/
def targetsGiven (targets : List (RelationHead × Pattern)) : List String :=
  targets.flatMap fun t => t.1.givenCapture?.toList ++ t.2.givenCaptures

private theorem targetsGiven_perm (targets : List (RelationHead × Pattern)) :
    (targetsGiven targets).Perm
      (targets.filterMap (·.1.givenCapture?) ++ (targets.map (·.2)).flatMap Pattern.givenCaptures) := by
  induction targets with
  | nil => exact .refl _
  | cons t targets ih =>
      rw [targetsGiven, List.perm_iff_count] at ih
      rw [targetsGiven, List.perm_iff_count]
      intro name
      have hcount := ih name
      have hfilterMap : (t :: targets).filterMap (·.1.givenCapture?) =
          t.1.givenCapture?.toList ++ targets.filterMap (·.1.givenCapture?) := by
        rw [List.filterMap_cons]
        cases t.1.givenCapture? <;> rfl
      rw [hfilterMap]
      simp only [List.flatMap_cons, List.map_cons, List.count_append] at hcount ⊢
      omega

section Below

variable {p : Planner} {c : Context} {below : PlansBelow}
  (hbelow : ∀ c x, Gives Plan.nodeCaptures (below c x) x.givenCaptures)

include hbelow

private theorem gives_planTarget (source : Context) (head : RelationHead) (target : Pattern) :
    Gives (fun r => r.2.nodeCaptures) (planTarget below source head target) target.givenCaptures := by
  refine .liftM_bind fun d _ => ?_
  have htarget := hbelow d target.fillDefault
  rw [Pattern.givenCaptures_fillDefault] at htarget
  exact htarget.map fun q => .refl _

private theorem gives_planRelation (head : RelationHead) (target : Pattern) :
    Gives Plan.nodeCaptures (planRelation below c head target)
      ((RelationOperator.nonEmpty? head.capture).toList ++ target.givenCaptures) := by
  refine .liftM_bind fun source _ => ?_
  refine ((gives_planTarget hbelow source head target).bind fun r => ?_).congr List.perm_append_comm
  refine (gives_relationPlan _ _ _ _ _ _).congr ?_
  rw [Plan.nodeCaptures_restrictingPlan?]
  exact List.perm_append_comm

private theorem gives_planAlignment (head : RelationHead) (target : Pattern) :
    Gives Plan.alignmentCaptures (planAlignment below c head target)
      (head.capture.toList ++ target.givenCaptures) := by
  refine .liftM_bind fun source _ => ?_
  refine ((gives_planTarget hbelow source head target).bind fun r => ?_).congr List.perm_append_comm
  refine .liftM_bind fun _ _ => ?_
  refine ((gives_captureFor head.capture _).bind fun name => ?_).congr List.perm_append_comm
  exact .liftM_bind fun field _ => .pure (.refl _)

private theorem gives_planParts (targets : List (RelationHead × Pattern)) :
    Gives RelationParts.nodeCaptures (planParts below c targets) (targetsGiven targets) := by
  induction targets with
  | nil => exact .pure (.refl _)
  | cons t targets ih =>
      rw [planParts, targetsGiven, List.flatMap_cons, RelationHead.givenCapture?]
      split
      · refine (gives_planAlignment hbelow t.1 t.2).bind fun a => ?_
        exact (ih.bind fun parts => .pure (parts.nodeCaptures_aligned a)).congr List.perm_append_comm
      · refine (gives_planRelation hbelow t.1 t.2).bind fun q => ?_
        refine (ih.bind fun parts => ?_).congr List.perm_append_comm
        split
        · exact .pure (parts.nodeCaptures_excluded q)
        · exact .pure (parts.nodeCaptures_required q)

private theorem gives_planRelations (parent : Plan) (targets : List (RelationHead × Pattern)) :
    Gives Plan.nodeCaptures (planRelations below c parent targets)
      (parent.nodeCaptures ++ targetsGiven targets) := by
  rw [planRelations_eq]
  refine ((gives_planParts hbelow targets).bind fun parts => .pure ?_).congr List.perm_append_comm
  rw [RelationParts.nodeCaptures_plan]
  exact List.perm_append_comm

private theorem gives_planSingleRelation (head : RelationHead) (target : Pattern) :
    Gives Plan.nodeCaptures (planSingleRelation below c head target)
      (head.givenCapture?.toList ++ target.givenCaptures) := by
  unfold planSingleRelation
  dsimp only
  by_cases halignment : head.operator.alignment = true
  · rw [if_pos halignment]
    exact .throw _
  · rw [if_neg halignment, RelationHead.givenCapture?, if_neg halignment]
    have hrelation := gives_planRelation hbelow (c := c) head target
    split
    · exact hrelation.map fun q => .of_eq (Plan.nodeCaptures_withoutRelation _ q)
    · exact hrelation.map fun q => .refl _

private theorem gives_planArgument (function : String) (number : Nat) (expected : ArgumentType) (a : Argument Pattern) :
    Gives optionalCaptures (planArgument below c function number expected a) a.givenCaptures := by
  unfold planArgument
  split
  · exact .pure (.refl _)
  · rename_i x _
    exact (hbelow c x).map fun q => .refl _
  · exact .pure (.refl _)
  · exact .pure (.refl _)
  · exact .pure (.refl _)
  · split
    · exact .pure (.refl _)
    · exact .throw _
  · exact .throw _

private theorem gives_planArguments (f : QueryFunction) (function : String) (arguments : List (Argument Pattern)) :
    ∀ index, Gives (fun given => given.flatMap optionalCaptures) (planArguments below c f function index arguments)
      (arguments.flatMap Argument.givenCaptures) := by
  induction arguments with
  | nil => exact fun _ => .pure (.refl _)
  | cons a arguments ih =>
      intro index
      rw [planArguments, List.flatMap_cons]
      split
      · exact .throw _
      · rename_i expected _
        refine (gives_planArgument hbelow function (index + 1) expected a).bind fun first => ?_
        refine ((ih (index + 1)).bind fun given => .pure ?_).congr List.perm_append_comm
        rw [List.flatMap_cons]
        exact List.perm_append_comm

private theorem gives_planCall (hfunctions : p.extensions.functions = Extensions.standard.functions) (name : String)
    (arguments : List (Argument Pattern)) :
    Gives Plan.nodeCaptures (p.planCall below c name arguments)
      ((Pattern.call name arguments).givenCaptures) := by
  unfold planCall
  rw [hfunctions]
  split
  · exact .throw _
  · rename_i f hf
    obtain rfl := Extensions.standard_name hf
    obtain ⟨hgives, hrel⟩ := Extensions.givesCaptures_standard hf
    have hgiven := gives_planArguments hbelow (c := c) f f.name arguments 0
    have htexts : Yields (planArguments below c f f.name 0 arguments)
        (ArgumentsGiven f (fun _ _ => True) 0 arguments) :=
      given_planArguments (fun _ => .trivial _) f f.name arguments 0
    rw [Pattern.givenCaptures_eq, Pattern.ownGivenCaptures, Pattern.argumentCapture?, Pattern.children,
      Argument.flatMap_givenCaptures]
    refine (hgiven.bindYields htexts fun given htext => ?_).congr List.perm_append_comm
    refine .liftM_bind fun complete hcomplete => ?_
    have hlength : f.variadic = false → complete.length = f.types.length := fun hvariadic =>
      (QueryFunction.length_of_fillArguments (QueryFunction.fillArguments_of_completeArguments hcomplete).2).trans
        (QueryFunction.received_of_not_variadic hvariadic _)
    refine (hgives c complete hlength).congr ?_
    rw [QueryFunction.nodeCaptures_of_completeArguments hcomplete, QueryFunction.argumentCapture?]
    by_cases hname : f.name = RelationFunction.rel.name
    · obtain rfl := hrel hname
      rw [if_pos rfl, if_pos rfl, argumentCapture?_of_complete hcomplete (text?_of_argumentsGiven htext rfl)]
      exact List.perm_append_comm
    · rw [if_neg hname, if_neg hname]
      exact List.perm_append_comm

private theorem gives_planModifier (m : Modifier) (clause : Pattern) :
    Gives Plan.nodeCaptures (p.planModifier below c clause m) ((Pattern.modify m clause).givenCaptures) := by
  have hclause : ∀ d, Gives Plan.nodeCaptures (below d clause) clause.givenCaptures := fun d => hbelow d clause
  rw [Pattern.givenCaptures_eq, Pattern.children, List.flatMap_singleton]
  cases m with
  | capture name =>
      refine ((hclause c).bind fun q => .pure ?_).congr List.perm_append_comm
      show ([name] ++ q.nodeCaptures).Perm (q.nodeCaptures ++ [name])
      exact List.perm_append_comm
  | constrained filter =>
      refine ((hclause c).bind fun q => .liftM fun plan hplan => ?_).congr (.of_eq (List.append_nil _))
      obtain ⟨reading, -, rfl⟩ := exists_of_planConstrained hplan
      exact .of_eq (List.append_nil _).symm
  | version name => exact .liftM_bind fun d _ => hclause d
  | settings values => exact hclause c
  | _ => exact (hclause c).map fun q => .refl _

private theorem gives_planNode (hfunctions : p.extensions.functions = Extensions.standard.functions) (x : Pattern) :
    Gives Plan.nodeCaptures (p.planNode below c x) x.givenCaptures := by
  have hnode := Pattern.givenCaptures_eq x
  cases x with
  | term test =>
      refine .liftM fun plan hplan => .of_eq ?_
      obtain ⟨field, value, rfl⟩ := exists_of_planTerm hplan
      rfl
  | regex test =>
      refine .liftM fun plan hplan => .of_eq ?_
      obtain ⟨field, expression, rfl⟩ := exists_of_planRegex hplan
      rfl
  | anyToken min max => exact .pure (.refl _)
  | fixedSpan span => exact .pure (.refl _)
  | tags tag =>
      rw [hnode, Pattern.ownGivenCaptures, Pattern.children, List.flatMap_nil, List.append_nil]
      exact gives_planTags tag
  | defaultValue => exact .throw _
  | join connective clauses =>
      have hown : (Pattern.join connective clauses).ownGivenCaptures = [] := rfl
      rw [hnode, hown, Pattern.children, List.nil_append]
      have hclauses : Gives (fun plans => plans.flatMap Plan.nodeCaptures) (clauses.mapM (below c))
          (clauses.flatMap Pattern.givenCaptures) := Gives.mapM fun x _ => hbelow c x
      exact hclauses.map fun plans => .of_eq (Plan.nodeCapturesOf_eq plans)
  | modify m clause => exact gives_planModifier hbelow m clause
  | positionFilter test producer filter =>
      have hown : (Pattern.positionFilter test producer filter).ownGivenCaptures = [] := rfl
      rw [hnode, hown, Pattern.children, List.nil_append, List.flatMap_cons, List.flatMap_singleton]
      refine (hbelow c producer).bind fun q => ?_
      refine ((hbelow c filter).bind fun r => .pure ?_).congr List.perm_append_comm
      exact List.perm_append_comm
  | relationTarget head target =>
      rw [hnode, Pattern.ownGivenCaptures, Pattern.children, List.flatMap_singleton]
      exact gives_planSingleRelation hbelow head target
  | relationMatch parent targets =>
      have hperm : (parent.givenCaptures ++ targetsGiven targets).Perm
          (targets.filterMap (·.1.givenCapture?) ++
            (parent.givenCaptures ++ (targets.map (·.2)).flatMap Pattern.givenCaptures)) :=
        ((targetsGiven_perm targets).append_left _).trans (List.perm_append_comm_assoc _ _ _)
      rw [hnode, Pattern.ownGivenCaptures, Pattern.children, List.flatMap_cons]
      exact ((hbelow c parent).bind fun q => gives_planRelations hbelow q targets).congr hperm
  | rootRelations targets =>
      rw [hnode, Pattern.ownGivenCaptures, Pattern.children]
      have hroots := gives_planRelations hbelow (c := c) (Plan.anyNGram c.fieldName) targets
      rw [Plan.nodeCaptures_anyNGram, List.nil_append] at hroots
      exact hroots.congr (targetsGiven_perm targets)
  | call name arguments => exact gives_planCall hbelow hfunctions name arguments

end Below

variable {p : Planner} {c : Context} {x : Pattern} {plan : Plan}

private theorem givenCaptures_prepared (p : Planner) (x : Pattern) :
    (p.prepared x).givenCaptures = x.givenCaptures := by
  rw [prepared]
  split
  · exact Pattern.givenCaptures_simplifyWithin _ x
  · rfl

theorem gives_planWithin (hfunctions : p.extensions.functions = Extensions.standard.functions) (depth : Nat) :
    ∀ c x, Gives Plan.nodeCaptures (p.planWithin depth c x) x.givenCaptures := by
  induction depth with
  | zero => exact fun c x => .throw _
  | succ depth ih =>
      intro c x
      rw [← givenCaptures_prepared p]
      exact gives_planNode ih hfunctions (p.prepared x)

/-- The names that are made up for a query are different from one another and from those that its nodes give. The
nodes of the plan have these names and those that stand in arguments of calls, so that a name that is made up stands at
one node only, unless a call asks for it. -/
theorem made_up_captures_are_unique (hfunctions : p.extensions.functions = Extensions.standard.functions)
    (hplan : p.plan c x = .ok plan) :
    let reserved := x.captureNames.foldl CaptureNames.reserve CaptureNames.empty
    ∃ issued names, (p.planWithin p.limits.patternDepth c x).run reserved = .ok (plan, names) ∧
      Issued reserved issued names ∧
      (∀ name, names.contains name = true ↔ name ∈ x.captureNames ∨ name ∈ issued) ∧
      issued.Nodup ∧ (∀ name ∈ issued, name ∉ x.captureNames) ∧
      plan.nodeCaptures.Perm (issued ++ x.givenCaptures) ∧
      (∀ name ∈ x.givenCaptures, name ∈ x.captureNames ∨ name ∈ x.argumentCaptures) ∧
      ((∀ name ∈ issued, plan.nodeCaptures.count name = 1) ↔ ∀ name ∈ issued, name ∉ x.argumentCaptures) := by
  intro reserved
  obtain ⟨⟨_, names⟩, hrun, h⟩ := Result.bind_eq_ok.1 hplan
  obtain rfl := Except.ok.inj h
  obtain ⟨issued, hissued, hperm⟩ := gives_planWithin hfunctions _ c x reserved _ hrun
  have hreserved : ∀ name, reserved.contains name = true ↔ name ∈ x.captureNames := fun name =>
    (CaptureNames.contains_foldl_reserve _ _).trans (or_iff_left fun hempty => nomatch hempty)
  have hused : ∀ name, names.contains name = true ↔ name ∈ x.captureNames ∨ name ∈ issued := fun name =>
    hissued.contains_iff.trans (or_congr_left (hreserved name))
  have hnew : ∀ name ∈ issued, name ∉ x.captureNames := by
    intro name hname hmem
    have hfree := hissued.contains_eq_false name hname
    rw [(hreserved name).2 hmem] at hfree
    cases hfree
  refine ⟨issued, names, hrun, hissued, hused, hissued.nodup, hnew, hperm, fun _ => Pattern.mem_givenCaptures, ?_⟩
  -- A name that is made up counts once as such, so that it stands at one node if it is not given as well.
  refine forall₂_congr fun name hname => ?_
  have hcount := List.perm_iff_count.1 hperm name
  rw [List.count_append, List.count_eq_one_of_mem hissued.nodup hname] at hcount
  rw [hcount, Nat.add_eq_left, List.count_eq_zero]
  refine not_congr ⟨fun hmem => ?_, Pattern.mem_givenCaptures_of_argumentCaptures⟩
  exact (Pattern.mem_givenCaptures hmem).resolve_left (hnew name hname)

/-- A relation whose name is made up, beside a call that asks for that name: both relations are captured under it. -/
theorem made_up_captures_are_unique_unless_asked_for :
    let x : Pattern := .join .and [.call "rel" [.text "nsubj"],
      .call "rel" [.text "obl", .pattern .defaultValue, .text "source", .text "nsubj"]]
    let relations (type : String) : Plan := .relations ⟨"contents%_relation@s", type, .both, .source, "nsubj"⟩
    let plan : Plan := .join .and [relations "([^_].*)::(nsubj)", relations "([^_].*)::(obl)"]
    let reserved := x.captureNames.foldl CaptureNames.reserve CaptureNames.empty
    standard.plan wordContext x = .ok plan ∧ x.captureNames = [] ∧ x.argumentCaptures = ["nsubj"] ∧
      ∃ names, Issued reserved ["nsubj"] names ∧ plan.nodeCaptures.count "nsubj" = 2 ∧
        ¬∀ name ∈ ["nsubj"], plan.nodeCaptures.count name = 1 := by
  intro x relations plan reserved
  have hplan : standard.plan wordContext x = .ok plan := by rfl
  obtain ⟨issued, names, -, hissued, -, -, -, hperm, -, hunique⟩ := made_up_captures_are_unique (by rfl) hplan
  have hnsubj : issued = ["nsubj"] := List.perm_singleton.1 ((List.perm_append_right_iff ["nsubj"]).1 hperm.symm)
  rw [hnsubj] at hissued hunique
  refine ⟨hplan, by rfl, by rfl, names, hissued, by decide, fun hall => ?_⟩
  exact hunique.1 hall "nsubj" List.mem_cons_self (by decide)

end Planner

end CorpusSearch
