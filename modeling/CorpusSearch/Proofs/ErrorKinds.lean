import CorpusSearch.Pattern.Json
import CorpusSearch.Proofs.PlanningErrors

/-!
Which kinds of errors each stage ends with. Planning a pattern fails for a fault of the query or for a limit, and
reading JSON for a fault of the JSON or, where a pattern is built from it, of parts that do not fit together. Main
statement: no stage ends with an error of another kind, as long as the functions are the relation functions.
-/

set_option autoImplicit false

namespace CorpusSearch

open Result (Refuses)

/-- Errors of a query in its context, or of its size. -/
inductive QueryError.OfPlanning : QueryError → Prop
  | invalidQuery (fault : QueryFault) : OfPlanning (.invalidQuery fault)
  | patternTooLarge (fault : SizeFault) : OfPlanning (.patternTooLarge fault)

/-- Errors of a JSON value that is no node. -/
inductive QueryError.OfJson : QueryError → Prop
  | invalidJson (fault : JsonFault) : OfJson (.invalidJson fault)

/-- Errors of a JSON value that is no pattern, or of what it says a pattern is built from. -/
inductive QueryError.OfBuilding : QueryError → Prop
  | invalidJson (fault : JsonFault) : OfBuilding (.invalidJson fault)
  | construction (fault : ConstructionFault) : OfBuilding (.construction fault)

open QueryError (OfPlanning OfJson OfBuilding)

private theorem QueryError.OfNode.ofPlanning {e : QueryError} (h : e.OfNode) : e.OfPlanning := by
  cases h with
  | meaning fault => exact .invalidQuery fault
  | expressionDepth limit => exact .patternTooLarge _
  | expressionSize limit => exact .patternTooLarge _

private theorem QueryError.OfJson.ofBuilding {e : QueryError} (h : e.OfJson) : e.OfBuilding := by
  cases h with
  | invalidJson fault => exact .invalidJson fault

/-! ### Fields -/

namespace NodeReader

variable {P : QueryError → Prop} (hjson : ∀ fault, P (.invalidJson fault)) (r : NodeReader)

include hjson

private theorem fault_refuses {α : Type} (f : JsonFault) : (fault f : Result α).Refuses P := .error (hjson f)

private theorem ofJson_refuses (value : Json) : (ofJson value).Refuses P := by
  unfold ofJson
  split
  · split
    · exact .ok _
    · exact fault_refuses hjson _
  · exact fault_refuses hjson _

private theorem expect_refuses {α : Type} (field expected : String) (value : Option α) :
    (r.expect field expected value).Refuses P := by
  cases value with
  | none => exact fault_refuses hjson _
  | some x => exact .ok x

private theorem value_refuses (field : String) : (r.value field).Refuses P := by
  unfold value
  split
  · exact .ok _
  · exact fault_refuses hjson _

private theorem str_refuses (field : String) : (r.str field).Refuses P :=
  (r.value_refuses hjson field).bind fun _ => r.expect_refuses hjson _ _ _

private theorem str?_refuses (field : String) : (r.str? field).Refuses P := by
  unfold str?
  split
  · exact .ok _
  · exact (r.expect_refuses hjson _ _ _).bind fun _ => .ok _

private theorem offset_refuses (field : String) : (r.offset field).Refuses P := by
  unfold offset
  split
  · exact .ok _
  · exact (r.expect_refuses hjson _ _ _).bind fun n => .ite (.ok n) (fault_refuses hjson _)

private theorem flag_refuses (field : String) : (r.flag field).Refuses P := by
  unfold flag
  split
  · exact .ok _
  · exact r.expect_refuses hjson _ _ _

private theorem arr_refuses (field : String) : (r.arr field).Refuses P :=
  (r.value_refuses hjson field).bind fun _ => r.expect_refuses hjson _ _ _

private theorem pair_refuses (field : String) : (r.pair field).Refuses P := by
  refine (r.arr_refuses hjson field).bind fun items => ?_
  split
  · exact .ok _
  · exact fault_refuses hjson _

theorem decode_refuses (α : Type) [Coded α] (code : String) : (r.decode α code).Refuses P := by
  unfold decode
  split
  · exact .ok _
  · exact fault_refuses hjson _

private theorem codeOr_refuses {α : Type} [Coded α] (field : String) (usual : α) :
    (r.codeOr field usual).Refuses P := by
  refine (r.str?_refuses hjson field).bind fun code => ?_
  split
  · exact r.decode_refuses hjson α _
  · exact .ok _

private theorem code_refuses (α : Type) [Coded α] (field : String) : (r.code α field).Refuses P :=
  (r.str_refuses hjson field).bind fun code => r.decode_refuses hjson α code

theorem sensitivity_refuses : r.sensitivity.Refuses P := by
  refine (r.str?_refuses hjson _).bind fun code => ?_
  split
  · exact (r.decode_refuses hjson Sensitivity _).bind fun _ => .ok _
  · exact .ok _

end NodeReader

/-! ### Filters -/

namespace Filter

open NodeReader (fault_refuses)

private theorem readClauses_refuses {read : Json → Result Filter} (hread : ∀ v, (read v).Refuses OfJson)
    (r : NodeReader) : (readClauses read r).Refuses OfJson := by
  refine (r.pair_refuses .invalidJson _).bind fun p => ?_
  exact (hread _).bind fun a => (hread _).bind fun b => .ok _

private theorem ofJsonWithin_refuses (fuel : Nat) (value : Json) : (ofJsonWithin fuel value).Refuses OfJson := by
  induction fuel generalizing value with
  | zero => exact fault_refuses .invalidJson _
  | succ fuel hread =>
      rw [ofJsonWithin]
      refine (NodeReader.ofJson_refuses .invalidJson value).bind fun r => ?_
      have hclauses := readClauses_refuses hread r
      have hstr := r.str_refuses OfJson.invalidJson
      have hsensitivity := r.sensitivity_refuses OfJson.invalidJson
      have hexpect {α : Type} (field expected : String) (v : Option α) :=
        r.expect_refuses OfJson.invalidJson field expected v
      dsimp only
      split
      case h_1 => exact hclauses.bind fun c => .ok _
      case h_2 => exact hclauses.bind fun c => .ok _
      case h_3 => exact hclauses.bind fun c => .ok _
      case h_4 => exact (r.value_refuses .invalidJson _).bind fun v => (hread v).bind fun a => .ok _
      case h_5 =>
        refine hclauses.bind fun c => (hstr _).bind fun symbol => ?_
        split
        · exact hsensitivity.bind fun s => .ok _
        · exact fault_refuses .invalidJson _
      case h_6 => exact hclauses.bind fun c => hsensitivity.bind fun s => .ok _
      case h_7 =>
        refine (r.pair_refuses .invalidJson _).bind fun p => (hexpect _ _ _).bind fun a => ?_
        exact (hexpect _ _ _).bind fun b => (hstr _).bind fun layer => hsensitivity.bind fun s => .ok _
      case h_8 => exact (hstr _).bind fun text => .ok _
      case h_9 => exact (hstr _).bind fun capture => (hstr _).bind fun layer => .ok _
      case h_10 =>
        refine (hstr _).bind fun capture => (hstr _).bind fun layer => ?_
        exact (hstr _).bind fun text => hsensitivity.bind fun s => .ok _
      case h_11 => exact (hstr _).bind fun name => (hstr _).bind fun capture => .ok _
      case h_12 => exact fault_refuses .invalidJson _

private theorem ofJson_refuses (value : Json) : (ofJson value).Refuses OfJson := ofJsonWithin_refuses _ value

end Filter

/-! ### Nodes that are built -/

namespace Build

private theorem checked_refuses {α : Type} {c : Prop} [Decidable c] {fault : ConstructionFault} {a : α} :
    Refuses (if c then .error (.construction fault) else .ok a) OfBuilding :=
  .ite (.error (.construction fault)) (.ok a)

private theorem checkBounds_refuses (node : String) (min max : UInt32) :
    (checkBounds node min max).Refuses OfBuilding :=
  checked_refuses

private theorem checkNonEmpty_refuses (node : String) (min max : UInt32) :
    (checkNonEmpty node min max).Refuses OfBuilding :=
  (checkBounds_refuses node min max).bind fun _ => .ite (.error (.construction _)) (.ok _)

private theorem anyToken_refuses (min max : UInt32) : (anyToken min max).Refuses OfBuilding :=
  (checkNonEmpty_refuses _ min max).bind fun _ => .ok _

private theorem not_refuses (clause : Pattern) : (not clause).Refuses OfBuilding := by
  unfold not
  split
  · exact .ok _
  · exact .ite (.ok _) (.error (.construction _))

private theorem repetition_refuses (clause : Pattern) (min max : UInt32) :
    (repetition clause min max).Refuses OfBuilding :=
  (checkNonEmpty_refuses _ min max).bind fun _ => .ite (.ok _) (.ok _)

private theorem expansion_refuses (clause : Pattern) (direction : ExpansionDirection) (min max : UInt32) :
    (expansion clause direction min max).Refuses OfBuilding :=
  (checkBounds_refuses _ min max).bind fun _ => .ok _

private theorem filterNGrams_refuses (clause : Pattern) (operation : PositionOperation) (min max : UInt32) :
    (filterNGrams clause operation min max).Refuses OfBuilding :=
  (checkBounds_refuses _ min max).bind fun _ => .ok _

private theorem relationMatch_refuses (parent : Pattern) (targets : List (RelationHead × Pattern)) :
    (relationMatch parent targets).Refuses OfBuilding :=
  .ite (.error (.construction _)) checked_refuses

private theorem rootRelations_refuses (targets : List (RelationHead × Pattern)) :
    (rootRelations targets).Refuses OfBuilding :=
  .ite (.error (.construction _)) checked_refuses

end Build

theorem RelationOperator.build_refuses (type : String) (direction : RelationDirection)
    (targetVersion : Option String) (negated alignment isOptional : Bool) :
    (build type direction targetVersion negated alignment isOptional).Refuses OfBuilding :=
  .ite (.error (.construction _)) (.ite (.error (.construction _)) Build.checked_refuses)

/-! ### Patterns -/

namespace NodeReader

variable (r : NodeReader)

private theorem bound_refuses (field : String) (v : Json) : (r.bound field v).Refuses OfBuilding := by
  refine (r.expect_refuses .invalidJson _ _ _).bind fun n => ?_
  exact .ite (.error (.construction _)) (.ite (.ok _) (fault_refuses .invalidJson _))

private theorem min_refuses : r.min.Refuses OfBuilding :=
  (r.value_refuses .invalidJson _).bind fun v => r.bound_refuses _ v

private theorem max_refuses : r.max.Refuses OfBuilding := by
  unfold max
  split
  · exact r.bound_refuses _ _
  · exact .ok _

end NodeReader

namespace Pattern

open NodeReader (fault_refuses)

variable (r : NodeReader)

private theorem readTest_refuses : (readTest r).Refuses OfBuilding := by
  refine (r.str_refuses .invalidJson _).bind fun value => (r.str?_refuses .invalidJson _).bind fun layer => ?_
  exact (r.sensitivity_refuses .invalidJson).bind fun s => .ok _

private theorem readAttribute_refuses (value : Json) : (readAttribute r value).Refuses OfBuilding := by
  unfold readAttribute
  split
  · exact .ok _
  · refine (r.expect_refuses .invalidJson _ _ _).bind fun low => ?_
    exact (r.expect_refuses .invalidJson _ _ _).bind fun high => Build.checked_refuses
  · exact fault_refuses .invalidJson _

private theorem readAttributes_refuses : (readAttributes r).Refuses OfBuilding := by
  unfold readAttributes
  split
  · exact .ok _
  · refine (r.expect_refuses .invalidJson _ _ _).bind fun fields => ?_
    refine (Refuses.mapM (fun field => ?_) fields).bind fun entries => .ok _
    exact (readAttribute_refuses r field.2).bind fun value => .ok _

private theorem readSettings_refuses : (readSettings r).Refuses OfBuilding := by
  refine (r.value_refuses .invalidJson _).bind fun value => ?_
  exact (r.expect_refuses .invalidJson _ _ _).bind fun fields => .ok _

section Below

variable {read : Json → Result Pattern} (hread : ∀ v, (read v).Refuses OfBuilding)

include hread

private theorem readArgument_refuses (value : Json) : (readArgument read r value).Refuses OfBuilding := by
  unfold readArgument
  split
  · exact .ok _
  · exact (r.expect_refuses .invalidJson _ _ _).bind fun n => .ok _
  · exact (r.expect_refuses .invalidJson _ _ _).bind fun n => .ok _
  · exact (hread _).bind fun q => .ok _
  · exact fault_refuses .invalidJson _

private theorem readTarget_refuses (value : Json) : (readTarget read value).Refuses OfBuilding := by
  refine (NodeReader.ofJson_refuses .invalidJson value).bind fun r => .ite (fault_refuses .invalidJson _) ?_
  have hstr? := r.str?_refuses OfBuilding.invalidJson
  have hflag := r.flag_refuses OfBuilding.invalidJson
  refine (hstr? _).bind fun type => (r.codeOr_refuses .invalidJson _ _).bind fun direction => ?_
  refine (hstr? _).bind fun targetVersion => (hflag _).bind fun negated => (hflag _).bind fun alignment => ?_
  refine (hflag _).bind fun isOptional => (RelationOperator.build_refuses _ _ _ _ _ _).bind fun operator => ?_
  refine (hstr? _).bind fun sourceVersion => (r.value_refuses .invalidJson _).bind fun v => ?_
  refine (hread v).bind fun target => (r.codeOr_refuses .invalidJson _ _).bind fun mode => ?_
  exact (hstr? _).bind fun capture => Build.checked_refuses.bind fun head => .ok _

private theorem readNode_refuses (value : Json) : (readNode read value r).Refuses OfBuilding := by
  have hclause (field : String) : Refuses (do read (← r.value field)) OfBuilding :=
    (r.value_refuses .invalidJson field).bind hread
  have hclauses : Refuses (do (← r.arr "clauses").mapM read) OfBuilding :=
    (r.arr_refuses .invalidJson _).bind fun items => .mapM hread items
  have hstr := r.str_refuses OfBuilding.invalidJson
  have hvalue := r.value_refuses OfBuilding.invalidJson
  unfold readNode
  dsimp only
  split
  case h_1 => exact (readTest_refuses r).bind fun test => .ok _
  case h_2 => exact (readTest_refuses r).bind fun test => .ok _
  case h_3 => exact r.min_refuses.bind fun low => r.max_refuses.bind fun high => Build.anyToken_refuses _ _
  case h_4 => exact hclauses.bind fun clauses => Build.checked_refuses
  case h_5 => exact hclauses.bind fun clauses => Build.checked_refuses
  case h_6 => exact hclauses.bind fun clauses => Build.checked_refuses
  case h_7 => exact (hclause _).bind fun q => Build.not_refuses _
  case h_8 =>
    refine (hclause _).bind fun q => r.min_refuses.bind fun low => ?_
    exact r.max_refuses.bind fun high => Build.repetition_refuses _ _ _
  case h_9 =>
    refine (hclause _).bind fun q => (r.code_refuses .invalidJson _ _).bind fun direction => ?_
    exact r.min_refuses.bind fun low => r.max_refuses.bind fun high => Build.expansion_refuses _ _ _ _
  case h_10 =>
    refine (hclause _).bind fun producer => (hclause _).bind fun filter => ?_
    refine (r.code_refuses .invalidJson _ _).bind fun operation => ?_
    refine (r.flag_refuses .invalidJson _).bind fun inverted => (r.offset_refuses .invalidJson _).bind fun leading => ?_
    exact (r.offset_refuses .invalidJson _).bind fun trailing => .ok _
  case h_11 =>
    refine (hclause _).bind fun q => (r.code_refuses .invalidJson _ _).bind fun operation => ?_
    exact r.min_refuses.bind fun low => r.max_refuses.bind fun high => Build.filterNGrams_refuses _ _ _ _
  case h_12 => exact (hclause _).bind fun q => (hstr _).bind fun name => Build.checked_refuses
  case h_13 =>
    refine (hclause _).bind fun q => (hvalue _).bind fun v => ?_
    exact ((Filter.ofJson_refuses v).imp fun _ h => h.ofBuilding).bind fun filter => .ok _
  case h_14 => exact (hclause _).bind fun q => (r.flag_refuses .invalidJson _).bind fun trailing => .ok _
  case h_15 =>
    refine (hvalue _).bind fun v => (r.bound_refuses _ v).bind fun start => ?_
    exact (hvalue _).bind fun w => (r.bound_refuses _ w).bind fun stop => Build.checked_refuses
  case h_16 =>
    refine (hstr _).bind fun name => (readAttributes_refuses r).bind fun attributes => ?_
    refine (r.codeOr_refuses .invalidJson _ _).bind fun adjust => ?_
    exact (r.str?_refuses .invalidJson _).bind fun capture => Build.checked_refuses
  case h_17 => exact (readTarget_refuses hread value).bind fun t => .ok _
  case h_18 =>
    refine (r.arr_refuses .invalidJson _).bind fun items => ?_
    refine (Refuses.mapM (readTarget_refuses hread) items).bind fun targets => ?_
    split
    · exact (hread _).bind fun parent => Build.relationMatch_refuses _ _
    · exact Build.rootRelations_refuses _
  case h_19 => exact .ok _
  case h_20 => exact (hclause _).bind fun q => (hstr _).bind fun name => Build.checked_refuses
  case h_21 =>
    refine (hstr _).bind fun name => (r.arr_refuses .invalidJson _).bind fun items => ?_
    exact (Refuses.mapM (readArgument_refuses r hread) items).bind fun arguments => Build.checked_refuses
  case h_22 => exact (hclause _).bind fun q => (readSettings_refuses r).bind fun values => .ok _
  case h_23 => exact .ite (fault_refuses .invalidJson _) (fault_refuses .invalidJson _)

end Below

private theorem ofJsonWithin_refuses (fuel : Nat) (value : Json) : (ofJsonWithin fuel value).Refuses OfBuilding := by
  induction fuel generalizing value with
  | zero => exact fault_refuses .invalidJson _
  | succ fuel hread =>
      rw [ofJsonWithin]
      exact (NodeReader.ofJson_refuses .invalidJson value).bind fun r => readNode_refuses r hread value

private theorem ofJson_refuses (value : Json) : (ofJson value).Refuses OfBuilding := ofJsonWithin_refuses _ value

end Pattern

/-- Each stage ends with errors of its own kinds only. -/
theorem errors_are_of_their_stage (p : Planner) (hfunctions : p.extensions.functions = Extensions.standard.functions) :
    (∀ c x e, p.plan c x = .error e → e.OfPlanning) ∧ (∀ value e, Pattern.ofJson value = .error e → e.OfBuilding) ∧
      ∀ value e, Filter.ofJson value = .error e → e.OfJson := by
  refine ⟨fun c x => ?_, Pattern.ofJson_refuses, Filter.ofJson_refuses⟩
  have hbuild : ∀ name f, p.extensions.functions.get? name = some f → ∀ c values, f.Takes c values →
      (f.build c values).Refuses OfPlanning := fun name f hf c values _ =>
    (Extensions.refusesAsNode_standard (hfunctions ▸ hf) c values).imp fun _ h => h.ofPlanning
  exact Planner.plan_refuses (fun _ h => h.ofNode.ofPlanning) (.patternTooLarge _) hbuild c x

/-- A call with a number for its target, a span that ends before it starts, and a text filter without its text. -/
theorem errors_are_of_their_stage_each :
    let p : Planner := ⟨Extensions.standard, Limits.standard, true⟩
    let c : Context := ⟨⟨NameMap.empty⟩, "contents", none, "word", .insensitive, false, FieldName.anyClass⟩
    let planning := QueryError.invalidQuery (.wrongArgumentType "rel" 2 "Query")
    let building := QueryError.construction (.startAfterEnd 3 1)
    let json := QueryError.invalidJson (.missing "mf-string" "value")
    let span := Json.obj [("type", .str "fixedspan"), ("start", .int 3), ("end", .int 1)]
    let filter := Json.obj [("type", .str "mf-string")]
    (p.plan c (.call "rel" [.text "nsubj", .number 1]) = .error planning ∧ planning.OfPlanning) ∧
      (Pattern.ofJson span = .error building ∧ building.OfBuilding) ∧
      Filter.ofJson filter = .error json ∧ json.OfJson := by
  intro p c planning building json span filter
  have hplan : p.plan c (.call "rel" [.text "nsubj", .number 1]) = .error planning := by rfl
  have hspan : Pattern.ofJson span = .error building := by rfl
  have hfilter : Filter.ofJson filter = .error json := by rfl
  obtain ⟨hplanning, hbuilding, hjson⟩ := errors_are_of_their_stage p rfl
  exact ⟨⟨hplan, hplanning _ _ _ hplan⟩, ⟨hspan, hbuilding _ _ hspan⟩, hfilter, hjson _ _ hfilter⟩

end CorpusSearch
