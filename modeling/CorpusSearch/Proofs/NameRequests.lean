import CorpusSearch.Proofs.PlanCaptureNames

/-!
Planning and the names in use. All that planning does with the names in use is to ask for new ones. Main statement: a
name that is reserved beforehand changes nothing but that it is in use, if planning does not hand it out.
-/

set_option autoImplicit false

namespace CorpusSearch

namespace CaptureNames

variable {names : CaptureNames} {base name : String}

private theorem reserve_comm (names : CaptureNames) (a b : String) :
    (names.reserve a).reserve b = (names.reserve b).reserve a := by
  refine congrArg CaptureNames.mk (NameMap.ext_get? fun other => ?_)
  simp only [reserve, NameMap.get?_insert]
  by_cases ha : other = a
  · simp [ha]
  · by_cases hb : other = b
    · simp [hb]
    · simp [ha, hb]

theorem foldl_reserve_reserve (names : CaptureNames) (name : String) (reserved : List String) :
    reserved.foldl CaptureNames.reserve (names.reserve name) =
      (reserved.foldl CaptureNames.reserve names).reserve name := by
  induction reserved generalizing names with
  | nil => rfl
  | cons other reserved ih => rw [List.foldl_cons, reserve_comm, ih, List.foldl_cons]

theorem reserve_of_contains (h : names.contains name = true) : names.reserve name = names := by
  refine congrArg CaptureNames.mk (NameMap.ext_get? fun other => ?_)
  rw [NameMap.get?_insert]
  split
  · rename_i hother
    rw [contains, NameMap.contains, Option.isSome_iff_exists] at h
    obtain ⟨_, hget⟩ := h
    rw [hother, hget]
  · rfl

private theorem firstFree_eq {fuel n k : Nat} (hk : k ≤ fuel)
    (hused : ∀ i < k, names.contains (numbered base (n + i)) = true)
    (hfree : names.contains (numbered base (n + k)) = false) :
    names.firstFree base fuel n = numbered base (n + k) := by
  induction k generalizing fuel n with
  | zero =>
      cases fuel with
      | zero => rfl
      | succ fuel =>
          have hn : ¬names.contains (numbered base n) = true := by
            rw [Nat.add_zero] at hfree
            rw [hfree]
            exact Bool.false_ne_true
          rw [firstFree, if_neg hn]
          rfl
  | succ k ih =>
      obtain ⟨fuel, rfl⟩ : ∃ m, fuel = m + 1 := ⟨fuel - 1, by omega⟩
      have hn : names.contains (numbered base n) = true := hused 0 (Nat.succ_pos k)
      have hnext : n + (k + 1) = n + 1 + k := by omega
      rw [firstFree, if_pos hn, hnext]
      refine ih (by omega) (fun i hi => ?_) ?_
      · have hi := hused (i + 1) (by omega)
        rwa [Nat.add_comm i 1, ← Nat.add_assoc] at hi
      · rwa [← hnext]

private theorem freeName_reserve (h : names.freeName base ≠ name) :
    (names.reserve name).freeName base = names.freeName base := by
  have hkeeps : ∀ {other}, names.contains other = true → (names.reserve name).contains other = true := by
    intro other hother
    rw [contains_reserve, hother, Bool.or_true]
  have hfree : (names.reserve name).contains (names.freeName base) = false := by
    rw [contains_reserve, contains_freeName, Bool.or_false]
    exact beq_eq_false_iff_ne.2 h
  by_cases hbase : names.contains base = true
  · obtain ⟨k, -, hname, hused, -⟩ := exists_firstFree names base names.used.names.length 2
    have hfound : names.freeName base = numbered base (2 + k) := by rw [freeName, if_pos hbase, hname]
    have hused : ∀ i < k, (names.reserve name).contains (numbered base (2 + i)) = true :=
      fun i hi => hkeeps (hused i hi)
    rw [hfound] at hfree ⊢
    rw [freeName, if_pos (hkeeps hbase)]
    exact firstFree_eq (le_length_of_numbered hused) hused hfree
  · have hfound : names.freeName base = base := by rw [freeName, if_neg hbase]
    rw [hfound] at hfree ⊢
    rw [freeName, hfree, if_neg Bool.false_ne_true]

end CaptureNames

/-! ### Steps -/

namespace Planning

variable {α β : Type}

/-- Planning that does nothing with the names in use but ask for new ones. -/
inductive Asks : {α : Type} → Planning α → Prop
  | pure {α : Type} (a : α) : Asks (Pure.pure a)
  | throw {α : Type} (e : QueryError) : Asks (throw e : Planning α)
  | uniqueName (base : String) : Asks (uniqueName base)
  | bind {α β : Type} {x : Planning α} {f : α → Planning β} (hx : Asks x) (hf : ∀ a, Asks (f a)) :
      Asks (x >>= f)

namespace Asks

theorem liftM (x : Result α) : Asks (liftM x : Planning α) := by
  cases x with
  | error e => exact throw e
  | ok a => exact pure a

theorem fail (fault : QueryFault) : Asks (fail fault : Planning α) := throw _

theorem mapM {x : α → Planning β} {items : List α} (h : ∀ a ∈ items, Asks (x a)) : Asks (items.mapM x) := by
  induction items with
  | nil => exact pure []
  | cons a items ih =>
      obtain ⟨ha, hitems⟩ := List.forall_mem_cons.1 h
      rw [List.mapM_cons]
      exact ha.bind fun b => (ih hitems).bind fun results => pure _

theorem forM {x : α → Planning PUnit} {items : List α} (h : ∀ a ∈ items, Asks (x a)) : Asks (items.forM x) := by
  induction items with
  | nil => exact pure _
  | cons a items ih =>
      obtain ⟨ha, hitems⟩ := List.forall_mem_cons.1 h
      exact ha.bind fun _ => ih hitems

theorem contains_mono {x : Planning α} (h : Asks x) {name : String} :
    ∀ {names r}, x.run names = .ok r → names.contains name = true → r.2.contains name = true := by
  induction h with
  | pure a =>
      intro names r hr hname
      obtain rfl := Except.ok.inj hr
      exact hname
  | throw e => exact fun hr => nomatch hr
  | uniqueName base =>
      intro names r hr hname
      obtain rfl := Except.ok.inj hr
      show (names.reserve (names.freeName base)).contains name = true
      rw [CaptureNames.contains_reserve, hname, Bool.or_true]
  | bind _ _ ihx ihf =>
      intro names r hr hname
      obtain ⟨s, hs, hr⟩ := run_bind_eq_ok.1 hr
      exact ihf s.1 hr (ihx hs hname)

theorem run_reserve {x : Planning α} (h : Asks x) {name : String} : ∀ {names r}, x.run names = .ok r →
    r.2.contains name = false → x.run (names.reserve name) = .ok (r.1, r.2.reserve name) := by
  induction h with
  | pure a =>
      intro names r hr _
      obtain rfl := Except.ok.inj hr
      rfl
  | throw e => exact fun hr => nomatch hr
  | uniqueName base =>
      intro names r hr hfree
      obtain rfl := Except.ok.inj hr
      have hne : names.freeName base ≠ name := by
        rintro rfl
        change (names.reserve (names.freeName base)).contains (names.freeName base) = false at hfree
        rw [CaptureNames.contains_reserve, beq_self_eq_true, Bool.true_or] at hfree
        cases hfree
      show Except.ok ((names.reserve name).freeName base,
        (names.reserve name).reserve ((names.reserve name).freeName base)) = _
      rw [CaptureNames.freeName_reserve hne, CaptureNames.reserve_comm]
      rfl
  | bind _ hf ihx ihf =>
      intro names r hr hfree
      obtain ⟨s, hs, hr⟩ := run_bind_eq_ok.1 hr
      have hmid : s.2.contains name = false := by
        rw [← Bool.not_eq_true]
        intro hmid
        rw [(hf s.1).contains_mono hr hmid] at hfree
        cases hfree
      exact run_bind_eq_ok.2 ⟨_, ihx hs hmid, ihf s.1 hr hfree⟩

end Asks

end Planning

open Planning (Asks)

/-! ### Relations and functions -/

private theorem asks_captureFor (name : Option String) (type : String) : Asks (captureFor name type) := by
  cases name with
  | none => exact .uniqueName _
  | some name => exact .pure name

theorem asks_relationPlan (c : Context) (fullType : String) (target : Option Plan) (direction : RelationDirection)
    (mode : SpanMode) (capture : Option String) : Asks (relationPlan c fullType target direction mode capture) := by
  rw [relationPlan_eq]
  refine (Asks.liftM _).bind fun _ => (Asks.liftM _).bind fun field => ?_
  exact (asks_captureFor _ _).bind fun name => .pure _

namespace RelationFunction

private theorem asks_textAt (arguments : List (Argument Plan)) (index : Nat) : Asks (textAt arguments index) := by
  unfold textAt
  split
  · exact .pure _
  · exact .fail _

private theorem asks_planAt (arguments : List (Argument Plan)) (index : Nat) : Asks (planAt arguments index) := by
  unfold planAt
  split
  · exact .pure _
  · exact .fail _

private theorem asks_decode {α : Type} [Coded α] (code : String) : Asks (decode α code) := by
  unfold decode
  split
  · exact .pure _
  · exact .fail _

private theorem asks_captureWithin (c : Context) (clause : Plan) (within : Option String) (capture type : String) :
    Asks (captureWithin c clause within capture type) := by
  refine (Asks.liftM _).bind fun _ => (Asks.liftM _).bind fun field => ?_
  exact (Asks.uniqueName capture).bind fun name => .pure _

end RelationFunction

open RelationFunction in
private theorem Extensions.asks_standard {name : String} {f : QueryFunction} (h : standard.functions.get? name = some f)
    (c : Context) (arguments : List (Argument Plan)) : Asks (f.build c arguments) := by
  refine standard_cases (P := fun f => Asks (f.build c arguments)) ?_ ?_ ?_ ?_ ?_ h
  · refine (asks_textAt _ _).bind fun type => (asks_planAt _ _).bind fun target => ?_
    refine (asks_textAt _ _).bind fun modeCode => (asks_decode _).bind fun mode => ?_
    refine (asks_textAt _ _).bind fun capture => (asks_textAt _ _).bind fun directionCode => ?_
    exact (asks_decode _).bind fun direction => asks_relationPlan _ _ _ _ _ _
  · exact (Asks.mapM fun i _ => asks_planAt _ _).bind fun clauses => .pure _
  · refine (asks_planAt _ _).bind fun clause => (asks_textAt _ _).bind fun modeCode => ?_
    exact (asks_decode _).bind fun mode => .pure _
  · refine (asks_planAt _ _).bind fun clause => (asks_textAt _ _).bind fun capture => ?_
    exact (asks_textAt _ _).bind fun type => asks_captureWithin _ _ _ _ _
  · refine (asks_planAt _ _).bind fun clause => (asks_textAt _ _).bind fun within => ?_
    refine (asks_textAt _ _).bind fun capture => (asks_textAt _ _).bind fun type => ?_
    exact asks_captureWithin _ _ _ _ _

/-! ### Nodes -/

namespace Planner

variable {p : Planner} {c : Context}

private theorem asks_planTags (tag : TagPattern) : Asks (p.planTags c tag) := by
  refine (Asks.forM fun e _ => .liftM _).bind fun _ => (Asks.liftM _).bind fun field => ?_
  dsimp only
  cases tag.capture with
  | none => exact (Asks.uniqueName tag.name).bind fun name => .pure _
  | some name => exact .pure _

section Below

variable {below : PlansBelow} (hbelow : ∀ c x, Asks (below c x))

include hbelow

private theorem asks_planTarget (source : Context) (head : RelationHead) (target : Pattern) :
    Asks (planTarget below source head target) :=
  (Asks.liftM _).bind fun d => (hbelow d _).bind fun _ => .pure _

private theorem asks_planRelation (head : RelationHead) (target : Pattern) :
    Asks (planRelation below c head target) := by
  refine (Asks.liftM _).bind fun source => (asks_planTarget hbelow source head target).bind fun r => ?_
  exact asks_relationPlan _ _ _ _ _ _

private theorem asks_planAlignment (head : RelationHead) (target : Pattern) :
    Asks (planAlignment below c head target) := by
  refine (Asks.liftM _).bind fun source => (asks_planTarget hbelow source head target).bind fun r => ?_
  refine (Asks.liftM _).bind fun _ => (asks_captureFor _ _).bind fun name => ?_
  exact (Asks.liftM _).bind fun field => .pure _

private theorem asks_planParts (targets : List (RelationHead × Pattern)) : Asks (planParts below c targets) := by
  induction targets with
  | nil => exact .pure _
  | cons t targets ih =>
      rw [planParts]
      split
      · exact (asks_planAlignment hbelow t.1 t.2).bind fun a => ih.bind fun parts => .pure _
      · refine (asks_planRelation hbelow t.1 t.2).bind fun q => ih.bind fun parts => ?_
        split
        · exact .pure _
        · exact .pure _

private theorem asks_planRelations (parent : Plan) (targets : List (RelationHead × Pattern)) :
    Asks (planRelations below c parent targets) := by
  rw [planRelations_eq]
  exact (asks_planParts hbelow targets).bind fun parts => .pure _

private theorem asks_planSingleRelation (head : RelationHead) (target : Pattern) :
    Asks (planSingleRelation below c head target) := by
  unfold planSingleRelation
  dsimp only
  by_cases halignment : head.operator.alignment = true
  · rw [if_pos halignment]
    exact .throw _
  · rw [if_neg halignment]
    refine (asks_planRelation hbelow head target).bind fun q => ?_
    split
    · exact .pure _
    · exact .pure _

private theorem asks_planArgument (function : String) (number : Nat) (expected : ArgumentType) (a : Argument Pattern) :
    Asks (planArgument below c function number expected a) := by
  unfold planArgument
  split
  · exact .pure _
  · exact (hbelow c _).bind fun q => .pure _
  · exact .pure _
  · exact .pure _
  · exact .pure _
  · split
    · exact .pure _
    · exact .fail _
  · exact .fail _

private theorem asks_planArguments (f : QueryFunction) (function : String) (arguments : List (Argument Pattern)) :
    ∀ index, Asks (planArguments below c f function index arguments) := by
  induction arguments with
  | nil => exact fun _ => .pure _
  | cons a arguments ih =>
      intro index
      rw [planArguments]
      split
      · exact .fail _
      · refine (asks_planArgument hbelow function (index + 1) _ a).bind fun first => ?_
        exact (ih (index + 1)).bind fun given => .pure _

private theorem asks_planCall (hfunctions : p.extensions.functions = Extensions.standard.functions) (name : String)
    (arguments : List (Argument Pattern)) : Asks (p.planCall below c name arguments) := by
  unfold planCall
  rw [hfunctions]
  split
  · exact .fail _
  · rename_i f hf
    refine (asks_planArguments hbelow f name arguments 0).bind fun given => ?_
    exact (Asks.liftM _).bind fun complete => Extensions.asks_standard hf c complete

private theorem asks_planModifier (m : Modifier) (clause : Pattern) : Asks (p.planModifier below c clause m) := by
  cases m with
  | constrained filter => exact (hbelow c clause).bind fun q => .liftM _
  | version name => exact (Asks.liftM _).bind fun d => hbelow d clause
  | settings values => exact hbelow c clause
  | _ => exact (hbelow c clause).bind fun q => .pure _

private theorem asks_planNode (hfunctions : p.extensions.functions = Extensions.standard.functions) (x : Pattern) :
    Asks (p.planNode below c x) := by
  cases x with
  | term test => exact .liftM _
  | regex test => exact .liftM _
  | anyToken min max => exact .pure _
  | fixedSpan span => exact .pure _
  | tags tag => exact asks_planTags tag
  | defaultValue => exact .fail _
  | join connective clauses => exact (Asks.mapM fun x _ => hbelow c x).bind fun plans => .pure _
  | modify m clause => exact asks_planModifier hbelow m clause
  | positionFilter test producer filter =>
      exact (hbelow c producer).bind fun q => (hbelow c filter).bind fun r => .pure _
  | relationTarget head target => exact asks_planSingleRelation hbelow head target
  | relationMatch parent targets => exact (hbelow c parent).bind fun q => asks_planRelations hbelow q targets
  | rootRelations targets => exact asks_planRelations hbelow _ targets
  | call name arguments => exact asks_planCall hbelow hfunctions name arguments

end Below

theorem asks_planWithin (hfunctions : p.extensions.functions = Extensions.standard.functions) (depth : Nat) :
    ∀ c x, Asks (p.planWithin depth c x) := by
  induction depth with
  | zero => exact fun c x => .throw _
  | succ depth ih => exact fun c x => asks_planNode ih hfunctions (p.prepared x)

end Planner

end CorpusSearch
