import CorpusSearch.Plan.OfPattern
import CorpusSearch.Proofs.RelationAgreement
import CorpusSearch.Proofs.Simplification

/-!
When simplifying is harmless. A planner that simplifies nodes and one that does not are compared in the context in
which a node stands; a pattern is harmless in a document if each rule that can change spans meets what it needs there.
Relations are planned alike by both as long as their targets are.
-/

set_option autoImplicit false

namespace CorpusSearch

/-- Behind the first sensitivity flag of an expression there is no other. -/
def TokenTest.FlaggedOnce (test : TokenTest) : Prop :=
  (Text.splitForcedSensitivity (Text.splitForcedSensitivity test.value).2).1 = none

/-- How exactly a clause has to be known for its modified hits to be known. -/
def Modifier.below (exact : Bool) : Modifier → Bool
  | .not | .filteredNGrams _ _ _ => false
  | .constrained _ => true
  | .repeated _ _ | .expanded _ _ _ | .capture _ | .edge _ | .version _ | .settings _ => exact

namespace Planner

def simplified (p : Planner) : Planner := { p with simplifying := true }

/-- The planner that takes nodes as they are. -/
def plain (p : Planner) : Planner := { p with simplifying := false }

theorem planWithin_simplified (p : Planner) (depth : Nat) (c : Context) (x : Pattern) :
    p.simplified.planWithin (depth + 1) c x =
      p.simplified.planNode (p.simplified.planWithin depth) c x.simplify := rfl

theorem planWithin_plain (p : Planner) (depth : Nat) (c : Context) (x : Pattern) :
    p.plain.planWithin (depth + 1) c x = p.plain.planNode (p.plain.planWithin depth) c x := rfl

theorem planNode_term (p : Planner) (below : PlansBelow) (c : Context) (test : TokenTest) :
    p.planNode below c (.term test) = MonadLiftT.monadLift (planTerm c test) := rfl

theorem planNode_regex (p : Planner) (below : PlansBelow) (c : Context) (test : TokenTest) :
    p.planNode below c (.regex test) = MonadLiftT.monadLift (p.planRegex c test) := rfl

theorem planRegex_simplified (p : Planner) (c : Context) (test : TokenTest) :
    p.simplified.planRegex c test = p.planRegex c test := by
  simp only [planRegex, checkExpression, simplified]

theorem planRegex_plain (p : Planner) (c : Context) (test : TokenTest) :
    p.plain.planRegex c test = p.planRegex c test := by
  simp only [planRegex, checkExpression, plain]

theorem planTags_simplified (p : Planner) (c : Context) (tag : TagPattern) :
    p.simplified.planTags c tag = p.plain.planTags c tag := by
  simp only [planTags, checkAttribute, checkExpression, simplified, plain]

/-- A clause is left out of relations by both planners, or matches any number of tokens of an idle field. -/
def LeftOutAlike (p : Planner) (c : Context) (x : Pattern) (idle : String → Prop) : Prop :=
  ∀ m n names r s, (p.simplified.planWithin m c x).run names = .ok r →
    (p.plain.planWithin n c x).run names = .ok s → Plan.LeftOutAlike idle r.1 s.1

/-- The hits of a clause that is negated twice are tokens of the field. -/
def FindsTokens (p : Planner) (scope : SearchScope) (exact : Bool) (c : Context) (x : Pattern) : Prop :=
  ∀ depth, Planning.Yields (p.plain.planWithin depth c x) (Plan.OnlyTokens scope exact c.fieldName)

/-- An expression of letters and numbers is not too large to be compiled. -/
def LiteralCompiles (p : Planner) (c : Context) (test : TokenTest) : Prop :=
  Text.isAlphanumeric (Text.splitForcedSensitivity test.value).2 = true →
    ∀ field expression, p.planRegex c test = .ok (.regex field expression) →
      Result.Succeeds (compileExpression expression)

/-- The plan of an expression with all its flags resolved; letters and numbers are planned as a value. -/
def planResolved (p : Planner) (c : Context) (test : TokenTest) : Result Plan :=
  if Text.isAlphanumeric test.resolved.value then planTerm c test.resolved
  else p.planRegex c test.resolved

def RelationContexts (c : Context) (head : RelationHead) (source target : Context) : Prop :=
  c.inVersion? head.operator.sourceVersion = .ok source ∧
    source.inVersion? head.operator.targetVersion = .ok target

def relationQuery (source : Context) (head : RelationHead) (field capture : String) : RelationQuery :=
  ⟨field, head.operator.fullType source.relationClass, head.operator.direction, head.spanMode, capture⟩

/--
The target of a relation that is no alignment is left out by both planners, or the relations end among the tokens of
the field that it matches.
-/
def TargetLeftOutAlike (p : Planner) (scope : SearchScope) (c : Context) (head : RelationHead)
    (target : Pattern) : Prop :=
  head.operator.alignment = false → ∀ source d, RelationContexts c head source d →
    p.LeftOutAlike d target.fillDefault fun targetField => ∀ field name, source.relationsField = .ok field →
      (relationQuery source head field name).IdleTarget scope targetField

/--
The parent of relations is left out by both planners, or the relations that have to start in it stand for spans of
tokens of the field that it matches.
-/
def ParentLeftOutAlike (p : Planner) (scope : SearchScope) (c : Context) (parent : Pattern)
    (targets : List (RelationHead × Pattern)) : Prop :=
  p.LeftOutAlike c parent fun parentField => ∀ depth,
    Planning.Yields (planParts (p.plain.planWithin depth) c targets) fun parts =>
      Plan.IdleParent scope c.fieldName parts.required parentField

/--
What is enough for the rules to change no spans of a pattern in a document, in the context in which it is planned.
Expressions have one flag at most; what is negated twice finds tokens; a clause that only becomes any number of tokens
by simplifying is no argument of a call, and the relations that it is left out of lie among these tokens. If `exact`, no
captures or relations change either.
-/
inductive Harmless (p : Planner) (scope : SearchScope) : Bool → Context → Pattern → Prop
  | term {e : Bool} {c : Context} (test : TokenTest) : Harmless p scope e c (.term test)
  | regex {e : Bool} {c : Context} {test : TokenTest} (hflags : test.FlaggedOnce)
      (hsize : p.LiteralCompiles c test) : Harmless p scope e c (.regex test)
  | anyToken {e : Bool} {c : Context} (min max : UInt32) : Harmless p scope e c (.anyToken min max)
  | fixedSpan {e : Bool} {c : Context} (span : Span) : Harmless p scope e c (.fixedSpan span)
  | tags {e : Bool} {c : Context} (tag : TagPattern) : Harmless p scope e c (.tags tag)
  | defaultValue {e : Bool} {c : Context} : Harmless p scope e c .defaultValue
  | join {e : Bool} {c : Context} {connective : Connective} {clauses : List Pattern}
      (hclauses : ∀ x ∈ clauses, Harmless p scope e c x) : Harmless p scope e c (.join connective clauses)
  | notNot {e : Bool} {c : Context} {x : Pattern} (hx : Harmless p scope e c x)
      (htokens : p.FindsTokens scope e c x) : Harmless p scope e c (.modify .not (.modify .not x))
  | not {e : Bool} {c : Context} {x : Pattern} (hnot : ∀ y, x ≠ .modify .not y)
      (hx : Harmless p scope false c x) : Harmless p scope e c (.modify .not x)
  | version {e : Bool} {c : Context} {name : String} {x : Pattern}
      (hx : ∀ d, c.inVersion (some name) = .ok d → Harmless p scope e d x) :
      Harmless p scope e c (.modify (.version name) x)
  | modify {e : Bool} {c : Context} {m : Modifier} {x : Pattern} (hnot : m ≠ .not)
      (hversion : ∀ name, m ≠ .version name) (hx : Harmless p scope (m.below e) c x) :
      Harmless p scope e c (.modify m x)
  | positionFilter {e : Bool} {c : Context} {test : PositionTest} {producer filter : Pattern}
      (hproducer : Harmless p scope e c producer)
      (hfilter : Harmless p scope (e && !test.inverted) c filter) :
      Harmless p scope e c (.positionFilter test producer filter)
  | relationTarget {e : Bool} {c : Context} {head : RelationHead} {target : Pattern}
      (htarget : ∀ source d, RelationContexts c head source d → Harmless p scope true d target.fillDefault)
      (hout : p.TargetLeftOutAlike scope c head target) : Harmless p scope e c (.relationTarget head target)
  | relationMatch {e : Bool} {c : Context} {parent : Pattern} {targets : List (RelationHead × Pattern)}
      (hparent : Harmless p scope true c parent) (hparentOut : p.ParentLeftOutAlike scope c parent targets)
      (htargets : ∀ t ∈ targets, ∀ source d, RelationContexts c t.1 source d →
        Harmless p scope (e || !t.1.operator.alignment) d t.2.fillDefault)
      (hout : ∀ t ∈ targets, p.TargetLeftOutAlike scope c t.1 t.2) :
      Harmless p scope e c (.relationMatch parent targets)
  | rootRelations {e : Bool} {c : Context} {targets : List (RelationHead × Pattern)}
      (htargets : ∀ t ∈ targets, ∀ source d, RelationContexts c t.1 source d →
        Harmless p scope (e || !t.1.operator.alignment) d t.2.fillDefault)
      (hout : ∀ t ∈ targets, p.TargetLeftOutAlike scope c t.1 t.2) :
      Harmless p scope e c (.rootRelations targets)
  | call {e : Bool} {c : Context} {name : String} {arguments : List (Argument Pattern)}
      (harguments : ∀ x, .pattern x ∈ arguments → Harmless p scope true c x)
      (hout : ∀ x, .pattern x ∈ arguments → p.LeftOutAlike c x fun _ => False) :
      Harmless p scope e c (.call name arguments)

/-! ### Relations -/

variable {scope : SearchScope} {exact : Bool} {below below' : PlansBelow} {c : Context}

def TargetsAgree (scope : SearchScope) (exact : Bool) (below below' : PlansBelow) (c : Context)
    (head : RelationHead) (target : Pattern) : Prop :=
  ∀ source d, RelationContexts c head source d →
    Planning.Agree (fun p q => Plan.Agree scope (exact || !head.operator.alignment) p q ∧
        (head.operator.alignment = false → Plan.LeftOutAlike (fun targetField => ∀ field name,
          source.relationsField = .ok field → (relationQuery source head field name).IdleTarget scope targetField) p q))
      (below d target.fillDefault) (below' d target.fillDefault)

private theorem agree_planTarget {R : Plan → Plan → Prop} {source : Context} {head : RelationHead} {target : Pattern}
    (h : ∀ d, source.inVersion? head.operator.targetVersion = .ok d →
      Planning.Agree R (below d target.fillDefault) (below' d target.fillDefault)) :
    Planning.Agree (fun a b => a.1 = b.1 ∧ R a.2 b.2) (planTarget below source head target)
      (planTarget below' source head target) := by
  refine (Planning.Agree.liftM _).bind ?_
  rintro d _ ⟨rfl, hd⟩
  refine (h d hd).bind fun p q hpq => ?_
  exact .pure ⟨rfl, hpq⟩

private theorem agree_planRelation {head : RelationHead} {target : Pattern}
    (halign : head.operator.alignment = false) (h : TargetsAgree scope exact below below' c head target) :
    Planning.Agree (fun p q => Plan.Agree scope true p q ∧ p.isAnyNGram = false ∧ q.isAnyNGram = false)
      (planRelation below c head target) (planRelation below' c head target) := by
  refine (Planning.Agree.liftM _).bind ?_
  rintro source _ ⟨rfl, hsource⟩
  refine (agree_planTarget fun d hd => h source d ⟨hsource, hd⟩).bind ?_
  rintro ⟨d, p⟩ ⟨_, q⟩ ⟨rfl, hpq, hout⟩
  rw [halign, Bool.not_false, Bool.or_true] at hpq
  exact .relationPlan source _ _ _ _ hpq (hout halign)

private theorem agree_planAlignment {head : RelationHead} {target : Pattern}
    (halign : head.operator.alignment = true) (h : TargetsAgree scope exact below below' c head target) :
    Planning.Agree (fun a b => a.1 = b.1 ∧ Plan.Agree scope exact a.2 b.2)
      (planAlignment below c head target) (planAlignment below' c head target) := by
  refine (Planning.Agree.liftM _).bind ?_
  rintro source _ ⟨rfl, hsource⟩
  refine (agree_planTarget fun d hd => h source d ⟨hsource, hd⟩).bind ?_
  rintro ⟨d, p⟩ ⟨_, q⟩ ⟨rfl, hpq, -⟩
  rw [halign, Bool.not_true, Bool.or_false] at hpq
  refine (Planning.Agree.refl _).bind ?_
  rintro _ _ rfl
  refine (Planning.Agree.refl _).bind ?_
  rintro capture _ rfl
  refine (Planning.Agree.refl _).bind ?_
  rintro field _ rfl
  exact .pure ⟨rfl, hpq⟩

/-- Parts that agree one by one; no required part is left out. -/
structure PartsAgree (scope : SearchScope) (exact : Bool) (a b : RelationParts) : Prop where
  required : List.Forall₂ (Plan.AgreeAsClause scope) a.required b.required
  excluded : List.Forall₂ (Plan.Agree scope true) a.excluded b.excluded
  aligned : List.Forall₂ (fun t u => t.1 = u.1 ∧ Plan.Agree scope exact t.2 u.2) a.aligned b.aligned

private theorem agree_planParts {targets : List (RelationHead × Pattern)}
    (h : ∀ t ∈ targets, TargetsAgree scope exact below below' c t.1 t.2) :
    Planning.Agree (PartsAgree scope exact) (planParts below c targets) (planParts below' c targets) := by
  induction targets with
  | nil => exact .pure ⟨.nil, .nil, .nil⟩
  | cons t targets ih =>
      obtain ⟨head, target⟩ := t
      have hfirst := h _ List.mem_cons_self
      have hrest := ih fun u hu => h u (List.mem_cons_of_mem _ hu)
      rw [planParts, planParts]
      cases halign : head.operator.alignment with
      | true =>
          rw [if_pos rfl, if_pos rfl]
          refine (agree_planAlignment halign hfirst).bind fun a b hab => ?_
          refine hrest.bind fun parts parts' hparts => ?_
          exact .pure ⟨hparts.required, hparts.excluded, .cons hab hparts.aligned⟩
      | false =>
          rw [if_neg Bool.false_ne_true, if_neg Bool.false_ne_true]
          refine (agree_planRelation halign hfirst).bind fun p q hpq => ?_
          refine hrest.bind fun parts parts' hparts => ?_
          cases head.operator.negated with
          | true => exact .pure ⟨hparts.required, .cons hpq.1 hparts.excluded, hparts.aligned⟩
          | false =>
              have hany := hpq.2.1.trans hpq.2.2.symm
              exact .pure ⟨.cons ⟨hpq.1, hany⟩ hparts.required, hparts.excluded, hparts.aligned⟩

private theorem isEmpty_of_forall₂ {α β : Type} {R : α → β → Prop} {as : List α} {bs : List β}
    (h : List.Forall₂ R as bs) : as.isEmpty = bs.isEmpty := by
  cases h with
  | nil => rfl
  | cons _ _ => rfl

private theorem agree_excluded {ps qs : List Plan} (h : List.Forall₂ (Plan.Agree scope true) ps qs) {p q : Plan}
    (hpq : Plan.Agree scope true p q) :
    Plan.Agree scope true (ps.foldl withoutRelation p) (qs.foldl withoutRelation q) := by
  induction h generalizing p q with
  | nil => exact hpq
  | cons hhead _ ih => exact ih (hpq.withoutRelation hhead)

theorem agree_planRelations {targets : List (RelationHead × Pattern)} {p q : Plan}
    (hpq : Plan.Agree scope true p q)
    (hout : Plan.LeftOutAlike (fun parentField => Planning.Yields (planParts below' c targets) fun parts =>
      Plan.IdleParent scope c.fieldName parts.required parentField) p q)
    (h : ∀ t ∈ targets, TargetsAgree scope exact below below' c t.1 t.2) :
    Planning.Agree (Plan.Agree scope exact) (planRelations below c p targets)
      (planRelations below' c q targets) := by
  have hidle : Planning.Yields (planParts below' c targets) fun parts =>
      Plan.LeftOutAlike (Plan.IdleParent scope c.fieldName parts.required) p q := by
    rcases hout with halike | ⟨parentField, hp, hidle⟩
    · exact (Planning.Yields.trivial _).imp fun _ _ => .inl halike
    · exact hidle.imp fun _ hidle => .inr ⟨parentField, hp, hidle⟩
  refine ((agree_planParts h).and_yields (Planning.Yields.trivial _) hidle).bind ?_
  rintro parts parts' ⟨hparts, -, hout⟩
  have hremaining := agree_excluded hparts.excluded
    (Plan.Agree.relationMatchPlan_cons c.fieldName hpq hout hparts.required)
  have hempty := isEmpty_of_forall₂ hparts.aligned
  dsimp only
  rw [hempty]
  cases parts'.aligned.isEmpty with
  | true => exact .pure hremaining.weaken
  | false => exact .pure (.align hremaining.weaken hparts.aligned)

theorem agree_planSingleRelation {head : RelationHead} {target : Pattern}
    (h : TargetsAgree scope exact below below' c head target) :
    Planning.Agree (Plan.Agree scope true) (planSingleRelation below c head target)
      (planSingleRelation below' c head target) := by
  unfold planSingleRelation
  cases halign : head.operator.alignment with
  | true => exact .fail_left _
  | false =>
      refine (agree_planRelation halign h).bind fun p q hpq => ?_
      cases head.operator.negated with
      | true => exact .pure ((Plan.Agree.refl _).withoutRelation hpq.1)
      | false => exact .pure hpq.1

/-! ### Function calls -/

private theorem agree_planArgument {function : String} {number : Nat} {expected : ArgumentType}
    {argument : Argument Pattern}
    (h : ∀ x, .pattern x = argument → Planning.Agree (Plan.AgreeAsClause scope) (below c x) (below' c x)) :
    Planning.Agree (Option.Rel (Argument.Agree scope))
      (planArgument below c function number expected argument)
      (planArgument below' c function number expected argument) := by
  unfold planArgument
  split
  · exact .pure .none
  · refine (h _ rfl).bind fun p q hpq => ?_
    exact .pure (.some (.pattern hpq))
  · exact .pure (.some (.text _))
  · exact .pure (.some (.number _))
  · exact .pure (.some (.text _))
  · split
    · exact .pure (.some (.number _))
    · exact .fail_left _
  · exact .fail_left _

private theorem agree_planArguments {f : QueryFunction} {function : String} {index : Nat}
    {arguments : List (Argument Pattern)}
    (h : ∀ x, .pattern x ∈ arguments → Planning.Agree (Plan.AgreeAsClause scope) (below c x) (below' c x)) :
    Planning.Agree (List.Forall₂ (Option.Rel (Argument.Agree scope)))
      (planArguments below c f function index arguments) (planArguments below' c f function index arguments) := by
  induction arguments generalizing index with
  | nil => exact .pure .nil
  | cons argument rest ih =>
      rw [planArguments, planArguments]
      cases f.typeAt? index with
      | none => exact .fail_left _
      | some expected =>
          refine (agree_planArgument fun x hx => h x (hx ▸ List.mem_cons_self)).bind fun a b hab => ?_
          refine (ih fun x hx => h x (List.mem_cons_of_mem _ hx)).bind fun as bs hrest => ?_
          exact .pure (.cons hab hrest)

theorem agree_planCall {p : Planner} (hfunctions : p.extensions.Respectful) {name : String}
    {arguments : List (Argument Pattern)}
    (h : ∀ x, .pattern x ∈ arguments → Planning.Agree (Plan.AgreeAsClause scope) (below c x) (below' c x)) :
    Planning.Agree (Plan.Agree scope true) (p.planCall below c name arguments)
      (p.planCall below' c name arguments) := by
  unfold planCall
  cases hf : p.extensions.functions.get? name with
  | none => exact .fail_left _
  | some f =>
      refine (agree_planArguments h).bind fun given given' hgiven => ?_
      refine (QueryFunction.agree_completeArguments hgiven).bind fun as bs hab => ?_
      exact hfunctions name f hf scope c as bs hab

end Planner

end CorpusSearch
