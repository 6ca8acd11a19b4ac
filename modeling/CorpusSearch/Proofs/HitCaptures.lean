import CorpusSearch.Proofs.PlanLookups
import CorpusSearch.Proofs.RelationMatches

/-!
What hits have captured. Captures are made by the nodes of a plan, and come into a hit with the hits that it is made
of. Main statements: all names of captures are among the names that are read off the plan, so that a condition is
refused for no capture that a hit can have; the relations that are captured are stored in the document.
-/

set_option autoImplicit false

namespace CorpusSearch

/-- A hit with captures under names of a set only, that has captured no relations but stored ones. -/
def Hit.Captured (d : Document) (ok : String → Prop) (h : Hit) : Prop :=
  ∀ e ∈ h.captures.entries, ok e.1 ∧ ∀ r ∈ e.2.parts.2, d.Stores r

namespace Hit

variable {d : Document} {ok : String → Prop} {a b : Hit} {xs ys : List Hit}

private theorem captured_ofSpan (s : Span) : Captured d ok (ofSpan s) := fun _ he => nomatch he

theorem Captured.union (ha : Captured d ok a) (hb : Captured d ok b) (s : Span) (relations : List Relation) :
    Captured d ok ⟨s, a.captures.union b.captures, relations⟩ := by
  intro e he
  rcases NameMap.mem_union he with he | he
  · exact ha e he
  · exact hb e he

theorem Captured.withCapture (ha : Captured d ok a) {name : String} {value : CaptureValue} (hname : ok name)
    (hstored : ∀ r ∈ value.parts.2, d.Stores r) : Captured d ok (a.withCapture name value) := by
  intro e he
  rcases Entries.mem_insert he with rfl | he
  · exact ⟨hname, hstored⟩
  · exact ha e he

/-! ### Operations -/

private theorem captured_of_joined {connective : PlanConnective} (hxs : ∀ a ∈ xs, Captured d ok a)
    (hys : ∀ b ∈ ys, Captured d ok b) {c : Hit} (h : Joined xs ys connective c) : Captured d ok c := by
  cases h with
  | both _ ha hb _ => exact (hxs _ ha).union (hys _ hb) _ _
  | left ha => exact hxs _ ha
  | right hb => exact hys _ hb
  | behind ha hb _ => exact (hxs _ ha).union (hys _ hb) _ _

private theorem captured_of_mem_rows {size : Nat} {low high : UInt32} (hxs : ∀ a ∈ xs, Captured d ok a)
    (h : a ∈ rows size low high xs) : Captured d ok a := by
  rcases mem_rows_iff.1 h with ⟨-, p, -, rfl⟩ | ⟨n, -, -, -, hrow⟩
  · exact captured_ofSpan _
  · exact IsRow.forall hxs (fun a b ha hb _ => ha.union hb _ _) hrow

private theorem captured_of_mem_expand {size : Nat} {direction : ExpansionDirection} {low high : UInt32}
    (ha : Captured d ok a) (h : b ∈ expand size direction low high a) : Captured d ok b := by
  cases direction with
  | left =>
      obtain ⟨n, -, rfl⟩ := List.mem_map.1 h
      exact ha
  | right =>
      obtain ⟨n, -, rfl⟩ := List.mem_map.1 h
      exact ha

private theorem captured_of_mem_filterPositions {test : PositionTest} (hxs : ∀ a ∈ xs, Captured d ok a)
    (hys : test.inverted = false → ∀ b ∈ ys, Captured d ok b) (h : b ∈ filterPositions test xs ys) :
    Captured d ok b := by
  obtain ⟨a, ha, hsome⟩ := List.mem_filterMap.1 h
  split at hsome
  · obtain rfl := Option.some.inj hsome
    exact hxs a ha
  · rename_i f hfound hinverted
    obtain rfl := Option.some.inj hsome
    exact (hxs a ha).union (hys hinverted f (List.mem_of_find?_eq_some hfound)) _ _
  · cases hsome
  · cases hsome

private theorem captured_of_align {head : AlignmentHead} {relations : List Relation} (hname : ok head.capture)
    (hstored : ∀ r ∈ relations, d.Stores r) (ha : Captured d ok a) (hys : ∀ b ∈ ys, Captured d ok b)
    (h : align head relations ys a = some b) : Captured d ok b := by
  unfold align at h
  dsimp only at h
  split at h
  · rename_i t ht
    obtain rfl := Option.some.inj h
    obtain ⟨span, -, hfound⟩ := Option.bind_eq_some_iff.1 ht
    have hmerged := ha.union (hys t (List.mem_of_find?_eq_some hfound)) a.span (a.relations ++ t.relations)
    exact hmerged.withCapture hname fun r hr => hstored r (List.mem_of_mem_filter hr)
  · split at h
    · obtain rfl := Option.some.inj h
      exact ha
    · cases h

/-! ### Relations that are looked for -/

private theorem stores_of_withinRelations {query : WithinQuery} {relations : List Relation}
    (h : withinRelations d query = .ok relations) : ∀ r ∈ relations, d.Stores r := by
  obtain ⟨type, -, h⟩ := Result.bind_eq_ok.1 h
  obtain ⟨content, hcontent, h⟩ := Result.bind_eq_ok.1 h
  obtain rfl := Except.ok.inj h
  exact fun r hr => Document.stores_of_contentAt hcontent (List.mem_of_mem_filter hr)

private theorem stores_of_alignmentRelations {head : AlignmentHead} {relations : List Relation}
    (h : alignmentRelations d head = .ok relations) : ∀ r ∈ relations, d.Stores r := by
  obtain ⟨type, -, h⟩ := Result.bind_eq_ok.1 h
  obtain ⟨content, hcontent, h⟩ := Result.bind_eq_ok.1 h
  obtain rfl := Except.ok.inj h
  exact fun r hr => Document.stores_of_contentAt hcontent (List.mem_of_mem_filter hr)

/-! ### Leaves -/

private theorem captured_of_tokenHits {name : String} {test : String → Bool} {hs : List Hit}
    (h : tokenHits d name test = .ok hs) : ∀ a ∈ hs, Captured d ok a := by
  intro a ha
  obtain ⟨field, content, p, -, -, rfl⟩ := token_of_mem_tokenHits h ha
  exact captured_ofSpan _

private theorem captured_of_tagHits {query : TagQuery} {hs : List Hit} (hname : ok query.capture)
    (h : tagHits d query = .ok hs) : ∀ a ∈ hs, Captured d ok a := by
  intro a ha
  obtain ⟨field, content, t, -, -, rfl⟩ := exists_of_mem_tagHits h ha
  exact (captured_ofSpan _).withCapture hname (List.forall_mem_nil _)

private theorem captured_of_relationHits {query : RelationQuery} {hs : List Hit} (hname : ok query.capture)
    (h : relationHits d query = .ok hs) : ∀ a ∈ hs, Captured d ok a := by
  obtain ⟨type, -, h⟩ := Result.bind_eq_ok.1 h
  obtain ⟨content, hcontent, h⟩ := Result.bind_eq_ok.1 h
  obtain rfl := Except.ok.inj h
  intro a ha
  obtain ⟨r, hr, rfl⟩ := List.mem_map.1 ha
  have hstored := Document.stores_of_contentAt hcontent (List.mem_of_mem_filter hr)
  exact (captured_ofSpan (r.spanFor query.spanMode)).withCapture hname (List.forall_mem_singleton.2 hstored)

end Hit

/-! ### Plans -/

def NameSet.In (ok : String → Prop) (names : NameSet) : Prop := ∀ name, names.contains name = true → ok name

namespace NameSet.In

variable {ok : String → Prop} {a b : NameSet}

theorem left (h : In ok (a.union b)) : In ok a := fun name hname =>
  h name (by rw [NameMap.contains_union, hname, Bool.true_or])

theorem right (h : In ok (a.union b)) : In ok b := fun name hname =>
  h name (by rw [NameMap.contains_union, hname, Bool.or_true])

private theorem inserted {name : String} (h : In ok (a.insert name ())) : ok name :=
  h name (by rw [NameMap.contains_insert, beq_self_eq_true, Bool.true_or])

theorem rest {name : String} (h : In ok (a.insert name ())) : In ok a := fun other hother =>
  h other (by rw [NameMap.contains_insert, hother, Bool.or_true])

end NameSet.In

private theorem Plan.captureNames_modify {m : PlanModifier} (hm : ∀ field, m ≠ .not field) (clause : Plan) :
    (modify m clause).captureNames = (modifierCaptures m).union clause.captureNames := by
  cases m with
  | not field => exact absurd rfl (hm field)
  | _ => rfl

namespace SearchScope

variable {scope : SearchScope} {ok : String → Prop}

private theorem captured_of_mem_modified {m : PlanModifier} {prepared : List Relation} {xs : List Hit}
    (hprepared : scope.prepare m = .ok prepared) (hnames : NameSet.In ok (Plan.modifierCaptures m))
    (hxs : (∀ field, m ≠ .not field) → ∀ a ∈ xs, Hit.Captured scope.document ok a) :
    ∀ a ∈ scope.modified prepared xs m, Hit.Captured scope.document ok a := by
  intro a ha
  cases m with
  | not field =>
      obtain ⟨p, -, -, rfl⟩ := Hit.mem_complement.1 ha
      exact Hit.captured_ofSpan _
  | repeated field low high => exact Hit.captured_of_mem_rows (hxs fun _ h => nomatch h) ha
  | expanded field direction low high =>
      obtain ⟨b, hb, ha⟩ := List.mem_flatMap.1 ha
      exact Hit.captured_of_mem_expand (hxs (fun _ h => nomatch h) b hb) ha
  | filteredNGrams field operation low high =>
      obtain ⟨n, -, -, start, -, rfl⟩ := Hit.mem_nGrams.1 (List.mem_of_mem_filter ha)
      exact Hit.captured_ofSpan _
  | capture name =>
      obtain ⟨b, hb, rfl⟩ := List.mem_map.1 ha
      exact (hxs (fun _ h => nomatch h) b hb).withCapture hnames.inserted (List.forall_mem_nil _)
  | edge trailing =>
      obtain ⟨b, hb, rfl⟩ := List.mem_map.1 ha
      exact hxs (fun _ h => nomatch h) b hb
  | relationSpan mode =>
      obtain ⟨b, hb, rfl⟩ := List.mem_map.1 ha
      exact hxs (fun _ h => nomatch h) b hb
  | relationsWithin query =>
      obtain ⟨b, hb, rfl⟩ := List.mem_map.1 ha
      have hstored := Hit.stores_of_withinRelations hprepared
      exact (hxs (fun _ h => nomatch h) b hb).withCapture hnames.inserted fun r hr =>
        hstored r (List.mem_of_mem_filter hr)
  | constrained constraint field layers => exact hxs (fun _ h => nomatch h) a (List.mem_of_mem_filter ha)

-- One induction over plans, lists of clauses and lists of targets, as they are evaluated; the set of names is that of
-- the whole plan throughout.
mutual

private theorem captured_of_hits :
    (plan : Plan) → plan.captureNames.In ok → {hs : List Hit} → scope.hits plan = .ok hs →
    ∀ a ∈ hs, Hit.Captured scope.document ok a
  | .term field value, _, hs, h => by
      rw [hits] at h
      obtain ⟨found, hfound, h⟩ := Result.bind_eq_ok.1 h
      obtain rfl := Except.ok.inj h
      exact fun a ha => Hit.captured_of_tokenHits hfound a (Hit.mem_sorted.1 ha)
  | .regex field expression, _, hs, h => by
      rw [hits] at h
      obtain ⟨core, -, h⟩ := Result.bind_eq_ok.1 h
      obtain ⟨found, hfound, h⟩ := Result.bind_eq_ok.1 h
      obtain rfl := Except.ok.inj h
      exact fun a ha => Hit.captured_of_tokenHits hfound a (Hit.mem_sorted.1 ha)
  | .anyToken field low high, _, hs, h => by
      rw [hits] at h
      obtain rfl := Except.ok.inj h
      intro a ha
      obtain ⟨n, -, -, start, -, rfl⟩ := Hit.mem_nGrams.1 (Hit.mem_sorted.1 ha)
      exact Hit.captured_ofSpan _
  | .fixedSpan field span, _, hs, h => by
      rw [hits] at h
      obtain rfl := Except.ok.inj h
      split
      · exact List.forall_mem_singleton.2 (Hit.captured_ofSpan _)
      · exact List.forall_mem_nil _
  | .tags query, hnames, hs, h => by
      rw [hits] at h
      obtain ⟨found, hfound, h⟩ := Result.bind_eq_ok.1 h
      obtain rfl := Except.ok.inj h
      have hname : ok query.capture := NameSet.In.inserted hnames
      exact fun a ha => Hit.captured_of_tagHits hname hfound a (Hit.mem_sorted.1 ha)
  | .relations query, hnames, hs, h => by
      rw [hits] at h
      obtain ⟨found, hfound, h⟩ := Result.bind_eq_ok.1 h
      obtain rfl := Except.ok.inj h
      have hname : ok query.capture := NameSet.In.inserted hnames
      exact fun a ha => Hit.captured_of_relationHits hname hfound a (Hit.mem_sorted.1 ha)
  | .join connective clauses, hnames, hs, h => by
      rw [hits] at h
      obtain ⟨found, hfound, h⟩ := Result.bind_eq_ok.1 h
      obtain rfl := Except.ok.inj h
      have hclauses := captured_of_hitLists clauses hnames hfound
      have hjoined : ∀ a ∈ Hit.joined connective found, Hit.Captured scope.document ok a :=
        Hit.forall_joined (fun hx hy => Hit.captured_of_joined hx hy) hclauses
      exact fun a ha => hjoined a (Hit.mem_sorted.1 ha)
  | .modify modifier clause, hnames, hs, h => by
      rw [hits] at h
      obtain ⟨prepared, hprepared, h⟩ := Result.bind_eq_ok.1 h
      obtain ⟨found, hfound, h⟩ := Result.bind_eq_ok.1 h
      obtain rfl := Except.ok.inj h
      have hown : (Plan.modifierCaptures modifier).In ok := by
        cases modifier with
        | not field => exact fun _ hname => nomatch hname
        | _ => exact NameSet.In.left hnames
      have hclause : (∀ field, modifier ≠ .not field) → ∀ a ∈ found, Hit.Captured scope.document ok a := by
        intro hm
        rw [Plan.captureNames_modify hm] at hnames
        exact captured_of_hits clause hnames.right hfound
      exact fun a ha => captured_of_mem_modified hprepared hown hclause a (Hit.mem_sorted.1 ha)
  | .positionFilter test producer filter, hnames, hs, h => by
      rw [hits] at h
      obtain ⟨partners, hpartners, h⟩ := Result.bind_eq_ok.1 h
      obtain ⟨found, hfound, h⟩ := Result.bind_eq_ok.1 h
      obtain rfl := Except.ok.inj h
      have hproducer : producer.captureNames.In ok := by
        rw [Plan.captureNames] at hnames
        split at hnames
        · exact hnames
        · exact hnames.left
      have hfilter : test.inverted = false → filter.captureNames.In ok := by
        intro hinverted
        rw [Plan.captureNames, hinverted, if_neg Bool.false_ne_true] at hnames
        exact hnames.right
      have hxs := captured_of_hits producer hproducer hfound
      have hys : test.inverted = false → ∀ b ∈ partners, Hit.Captured scope.document ok b :=
        fun hinverted => captured_of_hits filter (hfilter hinverted) hpartners
      exact fun a ha => Hit.captured_of_mem_filterPositions hxs hys (Hit.mem_sorted.1 ha)
  | .align source targets, hnames, hs, h => by
      rw [Plan.captureNames] at hnames
      rw [hits] at h
      obtain ⟨found, hfound, h⟩ := Result.bind_eq_ok.1 h
      obtain ⟨aligned, haligned, h⟩ := Result.bind_eq_ok.1 h
      obtain rfl := Except.ok.inj h
      have hxs := captured_of_hits source hnames.left hfound
      exact fun a ha => captured_of_alignAll targets hnames.right hxs haligned a (Hit.mem_sorted.1 ha)

private theorem captured_of_hitLists :
    (plans : List Plan) → (Plan.captureNamesOf plans).In ok → {hss : List (List Hit)} →
    scope.hitLists plans = .ok hss → ∀ hs ∈ hss, ∀ a ∈ hs, Hit.Captured scope.document ok a
  | [], _, hss, h => by
      rw [hitLists] at h
      obtain rfl := Except.ok.inj h
      exact List.forall_mem_nil _
  | plan :: plans, hnames, hss, h => by
      rw [Plan.captureNamesOf] at hnames
      rw [hitLists] at h
      obtain ⟨first, hfirst, h⟩ := Result.bind_eq_ok.1 h
      obtain ⟨rest, hrest, h⟩ := Result.bind_eq_ok.1 h
      obtain rfl := Except.ok.inj h
      exact List.forall_mem_cons.2
        ⟨captured_of_hits plan hnames.left hfirst, captured_of_hitLists plans hnames.right hrest⟩

private theorem captured_of_alignAll : (targets : List (AlignmentHead × Plan)) →
    (Plan.targetCaptureNames targets).In ok → {sources hs : List Hit} →
      (∀ a ∈ sources, Hit.Captured scope.document ok a) → scope.alignAll targets sources = .ok hs →
        ∀ a ∈ hs, Hit.Captured scope.document ok a
  | [], _, sources, hs, hsources, h => by
      rw [alignAll] at h
      obtain rfl := Except.ok.inj h
      exact hsources
  | (head, target) :: targets, hnames, sources, hs, hsources, h => by
      rw [Plan.targetCaptureNames] at hnames
      rw [alignAll] at h
      obtain ⟨relations, hrelations, h⟩ := Result.bind_eq_ok.1 h
      obtain ⟨found, hfound, h⟩ := Result.bind_eq_ok.1 h
      have htarget := captured_of_hits target hnames.left.rest hfound
      have hstored := Hit.stores_of_alignmentRelations hrelations
      refine captured_of_alignAll targets hnames.right (fun a ha => ?_) h
      obtain ⟨b, hb, hsome⟩ := List.mem_filterMap.1 ha
      exact Hit.captured_of_align hnames.left.inserted hstored (hsources b hb) htarget hsome

end

theorem stores_of_mem_captures {plan : Plan} {hs : List Hit} (h : scope.hits plan = .ok hs) {a : Hit} (ha : a ∈ hs)
    {e : String × CaptureValue} (he : e ∈ a.captures.entries) {r : Relation} (hr : r ∈ e.2.parts.2) :
    scope.document.Stores r := by
  have hcaptured : Hit.Captured scope.document (fun _ => True) a := captured_of_hits plan (fun _ _ => trivial) h a ha
  exact (hcaptured e he).2 r hr

private theorem contains_captureNames {plan : Plan} {hs : List Hit} (h : scope.hits plan = .ok hs) {a : Hit}
    (ha : a ∈ hs)
    {name : String} (hname : a.captures.contains name = true) : plan.captureNames.contains name = true := by
  obtain ⟨value, hmem⟩ := NameMap.contains_iff_mem.1 hname
  have hcaptured : Hit.Captured scope.document (fun name => plan.captureNames.contains name = true) a :=
    captured_of_hits plan (fun _ hn => hn) h a ha
  exact (hcaptured _ hmem).1

end SearchScope

/-! ### Conditions -/

namespace Constraint

variable {c : Context} {predicates : NameMap Predicate} {name : String}

private theorem readLayer_ne_unknownCapture (layer : String) :
    readLayer c layer ≠ .error (.invalidQuery (.unknownCapture name)) := by
  intro h
  rcases Result.bind_eq_error.1 h with h | ⟨field, -, h⟩
  · rw [Context.field] at h
    split at h
    · cases h
    · cases h
  · split at h
    · cases h
    · cases h

private theorem ofFilter_ne_unknownCapture (filter : Filter) :
    ofFilter c predicates filter ≠ .error (.invalidQuery (.unknownCapture name)) := by
  have hread : ∀ {layer : String} {f : NameSet → ReadingConstraint},
      (do return f (← readLayer c layer)) ≠ (.error (.invalidQuery (.unknownCapture name)) : Result _) := by
    intro layer f h
    rcases Result.bind_eq_error.1 h with h | ⟨layers, -, h⟩
    · exact readLayer_ne_unknownCapture layer h
    · cases h
  have hboth : ∀ {a b : Filter} {join : ReadingConstraint → ReadingConstraint → ReadingConstraint},
      ofFilter c predicates a ≠ .error (.invalidQuery (.unknownCapture name)) →
      ofFilter c predicates b ≠ .error (.invalidQuery (.unknownCapture name)) →
      (do
        let a ← ofFilter c predicates a
        return join a (← ofFilter c predicates b)) ≠
          (.error (.invalidQuery (.unknownCapture name)) : Result _) := by
    intro a b join ha hb h
    rcases Result.bind_eq_error.1 h with h | ⟨_, -, h⟩
    · exact ha h
    · rcases Result.bind_eq_error.1 h with h | ⟨_, -, h⟩
      · exact hb h
      · cases h
  induction filter with
  | and a b iha ihb => exact hboth iha ihb
  | or a b iha ihb => exact hboth iha ihb
  | implies a b iha ihb => exact hboth iha ihb
  | compare left right operator s iha ihb => exact hboth iha ihb
  | equals left right s iha ihb => exact hboth iha ihb
  | not a ih =>
      intro h
      rcases Result.bind_eq_error.1 h with h | ⟨_, -, h⟩
      · exact ih h
      · cases h
  | sameTokens a b layer s => exact hread
  | text value => exact fun h => nomatch h
  | tokenValue capture layer => exact hread
  | tokenEquals capture layer value s => exact hread
  | call function capture =>
      rw [ofFilter]
      split
      · exact fun h => nomatch h
      · exact fun h => nomatch h

end Constraint

namespace Planner

private theorem of_planConstrained_eq_unknownCapture {p : Planner} {c : Context} {clause : Plan} {filter : Filter}
    {name : String} (h : p.planConstrained c clause filter = .error (.invalidQuery (.unknownCapture name))) :
    name ∈ filter.captures ∧ clause.captureNames.contains name = false := by
  rw [planConstrained] at h
  split at h
  · rename_i unknown hfound
    cases h
    exact ⟨List.mem_of_find?_eq_some hfound, by simpa using List.find?_some hfound⟩
  · rcases Result.bind_eq_error.1 h with h | ⟨_, -, h⟩
    · exact absurd h (Constraint.ofFilter_ne_unknownCapture filter)
    · cases h

/-- Hits have no captures but those that their plan names, in all indexes; a condition on the hits of a plan is refused
for no capture that one of them can have. -/
theorem hits_capture_what_the_plan_names (plan : Plan) :
    (∀ (index : Index) (field : String), ∀ found ∈ index.search plan field, ∀ hs, found.hits = .ok hs →
      ∀ h ∈ hs, ∀ name, h.captures.contains name = true → plan.captureNames.contains name = true) ∧
    ∀ (p : Planner) (c : Context) (filter : Filter) (name : String),
      p.planConstrained c plan filter = .error (.invalidQuery (.unknownCapture name)) →
        name ∈ filter.captures ∧
        ∀ (index : Index) (field : String), ∀ found ∈ index.search plan field, ∀ hs, found.hits = .ok hs →
          ∀ h ∈ hs, h.captures.contains name = false := by
  have hnamed : ∀ (index : Index) (field : String), ∀ found ∈ index.search plan field, ∀ hs, found.hits = .ok hs →
      ∀ h ∈ hs, ∀ name, h.captures.contains name = true → plan.captureNames.contains name = true := by
    intro index field found hfound hs hhits h hh name hname
    obtain ⟨scope, hscope⟩ := Index.exists_scope_of_mem_search hfound
    exact SearchScope.contains_captureNames (hscope ▸ hhits) hh hname
  refine ⟨hnamed, fun p c filter name hrefused => ?_⟩
  obtain ⟨hmem, hunknown⟩ := of_planConstrained_eq_unknownCapture hrefused
  refine ⟨hmem, fun index field found hfound hs hhits h hh => ?_⟩
  by_contra hname
  have hcontains := hnamed index field found hfound hs hhits h hh name (by simpa using hname)
  rw [hunknown] at hcontains
  cases hcontains

/-- A verb without a receiver, aligned with its object: a condition on the receiver is refused. -/
theorem hits_capture_what_the_plan_names_foxesSeeDogs :
    let word (value : String) : Plan := .term "contents%word@s" value
    let receiver : Plan := .relations ⟨"contents%_relation@s", "(dep)::(iobj)", .both, .source, "receiver"⟩
    let plan : Plan := .align (withoutRelation (.modify (.capture "verb") (word "see")) receiver)
      [(⟨"contents%_relation@s", "(dep)::(obj)", "contents", "object", false⟩, .modify (.capture "noun") (word "dogs"))]
    let index : Index := ⟨[foxesSeeDogs], NameMap.empty⟩
    let hit : Hit := (((Hit.ofSpan ⟨1, 2⟩).withCapture "verb" (.span ⟨1, 2⟩)).withCapture "noun"
      (.span ⟨2, 3⟩)).withCapture "object" (.relations [⟨"dep::obj", ⟨1, 2⟩, ⟨2, 3⟩⟩])
    ⟨0, .ok [hit]⟩ ∈ index.search plan "contents" ∧ hit.captures.contains "noun" = true ∧
      plan.captureNames.contains "noun" = true ∧
      standard.planConstrained wordContext plan (.tokenValue "receiver" "word") =
        .error (.invalidQuery (.unknownCapture "receiver")) ∧
      hit.captures.contains "receiver" = false := by
  intro word receiver plan index hit
  have hhits : SearchScope.hits ⟨foxesSeeDogs, NameMap.empty⟩ plan = .ok [hit] := by decide +kernel
  have hfound : ⟨0, .ok [hit]⟩ ∈ index.search plan "contents" := by
    rw [← hhits]
    exact List.mem_singleton_self _
  have hrefused : standard.planConstrained wordContext plan (.tokenValue "receiver" "word") =
      .error (.invalidQuery (.unknownCapture "receiver")) := by rfl
  have hnoun : hit.captures.contains "noun" = true := by decide
  obtain ⟨hnamed, hknown⟩ := hits_capture_what_the_plan_names plan
  exact ⟨hfound, hnoun, hnamed index "contents" _ hfound _ rfl hit List.mem_cons_self "noun" hnoun, hrefused,
    (hknown _ _ _ _ hrefused).2 index "contents" _ hfound _ rfl hit List.mem_cons_self⟩

end Planner

end CorpusSearch
