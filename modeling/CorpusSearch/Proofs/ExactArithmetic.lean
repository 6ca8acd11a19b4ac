import CorpusSearch.Proofs.HitCaptures

/-!
Evaluation with checked arithmetic. Every sum, every difference and every number that is made a position stops the
evaluation if it is none; loops run over positions. Main statement: in a document with less than half as many tokens
as there are positions nothing is stopped, so that the checked evaluation has the same result, and all hits lie among
the tokens.
-/

set_option autoImplicit false

namespace CorpusSearch

/-! ### Checked arithmetic -/

inductive Fault where
  /-- A number is no position. -/
  | outOfRange
  | query (e : QueryError)
  deriving DecidableEq

/-- Results of evaluations that check their arithmetic. -/
abbrev Checked := Except Fault

namespace Checked

variable {α β : Type}

def word (n : Int) : Checked UInt32 :=
  if 0 ≤ n ∧ n < 4294967296 then .ok (UInt32.ofNat n.toNat) else .error .outOfRange

def add (a b : UInt32) : Checked UInt32 := word (a.toNat + b.toNat)

def sub (a b : UInt32) : Checked UInt32 := word (a.toNat - b.toNat)

def saturatingAdd (a b : UInt32) : UInt32 := UInt32.ofNat (min (a.toNat + b.toNat) 4294967295)

def saturatingSub (a b : UInt32) : UInt32 := UInt32.ofNat (a.toNat - b.toNat)

/-- The result of a step without arithmetic. -/
def ofResult (x : Result α) : Checked α := x.mapError .query

theorem word_eq {n : Nat} (h : n < 4294967296) : word n = .ok (UInt32.ofNat n) := by
  rw [word, if_pos (by omega), Int.toNat_natCast]

private theorem add_eq {a b : UInt32} (h : a.toNat + b.toNat < 4294967296) :
    add a b = .ok (UInt32.ofNat (a.toNat + b.toNat)) := by
  rw [add, ← Int.natCast_add, word_eq h]

private theorem sub_eq {a b : UInt32} (h : b.toNat ≤ a.toNat) : sub a b = .ok (UInt32.ofNat (a.toNat - b.toNat)) := by
  have ha := a.toNat_lt
  rw [sub, ← Int.natCast_sub h, word_eq (by omega)]

@[simp] theorem ok_bind (a : α) (f : α → Checked β) : ((.ok a : Checked α) >>= f) = f a := rfl

@[simp] theorem pure_eq_ok (a : α) : (pure a : Checked α) = .ok a := rfl

private theorem ofResult_bind {x : Result α} {f : α → Result β} {g : α → Checked β}
    (h : ∀ a, x = .ok a → g a = ofResult (f a)) : (ofResult x >>= g) = ofResult (x >>= f) := by
  cases x with
  | error e => rfl
  | ok a => exact h a rfl

private theorem ofResult_ne_outOfRange {x : Result α} : ofResult x ≠ .error .outOfRange := by
  cases x with
  | error e => exact fun h => nomatch h
  | ok a => exact fun h => nomatch h

private theorem mapM_eq {f : α → Checked β} {g : α → β} {xs : List α} (h : ∀ x ∈ xs, f x = .ok (g x)) :
    xs.mapM f = .ok (xs.map g) := by
  induction xs with
  | nil => rfl
  | cons x xs ih =>
      obtain ⟨hx, hxs⟩ := List.forall_mem_cons.1 h
      rw [List.mapM_cons, hx, ok_bind, ih hxs, ok_bind, pure_eq_ok, List.map_cons]

private theorem filterMapM_eq {f : α → Checked (Option β)} {g : α → Option β} {xs : List α}
    (h : ∀ x ∈ xs, f x = .ok (g x)) : xs.filterMapM f = .ok (xs.filterMap g) := by
  induction xs with
  | nil => rfl
  | cons x xs ih =>
      obtain ⟨hx, hxs⟩ := List.forall_mem_cons.1 h
      rw [List.filterMapM_cons, hx, ok_bind, List.filterMap_cons, ih hxs]
      cases g x with
      | none => rfl
      | some y => rfl

def words (low high : UInt32) : List UInt32 := (Hit.between low.toNat high.toNat).map UInt32.ofNat

private theorem mapM_words {f : UInt32 → Checked β} {g : Nat → β} {low high : UInt32}
    (h : ∀ n : UInt32, low.toNat ≤ n.toNat → n.toNat ≤ high.toNat → f n = .ok (g n.toNat)) :
    (words low high).mapM f = .ok ((Hit.between low.toNat high.toNat).map g) := by
  have hhigh := high.toNat_lt
  rw [words, List.mapM_map]
  refine mapM_eq fun n hn => ?_
  obtain ⟨hlow, hle⟩ := Hit.mem_between.1 hn
  have hword : (UInt32.ofNat n).toNat = n := Span.toNat_ofNat_of_lt (by omega)
  have heq := h (UInt32.ofNat n) (by rwa [hword]) (by rwa [hword])
  rwa [hword] at heq

/-! ### Operations on hits -/

def size (d : Document) (field : String) : Checked UInt32 :=
  match d.get? field with
  | some content => word content.size
  | none => .ok 0

def token (p : UInt32) : Checked Span := do return ⟨p, ← add p 1⟩

/-- The spans of `low` to `high` tokens from a position, among `size` tokens. -/
def nGramsFrom (size low high start : UInt32) : Checked (List Hit) := do
  let room ← sub size start
  (words low (min high room)).mapM fun n => do return .ofSpan ⟨start, ← add start n⟩

def nGrams (size low high : UInt32) : Checked (List Hit) := do
  return (← (words 0 size).mapM (nGramsFrom size low high)).flatten

/-- Tokens whose value in an index field passes a test. -/
def tokenHits (d : Document) (indexField : String) (test : String → Bool) : Checked (List Hit) := do
  let (field, layer, s) ← ofResult (Document.readIndexField indexField)
  let content := (d.get? field).getD FieldContent.empty
  content.tokens.zipIdx.filterMapM fun (values, position) =>
    match values.get? layer with
    | some value =>
      if test (s.desensitize value) then do return some (.ofSpan (← token (← word position))) else return none
    | none => return none

def complement (size : UInt32) (hits : List Hit) : Checked (List Hit) := do
  let tokens ← (List.range size.toNat).mapM fun p => token (UInt32.ofNat p)
  return (tokens.filter fun s => !hits.any fun h => h.span = s).map .ofSpan

/-- Rows of `n` adjacent hits, and of more, from `current`, which holds the rows of `n` hits. -/
def rowsFrom (hits : List Hit) (low : UInt32) : Nat → UInt32 → List Hit → Checked (List Hit)
  | 0, _, _ => .ok []
  | count + 1, n, current =>
    if current.isEmpty then .ok []
    else do
      let longer ← rowsFrom hits low count (← add n 1) (Hit.concat current hits)
      return (if low ≤ n then current else []) ++ longer

def rows (size low high : UInt32) (hits : List Hit) : Checked (List Hit) := do
  let longer ← rowsFrom hits low (min high (saturatingAdd size 1)).toNat 1 hits
  return (if low = 0 then (words 0 size).map fun p => .ofSpan ⟨p, p⟩ else []) ++ longer

def expand (size : UInt32) (direction : ExpansionDirection) (low high : UInt32) (h : Hit) : Checked (List Hit) :=
  match direction with
  | .left => (words low (min high h.span.start)).mapM fun n => do
    return h.withSpan ⟨← sub h.span.start n, h.span.stop⟩
  | .right => (words low (min high (saturatingSub size h.span.stop))).mapM fun n => do
    return h.withSpan ⟨h.span.start, ← add h.span.stop n⟩

def moveBy (position : UInt32) (offset : Int) : Checked UInt32 := word (max (position.toNat + offset) 0)

/-- Producers with a partner, and its captures; for an inverted test producers without one. -/
def filterPositions (test : PositionTest) (producer filter : List Hit) : Checked (List Hit) :=
  producer.filterMapM fun p => do
    let start ← moveBy p.span.start test.adjustLeading
    let stop ← moveBy p.span.stop test.adjustTrailing
    match filter.find? fun f => test.operation.holds ⟨start, stop⟩ f.span, test.inverted with
    | none, true => return some p
    | some f, false => return some { p with captures := p.captures.union f.captures }
    | none, false | some _, true => return none

def modified (scope : SearchScope) (prepared : List Relation) (hits : List Hit) : PlanModifier → Checked (List Hit)
  | .not field => do complement (← size scope.document field) hits
  | .repeated field low high => do rows (← size scope.document field) low high hits
  | .expanded field direction low high => do
    let length ← size scope.document field
    return (← hits.mapM (expand length direction low high)).flatten
  | .filteredNGrams field operation low high => do
    let grams ← nGrams (← size scope.document field) low high
    return grams.filter fun n => hits.any fun h => operation.holds n.span h.span
  | modifier => .ok (scope.modified prepared hits modifier)

/-! ### Plans -/

mutual

/-- The hits of a plan, unless a step of arithmetic leaves the positions. -/
def hits (scope : SearchScope) : Plan → Checked (List Hit)
  | .term field value => do return Hit.sorted (← tokenHits scope.document field fun v => v == value)
  | .regex field expression => do
    let core ← ofResult (compileExpression expression)
    return Hit.sorted (← tokenHits scope.document field core.isMatch)
  | .anyToken field low high => do return Hit.sorted (← nGrams (← size scope.document field) low high)
  | .fixedSpan field span => do
    return if span.stop ≤ (← size scope.document field) then [Hit.ofSpan span] else []
  | .tags query => do return Hit.sorted (← ofResult (Hit.tagHits scope.document query))
  | .relations query => do return Hit.sorted (← ofResult (Hit.relationHits scope.document query))
  | .join connective clauses => do return Hit.sorted (Hit.joined connective (← hitLists scope clauses))
  | .modify modifier clause => do
    let prepared ← ofResult (scope.prepare modifier)
    return Hit.sorted (← modified scope prepared (← hits scope clause) modifier)
  | .positionFilter test producer filter => do
    let filter ← hits scope filter
    let producer ← hits scope producer
    return Hit.sorted (← filterPositions test producer filter)
  | .align source targets => do
    let source ← hits scope source
    return Hit.sorted (← alignAll scope targets source)

def hitLists (scope : SearchScope) : List Plan → Checked (List (List Hit))
  | [] => .ok []
  | plan :: plans => do
    let first ← hits scope plan
    return first :: (← hitLists scope plans)

def alignAll (scope : SearchScope) : List (AlignmentHead × Plan) → List Hit → Checked (List Hit)
  | [], sources => .ok sources
  | (head, target) :: rest, sources => do
    let relations ← ofResult (Hit.alignmentRelations scope.document head)
    let targets ← hits scope target
    alignAll scope rest (sources.filterMap (Hit.align head relations targets))

end

/-! ### Single steps -/

section Steps

variable {d : Document} {limit : Nat} {low high n : UInt32} {field : String} {xs ys : List Hit}

theorem size_eq (hd : d.FitsIn limit) (hlimit : limit < 4294967296) (field : String) :
    size d field = .ok (UInt32.ofNat (d.size field)) := by
  unfold size Document.size
  cases hcontent : d.get? field with
  | none => rfl
  | some content =>
      have hsize := hd.size hcontent
      show word content.size = _
      rw [word_eq (by omega), UInt32.ofNat_toNat]

private theorem token_eq {p : Nat} (hp : p < 4294967295) : token (UInt32.ofNat p) = .ok (Hit.token p) := by
  have hword : (UInt32.ofNat p).toNat = p := Span.toNat_ofNat_of_lt (by omega)
  have hone : (1 : UInt32).toNat = 1 := rfl
  rw [token, add_eq (by rw [hword, hone]; omega), hword]
  rfl

private theorem nGramsFrom_eq (size low high : UInt32) {start : UInt32} (hstart : start.toNat ≤ size.toNat) :
    nGramsFrom size low high start =
      .ok ((Hit.between low.toNat (min high.toNat (size.toNat - start.toNat))).map fun n =>
        Hit.ofSpan ⟨UInt32.ofNat start.toNat, UInt32.ofNat (start.toNat + n)⟩) := by
  have hsize := size.toNat_lt
  have hroom : (UInt32.ofNat (size.toNat - start.toNat)).toNat = size.toNat - start.toNat :=
    Span.toNat_ofNat_of_lt (by omega)
  have hmost : (min high (UInt32.ofNat (size.toNat - start.toNat))).toNat =
      min high.toNat (size.toNat - start.toNat) := by rw [Span.toNat_min, hroom]
  rw [nGramsFrom, sub_eq hstart, ok_bind, ← hmost]
  refine mapM_words fun n _ hn => ?_
  rw [add_eq (by omega), ok_bind, pure_eq_ok, UInt32.ofNat_toNat]

private theorem nGrams_eq (size low high : UInt32) : nGrams size low high = .ok (Hit.nGrams size.toNat low high) := by
  have hgrams : (words 0 size).mapM (nGramsFrom size low high) = .ok ((Hit.between 0 size.toNat).map fun start =>
      (Hit.between low.toNat (min high.toNat (size.toNat - start))).map fun n =>
        Hit.ofSpan ⟨UInt32.ofNat start, UInt32.ofNat (start + n)⟩) :=
    mapM_words fun _ _ hstart => nGramsFrom_eq size low high hstart
  rw [nGrams, hgrams, ok_bind, pure_eq_ok]
  rfl

private theorem tokenHits_eq (hd : d.FitsIn limit) (hlimit : limit < 4294967295) (name : String)
    (test : String → Bool) : tokenHits d name test = ofResult (Hit.tokenHits d name test) := by
  refine ofResult_bind fun ⟨field, layer, s⟩ _ => ?_
  refine filterMapM_eq fun ⟨values, p⟩ hmem => ?_
  have hp : p < limit := by
    have hlength : p < ((d.get? field).getD FieldContent.empty).tokens.length :=
      (List.getElem?_eq_some_iff.1 (List.mk_mem_zipIdx_iff_getElem?.1 hmem)).1
    rcases d.getD_eq_or field with hget | hempty
    · exact Nat.lt_of_lt_of_le hlength (hd.size hget)
    · rw [hempty] at hlength
      exact absurd hlength (Nat.not_lt_zero p)
  dsimp only
  cases values.get? layer with
  | none => rfl
  | some value =>
      dsimp only
      split
      · rw [word_eq (by omega), ok_bind, token_eq (by omega)]
        rfl
      · rfl

private theorem complement_eq (size : UInt32) (xs : List Hit) :
    complement size xs = .ok (Hit.complement size.toNat xs) := by
  have hsize := size.toNat_lt
  have htokens : ∀ p ∈ List.range size.toNat, token (UInt32.ofNat p) = .ok (Hit.token p) := fun p hp =>
    token_eq (by have hp := List.mem_range.1 hp; omega)
  rw [complement, mapM_eq htokens, ok_bind, pure_eq_ok, Hit.complement, List.filter_map, List.map_map]
  rfl

private theorem rowsFrom_eq (low : UInt32) {count : Nat} (hn : n.toNat + count < 4294967296) :
    rowsFrom xs low count n ys = .ok (Hit.rowsFrom xs low.toNat count n.toNat ys) := by
  have hone : (1 : UInt32).toNat = 1 := rfl
  induction count generalizing n ys with
  | zero => rfl
  | succ count ih =>
      have hnext : (UInt32.ofNat (n.toNat + 1)).toNat = n.toNat + 1 := Span.toNat_ofNat_of_lt (by omega)
      rw [rowsFrom, Hit.rowsFrom]
      split
      · rfl
      · rw [add_eq (by rw [hone]; omega), hone, ok_bind, ih (by omega), ok_bind, pure_eq_ok, hnext]
        simp only [UInt32.le_iff_toNat_le]

private theorem rows_eq {size : UInt32} (hsize : size.toNat < 4294967294) (low high : UInt32) (xs : List Hit) :
    rows size low high xs = .ok (Hit.rows size.toNat low high xs) := by
  have hone : (1 : UInt32).toNat = 1 := rfl
  have hlimit : (min high (saturatingAdd size 1)).toNat = min high.toNat (size.toNat + 1) := by
    rw [Span.toNat_min, saturatingAdd, hone, Span.toNat_ofNat_of_lt (by omega)]
    omega
  have hempty : (words 0 size).map (fun p => Hit.ofSpan ⟨p, p⟩) =
      (Hit.between 0 size.toNat).map fun p => Hit.ofSpan (Hit.emptySpan p) := by
    rw [words, List.map_map]
    rfl
  rw [rows, rowsFrom_eq low (by rw [hlimit, hone]; omega), ok_bind, pure_eq_ok, hlimit, hone, hempty]
  rfl

private theorem expand_eq (size : UInt32) (direction : ExpansionDirection) (low high : UInt32) (a : Hit) :
    expand size direction low high a = .ok (Hit.expand size.toNat direction low high a) := by
  have hstart := a.span.start.toNat_lt
  have hstop := a.span.stop.toNat_lt
  have hsize := size.toNat_lt
  cases direction with
  | left =>
      rw [expand, Hit.expand, ← Span.toNat_min]
      refine mapM_words fun n _ hn => ?_
      rw [Span.toNat_min] at hn
      rw [sub_eq (by omega), ok_bind, pure_eq_ok]
  | right =>
      have hroom : (saturatingSub size a.span.stop).toNat = size.toNat - a.span.stop.toNat :=
        Span.toNat_ofNat_of_lt (by omega)
      rw [expand, Hit.expand, ← hroom, ← Span.toNat_min]
      refine mapM_words fun n _ hn => ?_
      rw [Span.toNat_min, hroom] at hn
      rw [add_eq (by omega), ok_bind, pure_eq_ok]

private theorem moveBy_eq {position : UInt32} {offset : Int} (hposition : position.toNat < 2147483648)
    (hoffset : offset < 2147483648) : moveBy position offset = .ok (Hit.moveBy position offset) := by
  have hmax : max ((position.toNat : Int) + offset) 0 = ((position.toNat : Int) + offset).toNat := by omega
  rw [moveBy, hmax, word_eq (by omega)]
  rfl

example : moveBy 4294967295 1 = .error .outOfRange := by decide

private theorem filterPositions_eq (hlimit : limit < 2147483648) {test : PositionTest}
    (hleading : test.adjustLeading < 2147483648) (htrailing : test.adjustTrailing < 2147483648)
    (hxs : ∀ a ∈ xs, a.span.FitsIn limit) (ys : List Hit) :
    filterPositions test xs ys = .ok (Hit.filterPositions test xs ys) := by
  refine filterMapM_eq fun a ha => ?_
  have hle := (hxs a ha).le
  have hstop := (hxs a ha).stop_le
  rw [moveBy_eq (by omega) hleading, ok_bind, moveBy_eq (by omega) htrailing, ok_bind]
  show (match Hit.partner? test ys a, test.inverted with
    | none, true => (return some a : Checked (Option Hit))
    | some f, false => return some { a with captures := a.captures.union f.captures }
    | none, false | some _, true => return none) = _
  cases Hit.partner? test ys a <;> cases test.inverted <;> rfl

end Steps

end Checked

/-! ### Plans -/

namespace Plan

mutual

/-- By how much the position filters of a plan move positions. -/
def offsets : Plan → List Int
  | term _ _ | regex _ _ | anyToken _ _ _ | fixedSpan _ _ | tags _ | relations _ => []
  | join _ clauses => offsetsOf clauses
  | modify _ clause => clause.offsets
  | positionFilter test producer filter =>
    test.adjustLeading :: test.adjustTrailing :: (producer.offsets ++ filter.offsets)
  | align source targets => source.offsets ++ targetOffsets targets

def offsetsOf : List Plan → List Int
  | [] => []
  | plan :: plans => plan.offsets ++ offsetsOf plans

def targetOffsets : List (AlignmentHead × Plan) → List Int
  | [] => []
  | (_, target) :: targets => target.offsets ++ targetOffsets targets

end

end Plan

namespace SearchScope

variable {scope : SearchScope} {limit : Nat}

open Checked (ofResult ofResult_bind)

private theorem checked_modified_eq (hd : scope.document.FitsIn limit) (hlimit : limit < 2147483648)
    (prepared : List Relation) (xs : List Hit) (m : PlanModifier) :
    Checked.modified scope prepared xs m = .ok (scope.modified prepared xs m) := by
  have hsize : ∀ field, Checked.size scope.document field = .ok (UInt32.ofNat (scope.document.size field)) :=
    Checked.size_eq hd (by omega)
  have htoNat : ∀ field, (UInt32.ofNat (scope.document.size field)).toNat = scope.document.size field := fun field =>
    Span.toNat_ofNat_of_lt (scope.document.size_lt field)
  cases m with
  | not field =>
      rw [Checked.modified, hsize, Checked.ok_bind, Checked.complement_eq, htoNat]
      rfl
  | repeated field low high =>
      have hle := hd.size_le field
      rw [Checked.modified, hsize, Checked.ok_bind, Checked.rows_eq (by rw [htoNat]; omega), htoNat]
      rfl
  | expanded field direction low high =>
      rw [Checked.modified, hsize, Checked.ok_bind, Checked.mapM_eq fun a _ => Checked.expand_eq _ direction low high a,
        Checked.ok_bind, Checked.pure_eq_ok, htoNat]
      rfl
  | filteredNGrams field operation low high =>
      rw [Checked.modified, hsize, Checked.ok_bind, Checked.nGrams_eq, Checked.ok_bind, Checked.pure_eq_ok, htoNat]
      rfl
  | capture name => rfl
  | edge trailing => rfl
  | relationSpan mode => rfl
  | relationsWithin query => rfl
  | constrained constraint field layers => rfl

private theorem checked_size_eq (hd : scope.document.FitsIn limit) (hlimit : limit < 2147483648) (field : String) :
    ∃ size, Checked.size scope.document field = .ok size ∧ size.toNat = scope.document.size field :=
  ⟨_, Checked.size_eq hd (by omega) field, Span.toNat_ofNat_of_lt (scope.document.size_lt field)⟩

-- One induction over plans, lists of clauses and lists of targets; producers lie among the tokens.
mutual

private theorem checked_hits_eq (hd : scope.document.FitsIn limit) (hlimit : limit < 2147483648) : (plan : Plan) →
    scope.document.FixedSpansIn (fun s => s.FitsIn limit) plan.mentions → (∀ z ∈ plan.offsets, z < 2147483648) →
      Checked.hits scope plan = ofResult (scope.hits plan)
  | .term field value, _, _ => by
      rw [Checked.hits, hits, Checked.tokenHits_eq hd (by omega)]
      exact ofResult_bind fun _ _ => rfl
  | .regex field expression, _, _ => by
      rw [Checked.hits, hits]
      refine ofResult_bind fun core _ => ?_
      rw [Checked.tokenHits_eq hd (by omega)]
      exact ofResult_bind fun _ _ => rfl
  | .anyToken field low high, _, _ => by
      obtain ⟨size, hsize, htoNat⟩ := checked_size_eq hd hlimit field
      rw [Checked.hits, hits, hsize, Checked.ok_bind, Checked.nGrams_eq, htoNat]
      rfl
  | .fixedSpan field span, _, _ => by
      obtain ⟨size, hsize, htoNat⟩ := checked_size_eq hd hlimit field
      rw [Checked.hits, hits, hsize, Checked.ok_bind, ← htoNat]
      simp only [UInt32.le_iff_toNat_le]
      rfl
  | .tags query, _, _ => by
      rw [Checked.hits, hits]
      exact ofResult_bind fun _ _ => rfl
  | .relations query, _, _ => by
      rw [Checked.hits, hits]
      exact ofResult_bind fun _ _ => rfl
  | .join connective clauses, hspans, hoffsets => by
      rw [Checked.hits, hits, checked_hitLists_eq hd hlimit clauses hspans hoffsets]
      exact ofResult_bind fun _ _ => rfl
  | .modify modifier clause, hspans, hoffsets => by
      have hclause := checked_hits_eq hd hlimit clause hspans.right hoffsets
      rw [Checked.hits, hits]
      refine ofResult_bind fun prepared _ => ?_
      rw [hclause]
      refine ofResult_bind fun found _ => ?_
      rw [checked_modified_eq hd hlimit]
      rfl
  | .positionFilter test producer filter, hspans, hoffsets => by
      rw [Plan.offsets, List.forall_mem_cons, List.forall_mem_cons, List.forall_mem_append] at hoffsets
      obtain ⟨hleading, htrailing, hproducer, hfilter⟩ := hoffsets
      rw [Checked.hits, hits, checked_hits_eq hd hlimit filter hspans.right hfilter,
        checked_hits_eq hd hlimit producer hspans.left hproducer]
      refine ofResult_bind fun partners _ => ofResult_bind fun found hfound => ?_
      have hplaced := placed_of_hits (hd.closedSpans (by omega)) producer hspans.left hfound
      rw [Checked.filterPositions_eq hlimit hleading htrailing fun a ha => (hplaced a ha).span]
      rfl
  | .align source targets, hspans, hoffsets => by
      rw [Plan.offsets, List.forall_mem_append] at hoffsets
      rw [Checked.hits, hits, checked_hits_eq hd hlimit source hspans.left hoffsets.1]
      refine ofResult_bind fun sources _ => ?_
      rw [checked_alignAll_eq hd hlimit targets hspans.right hoffsets.2]
      exact ofResult_bind fun _ _ => rfl

private theorem checked_hitLists_eq (hd : scope.document.FitsIn limit) (hlimit : limit < 2147483648) :
    (plans : List Plan) → scope.document.FixedSpansIn (fun s => s.FitsIn limit) (Plan.mentionsOf plans) →
      (∀ z ∈ Plan.offsetsOf plans, z < 2147483648) →
        Checked.hitLists scope plans = ofResult (scope.hitLists plans)
  | [], _, _ => by
      rw [Checked.hitLists, hitLists]
      rfl
  | plan :: plans, hspans, hoffsets => by
      rw [Plan.offsetsOf, List.forall_mem_append] at hoffsets
      rw [Checked.hitLists, hitLists, checked_hits_eq hd hlimit plan hspans.left hoffsets.1,
        checked_hitLists_eq hd hlimit plans hspans.right hoffsets.2]
      exact ofResult_bind fun _ _ => ofResult_bind fun _ _ => rfl

private theorem checked_alignAll_eq (hd : scope.document.FitsIn limit) (hlimit : limit < 2147483648) :
    (targets : List (AlignmentHead × Plan)) →
      scope.document.FixedSpansIn (fun s => s.FitsIn limit) (Plan.targetMentions targets) →
        (∀ z ∈ Plan.targetOffsets targets, z < 2147483648) → {sources : List Hit} →
          Checked.alignAll scope targets sources = ofResult (scope.alignAll targets sources)
  | [], _, _, sources => by
      rw [Checked.alignAll, alignAll]
      rfl
  | (head, target) :: targets, hspans, hoffsets, sources => by
      have hrest : scope.document.FixedSpansIn (fun s => s.FitsIn limit)
          (target.mentions ++ Plan.targetMentions targets) :=
        fun s field hs => hspans s field (List.mem_cons_of_mem _ (List.mem_cons_of_mem _ hs))
      rw [Plan.targetOffsets, List.forall_mem_append] at hoffsets
      rw [Checked.alignAll, alignAll, checked_hits_eq hd hlimit target hrest.left hoffsets.1]
      refine ofResult_bind fun relations _ => ofResult_bind fun found _ => ?_
      exact checked_alignAll_eq hd hlimit targets hrest.right hoffsets.2

end

end SearchScope

namespace Planner

/-- In a document with less than half as many tokens as there are positions, where fixed spans do not end before they
start, no step of arithmetic leaves the positions; hits lie among the tokens, and the relations that they hold or have
captured are stored in the document. -/
theorem evaluation_is_exact {limit : Nat} (hlimit : limit < 2147483648) {scope : SearchScope}
    (hd : scope.document.FitsIn limit) {plan : Plan} (hspans : ∀ s, .span s ∈ plan.mentions → s.start ≤ s.stop)
    (hoffsets : ∀ z ∈ plan.offsets, z < 2147483648) :
    Checked.hits scope plan = Checked.ofResult (scope.hits plan) ∧
      Checked.hits scope plan ≠ .error .outOfRange ∧
      ∀ hs, scope.hits plan = .ok hs → ∀ h ∈ hs, h.span.FitsIn limit ∧
        (∀ r ∈ h.relations, scope.document.Stores r) ∧
        ∀ e ∈ h.captures.entries, ∀ r ∈ e.2.parts.2, scope.document.Stores r := by
  have hfixed : scope.document.FixedSpansIn (fun s => s.FitsIn limit) plan.mentions := fun s field hs hlies =>
    ⟨UInt32.le_iff_toNat_le.1 (hspans s hs), hlies.trans (hd.size_le field)⟩
  have hchecked := SearchScope.checked_hits_eq hd hlimit plan hfixed hoffsets
  refine ⟨hchecked, hchecked ▸ Checked.ofResult_ne_outOfRange, fun hs hhits h hh => ?_⟩
  have hplaced := SearchScope.placed_of_hits (hd.closedSpans (by omega)) plan hfixed hhits h hh
  exact ⟨hplaced.span, hplaced.stored, fun e he r hr => SearchScope.stores_of_mem_captures hhits hh he hr⟩

private theorem foxesSeeDogs_fitsIn : foxesSeeDogs.FitsIn 3 where
  size h := by
    rw [content_of_foxesSeeDogs h]
    decide
  relation hr := foxesSeeDogs_relationsFit _ hr
  tag h htag := by
    rw [content_of_foxesSeeDogs h] at htag
    cases htag

/-- The verb and its object, moved to the start of the text, with any number of words behind them. -/
theorem evaluation_is_exact_foxesSeeDogs :
    let objects : Plan := .relations ⟨"contents%_relation@s", "(dep)::(obj)", .both, .full, "object"⟩
    let plan : Plan := .modify (.expanded "contents" .right 0 Bound.unlimited)
      (.positionFilter ⟨.startsAt, false, -7, 0⟩ objects (.fixedSpan "contents" ⟨0, 1⟩))
    let scope : SearchScope := ⟨foxesSeeDogs, NameMap.empty⟩
    let relation : Relation := ⟨"dep::obj", ⟨1, 2⟩, ⟨2, 3⟩⟩
    let hit : Hit := ⟨⟨1, 3⟩, NameMap.empty.insert "object" (.relation relation), [relation]⟩
    scope.hits plan = .ok [hit] ∧ Checked.hits scope plan = .ok [hit] ∧ hit.span.FitsIn 3 ∧
      foxesSeeDogs.Stores relation := by
  intro objects plan scope relation hit
  have hhits : scope.hits plan = .ok [hit] := by decide +kernel
  have hspans : ∀ s, .span s ∈ plan.mentions → s.start ≤ s.stop := by
    simp [plan, objects, Plan.mentions, PlanModifier.mentions]
  have hoffsets : ∀ z ∈ plan.offsets, z < 2147483648 := by decide
  have hd : scope.document.FitsIn 3 := foxesSeeDogs_fitsIn
  obtain ⟨hchecked, -, hfound⟩ := evaluation_is_exact (by decide) hd hspans hoffsets
  rw [hhits] at hchecked
  obtain ⟨hspan, hstored, -⟩ := hfound [hit] hhits hit List.mem_cons_self
  exact ⟨hhits, hchecked, hspan, hstored relation List.mem_cons_self⟩

end Planner

end CorpusSearch
