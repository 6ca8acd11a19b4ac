import CorpusSearch.Hit
import CorpusSearch.Index
import CorpusSearch.Plan.Basic
import CorpusSearch.Relations.Plan

/-!
The hits of a plan in a document. Each kind of node has an operation on lists of hits; the hits of a node are the
operation applied to the hits of its parts, in order and each once.
-/

set_option autoImplicit false

namespace CorpusSearch

namespace Document

/-- The number of tokens of a field, counted in a word; a field that the document does not have has none. -/
def size (d : Document) (field : String) : Nat :=
  match d.get? field with
  | some content => (UInt32.ofNat content.size).toNat
  | none => 0

/-- The field, the layer and the sensitivity that an index field name stands for. -/
def readIndexField (name : String) : Result (String × String × Sensitivity) :=
  match FieldName.splitIndexField? name with
  | none => .error (.invalidQuery (.malformedIndexField name))
  | some (field, layer, code) => do
    return (field, layer, ← Coded.ofCode Sensitivity code)

/-- What the document holds in the field of an index field name. -/
def contentAt (d : Document) (indexField : String) : Result FieldContent := do
  let (field, _, _) ← readIndexField indexField
  return (d.get? field).getD FieldContent.empty

end Document

namespace Hit

def token (position : Nat) : Span := ⟨UInt32.ofNat position, UInt32.ofNat (position + 1)⟩

def emptySpan (position : Nat) : Span := ⟨UInt32.ofNat position, UInt32.ofNat position⟩

def between (low high : Nat) : List Nat := List.range' low (high + 1 - low)

def nGrams (size : Nat) (low high : UInt32) : List Hit :=
  (between 0 size).flatMap fun start =>
    (between low.toNat (min high.toNat (size - start))).map fun n =>
      ofSpan ⟨UInt32.ofNat start, UInt32.ofNat (start + n)⟩

/-- Tokens whose value in an index field passes a test. -/
def tokenHits (d : Document) (indexField : String) (test : String → Bool) : Result (List Hit) := do
  let (field, layer, s) ← Document.readIndexField indexField
  let content := (d.get? field).getD FieldContent.empty
  return content.tokens.zipIdx.filterMap fun (values, position) =>
    match values.get? layer with
    | some value => if test (s.desensitize value) then some (ofSpan (token position)) else none
    | none => none

/-! ### Clauses that are joined -/

/-- Pairs of hits with one span; hits that share a relation can be kept apart. -/
def intersect (distinct : Bool) (left right : List Hit) : List Hit :=
  sorted (left.flatMap fun a =>
    (right.filter fun b => b.span = a.span && !(distinct && a.sharesRelation b)).map fun b =>
      a.merge b a.span)

def concat (left right : List Hit) : List Hit :=
  sorted (left.flatMap fun a =>
    (right.filter fun b => b.span.start = a.span.stop).map fun b =>
      a.merge b ⟨a.span.start, b.span.stop⟩)

def fold (join : List Hit → List Hit → List Hit) : List (List Hit) → List Hit
  | [] => []
  | first :: rest => rest.foldl join first

def joined : PlanConnective → List (List Hit) → List Hit
  | .and => fold (intersect false)
  | .relationAnd => fold (intersect true)
  | .or => List.flatten
  | .sequence => fold concat

/-! ### Single clauses -/

def complement (size : Nat) (hits : List Hit) : List Hit :=
  ((List.range size).filter fun p => !hits.any fun h => h.span = token p).map fun p =>
    ofSpan (token p)

/-- Rows of `n` adjacent hits, and of more, from `current`, which holds the rows of `n` hits. -/
def rowsFrom (hits : List Hit) (low : Nat) : Nat → Nat → List Hit → List Hit
  | 0, _, _ => []
  | count + 1, n, current =>
    if current.isEmpty then []
    else
      (if low ≤ n then current else []) ++ rowsFrom hits low count (n + 1) (concat current hits)

/--
Rows of `low` to `high` adjacent hits among `size` tokens; a row of no hits is the empty span anywhere. A row has at
most one hit more than there are tokens.
-/
def rows (size : Nat) (low high : UInt32) (hits : List Hit) : List Hit :=
  (if low = 0 then (between 0 size).map fun p => ofSpan (emptySpan p) else [])
    ++ rowsFrom hits low.toNat (min high.toNat (size + 1)) 1 hits

def expand (size : Nat) (direction : ExpansionDirection) (low high : UInt32) (h : Hit) : List Hit :=
  let start := h.span.start.toNat
  let stop := h.span.stop.toNat
  match direction with
  | .left => (between low.toNat (min high.toNat start)).map fun n =>
    h.withSpan ⟨UInt32.ofNat (start - n), h.span.stop⟩
  | .right => (between low.toNat (min high.toNat (size - stop))).map fun n =>
    h.withSpan ⟨h.span.start, UInt32.ofNat (stop + n)⟩

/-- The spans of `low` to `high` tokens that lie to some hit as an operation says. -/
def filterNGrams (size : Nat) (operation : PositionOperation) (low high : UInt32)
    (hits : List Hit) : List Hit :=
  (nGrams size low high).filter fun n => hits.any fun h => operation.holds n.span h.span

def edge (trailing : Bool) (h : Hit) : Hit :=
  let position := if trailing then h.span.stop else h.span.start
  h.withSpan ⟨position, position⟩

/-- The span that the relations of a hit stand for; a hit without relations keeps its span. -/
def relationSpan (mode : SpanMode) (h : Hit) : Span :=
  match h.relations, mode with
  | [], _ => h.span
  | relations, .all => relations.foldl (fun span r => span.cover r.fullSpan) h.span
  | first :: _, mode => first.spanFor mode

/-- The span that relations are looked for in; a capture that a hit does not have is empty. -/
def searchSpan (within : Option String) (h : Hit) : Span :=
  match within with
  | some name => ((h.captures.get? name).map CaptureValue.cover).getD ⟨0, 0⟩
  | none => h.span

/-! ### Position filters -/

def moveBy (position : UInt32) (offset : Int) : UInt32 :=
  UInt32.ofNat (Int.ofNat position.toNat + offset).toNat

def partner? (test : PositionTest) (filter : List Hit) (producer : Hit) : Option Hit :=
  let moved : Span :=
    ⟨moveBy producer.span.start test.adjustLeading, moveBy producer.span.stop test.adjustTrailing⟩
  filter.find? fun f => test.operation.holds moved f.span

/-- Producers with a partner, and its captures; for an inverted test producers without one. -/
def filterPositions (test : PositionTest) (producer filter : List Hit) : List Hit :=
  producer.filterMap fun p =>
    match partner? test filter p, test.inverted with
    | none, true => some p
    | some f, false => some { p with captures := p.captures.union f.captures }
    | none, false | some _, true => none

/-! ### Tags and relations -/

/-- Whether the value of an attribute is as expected; a missing one never is. -/
def attributeHolds (value : Option String) (expected : AttributeValue) : Result Bool :=
  match value, expected with
  | none, _ => .ok false
  | some v, .expression e => do return (← compileExpression e).isMatch v
  | some v, .range low high =>
    match Text.integer? (Text.trim v.toList) with
    | some n => .ok (low ≤ n && n ≤ high)
    | none => .ok false

/-- Whether all attributes of a tag are as expected; the first that is not decides. -/
def attributesHold (tag : Tag) : List (String × AttributeValue) → Result Bool
  | [] => .ok true
  | (name, expected) :: rest => do
    if ← attributeHolds (tag.attributes.get? name) expected then attributesHold tag rest
    else return false

def adjustTag (adjust : TagAdjust) (span : Span) : Span :=
  match adjust with
  | .fullTag => span
  | .leadingEdge => ⟨span.start, span.start⟩
  | .trailingEdge => ⟨span.stop, span.stop⟩

def tagType (tag : Tag) : String :=
  String.ofList (FieldName.tagClass.toList ++ FieldName.classSeparator.toList ++ tag.name.toList)

def matchingTags (query : TagQuery) (type : Regex.Core) : List Tag → Result (List Hit)
  | [] => .ok []
  | tag :: rest => do
    let matched ←
      if type.isMatch (tagType tag) then attributesHold tag query.attributes.entries else pure false
    let others ← matchingTags query type rest
    if matched then
      let hit := (ofSpan (adjustTag query.adjust tag.span)).withCapture query.capture (.span tag.span)
      return hit :: others
    return others

def tagHits (d : Document) (query : TagQuery) : Result (List Hit) := do
  let type ← compileExpression query.type
  let content ← d.contentAt query.field
  matchingTags query type content.tags

def relationHits (d : Document) (query : RelationQuery) : Result (List Hit) := do
  let type ← compileExpression query.type
  let content ← d.contentAt query.field
  let found := content.relations.filter fun r => type.isMatch r.type && r.hasDirection query.direction
  return found.map fun r =>
    ⟨r.spanFor query.spanMode, NameMap.empty.insert query.capture (.relation r), [r]⟩

def withinRelations (d : Document) (query : WithinQuery) : Result (List Relation) := do
  let type ← compileExpression query.type
  let content ← d.contentAt query.field
  return content.relations.filter fun r => type.isMatch r.type

/-- Captures those relations that lie within a hit or one of its captures. -/
def captureWithin (query : WithinQuery) (relations : List Relation) (h : Hit) : Hit :=
  let span := h.searchSpan query.within
  h.withCapture query.capture (.relations (relations.filter fun r => r.liesWithin span))

def alignmentRelations (d : Document) (head : AlignmentHead) : Result (List Relation) := do
  let type ← compileExpression head.type
  let content ← d.contentAt head.field
  return content.relations.filter fun r => type.isMatch r.type

/--
Aligns a hit by the relations that start in it: to the first target hit whose span is the smallest one that
covers all their targets.
-/
def align (head : AlignmentHead) (relations : List Relation) (targets : List Hit) (h : Hit) :
    Option Hit :=
  let aligned := relations.filter fun r => r.startsWithin h.span
  let partner? := (Span.coverAll? (aligned.map Relation.target)).bind fun span =>
    targets.find? fun t => t.span = span
  match partner? with
  | some t => some ((h.merge t h.span).withCapture head.capture (.relations aligned))
  | none => if head.optional then some h else none

end Hit

/-- What a plan is evaluated on. -/
structure SearchScope where
  document : Document
  predicates : NameMap Predicate

namespace SearchScope

def view (scope : SearchScope) (field : String) (h : Hit) : HitView :=
  ⟨h.captures, scope.document.reader field, scope.predicates⟩

/-- What has to be read before the clause of a modifier is evaluated. -/
def prepare (scope : SearchScope) : PlanModifier → Result (List Relation)
  | .relationsWithin query => Hit.withinRelations scope.document query
  | _ => .ok []

def modified (scope : SearchScope) (prepared : List Relation) (hits : List Hit) :
    PlanModifier → List Hit
  | .not field => Hit.complement (scope.document.size field) hits
  | .repeated field low high => Hit.rows (scope.document.size field) low high hits
  | .expanded field direction low high =>
    hits.flatMap (Hit.expand (scope.document.size field) direction low high)
  | .filteredNGrams field operation low high =>
    Hit.filterNGrams (scope.document.size field) operation low high hits
  | .capture name => hits.map fun h => h.withCapture name (.span h.span)
  | .edge trailing => hits.map (Hit.edge trailing)
  | .relationSpan mode => hits.map fun h => h.withSpan (h.relationSpan mode)
  | .relationsWithin query => hits.map (Hit.captureWithin query prepared)
  | .constrained constraint field _ => hits.filter fun h => constraint.holds (scope.view field h)

mutual

def hits (scope : SearchScope) : Plan → Result (List Hit)
  | .term field value => do
    return Hit.sorted (← Hit.tokenHits scope.document field fun v => v == value)
  | .regex field expression => do
    let core ← compileExpression expression
    return Hit.sorted (← Hit.tokenHits scope.document field core.isMatch)
  | .anyToken field low high => .ok (Hit.sorted (Hit.nGrams (scope.document.size field) low high))
  | .fixedSpan field span =>
    .ok (if span.stop.toNat ≤ scope.document.size field then [Hit.ofSpan span] else [])
  | .tags query => do return Hit.sorted (← Hit.tagHits scope.document query)
  | .relations query => do return Hit.sorted (← Hit.relationHits scope.document query)
  | .join connective clauses => do
    return Hit.sorted (Hit.joined connective (← hitLists scope clauses))
  | .modify modifier clause => do
    let prepared ← scope.prepare modifier
    return Hit.sorted (scope.modified prepared (← hits scope clause) modifier)
  | .positionFilter test producer filter => do
    let filter ← hits scope filter
    let producer ← hits scope producer
    return Hit.sorted (Hit.filterPositions test producer filter)
  | .align source targets => do
    let source ← hits scope source
    return Hit.sorted (← alignAll scope targets source)

def hitLists (scope : SearchScope) : List Plan → Result (List (List Hit))
  | [] => .ok []
  | plan :: plans => do
    let first ← hits scope plan
    return first :: (← hitLists scope plans)

def alignAll (scope : SearchScope) : List (AlignmentHead × Plan) → List Hit → Result (List Hit)
  | [], sources => .ok sources
  | (head, target) :: rest, sources => do
    let relations ← Hit.alignmentRelations scope.document head
    let targets ← hits scope target
    alignAll scope rest (sources.filterMap (Hit.align head relations targets))

end

end SearchScope

/-- The hits in one document, or why there are none. -/
structure DocumentHits where
  document : Nat
  hits : Result (List Hit)

/-- Evaluates a plan on the documents that have a field. -/
def Index.search (index : Index) (plan : Plan) (field : String) : List DocumentHits :=
  index.documents.zipIdx.filterMap fun (document, number) =>
    if document.contains field then
      some ⟨number, SearchScope.hits ⟨document, index.predicates⟩ plan⟩
    else none

end CorpusSearch
