import CorpusSearch.NameMap
import CorpusSearch.Relation

/-!
Hits of a plan in a document. Hits are ordered by their spans, then by what they hold, so that every list of hits
has one order, in which each hit stands once.
-/

set_option autoImplicit false

namespace CorpusSearch

/-- A span with the values captured in it and the relations that were matched for it. -/
structure Hit where
  span : Span
  captures : NameMap CaptureValue
  /-- In the order of the clauses that they were matched by. -/
  relations : List Relation
  deriving DecidableEq

instance : Ord Span where
  compare := compareLex (compareOn Span.start) (compareOn Span.stop)

instance : Ord Relation where
  compare := compareLex (compareOn Relation.type)
    (compareLex (compareOn Relation.source) (compareOn Relation.target))

/-- Spans come before relations, and these before lists of relations. -/
def CaptureValue.rank : CaptureValue → Nat
  | span _ => 0
  | relation _ => 1
  | relations _ => 2

def CaptureValue.order : CaptureValue → CaptureValue → Ordering
  | span a, span b => compare a b
  | relation a, relation b => compare a b
  | relations a, relations b => compare a b
  | a, b => compare a.rank b.rank

instance : Ord CaptureValue := ⟨CaptureValue.order⟩

def captureOrder : String × CaptureValue → String × CaptureValue → Ordering :=
  compareLex (compareOn Prod.fst) (compareOn Prod.snd)

namespace Hit

instance : Ord Hit where
  compare := compareLex (compareOn Hit.span)
    (compareLex (fun a b => List.compareLex captureOrder a.captures.entries b.captures.entries)
      (compareOn Hit.relations))

def ofSpan (span : Span) : Hit := ⟨span, NameMap.empty, []⟩

def withSpan (h : Hit) (span : Span) : Hit := { h with span := span }

def withCapture (h : Hit) (name : String) (value : CaptureValue) : Hit :=
  { h with captures := h.captures.insert name value }

/-- What two hits hold, on a span; the second decides on names that both have. -/
def merge (a b : Hit) (span : Span) : Hit :=
  ⟨span, a.captures.union b.captures, a.relations ++ b.relations⟩

def sharesRelation (a b : Hit) : Bool := b.relations.any a.relations.contains

def sorted (hits : List Hit) : List Hit :=
  (hits.mergeSort fun a b => (compare a b).isLE).eraseReps

end Hit

end CorpusSearch
