import CorpusSearch.Span

/-!
Relations between spans as an index stores them, and what a hit can hold under a capture name. A relation
without a source has an empty source at the start of its target.
-/

set_option autoImplicit false

namespace CorpusSearch

structure Relation where
  /-- Class and type, as in `dep::nsubj`. -/
  type : String
  source : Span
  target : Span
  deriving DecidableEq, Repr

namespace Relation

def root (type : String) (target : Span) : Relation := ⟨type, ⟨target.start, target.start⟩, target⟩

def fullSpan (r : Relation) : Span := r.source.cover r.target

def isRoot (r : Relation) : Bool :=
  r.source.start = r.source.stop && r.source.start = r.target.start

def hasDirection (r : Relation) (direction : RelationDirection) : Bool :=
  match direction with
  | .root => r.isRoot
  | .forward => !r.isRoot && r.source.start ≤ r.target.start
  | .backward => !r.isRoot && r.target.start < r.source.start
  | .both => !r.isRoot

def spanFor (r : Relation) (mode : SpanMode) : Span :=
  match mode with
  | .source => r.source
  | .target => r.target
  | .full | .all => r.fullSpan

def liesWithin (r : Relation) (span : Span) : Bool :=
  span.start ≤ r.source.start && r.source.stop ≤ span.stop
    && span.start ≤ r.target.start && r.target.stop ≤ span.stop

def startsWithin (r : Relation) (span : Span) : Bool :=
  span.start ≤ r.source.start && r.source.stop ≤ span.stop

end Relation

/-- The smallest span that covers all spans of a list, if there are any. -/
def Span.coverAll? : List Span → Option Span
  | [] => none
  | span :: spans => some (spans.foldl Span.cover span)

inductive CaptureValue where
  | span (s : Span)
  | relation (r : Relation)
  | relations (rs : List Relation)
  deriving DecidableEq, Repr

/-- The tokens that a captured value covers; no relations cover the empty span at the start. -/
def CaptureValue.cover : CaptureValue → Span
  | span s => s
  | relation r => r.fullSpan
  | relations rs => (Span.coverAll? (rs.map Relation.fullSpan)).getD ⟨0, 0⟩

end CorpusSearch
