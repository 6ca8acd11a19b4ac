import CorpusSearch.Code

/-!
Spans of tokens and how two spans can lie to each other.
-/

set_option autoImplicit false

namespace CorpusSearch

/-- The tokens from position `start` up to, and without, position `stop`. -/
structure Span where
  start : UInt32
  stop : UInt32
  deriving DecidableEq, Repr, Inhabited

def Span.cover (a b : Span) : Span := ⟨min a.start b.start, max a.stop b.stop⟩

/-- How a producer span lies to a filter span. -/
inductive PositionOperation where
  /-- The producer contains the filter. -/
  | containing
  /-- The producer lies within the filter. -/
  | within
  /-- Both start at the same position. -/
  | startsAt
  /-- Both end at the same position. -/
  | endsAt
  /-- Both are the same span. -/
  | matches
  /-- The producer contains the filter at its start. -/
  | containingAtStart
  /-- The producer contains the filter at its end. -/
  | containingAtEnd
  deriving DecidableEq, Repr

namespace PositionOperation

instance : Coded PositionOperation where
  kind := "position filter operation"
  values := [containing, within, startsAt, endsAt, «matches», containingAtStart, containingAtEnd]
  code
    | containing => "containing"
    | within => "within"
    | startsAt => "starts_at"
    | endsAt => "ends_at"
    | «matches» => "matches"
    | containingAtStart => "containing_at_start"
    | containingAtEnd => "containing_at_end"

def holds (operation : PositionOperation) (producer filter : Span) : Bool :=
  match operation with
  | containing => producer.start ≤ filter.start && filter.stop ≤ producer.stop
  | within => filter.start ≤ producer.start && producer.stop ≤ filter.stop
  | startsAt => producer.start = filter.start
  | endsAt => producer.stop = filter.stop
  | «matches» => producer.start = filter.start && producer.stop = filter.stop
  | containingAtStart => producer.start = filter.start && filter.stop ≤ producer.stop
  | containingAtEnd => producer.stop = filter.stop && producer.start ≤ filter.start

end PositionOperation

inductive ExpansionDirection where
  | left
  | right
  deriving DecidableEq, Repr

instance : Coded ExpansionDirection where
  kind := "expansion direction"
  values := [.left, .right]
  code
    | .left => "left"
    | .right => "right"

/-- The part of a markup span that is matched. -/
inductive TagAdjust where
  | fullTag
  | leadingEdge
  | trailingEdge
  deriving DecidableEq, Repr

instance : Coded TagAdjust where
  kind := "tag adjustment"
  values := [.fullTag, .leadingEdge, .trailingEdge]
  code
    | .fullTag => "full_tag"
    | .leadingEdge => "leading_edge"
    | .trailingEdge => "trailing_edge"

/-- Which relations are found, by the position of their source and target. -/
inductive RelationDirection where
  /-- Relations without a source. -/
  | root
  /-- Relations whose target does not start before their source. -/
  | forward
  /-- Relations whose target starts before their source. -/
  | backward
  /-- All relations with a source. -/
  | both
  deriving DecidableEq, Repr

instance : Coded RelationDirection where
  kind := "relation direction"
  values := [.root, .forward, .backward, .both]
  code
    | .root => "root"
    | .forward => "forward"
    | .backward => "backward"
    | .both => "both"

/-- The span that a relation stands for. -/
inductive SpanMode where
  | source
  | target
  /-- The smallest span that covers source and target. -/
  | full
  /-- The smallest span that covers source and target of all matched relations. -/
  | all
  deriving DecidableEq, Repr

instance : Coded SpanMode where
  kind := "span mode"
  values := [.source, .target, .full, .all]
  code
    | .source => "source"
    | .target => "target"
    | .full => "full"
    | .all => "all"

end CorpusSearch
