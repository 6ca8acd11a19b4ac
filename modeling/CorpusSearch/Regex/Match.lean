import CorpusSearch.Regex.Core
import CorpusSearch.Regex.Reader
import CorpusSearch.Text.Expression

/-!
Matching. A cursor is a place in a text; an expression takes a set of cursors to the set of cursors that it can
reach from them. An expression matches a text if it reaches anything from any place of it.
-/

set_option autoImplicit false

namespace CorpusSearch.Regex

/-- A place in a text: what stands before it, in reverse, and what stands behind it. -/
structure Cursor where
  before : List Char
  after : List Char

namespace Cursor

def start (text : List Char) : Cursor := ⟨[], text⟩

def onward (before : List Char) : List Char → List Cursor
  | [] => [⟨before, []⟩]
  | c :: rest => ⟨before, c :: rest⟩ :: onward (c :: before) rest

def all (text : List Char) : List Cursor := onward [] text

def step? (s : CharSet) (c : Cursor) : Option Cursor :=
  match c.after with
  | [] => none
  | d :: rest => if s.contains d then some ⟨d :: c.before, rest⟩ else none

end Cursor

def isWord (unicode : Bool) (c : Char) : Bool :=
  if unicode then Unicode.isWordCharacter c else c.isAlphanum || c = '_'

def wordHolds (a : Assertion) (before after : Bool) : Bool :=
  match a with
  | .wordBoundary => before != after
  | .notWordBoundary => before == after
  | .wordStart => !before && after
  | .wordEnd => before && !after
  | .wordStartHalf => !before
  | .wordEndHalf => !after
  | .lineStart | .lineEnd | .textStart | .textEnd => true

def Look.holds (l : Look) (c : Cursor) : Bool :=
  match l with
  | textStart => c.before.isEmpty
  | textEnd => c.after.isEmpty
  | lineStart crlf =>
    match c.before with
    | [] => true
    | d :: _ => d = '\n' || (crlf && d = '\r' && c.after.head? ≠ some '\n')
  | lineEnd crlf =>
    match c.after with
    | [] => true
    | d :: _ =>
      if crlf then d = '\r' || (d = '\n' && c.before.head? ≠ some '\r') else d = '\n'
  | word unicode a =>
    wordHolds a (c.before.head?.any (isWord unicode)) (c.after.head?.any (isWord unicode))

def Cursor.same (c d : Cursor) : Bool := c.after.length = d.after.length

def freshCursors (known : List Cursor) : List Cursor → List Cursor
  | [] => []
  | c :: rest =>
    if known.any c.same then freshCursors known rest else c :: freshCursors (c :: known) rest

def iterateStep (step : List Cursor → List Cursor) : Nat → List Cursor → List Cursor
  | 0, cs => cs
  | count + 1, cs => if cs.isEmpty then [] else iterateStep step count (step cs)

/-- All places reached by up to `count` steps; `frontier` holds those found last. -/
def reachUpTo (step : List Cursor → List Cursor) : Nat → List Cursor → List Cursor → List Cursor
  | 0, _, found => found
  | count + 1, frontier, found =>
    match freshCursors found (step frontier) with
    | [] => found
    | fresh => reachUpTo step count fresh (found ++ fresh)

def reachBound (cs : List Cursor) : Nat :=
  (cs.foldl (fun n c => max n c.after.length) 0) + 1

def Core.reach : Core → List Cursor → List Cursor
  | .empty, cs => cs
  | .chars s, cs => cs.filterMap (·.step? s)
  | .look l, cs => cs.filter l.holds
  | .seq a b, cs => b.reach (a.reach cs)
  | .alt a b, cs =>
    let left := a.reach cs
    left ++ freshCursors left (b.reach cs)
  | .rep min max body, cs =>
    let first := iterateStep body.reach min cs
    let more := match max with
      | none => reachBound first
      | some m => m - min
    reachUpTo body.reach more first first

/-- Whether an expression matches somewhere in a text. -/
def Core.isMatch (e : Core) (text : String) : Bool :=
  !(e.reach (Cursor.all text.toList)).isEmpty

inductive Fault where
  /-- The text is not a regular expression. -/
  | malformed
  /-- The expression is nested too deeply. -/
  | tooDeep
  /-- The automaton would become too large. -/
  | tooLarge
  deriving DecidableEq, Repr

/-- Reads an expression that is nested no deeper than a limit. -/
def Expr.readWithin (nestLimit : Nat) (text : String) : Except Fault Core :=
  match Expr.read? text.toList with
  | none => .error .malformed
  | some e =>
    if nestLimit < e.depth then .error .tooDeep
    else
      match e.resolve? with
      | none => .error .malformed
      | some core => .ok core

/-- The nesting depth up to which expressions are compiled. -/
def compileNestLimit : Nat := 250

/-- The size limit where none is configured. -/
def defaultSizeLimit : Nat := 10 * 1024 * 1024

/-- Compiles the expression for whole matches; one that is nested too deeply counts as malformed here. -/
def compileWithin (sizeLimit : Nat) (expression : String) : Except Fault Core :=
  match Expr.readWithin compileNestLimit (Text.wholeMatch expression) with
  | .error _ => .error .malformed
  | .ok core => if sizeLimit < core.size then .error .tooLarge else .ok core

/-- Compiles an expression for whole matches within the default limits. -/
def compileWhole (expression : String) : Except Fault Core :=
  compileWithin defaultSizeLimit expression

def check (nestLimit sizeLimit : Nat) (expression : String) : Except Fault Unit := do
  let _ ← Expr.readWithin nestLimit expression
  let _ ← compileWithin sizeLimit expression
  return ()

end CorpusSearch.Regex
