import CorpusSearch.Regex.CharSet
import CorpusSearch.Regex.Expr

/-!
Regular expressions with their flags resolved: sets of characters, conditions on a position, sequences, choices
and repetitions. An expression has no such form if it names an unknown class, or if it could match part of a
character because Unicode is switched off.
-/

set_option autoImplicit false

namespace CorpusSearch.Regex

/-- A condition on a position between two characters. -/
inductive Look where
  | textStart
  | textEnd
  | lineStart (crlf : Bool)
  | lineEnd (crlf : Bool)
  | word (unicode : Bool) (a : Assertion)
  deriving DecidableEq

/-- A regular expression without flags. -/
inductive Core where
  | empty
  | chars (s : CharSet)
  | look (l : Look)
  | seq (a b : Core)
  | alt (a b : Core)
  | rep (min : Nat) (max : Option Nat) (body : Core)

/-- The flags in force at some place of an expression. -/
structure Flags where
  caseInsensitive : Bool
  multiLine : Bool
  dotMatchesNewLine : Bool
  unicode : Bool
  crlf : Bool

namespace Flags

def default : Flags := ⟨false, false, false, true, false⟩

def set (f : Flags) (setting : Flag × Bool) : Flags :=
  match setting.1 with
  | .caseInsensitive => { f with caseInsensitive := setting.2 }
  | .multiLine => { f with multiLine := setting.2 }
  | .dotMatchesNewLine => { f with dotMatchesNewLine := setting.2 }
  | .unicode => { f with unicode := setting.2 }
  | .crlf => { f with crlf := setting.2 }
  | .swapGreed | .ignoreWhitespace => f

def apply (f : Flags) (settings : FlagSettings) : Flags := settings.foldl set f

def fold (f : Flags) (s : CharSet) : CharSet :=
  if f.caseInsensitive then (if f.unicode then .folded s else .asciiFolded s) else s

/-- Refuses sets that reach beyond ASCII where Unicode is switched off. -/
def guard (f : Flags) (s : CharSet) : Option CharSet :=
  if f.unicode || s.isAscii then some s else none

end Flags

def negateIf (negated : Bool) (s : CharSet) : CharSet := if negated then .complement s else s

def asciiLetters : List (Char × Char) := [('a', 'z'), ('A', 'Z')]

/-- The characters of a class named in brackets and colons; all are ASCII. -/
def PosixClass.set : PosixClass → CharSet
  | alnum => .ofRanges (('0', '9') :: asciiLetters)
  | alpha => .ofRanges asciiLetters
  | ascii => .range (Char.ofNat 0) (Char.ofNat 0x7F)
  | blank => .ofRanges [('\t', '\t'), (' ', ' ')]
  | cntrl => .ofRanges [(Char.ofNat 0, Char.ofNat 0x1F), (Char.ofNat 0x7F, Char.ofNat 0x7F)]
  | digit => .range '0' '9'
  | graph => .range '!' '~'
  | lower => .range 'a' 'z'
  | print => .range ' ' '~'
  | punct => .ofRanges [('!', '/'), (':', '@'), ('[', '\x60'), ('\x7b', '~')]
  | space => .ofRanges [('\t', '\r'), (' ', ' ')]
  | upper => .range 'A' 'Z'
  | word => .ofRanges (('0', '9') :: ('_', '_') :: asciiLetters)
  | xdigit => .ofRanges [('0', '9'), ('a', 'f'), ('A', 'F')]

def LetterClass.set (unicode : Bool) : LetterClass → CharSet
  | digit => if unicode then .digit else PosixClass.digit.set
  | space => if unicode then .space else PosixClass.space.set
  | word => if unicode then .word else PosixClass.word.set

def letterSet? (f : Flags) (c : LetterClass) (negated : Bool) : Option CharSet :=
  f.guard (negateIf negated (c.set f.unicode))

def posixSet? (f : Flags) (c : PosixClass) (negated : Bool) : Option CharSet :=
  f.guard (negateIf negated (f.fold c.set))

def namedSet? (f : Flags) (c : NamedClass) (negated : Bool) : Option CharSet :=
  if f.unicode then
    let set := match c with
      | .name n => CharSet.ofName? n
      | .value property value => CharSet.ofNameAndValue? property value
    set.map fun s => negateIf negated (f.fold s)
  else none

def literalInSet? (f : Flags) (c : Char) : Option Char :=
  if f.unicode || c.toNat < 0x80 then some c else none

mutual

def ClassExpr.toSet? (f : Flags) : ClassExpr → Option CharSet
  | .empty => some .empty
  | .literal c => (literalInSet? f c).map .single
  | .range first last => do
    return .range (← literalInSet? f first) (← literalInSet? f last)
  | .letter c negated => letterSet? f c negated
  | .posix c negated => posixSet? f c negated
  | .named c negated => namedSet? f c negated
  | .bracketed negated body => do
    f.guard (negateIf negated (f.fold (← body.toSet? f)))
  | .union items => ClassExpr.unionSet? f items
  | .binary operator left right => do
    let left := f.fold (← left.toSet? f)
    let right := f.fold (← right.toSet? f)
    return match operator with
      | .intersection => .inter left right
      | .difference => .inter left (.complement right)
      | .symmetricDifference =>
        .union (.inter left (.complement right)) (.inter right (.complement left))

def ClassExpr.unionSet? (f : Flags) : List ClassExpr → Option CharSet
  | [] => some .empty
  | item :: items => do
    return .union (← item.toSet? f) (← ClassExpr.unionSet? f items)

end

def Assertion.toLook (f : Flags) : Assertion → Look
  | lineStart => if f.multiLine then .lineStart f.crlf else .textStart
  | lineEnd => if f.multiLine then .lineEnd f.crlf else .textEnd
  | textStart => .textStart
  | textEnd => .textEnd
  | a => .word f.unicode a

/-- The dot: any character, or any but line ends. Without Unicode it would match bytes and is refused. -/
def dotSet? (f : Flags) : Option CharSet :=
  if !f.unicode then none
  else if f.dotMatchesNewLine then some .all
  else if f.crlf then some (.complement (.ofRanges [('\n', '\n'), ('\r', '\r')]))
  else some (.complement (.single '\n'))

/-- A character; a byte beyond ASCII is refused without Unicode, as is no other character. -/
def literalSet? (f : Flags) (c : Char) (byte : Bool) : Option CharSet :=
  if f.unicode then some (f.fold (.single c))
  else if byte && 0x80 ≤ c.toNat then none
  else if c.toNat < 0x80 then some (f.fold (.single c))
  else some (.single c)

/-- Repetition; unbounded repetitions of repetitions that can be left out collapse into one. -/
def Core.repeated (min : Nat) (max : Option Nat) (body : Core) : Core :=
  match body with
  | .rep innerMin innerMax inner =>
    let optional : Bool := max = none || max = some 1
    let innerOptional : Bool := innerMax = none || innerMax = some 1
    if min ≤ 1 && innerMin ≤ 1 && optional && innerOptional then
      .rep (min * innerMin) (if max = none || innerMax = none then none else some 1) inner
    else .rep min max body
  | _ => .rep min max body

mutual

/-- Resolves flags; answers the flags in force behind the expression too. -/
def Expr.toCore? (f : Flags) : Expr → Option (Core × Flags)
  | .empty => some (.empty, f)
  | .flags settings => some (.empty, f.apply settings)
  | .literal c byte => (literalSet? f c byte).map fun s => (.chars s, f)
  | .dot => (dotSet? f).map fun s => (.chars s, f)
  | .assertion a => some (.look (a.toLook f), f)
  | .letter c negated => (letterSet? f c negated).map fun s => (.chars s, f)
  | .named c negated => (namedSet? f c negated).map fun s => (.chars s, f)
  | .bracketed negated body => do
    let s ← f.guard (negateIf negated (f.fold (← body.toSet? f)))
    return (.chars s, f)
  | .repetition min max body => do
    let (body, f) ← body.toCore? f
    return (.repeated min max body, f)
  | .group settings body => do
    let (body, _) ← body.toCore? (f.apply settings)
    return (body, f)
  | .alternation branches => Expr.toAlt? f branches
  | .concatenation parts => Expr.toSeq? f parts

def Expr.toSeq? (f : Flags) : List Expr → Option (Core × Flags)
  | [] => some (.empty, f)
  | part :: parts => do
    let (a, f) ← part.toCore? f
    let (b, f) ← Expr.toSeq? f parts
    return (.seq a b, f)

def Expr.toAlt? (f : Flags) : List Expr → Option (Core × Flags)
  | [] => some (.chars .empty, f)
  | branch :: branches => do
    let (a, f) ← branch.toCore? f
    let (b, f) ← Expr.toAlt? f branches
    return (.alt a b, f)

end

def Expr.resolve? (e : Expr) : Option Core := (e.toCore? .default).map (·.1)

/-- The size in bytes of an automaton for the expression: an estimate that grows like the automaton. -/
def Core.size : Core → Nat
  | .empty => 32
  | .chars s => 64 * s.weight
  | .look _ => 32
  | .seq a b => a.size + b.size
  | .alt a b => a.size + b.size + 64
  | .rep min none body => (min + 1) * (body.size + 32)
  | .rep min (some max) body => (Nat.max min max) * (body.size + 32)

end CorpusSearch.Regex
