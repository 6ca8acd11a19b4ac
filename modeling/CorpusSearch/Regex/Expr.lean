/-!
Regular expressions as they are written: groups, flags and bracketed classes as they stand, nothing resolved.
The depth counts the nodes that can hold others.
-/

set_option autoImplicit false

namespace CorpusSearch.Regex

inductive Flag where
  | caseInsensitive
  | multiLine
  | dotMatchesNewLine
  | swapGreed
  | unicode
  | crlf
  | ignoreWhitespace
  deriving DecidableEq

namespace Flag

def ofChar? : Char → Option Flag
  | 'i' => some caseInsensitive
  | 'm' => some multiLine
  | 's' => some dotMatchesNewLine
  | 'U' => some swapGreed
  | 'u' => some unicode
  | 'R' => some crlf
  | 'x' => some ignoreWhitespace
  | _ => none

end Flag

abbrev FlagSettings := List (Flag × Bool)

/-- The conditions on a position that an expression can state. -/
inductive Assertion where
  | lineStart
  | lineEnd
  | textStart
  | textEnd
  | wordBoundary
  | notWordBoundary
  | wordStart
  | wordEnd
  | wordStartHalf
  | wordEndHalf
  deriving DecidableEq

inductive LetterClass where
  | digit
  | space
  | word
  deriving DecidableEq

/-- The classes that are named in brackets and colons. -/
inductive PosixClass where
  | alnum | alpha | ascii | blank | cntrl | digit | graph | lower | print | punct | space | upper | word | xdigit
  deriving DecidableEq

inductive NamedClass where
  | name (n : List Char)
  | value (property value : List Char)
  deriving DecidableEq

inductive ClassOperator where
  | intersection
  | difference
  | symmetricDifference
  deriving DecidableEq

/-- What stands between the brackets of a class. -/
inductive ClassExpr where
  | empty
  | literal (c : Char)
  | range (first last : Char)
  | letter (c : LetterClass) (negated : Bool)
  | posix (c : PosixClass) (negated : Bool)
  | named (c : NamedClass) (negated : Bool)
  | bracketed (negated : Bool) (body : ClassExpr)
  | union (items : List ClassExpr)
  | binary (operator : ClassOperator) (left right : ClassExpr)

/-- A regular expression. -/
inductive Expr where
  | empty
  | flags (settings : FlagSettings)
  /-- A character; `byte` if two hexadecimal digits write it. -/
  | literal (c : Char) (byte : Bool)
  | dot
  | assertion (a : Assertion)
  | letter (c : LetterClass) (negated : Bool)
  | named (c : NamedClass) (negated : Bool)
  | bracketed (negated : Bool) (body : ClassExpr)
  | repetition (min : Nat) (max : Option Nat) (body : Expr)
  | group (settings : FlagSettings) (body : Expr)
  | alternation (branches : List Expr)
  | concatenation (parts : List Expr)

mutual

def ClassExpr.depth : ClassExpr → Nat
  | .bracketed _ body => body.depth + 1
  | .union items => ClassExpr.maxDepth items + 1
  | .binary _ left right => max left.depth right.depth + 1
  | _ => 0

def ClassExpr.maxDepth : List ClassExpr → Nat
  | [] => 0
  | item :: items => max item.depth (ClassExpr.maxDepth items)

end

mutual

/-- The nesting depth: each group, repetition, alternation, concatenation and class adds one level. -/
def Expr.depth : Expr → Nat
  | .bracketed _ body => body.depth + 1
  | .repetition _ _ body => body.depth + 1
  | .group _ body => body.depth + 1
  | .alternation branches => Expr.maxDepth branches + 1
  | .concatenation parts => Expr.maxDepth parts + 1
  | _ => 0

def Expr.maxDepth : List Expr → Nat
  | [] => 0
  | part :: parts => max part.depth (Expr.maxDepth parts)

end

/-- Parts in sequence; a single part stands for itself. -/
def Expr.sequence : List Expr → Expr
  | [] => .empty
  | [part] => part
  | parts => .concatenation parts

def ClassExpr.ofItems : List ClassExpr → ClassExpr
  | [] => .empty
  | [item] => item
  | items => .union items

end CorpusSearch.Regex
