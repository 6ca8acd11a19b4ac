import CorpusSearch.Pattern.Basic
import CorpusSearch.Text.Expression

/-!
Simpler patterns for the same spans. A rule looks at one node and what is directly below it; it is applied when
the node is planned.
-/

set_option autoImplicit false

namespace CorpusSearch

/--
Turns sensitivity flags at the start of an expression into the sensitivity of the test, one after the other;
`fuel` bounds their number.
-/
def TokenTest.resolveFlags : Nat → TokenTest → TokenTest
  | 0, test => test
  | fuel + 1, test =>
    match Text.splitForcedSensitivity test.value with
    | (none, _) => test
    | (some s, rest) => resolveFlags fuel { test with value := rest, sensitivity := some s }

/-- A regular expression without flags; one that is all letters and numbers is a literal value. -/
def TokenTest.simplerRegex? (test : TokenTest) : Option Pattern :=
  let resolved := test.resolveFlags test.value.length
  if Text.isAlphanumeric resolved.value then some (.term resolved)
  else if resolved = test then none
  else some (.regex resolved)

namespace Pattern

/-- The simpler form of a node, where there is one. -/
def simpler? : Pattern → Option Pattern
  | regex test => test.simplerRegex?
  | modify .not (modify .not clause) => some clause
  | join _ [clause] => some clause
  | modify (.repeated min max) (anyToken 1 1) => some (anyToken min max)
  | _ => none

/-- Lets a placeholder, alone or in a capture, stand for any number of tokens. -/
def fillDefault : Pattern → Pattern
  | defaultValue => anyNGram
  | modify (.capture name) defaultValue => modify (.capture name) anyNGram
  | p => p

/-- Applies the rules to a node until none applies; `fuel` bounds how often. -/
def simplifyWithin : Nat → Pattern → Pattern
  | 0, p => p
  | fuel + 1, p =>
    match p.simpler? with
    | some simpler => simplifyWithin fuel simpler
    | none => p

/-- The simplest form of a node; every rule leaves fewer nodes or settles an expression for good. -/
def simplify (p : Pattern) : Pattern := simplifyWithin p.size p

end Pattern

end CorpusSearch
