import CorpusSearch.Sensitivity
import CorpusSearch.Text.Split

/-!
Regular expressions as texts: anchors, escapes, sensitivity flags at the start, and lower case or stripped
diacritics outside escapes.
-/

set_option autoImplicit false

namespace CorpusSearch.Text

def wholeMatch (expression : String) : String :=
  String.ofList ("\\A(".toList ++ expression.toList ++ ")\\z".toList)

def endsEscaping (text : List Char) : Bool :=
  (text.reverse.takeWhile fun c => c = '\\').length % 2 = 1

def stripAnchorChars (text : List Char) : List Char :=
  let body := text.dropWhile fun c => c = '^'
  match unsnoc? body with
  | some (before, '$') => if endsEscaping before then body else before
  | _ => body

/-- Takes off all leading anchors and one trailing anchor that no backslash escapes. -/
def stripAnchors (expression : String) : String :=
  String.ofList (stripAnchorChars expression.toList)

def isAlphanumeric (text : String) : Bool :=
  !text.isEmpty && text.toList.all Unicode.isAlphanumeric

/-- The characters that have a meaning of their own in regular expressions. -/
def metaCharacters : List Char := "\\.+*?()|[]\x7b\x7d^$#&-~".toList

def escape (text : String) : String :=
  String.ofList (text.toList.flatMap fun c => if metaCharacters.contains c then ['\\', c] else [c])

/-- A text between apostrophes, with a backslash before backslashes and apostrophes. -/
def quote (text : String) : String :=
  String.ofList
    ('\'' :: (text.toList.flatMap fun c => if c = '\\' || c = '\'' then ['\\', c] else [c]) ++ ['\''])

/-- The sensitivity that an expression forces by its first flag group, and the rest of the expression. -/
def splitForcedSensitivity (expression : String) : Option Sensitivity × String :=
  let text := expression.toList
  match dropStart? "(?-i)".toList text, dropStart? "(?c)".toList text,
      dropStart? "(?i)".toList text with
  | some rest, _, _ => (some .sensitive, String.ofList rest)
  | none, some rest, _ => (some .sensitive, String.ofList rest)
  | none, none, some rest => (some .insensitive, String.ofList rest)
  | none, none, none => (none, expression)

inductive EscapeState where
  /-- Outside escapes. -/
  | plain
  /-- Just behind a backslash. -/
  | escaped
  /-- In the braces of a class name, up to the closing one. -/
  | className
  deriving DecidableEq

/-- Desensitizes each run of characters between escapes; `run` holds the current one in reverse. -/
def desensitizeRuns (s : Sensitivity) : EscapeState → List Char → List Char → List Char
  | _, run, [] => s.desensitizeChars run.reverse
  | .plain, run, c :: rest =>
    if c = '\\' then s.desensitizeChars run.reverse ++ c :: desensitizeRuns s .escaped [] rest
    else desensitizeRuns s .plain (c :: run) rest
  | .escaped, _, c :: rest =>
    if (c = 'p' || c = 'P') && rest.head? = some '\x7b' then c :: desensitizeRuns s .className [] rest
    else c :: desensitizeRuns s .plain [] rest
  | .className, _, c :: rest =>
    c :: desensitizeRuns s (if c = '\x7d' then .plain else .className) [] rest

/-- Desensitizes an expression and keeps its escapes. -/
def desensitizeExpression (expression : String) (s : Sensitivity) : String :=
  if s = .sensitive then expression
  else String.ofList (desensitizeRuns s .plain [] expression.toList)

end CorpusSearch.Text
