import CorpusSearch.Regex.Expr
import CorpusSearch.Text.CodePoint
import CorpusSearch.Text.Integer
import CorpusSearch.Unicode.Letter

/-!
Reading regular expressions. A reader holds the characters still to come, whether white space is ignored and the
group names seen so far; every function answers nothing where the text is not an expression.
-/

set_option autoImplicit false

namespace CorpusSearch.Regex

structure Reader where
  rest : List Char
  ignoreWhitespace : Bool
  groupNames : List (List Char)

namespace Reader

def ofText (text : List Char) : Reader := ⟨text, false, []⟩

def isAtEnd (r : Reader) : Bool := r.rest.isEmpty

def peek? (r : Reader) : Option Char := r.rest.head?

/-- White space and comments, which run from a number sign to the end of the line. -/
def dropBlank (comment : Bool) : List Char → List Char
  | [] => []
  | c :: rest =>
    if comment then dropBlank (c ≠ '\n') rest
    else if Unicode.isWhiteSpace c then dropBlank false rest
    else if c = '#' then dropBlank true rest
    else c :: rest

def skip (r : Reader) : Reader :=
  if r.ignoreWhitespace then { r with rest := dropBlank false r.rest } else r

def bump (r : Reader) : Reader := { r with rest := r.rest.tail }

def bumpSkip (r : Reader) : Reader := r.bump.skip

/--
The character after the current one, ignored ones left out. Of a comment only the number sign is left out, so
that its first letter counts; where nothing else follows, the next character counts whatever it is.
-/
def peekNext? (r : Reader) : Option Char :=
  let next := r.rest.tail
  if r.ignoreWhitespace then
    let found := match next.dropWhile Unicode.isWhiteSpace with
      | '#' :: comment => comment.dropWhile Unicode.isWhiteSpace
      | other => other
    found.head?.or next.head?
  else next.head?

end Reader

open Reader

def isMetaCharacter (c : Char) : Bool := "\\.+*?()|[]\x7b\x7d^$#&-~".toList.contains c

/-- Characters that may follow a backslash and then stand for themselves. -/
def isEscapable (c : Char) : Bool :=
  isMetaCharacter c || (c.toNat < 0x80 && !c.isAlphanum && c ≠ '<' && c ≠ '>')

def hexDigits : Nat → List Char → Reader → Option (List Char × Reader)
  | 0, digits, r => some (digits.reverse, r)
  | count + 1, digits, r => do
    let c ← r.peek?
    let _ ← Text.hexDigit? c
    hexDigits count (c :: digits) r.bumpSkip

def untilBrace : Nat → List Char → Reader → Option (List Char × Reader)
  | 0, _, _ => none
  | fuel + 1, body, r => do
    let c ← r.peek?
    if c = '\x7d' then return (body.reverse, r.bump)
    untilBrace fuel (c :: body) r.bumpSkip

inductive Primitive where
  | literal (c : Char) (byte : Bool)
  | dot
  | assertion (a : Assertion)
  | letter (c : LetterClass) (negated : Bool)
  | named (c : NamedClass) (negated : Bool)

/-- The digits after `\x`, `\u` or `\U`: a fixed number of them, or any number in braces. -/
def readHex (count : Nat) (r : Reader) : Option (Primitive × Reader) := do
  let r := r.bumpSkip
  if r.peek? = some '\x7b' then
    let r := r.bumpSkip
    let (digits, r) ← untilBrace (r.rest.length + 1) [] r
    if digits.isEmpty then none
    let c ← Text.charOfCodePoint? (← Text.hexValue? digits)
    return (.literal c false, r.skip)
  else
    let (digits, r) ← hexDigits count [] r
    let c ← Text.charOfCodePoint? (← Text.hexValue? digits)
    return (.literal c (count = 2), r)

/-- Splits a class body at the first of `!=`, else at the first colon, else at the first equals sign. -/
def splitClassName (body : List Char) : NamedClass × Bool :=
  let rec at? (separator : List Char → Option (List Char)) :
      List Char → List Char → Option (List Char × List Char)
    | _, [] => none
    | before, c :: rest =>
      match separator (c :: rest) with
      | some after => some (before.reverse, after)
      | none => at? separator (c :: before) rest
  let notEqual : List Char → Option (List Char)
    | '!' :: '=' :: rest => some rest
    | _ => none
  let one (d : Char) : List Char → Option (List Char)
    | c :: rest => if c = d then some rest else none
    | [] => none
  match at? notEqual [] body, at? (one ':') [] body, at? (one '=') [] body with
  | some (name, value), _, _ => (.value name value, true)
  | none, some (name, value), _ => (.value name value, false)
  | none, none, some (name, value) => (.value name value, false)
  | none, none, none => (.name body, false)

def readNamedClass (negated : Bool) (r : Reader) : Option (Primitive × Reader) := do
  let r := r.bumpSkip
  let c ← r.peek?
  if c = '\x7b' then
    let r := r.bumpSkip
    let (body, r) ← untilBrace (r.rest.length + 1) [] r
    let (name, flipped) := splitClassName body
    return (.named name (negated != flipped), r)
  else if c = '\\' then none
  else return (.named (.name [c]) negated, r.bumpSkip)

def isBoundaryNameChar (c : Char) : Bool := c.isAlpha || c = '-'

def boundaryName : Nat → List Char → Reader → List Char × Reader
  | 0, name, r => (name.reverse, r)
  | fuel + 1, name, r =>
    match r.peek? with
    | some c =>
      if isBoundaryNameChar c then boundaryName fuel (c :: name) r.bumpSkip else (name.reverse, r)
    | none => (name.reverse, r)

/-- After `\b`: the boundary named in braces, if what the braces hold starts like a name. -/
def readBoundary (r : Reader) : Option (Assertion × Reader) :=
  if r.peek? = some '\x7b' then do
    let inner := r.bumpSkip
    let first ← inner.peek?
    if !isBoundaryNameChar first then return (.wordBoundary, r)
    let (name, after) := boundaryName (inner.rest.length + 1) [] inner
    if after.peek? ≠ some '\x7d' then none
    let kind ← match String.ofList name with
      | "start" => some Assertion.wordStart
      | "end" => some .wordEnd
      | "start-half" => some .wordStartHalf
      | "end-half" => some .wordEndHalf
      | _ => none
    return (kind, after.bump)
  else some (.wordBoundary, r)

def readEscape (r : Reader) : Option (Primitive × Reader) := do
  let c ← r.peek?
  match c with
  | 'x' => readHex 2 r
  | 'u' => readHex 4 r
  | 'U' => readHex 8 r
  | 'p' => readNamedClass false r
  | 'P' => readNamedClass true r
  | 'd' => return (.letter .digit false, r.bump)
  | 'D' => return (.letter .digit true, r.bump)
  | 's' => return (.letter .space false, r.bump)
  | 'S' => return (.letter .space true, r.bump)
  | 'w' => return (.letter .word false, r.bump)
  | 'W' => return (.letter .word true, r.bump)
  | 'a' => return (.literal '\x07' false, r.bump)
  | 'f' => return (.literal '\x0c' false, r.bump)
  | 't' => return (.literal '\t' false, r.bump)
  | 'n' => return (.literal '\n' false, r.bump)
  | 'r' => return (.literal '\r' false, r.bump)
  | 'v' => return (.literal '\x0b' false, r.bump)
  | 'A' => return (.assertion .textStart, r.bump)
  | 'z' => return (.assertion .textEnd, r.bump)
  | 'b' =>
    let (kind, r) ← readBoundary r.bump
    return (.assertion kind, r)
  | 'B' => return (.assertion .notWordBoundary, r.bump)
  | '<' => return (.assertion .wordStart, r.bump)
  | '>' => return (.assertion .wordEnd, r.bump)
  | _ => if isEscapable c then return (.literal c false, r.bump) else none

def readPrimitive (r : Reader) : Option (Primitive × Reader) := do
  let c ← r.peek?
  match c with
  | '\\' => readEscape r.bump
  | '.' => return (.dot, r.bump)
  | '^' => return (.assertion .lineStart, r.bump)
  | '$' => return (.assertion .lineEnd, r.bump)
  | _ => return (.literal c false, r.bump)

def Primitive.toExpr : Primitive → Expr
  | .literal c byte => .literal c byte
  | .dot => .dot
  | .assertion a => .assertion a
  | .letter c negated => .letter c negated
  | .named c negated => .named c negated

def Primitive.toClassExpr? : Primitive → Option ClassExpr
  | .literal c _ => some (.literal c)
  | .letter c negated => some (.letter c negated)
  | .named c negated => some (.named c negated)
  | .dot | .assertion _ => none

def Primitive.toChar? : Primitive → Option Char
  | .literal c _ => some c
  | _ => none

/-! ### Bracketed classes -/

def posixClass? : String → Option PosixClass
  | "alnum" => some .alnum
  | "alpha" => some .alpha
  | "ascii" => some .ascii
  | "blank" => some .blank
  | "cntrl" => some .cntrl
  | "digit" => some .digit
  | "graph" => some .graph
  | "lower" => some .lower
  | "print" => some .print
  | "punct" => some .punct
  | "space" => some .space
  | "upper" => some .upper
  | "word" => some .word
  | "xdigit" => some .xdigit
  | _ => none

def readPosixClass? (r : Reader) : Option (ClassExpr × Reader) :=
  match r.rest with
  | '[' :: ':' :: rest =>
    let (negated, rest) : Bool × List Char := match rest with
      | '^' :: rest => (true, rest)
      | _ => (false, rest)
    match rest.dropWhile (· ≠ ':') with
    | ':' :: ']' :: after =>
      (posixClass? (String.ofList (rest.takeWhile (· ≠ ':')))).map fun c =>
        (.posix c negated, { r with rest := after })
    | _ => none
  | _ => none

/-- One member of a class: a character outside escapes stands for itself. -/
def readClassItem (r : Reader) : Option (Primitive × Reader) := do
  let c ← r.peek?
  if c = '\\' then readEscape r.bump else return (.literal c false, r.bump)

def readClassRange (r : Reader) : Option (ClassExpr × Reader) := do
  let (first, r) ← readClassItem r
  let r := r.skip
  let c ← r.peek?
  if c ≠ '-' || r.peekNext? = some ']' || r.peekNext? = some '-' then
    return (← first.toClassExpr?, r)
  let r := r.bumpSkip
  let (last, r) ← readClassItem r
  let first ← first.toChar?
  let last ← last.toChar?
  if first ≤ last then return (.range first last, r) else none

def leadingHyphens : Nat → List ClassExpr → Reader → List ClassExpr × Reader
  | 0, items, r => (items, r)
  | fuel + 1, items, r =>
    if r.peek? = some '-' then leadingHyphens fuel (.literal '-' :: items) r.bumpSkip else (items, r)

/-- The start of a class behind its bracket: negation, and hyphens or a bracket that stand for themselves. -/
def readClassOpen (r : Reader) : Bool × List ClassExpr × Reader :=
  let r := r.skip
  let (negated, r) := if r.peek? = some '^' then (true, r.bumpSkip) else (false, r)
  let (items, r) := leadingHyphens (r.rest.length + 1) [] r
  if items.isEmpty && r.peek? = some ']' then (negated, [.literal ']'], r.bumpSkip)
  else (negated, items, r)

def joinClass (waiting : Option (ClassOperator × ClassExpr)) (right : ClassExpr) : ClassExpr :=
  match waiting with
  | none => right
  | some (operator, left) => .binary operator left right

/--
The members of a class up to its closing bracket, which is passed. `waiting` is the operator read before the
current members, `items` holds those in reverse.
-/
def readClassBody : Nat → Option (ClassOperator × ClassExpr) → List ClassExpr → Reader →
    Option (ClassExpr × Reader)
  | 0, _, _, _ => none
  | fuel + 1, waiting, items, r =>
    let r := r.skip
    let operator (o : ClassOperator) (after : List Char) : Option (ClassExpr × Reader) :=
      readClassBody fuel (some (o, joinClass waiting (.ofItems items.reverse))) []
        { r with rest := after }
    match r.rest with
    | [] => none
    | ']' :: after =>
      some (joinClass waiting (.ofItems items.reverse), { r with rest := after })
    | '[' :: after =>
      match readPosixClass? r with
      | some (item, r) => readClassBody fuel waiting (item :: items) r
      | none => do
        let (negated, inner, r) := readClassOpen { r with rest := after }
        let (body, r) ← readClassBody fuel none inner r
        readClassBody fuel waiting (.bracketed negated body :: items) r
    | '&' :: '&' :: after => operator .intersection after
    | '-' :: '-' :: after => operator .difference after
    | '~' :: '~' :: after => operator .symmetricDifference after
    | _ => do
      let (item, r) ← readClassRange r
      readClassBody fuel waiting (item :: items) r

def readClass (r : Reader) : Option (Expr × Reader) := do
  let (negated, items, r) := readClassOpen r
  let (body, r) ← readClassBody (r.rest.length + 1) none items r
  return (.bracketed negated body, r)

/-! ### Groups and repetitions -/

def isGroupNameChar (isFirst : Bool) (c : Char) : Bool :=
  if isFirst then c = '_' || Unicode.isAlphabetic c
  else c = '_' || c = '.' || c = '[' || c = ']' || Unicode.isAlphanumeric c

/-- A group name and its closing angle bracket; no two groups have the same name. -/
def readGroupName (r : Reader) : Option Reader :=
  let name := r.rest.takeWhile (· ≠ '>')
  match name, r.rest.dropWhile (· ≠ '>') with
  | first :: others, _ :: after =>
    if isGroupNameChar true first && others.all (isGroupNameChar false)
        && !r.groupNames.contains name then
      some { r with rest := after, groupNames := name :: r.groupNames }
    else none
  | _, _ => none

/-- Flag letters up to a colon or closing parenthesis, each at most once, the negated ones behind a hyphen. -/
def readFlags : Bool → FlagSettings → List Char → Option (FlagSettings × List Char)
  | _, _, [] => none
  | negated, settings, c :: rest =>
    if c = ':' || c = ')' then
      some (settings.reverse, c :: rest)
    else if c = '-' then
      match rest with
      | d :: _ => if negated || d = ':' || d = ')' then none else readFlags true settings rest
      | [] => none
    else do
      let flag ← Flag.ofChar? c
      if settings.any fun s => s.1 = flag then none
      readFlags negated ((flag, !negated) :: settings) rest

inductive Opening where
  | flags (settings : FlagSettings)
  | group (settings : FlagSettings)

/-- Reads what follows an opening parenthesis up to where the body of the group starts. -/
def readOpening (r : Reader) : Option (Opening × Reader) :=
  let r := r.skip
  match r.rest with
  | '?' :: '=' :: _ | '?' :: '!' :: _ | '?' :: '<' :: '=' :: _ | '?' :: '<' :: '!' :: _ => none
  | '?' :: 'P' :: '<' :: rest => do
    return (.group [], ← readGroupName { r with rest })
  | '?' :: '<' :: rest => do
    return (.group [], ← readGroupName { r with rest })
  | '?' :: rest => do
    match ← readFlags false [] rest with
    | (settings, ')' :: rest) =>
      if settings.isEmpty then none else return (.flags settings, { r with rest })
    | (settings, _ :: rest) => return (.group settings, { r with rest })
    | (_, []) => none
  | _ => some (.group [], r)

def setsIgnoreWhitespace (settings : FlagSettings) (current : Bool) : Bool :=
  ((settings.find? fun s => s.1 = .ignoreWhitespace).map (·.2)).getD current

/-- Blanks around digits; the digits may have ignored white space between them. -/
def readDecimal : Nat → List Char → Reader → List Char × Reader
  | 0, digits, r => (digits.reverse, r)
  | fuel + 1, digits, r =>
    match r.peek? with
    | some c =>
      if c.isDigit then readDecimal fuel (c :: digits) r.bumpSkip else (digits.reverse, r)
    | none => (digits.reverse, r)

def dropSpaces (r : Reader) : Reader := { r with rest := r.rest.dropWhile Unicode.isWhiteSpace }

def readCount (r : Reader) : Option (Option Nat × Reader) := do
  let r := dropSpaces r
  let (digits, r) := readDecimal (r.rest.length + 1) [] r
  let r := dropSpaces r
  if digits.isEmpty then return (none, r)
  let n ← Text.natural? digits
  if n < 4294967296 then return (some n, r) else none

/-- The counts of a repetition and its closing brace; the reader stands behind the opening one. -/
def readCounts (r : Reader) : Option (Nat × Option Nat × Reader) := do
  let r := r.skip
  let (low, r) ← readCount r
  match r.peek? with
  | some ',' =>
    let r := r.bumpSkip
    if r.peek? = some '\x7d' then return (← low, none, r.bumpSkip)
    let low ← low
    let (high, r) ← readCount r
    let high ← high
    if r.peek? = some '\x7d' && low ≤ high then return (low, some high, r.bumpSkip) else none
  | some '\x7d' => return (← low, ← low, r.bumpSkip)
  | _ => none

def skipLazy (r : Reader) : Reader := if r.peek? = some '?' then r.bump else r

/-- Repeats the last part; flags and an absent part cannot be repeated. -/
def repeatLast (min : Nat) (max : Option Nat) : List Expr → Option (List Expr)
  | [] => none
  | .empty :: _ => none
  | .flags _ :: _ => none
  | body :: parts => some (.repetition min max body :: parts)

def joinBranches (branches parts : List Expr) : Expr :=
  match branches with
  | [] => .sequence parts.reverse
  | _ => .alternation ((Expr.sequence parts.reverse :: branches).reverse)

/--
An expression up to a closing parenthesis or the end. `branches` holds the finished branches, `parts` the parts
of the current one, both in reverse.
-/
def readExpr : Nat → List Expr → List Expr → Reader → Option (Expr × Reader)
  | 0, _, _, _ => none
  | fuel + 1, branches, parts, r =>
    let r := r.skip
    match r.rest with
    | [] => some (joinBranches branches parts, r)
    | ')' :: _ => some (joinBranches branches parts, r)
    | '|' :: rest => readExpr fuel (.sequence parts.reverse :: branches) [] { r with rest }
    | '(' :: rest => do
      match ← readOpening { r with rest } with
      | (.flags settings, r) =>
        readExpr fuel branches (.flags settings :: parts)
          { r with ignoreWhitespace := setsIgnoreWhitespace settings r.ignoreWhitespace }
      | (.group settings, inner) =>
        let (body, after) ← readExpr fuel [] []
          { inner with ignoreWhitespace := setsIgnoreWhitespace settings inner.ignoreWhitespace }
        match after.rest with
        | ')' :: rest =>
          readExpr fuel branches (.group settings body :: parts)
            { after with rest, ignoreWhitespace := inner.ignoreWhitespace }
        | _ => none
    | '[' :: rest => do
      let (part, r) ← readClass { r with rest }
      readExpr fuel branches (part :: parts) r
    | '?' :: _ => do readExpr fuel branches (← repeatLast 0 (some 1) parts) (skipLazy r.bump)
    | '*' :: _ => do readExpr fuel branches (← repeatLast 0 none parts) (skipLazy r.bump)
    | '+' :: _ => do readExpr fuel branches (← repeatLast 1 none parts) (skipLazy r.bump)
    | '\x7b' :: rest => do
      let (min, max, r) ← readCounts { r with rest }
      readExpr fuel branches (← repeatLast min max parts) (skipLazy r)
    | _ => do
      let (part, r) ← readPrimitive r
      readExpr fuel branches (part.toExpr :: parts) r

def Expr.read? (text : List Char) : Option Expr := do
  let (e, r) ← readExpr (text.length + 1) [] [] (.ofText text)
  if r.isAtEnd then return e else none

end CorpusSearch.Regex
