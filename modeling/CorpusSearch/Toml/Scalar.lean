import CorpusSearch.Decimal.Binary64
import CorpusSearch.Text.CodePoint
import CorpusSearch.Text.Integer
import CorpusSearch.Text.Split
import CorpusSearch.Toml.Value

/-!
What TOML values and names are made of: blanks and comments, strings, numbers, dates and times. Every reader
answers what it has read and the text behind it, or nothing where the text is malformed.
-/

set_option autoImplicit false

namespace CorpusSearch.Toml

/-! ### Blanks and comments -/

def isBlank (c : Char) : Bool := c = ' ' || c = '\t'

def skipBlanks (text : List Char) : List Char := text.dropWhile isBlank

/-- Characters that may stand in comments: all but control characters, and the tab. -/
def isPrintable (c : Char) : Bool := c = '\t' || (0x20 ≤ c.toNat && c.toNat ≠ 0x7F)

def skipComment (text : List Char) : List Char :=
  match text with
  | '#' :: rest => rest.dropWhile isPrintable
  | _ => text

def newline? : List Char → Option (List Char)
  | '\n' :: rest => some rest
  | '\r' :: '\n' :: rest => some rest
  | _ => none

/-- The next line, where nothing but blanks and a comment is left of this one. -/
def lineEnd? (text : List Char) : Option (List Char) :=
  match skipComment (skipBlanks text) with
  | [] => some []
  | rest => newline? rest

/-- Skips blanks, comments and line breaks; `fuel` bounds the number of lines. -/
def skipLines : Nat → List Char → List Char
  | 0, text => text
  | fuel + 1, text =>
    match newline? (skipComment (skipBlanks text)) with
    | some rest => skipLines fuel rest
    | none => skipBlanks text

/-! ### Strings -/

def readEscape : List Char → Option (Char × List Char)
  | 'b' :: rest => some ('\x08', rest)
  | 't' :: rest => some ('\t', rest)
  | 'n' :: rest => some ('\n', rest)
  | 'f' :: rest => some ('\x0c', rest)
  | 'r' :: rest => some ('\r', rest)
  | '"' :: rest => some ('"', rest)
  | '\\' :: rest => some ('\\', rest)
  | 'u' :: rest => readCodePoint 4 rest
  | 'U' :: rest => readCodePoint 8 rest
  | _ => none
where
  /-- A character by its code point, in just so many digits. -/
  readCodePoint (count : Nat) (text : List Char) : Option (Char × List Char) :=
    if text.length < count then none
    else do
      let c ← Text.charOfCodePoint? (← Text.hexValue? (text.take count))
      return (c, text.drop count)

/-- The rest of a string in quotation marks on one line; `done` holds what was read, in reverse. -/
def readBasic : Nat → List Char → List Char → Option (String × List Char)
  | 0, _, _ => none
  | fuel + 1, done, text =>
    match text with
    | [] => none
    | '"' :: rest => some (String.ofList done.reverse, rest)
    | '\\' :: rest => do
      let (c, rest) ← readEscape rest
      readBasic fuel (c :: done) rest
    | c :: rest => if isPrintable c then readBasic fuel (c :: done) rest else none

def readLiteral (text : List Char) : Option (String × List Char) :=
  let isInside (c : Char) : Bool := isPrintable c && c ≠ '\''
  match text.dropWhile isInside with
  | '\'' :: rest => some (String.ofList (text.takeWhile isInside), rest)
  | _ => none

def countRun (mark : Char) (text : List Char) : Nat × List Char :=
  ((text.takeWhile fun c => c = mark).length, text.dropWhile fun c => c = mark)

def skipBreaks : Nat → List Char → List Char
  | 0, text => text
  | fuel + 1, text =>
    match newline? (skipBlanks text) with
    | some rest => skipBreaks fuel rest
    | none => skipBlanks text

/-- What follows a backslash at the end of a line, with the blanks and line breaks before it. -/
def skipContinuation (text : List Char) : Option (List Char) := do
  let rest ← newline? (skipBlanks text)
  return skipBreaks (rest.length + 1) rest

/--
The rest of a string over several lines. Three marks close it; one or two more before them belong to the string.
-/
def readLines (mark : Char) (escapes : Bool) : Nat → List Char → List Char → Option (String × List Char)
  | 0, _, _ => none
  | fuel + 1, done, text =>
    match text with
    | [] => none
    | c :: rest =>
      if c = mark then
        let (count, rest) := countRun mark text
        let inside := if count < 3 then count else count - 3
        let done := List.replicate inside mark ++ done
        if count < 3 then readLines mark escapes fuel done rest
        else if 5 < count then none
        else some (String.ofList done.reverse, rest)
      else if c = '\\' && escapes then
        match skipContinuation rest with
        | some rest => readLines mark escapes fuel done rest
        | none => do
          let (c, rest) ← readEscape rest
          readLines mark escapes fuel (c :: done) rest
      else
        match newline? text with
        | some rest => readLines mark escapes fuel ('\n' :: done) rest
        | none => if isPrintable c then readLines mark escapes fuel (c :: done) rest else none

/-- A string over several lines, behind its opening marks; a line break right behind them is left out. -/
def readMultiline (mark : Char) (escapes : Bool) (text : List Char) : Option (String × List Char) :=
  let body := (newline? text).getD text
  readLines mark escapes (body.length + 1) [] body

def readString : List Char → Option (String × List Char)
  | '"' :: '"' :: '"' :: rest => readMultiline '"' true rest
  | '"' :: rest => readBasic (rest.length + 1) [] rest
  | '\'' :: '\'' :: '\'' :: rest => readMultiline '\'' false rest
  | '\'' :: rest => readLiteral rest
  | _ => none

/-! ### Names -/

def isNameChar (c : Char) : Bool := c.isAlphanum || c = '-' || c = '_'

def readName : List Char → Option (String × List Char)
  | '"' :: rest => readBasic (rest.length + 1) [] rest
  | '\'' :: rest => readLiteral rest
  | text =>
    match text.takeWhile isNameChar with
    | [] => none
    | name => some (String.ofList name, text.dropWhile isNameChar)

/-- How many parts a dotted name, and how many levels nested values may have. -/
def nestLimit : Nat := 79

/-- A dotted name and the blanks around its parts; `count` bounds the number of parts. -/
def readPath : Nat → List Char → Option (List String × List Char)
  | 0, _ => none
  | count + 1, text => do
    let (name, rest) ← readName (skipBlanks text)
    match skipBlanks rest with
    | '.' :: rest =>
      let (path, rest) ← readPath count rest
      return (name :: path, rest)
    | rest => return ([name], rest)

/-! ### Numbers -/

def readDigits (isDigit : Char → Bool) : List Char → Option (List Char × List Char)
  | c :: '_' :: rest =>
    if isDigit c then do
      let (digits, rest) ← readDigits isDigit rest
      return (c :: digits, rest)
    else none
  | c :: rest =>
    if isDigit c then
      match readDigits isDigit rest with
      | some (digits, rest) => some (c :: digits, rest)
      | none => if rest.head?.any isDigit then none else some ([c], rest)
    else none
  | [] => none

def digitsToNat (base : Nat) (digits : List Char) : Nat :=
  digits.foldl (fun n c => n * base + (Text.hexDigit? c).getD 0) 0

def readIntegerIn (base : Nat) (isDigit : Char → Bool) (text : List Char) : Option (Toml × List Char) := do
  let (digits, rest) ← readDigits isDigit text
  let n : Int := Int.ofNat (digitsToNat base digits)
  if Text.fitsInt64 n then return (.integer n, rest) else none

def isHexDigit (c : Char) : Bool := (Text.hexDigit? c).isSome

def isOctalDigit (c : Char) : Bool := '0' ≤ c && c ≤ '7'

def isBinaryDigit (c : Char) : Bool := c = '0' || c = '1'

def readSign : List Char → Bool × List Char
  | '-' :: rest => (true, rest)
  | '+' :: rest => (false, rest)
  | text => (false, text)

def readFraction : List Char → Option (List Char × List Char)
  | '.' :: rest => readDigits Char.isDigit rest
  | rest => some ([], rest)

def readExponent (text : List Char) : Option (Option Int × List Char) :=
  match text with
  | 'e' :: rest | 'E' :: rest => do
    let (negative, rest) := readSign rest
    let (digits, rest) ← readDigits Char.isDigit rest
    let n : Int := Int.ofNat (digitsToNat 10 digits)
    return (some (if negative then -n else n), rest)
  | _ => some (none, text)

/-- Whether `significand * 10 ^ exponent` is too large for a floating-point number. -/
def overflows (significand : Nat) (exponent : Int) : Bool :=
  let magnitude := Int.ofNat (Nat.toDigits 10 significand).length + exponent
  if significand = 0 || magnitude < 300 then false
  else if 310 < magnitude then true
  else
    let power := Nat.pow 10 exponent.natAbs
    let ratio := if exponent < 0 then Binary64.ofRatio? significand power
      else Binary64.ofRatio? (significand * power) 1
    ratio.isNone

/-- A decimal integer or a floating-point number, of which only a negative one may be too large. -/
def readDecimal (text : List Char) : Option (Toml × List Char) := do
  let (negative, body) := readSign text
  let (whole, rest) ← match body with
    | '0' :: '_' :: _ => none
    | '0' :: rest => some (['0'], rest)
    | _ => readDigits Char.isDigit body
  let (fraction, rest) ← readFraction rest
  let (exponent, rest) ← readExponent rest
  if fraction.isEmpty && exponent.isNone then
    let n : Int := Int.ofNat (digitsToNat 10 whole)
    let n := if negative then -n else n
    if Text.fitsInt64 n then return (.integer n, rest) else none
  else
    let significand := digitsToNat 10 (whole ++ fraction)
    let power := exponent.getD 0 - Int.ofNat fraction.length
    if !negative && overflows significand power then none
    else return (.float (String.ofList (text.take (text.length - rest.length))), rest)

def readSpecial (text : List Char) : Option (Toml × List Char) :=
  match (readSign text).2 with
  | 'i' :: 'n' :: 'f' :: rest | 'n' :: 'a' :: 'n' :: rest =>
    some (.float (String.ofList (text.take (text.length - rest.length))), rest)
  | _ => none

def readNumber (text : List Char) : Option (Toml × List Char) :=
  match text with
  | '0' :: 'x' :: rest => readIntegerIn 16 isHexDigit rest
  | '0' :: 'o' :: rest => readIntegerIn 8 isOctalDigit rest
  | '0' :: 'b' :: rest => readIntegerIn 2 isBinaryDigit rest
  | _ => (readSpecial text).or (readDecimal text)

/-! ### Dates and times -/

def readFixed (count low high : Nat) (text : List Char) : Option (Nat × List Char) :=
  let digits := text.take count
  let n := digitsToNat 10 digits
  if digits.length = count && digits.all Char.isDigit && low ≤ n && n ≤ high then
    some (n, text.drop count)
  else none

def readMark (mark : Char) (text : List Char) : Option (List Char) := Text.dropStart? [mark] text

def daysInMonth (year month : Nat) : Nat :=
  if month = 2 then
    if year % 4 = 0 && (year % 100 ≠ 0 || year % 400 = 0) then 29 else 28
  else if [4, 6, 9, 11].contains month then 30
  else 31

def skipDate (text : List Char) : Option (List Char) := do
  let (year, rest) ← readFixed 4 0 9999 text
  let (month, rest) ← readFixed 2 1 12 (← readMark '-' rest)
  let (_, rest) ← readFixed 2 1 (daysInMonth year month) (← readMark '-' rest)
  return rest

def skipTime (text : List Char) : Option (List Char) := do
  let (_, rest) ← readFixed 2 0 23 text
  let (_, rest) ← readFixed 2 0 59 (← readMark ':' rest)
  let (_, rest) ← readFixed 2 0 60 (← readMark ':' rest)
  match rest with
  | '.' :: fraction =>
    if fraction.head?.any Char.isDigit then return fraction.dropWhile Char.isDigit else none
  | _ => return rest

def skipOffset (text : List Char) : Option (List Char) :=
  match text with
  | 'Z' :: rest | 'z' :: rest => some rest
  | '+' :: rest | '-' :: rest => do
    let (_, rest) ← readFixed 2 0 23 rest
    let (_, rest) ← readFixed 2 0 59 (← readMark ':' rest)
    return rest
  | _ => some text

/-- The time behind a date, if there is one; behind a blank it has to look like one. -/
def skipTimeOfDate (text : List Char) : Option (List Char) :=
  match text with
  | 'T' :: rest | 't' :: rest => do skipOffset (← skipTime rest)
  | ' ' :: a :: b :: ':' :: rest =>
    if a.isDigit && b.isDigit then do skipOffset (← skipTime (a :: b :: ':' :: rest)) else some text
  | _ => some text

def startsWith (count : Nat) (mark : Char) (text : List Char) : Bool :=
  (text.take count).all Char.isDigit && (text.drop count).head? = some mark

def readDate (text : List Char) : Option (Toml × List Char) := do
  let rest ← if startsWith 4 '-' text then skipTimeOfDate (← skipDate text) else skipTime text
  return (.date (String.ofList (text.take (text.length - rest.length))), rest)

def readScalar (text : List Char) : Option (Toml × List Char) :=
  match text with
  | '"' :: _ | '\'' :: _ => do
    let (s, rest) ← readString text
    return (.string s, rest)
  | 't' :: 'r' :: 'u' :: 'e' :: rest => some (.boolean true, rest)
  | 'f' :: 'a' :: 'l' :: 's' :: 'e' :: rest => some (.boolean false, rest)
  | _ => if startsWith 4 '-' text || startsWith 2 ':' text then readDate text else readNumber text

end CorpusSearch.Toml
