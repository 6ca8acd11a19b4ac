import CorpusSearch.Json.Value
import CorpusSearch.Text.CodePoint
import CorpusSearch.Text.Split

/-!
Reading JSON text. A number without fraction and exponent is an integer if 64 bits hold it, except for the
negative zero. Other numbers are computed from at most twenty digits by one multiplication or division.
-/

set_option autoImplicit false

namespace CorpusSearch.Json

def isBlank (c : Char) : Bool := c = ' ' || c = '\n' || c = '\t' || c = '\r'

def skipBlank (text : List Char) : List Char := text.dropWhile isBlank

/-! ### Numbers -/

def largestWord : Nat := 18446744073709551615

/--
Digits taken into a significand as long as 64 bits hold it. Answers the significand, the number of digits taken
and the digits left.
-/
def takeDigits (significand taken : Nat) : List Char → Nat × Nat × List Char
  | [] => (significand, taken, [])
  | c :: rest =>
    if c.isDigit then
      let next := significand * 10 + (c.toNat - 48)
      if largestWord < next then (significand, taken, c :: rest)
      else takeDigits next (taken + 1) rest
    else (significand, taken, c :: rest)

/-- `significand * 10 ^ exponent` by steps that each round; nothing where the result is too large. -/
def scaleByTen : Nat → Binary64 → Int → Option Binary64
  | 0, x, _ => some x
  | fuel + 1, x, exponent =>
    if exponent.natAbs ≤ 308 then do
      let power ← Binary64.ofNat? (Nat.pow 10 exponent.natAbs)
      if 0 ≤ exponent then x.mul? power else x.div? power
    else if x.isZero then some x
    else if 0 ≤ exponent then none
    else do
      let power ← Binary64.ofNat? (Nat.pow 10 308)
      scaleByTen fuel (← x.div? power) (exponent + (308 : Int))

def floatOfParts (negative : Bool) (significand : Nat) (exponent : Int) : Option Json := do
  let x ← scaleByTen 8 (← Binary64.ofNat? significand) exponent
  return .float (if negative then x.neg else x)

/-- An exponent behind its mark; a very large one is cut to ten digits. -/
def readExponent (negative : Bool) (significand : Nat) (start : Int) (text : List Char) :
    Option (Json × List Char) := do
  let (negativeExponent, text) := match text with
    | '-' :: rest => (true, rest)
    | '+' :: rest => (false, rest)
    | _ => (false, text)
  let digits := text.takeWhile Char.isDigit
  let rest := text.dropWhile Char.isDigit
  if digits.isEmpty then none
  let value : Nat := digits.foldl (fun n c => min (n * 10 + (c.toNat - 48)) 3000000000) 0
  if 2147483647 < value then
    if significand ≠ 0 && !negativeExponent then none
    else
      let zero := Binary64.zero
      return (.float (if negative then zero.neg else zero), rest)
  else
    let exponent := if negativeExponent then start - (value : Int) else start + (value : Int)
    return (← floatOfParts negative significand exponent, rest)

/-- What may follow the digits before the point when these did not fit, or the digits behind it. -/
def readAfterDigits (negative : Bool) (significand : Nat) (exponent : Int) (text : List Char) :
    Option (Json × List Char) :=
  match text with
  | 'e' :: rest | 'E' :: rest => readExponent negative significand exponent rest
  | _ => do return (← floatOfParts negative significand exponent, text)

def readFraction (negative : Bool) (significand : Nat) (exponent : Int) (text : List Char) :
    Option (Json × List Char) :=
  match text with
  | c :: _ =>
    if c.isDigit then
      let (significand, taken, rest) := takeDigits significand 0 text
      readAfterDigits negative significand (exponent - taken) (rest.dropWhile Char.isDigit)
    else none
  | [] => none

def readMagnitude (negative : Bool) (text : List Char) : Option (Json × List Char) := do
  let (significand, rest) ← match text with
    | '0' :: rest => if rest.head?.any Char.isDigit then none else some (0, rest)
    | c :: _ =>
      if c.isDigit then
        let (significand, _, rest) := takeDigits 0 0 text
        some (significand, rest)
      else none
    | [] => none
  let extra := (rest.takeWhile Char.isDigit).length
  let rest := rest.dropWhile Char.isDigit
  match rest with
  | '.' :: after => readFraction negative significand extra after
  | 'e' :: _ | 'E' :: _ => readAfterDigits negative significand extra rest
  | _ =>
    if extra ≠ 0 then readAfterDigits negative significand extra rest
    else if !negative then return (.int significand, rest)
    else if significand = 0 || 9223372036854775808 < significand then
      return (← floatOfParts true significand 0, rest)
    else return (.int (-significand), rest)

def readNumber (text : List Char) : Option (Json × List Char) :=
  match text with
  | '-' :: rest => readMagnitude true rest
  | _ => readMagnitude false text

/-! ### Strings -/

def readFourHex : List Char → Option (Nat × List Char)
  | a :: b :: c :: d :: rest => do
    return (← Text.hexValue? [a, b, c, d], rest)
  | _ => none

def simpleEscape? : Char → Option Char
  | '"' => some '"'
  | '\\' => some '\\'
  | '/' => some '/'
  | 'b' => some '\x08'
  | 'f' => some '\x0c'
  | 'n' => some '\n'
  | 'r' => some '\r'
  | 't' => some '\t'
  | _ => none

/-- A character behind `\u`; characters beyond the first plane are written as two surrogates. -/
def readUnicodeEscape (text : List Char) : Option (Char × List Char) := do
  let (n, rest) ← readFourHex text
  if 0xD800 ≤ n && n < 0xDC00 then
    match rest with
    | '\\' :: 'u' :: rest =>
      let (m, rest) ← readFourHex rest
      if 0xDC00 ≤ m && m < 0xE000 then
        return (Char.ofNat (0x10000 + (n - 0xD800) * 0x400 + (m - 0xDC00)), rest)
      else none
    | _ => none
  else return (← Text.charOfCodePoint? n, rest)

/-- The rest of a string and its closing quotation mark; `done` holds what was read, in reverse. -/
def readStringRest : Nat → List Char → List Char → Option (String × List Char)
  | 0, _, _ => none
  | fuel + 1, done, text =>
    match text with
    | [] => none
    | '"' :: rest => some (String.ofList done.reverse, rest)
    | '\\' :: 'u' :: rest => do
      let (c, rest) ← readUnicodeEscape rest
      readStringRest fuel (c :: done) rest
    | '\\' :: c :: rest => do readStringRest fuel ((← simpleEscape? c) :: done) rest
    | ['\\'] => none
    | c :: rest => if c.toNat < 0x20 then none else readStringRest fuel (c :: done) rest

/-! ### Values -/

def readWord (word : String) (value : Json) (text : List Char) : Option (Json × List Char) :=
  (Text.dropStart? word.toList text).map fun rest => (value, rest)

mutual

def readValue : Nat → Nat → List Char → Option (Json × List Char)
  | 0, _, _ => none
  | fuel + 1, depth, text =>
    match skipBlank text with
    | [] => none
    | 'n' :: rest => readWord "ull" .null rest
    | 't' :: rest => readWord "rue" (.bool true) rest
    | 'f' :: rest => readWord "alse" (.bool false) rest
    | '"' :: rest => do
      let (s, rest) ← readStringRest (rest.length + 1) [] rest
      return (.str s, rest)
    | '[' :: rest =>
      match depth with
      | 0 => none
      | depth + 1 =>
        match skipBlank rest with
        | ']' :: rest => some (.arr [], rest)
        | _ => readItems fuel depth [] rest
    | '\x7b' :: rest =>
      match depth with
      | 0 => none
      | depth + 1 =>
        match skipBlank rest with
        | '\x7d' :: rest => some (.obj [], rest)
        | _ => readFields fuel depth [] rest
    | c :: rest => readNumber (c :: rest)

def readItems : Nat → Nat → List Json → List Char → Option (Json × List Char)
  | 0, _, _, _ => none
  | fuel + 1, depth, items, text => do
    let (item, rest) ← readValue fuel depth text
    match skipBlank rest with
    | ',' :: rest => readItems fuel depth (item :: items) rest
    | ']' :: rest => return (.arr (item :: items).reverse, rest)
    | _ => none

def readFields : Nat → Nat → List (String × Json) → List Char → Option (Json × List Char)
  | 0, _, _, _ => none
  | fuel + 1, depth, fields, text => do
    match skipBlank text with
    | '"' :: rest =>
      let (name, rest) ← readStringRest (rest.length + 1) [] rest
      match skipBlank rest with
      | ':' :: rest =>
        let (value, rest) ← readValue fuel depth rest
        let fields := Entries.insert name value fields
        match skipBlank rest with
        | ',' :: rest => readFields fuel depth fields rest
        | '\x7d' :: rest => return (.obj fields, rest)
        | _ => none
      | _ => none
    | _ => none

end

/-- The value that a text writes, if it is nested at most `depth` deep. -/
def readWithin (depth : Nat) (text : String) : Option Json := do
  let chars := text.toList
  let (value, rest) ← readValue (2 * chars.length + 2) depth chars
  if (skipBlank rest).isEmpty then return value else none

/-- How deep arrays and objects may be nested in a text that is read as a query. -/
def queryDepth : Nat := 127

end CorpusSearch.Json
