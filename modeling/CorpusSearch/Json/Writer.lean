import CorpusSearch.Decimal.Shortest
import CorpusSearch.Json.Value

/-!
JSON text without blanks. Floating-point numbers have the fewest digits that read back, at least one of them
behind the point; from sixteen places before and five behind the point on they have an exponent.
-/

set_option autoImplicit false

namespace CorpusSearch.Json

def hexDigit (n : Nat) : Char := "0123456789abcdef".toList.getD n '0'

def escapeChar (c : Char) : List Char :=
  if c = '"' then ['\\', '"']
  else if c = '\\' then ['\\', '\\']
  else if c = '\n' then ['\\', 'n']
  else if c = '\r' then ['\\', 'r']
  else if c = '\t' then ['\\', 't']
  else if c = '\x08' then ['\\', 'b']
  else if c = '\x0c' then ['\\', 'f']
  else if c.toNat < 0x20 then
    ['\\', 'u', '0', '0', hexDigit (c.toNat / 16), hexDigit (c.toNat % 16)]
  else [c]

def writeString (s : String) : List Char := '"' :: s.toList.flatMap escapeChar ++ ['"']

def natChars (n : Nat) : List Char := Nat.toDigits 10 n

def intChars (n : Int) : List Char :=
  if n < 0 then '-' :: natChars n.natAbs else natChars n.natAbs

/-- Digits with a point or an exponent in the place that their magnitude asks for. -/
def layoutDigits (d : Binary64.Digits) : List Char :=
  let digits := natChars d.digits
  let point := Int.ofNat digits.length + d.exponent
  if 0 ≤ d.exponent && point ≤ 16 then
    digits ++ List.replicate d.exponent.natAbs '0' ++ ['.', '0']
  else if 0 < point && point ≤ 16 then
    digits.take point.natAbs ++ '.' :: digits.drop point.natAbs
  else if -5 < point && point ≤ 0 then
    '0' :: '.' :: List.replicate point.natAbs '0' ++ digits
  else
    let mantissa := match digits with
      | [] => []
      | [first] => [first]
      | first :: others => first :: '.' :: others
    mantissa ++ 'e' :: intChars (point - 1)

def floatChars (x : Binary64) : List Char :=
  let body := if x.isZero then ['0', '.', '0'] else layoutDigits x.shortest
  if x.negative then '-' :: body else body

mutual

def writeChars : Json → List Char
  | .null => ['n', 'u', 'l', 'l']
  | .bool true => ['t', 'r', 'u', 'e']
  | .bool false => ['f', 'a', 'l', 's', 'e']
  | .int n => intChars n
  | .float x => floatChars x
  | .str s => writeString s
  | .arr [] => ['[', ']']
  | .arr (item :: items) => '[' :: writeChars item ++ writeItems items
  | .obj [] => ['\x7b', '\x7d']
  | .obj ((name, value) :: fields) =>
    '\x7b' :: writeString name ++ ':' :: writeChars value ++ writeFields fields

def writeItems : List Json → List Char
  | [] => [']']
  | item :: items => ',' :: writeChars item ++ writeItems items

def writeFields : List (String × Json) → List Char
  | [] => ['\x7d']
  | (name, value) :: fields =>
    ',' :: writeString name ++ ':' :: writeChars value ++ writeFields fields

end

def write (v : Json) : String := String.ofList v.writeChars

end CorpusSearch.Json
