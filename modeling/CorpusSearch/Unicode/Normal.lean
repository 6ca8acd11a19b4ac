import CorpusSearch.Unicode.Category
import CorpusSearch.Unicode.Table.Composition

/-!
Canonical decomposition and composition of texts. Hangul syllables are taken apart and put together by
arithmetic, everything else by the tables.
-/

set_option autoImplicit false

namespace CorpusSearch.Unicode

/-- A canonical decomposition of one step; `second` is zero where there is one part only. -/
structure Decomposition where
  whole : Nat
  first : Nat
  second : Nat
  deriving DecidableEq

def Decomposition.ofRecord (record : Nat) : Decomposition :=
  ⟨record >>> 48, (record >>> 24) % Nat.pow 2 24, record % Nat.pow 2 24⟩

def decompositions : List Decomposition :=
  (records 72 Table.decomposition).map Decomposition.ofRecord

def excludedBlocks : List Block := Block.ofRows Table.compositionExclusion

def compositions : List Decomposition :=
  decompositions.filter fun d => !Block.covers excludedBlocks d.whole

def classBlocks : List Block := Block.ofRows Table.combiningClass

def combiningClass (c : Char) : Nat :=
  if c.toNat < 0x300 then 0 else (Block.find? classBlocks c.toNat).getD 0

namespace Hangul

def syllableBase : Nat := 0xAC00
def leadBase : Nat := 0x1100
def vowelBase : Nat := 0x1161
def tailBase : Nat := 0x11A7
def leadCount : Nat := 19
def vowelCount : Nat := 21
def tailCount : Nat := 28
def syllableCount : Nat := leadCount * vowelCount * tailCount

def isSyllable (n : Nat) : Bool :=
  syllableBase ≤ n && n < syllableBase + syllableCount

def decompose (n : Nat) : List Nat :=
  let index := n - syllableBase
  let parts :=
    [leadBase + index / (vowelCount * tailCount),
      vowelBase + index % (vowelCount * tailCount) / tailCount]
  if index % tailCount = 0 then parts else parts ++ [tailBase + index % tailCount]

def compose? (a b : Nat) : Option Nat :=
  if leadBase ≤ a && a < leadBase + leadCount && vowelBase ≤ b && b < vowelBase + vowelCount then
    some (syllableBase + ((a - leadBase) * vowelCount + (b - vowelBase)) * tailCount)
  else if isSyllable a && (a - syllableBase) % tailCount = 0
      && tailBase < b && b < tailBase + tailCount then
    some (a + (b - tailBase))
  else none

end Hangul

/-- Full decomposition of a code point in at most `fuel` steps; no chain in the table is longer than four. -/
def decomposeCodePoint : Nat → Nat → List Nat
  | 0, n => [n]
  | fuel + 1, n =>
    if n < 0xC0 then [n]
    else if Hangul.isSyllable n then Hangul.decompose n
    else
      match decompositions.find? fun d => d.whole = n with
      | none => [n]
      | some d =>
        decomposeCodePoint fuel d.first
          ++ (if d.second = 0 then [] else decomposeCodePoint fuel d.second)

def decomposeChar (c : Char) : List Char :=
  (decomposeCodePoint 4 c.toNat).map Char.ofNat

/-- Puts a mark behind the last character whose class is not higher than its own. -/
def insertMark (m : Char) : List Char → List Char
  | [] => [m]
  | c :: rest =>
    if combiningClass m < combiningClass c then m :: c :: rest else c :: insertMark m rest

/-- Orders the marks of each run by class, marks of one class in the order they came. -/
def orderMarks (run : List Char) : List Char → List Char
  | [] => run
  | c :: rest =>
    if combiningClass c = 0 then run ++ c :: orderMarks [] rest
    else orderMarks (insertMark c run) rest

def decompose (text : List Char) : List Char :=
  orderMarks [] (text.flatMap decomposeChar)

def composePair? (a b : Char) : Option Char :=
  match Hangul.compose? a.toNat b.toNat with
  | some n => some (Char.ofNat n)
  | none =>
    (compositions.find? fun d => d.first = a.toNat && d.second = b.toNat).map
      fun d => Char.ofNat d.whole

/--
Composition after a starter. `skipped` holds, in reverse, the characters since the starter that did not join it;
a character joins only if none of them has class zero or a class as high as its own.
-/
def composeAfter (starter : Char) (skipped : List Char) : List Char → List Char
  | [] => starter :: skipped.reverse
  | c :: rest =>
    let free := match skipped with
      | [] => true
      | last :: _ => combiningClass last ≠ 0 && combiningClass last < combiningClass c
    match if free then composePair? starter c else none with
    | some joined => composeAfter joined skipped rest
    | none =>
      if combiningClass c = 0 then starter :: skipped.reverse ++ composeAfter c [] rest
      else composeAfter starter (c :: skipped) rest

def composeDecomposed : List Char → List Char
  | [] => []
  | c :: rest =>
    if combiningClass c = 0 then composeAfter c [] rest else c :: composeDecomposed rest

def compose (text : List Char) : List Char := composeDecomposed (decompose text)

end CorpusSearch.Unicode
