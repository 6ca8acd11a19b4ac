import CorpusSearch.Unicode.Letter
import CorpusSearch.Unicode.Table.Case

/-!
Lower case of characters and texts, and simple case folding. A capital sigma at the end of a word becomes a
final sigma.
-/

set_option autoImplicit false

namespace CorpusSearch.Unicode

/-- The code points `first, first + step, …, last`, moved so that `first` becomes `image`. -/
structure Shift where
  first : Nat
  last : Nat
  image : Nat
  step : Nat
  deriving DecidableEq

namespace Shift

def ofRecord (record : Nat) : Shift :=
  ⟨record >>> 56, (record >>> 32) % Nat.pow 2 24, (record >>> 8) % Nat.pow 2 24, record % Nat.pow 2 8⟩

def ofRows (rows : List Nat) : List Shift :=
  (records 80 rows).map ofRecord

def moves (s : Shift) (n : Nat) : Bool :=
  s.first ≤ n && n ≤ s.last && (n - s.first) % s.step = 0

def apply (s : Shift) (n : Nat) : Nat := s.image + (n - s.first)

/-- The code points that the shift moves to `n`; there is at most one. -/
def preimage? (s : Shift) (n : Nat) : Option Nat :=
  if s.image ≤ n && s.moves (s.first + (n - s.image)) then some (s.first + (n - s.image)) else none

def image? (shifts : List Shift) (n : Nat) : Option Nat :=
  (shifts.find? fun s => s.moves n).map fun s => s.apply n

end Shift

def lowercaseShifts : List Shift := Shift.ofRows Table.lowercaseMapping

def foldingShifts : List Shift := Shift.ofRows Table.caseFolding

/-- Lower case of a single character; only the dotted capital I becomes two characters. -/
def lowercaseChar (c : Char) : List Char :=
  if c.toNat < 0x80 then [c.toLower]
  else if c.toNat = 0x130 then ['i', Char.ofNat 0x307]
  else [((Shift.image? lowercaseShifts c.toNat).map Char.ofNat).getD c]

def startsCased (text : List Char) : Bool :=
  match text.dropWhile isCaseIgnorable with
  | [] => false
  | c :: _ => isCased c

/-- Lower case of what follows `before`, which holds the text so far in reverse. -/
def lowercaseAfter (before : List Char) : List Char → List Char
  | [] => []
  | c :: rest =>
    let image :=
      if c.toNat = 0x3A3 then
        [Char.ofNat (if startsCased before && !startsCased rest then 0x3C2 else 0x3C3)]
      else lowercaseChar c
    image ++ lowercaseAfter (c :: before) rest

def lowercase (text : List Char) : List Char := lowercaseAfter [] text

/-- The representative of all characters that differ from `c` in case only. -/
def caseFold (c : Char) : Char :=
  if c.toNat < 0x80 then c.toLower
  else ((Shift.image? foldingShifts c.toNat).map Char.ofNat).getD c

def caseOrbit (c : Char) : List Char :=
  let folded := caseFold c
  folded :: (foldingShifts.filterMap fun s => s.preimage? folded.toNat).map Char.ofNat

end CorpusSearch.Unicode
