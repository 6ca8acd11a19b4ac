/-!
Sorted ranges of code points with a tag, and the packed rows from which they are read. Looking a code point up
answers the tag of the block that holds it.
-/

set_option autoImplicit false

namespace CorpusSearch.Unicode

/-- Splits a row into records of the given number of bits, the leftmost record first. -/
def splitRow (bits : Nat) : Nat → Nat → List Nat → List Nat
  | 0, _, done => done
  | fuel + 1, row, done =>
    if row = 0 then done else splitRow bits fuel (row >>> bits) (row % Nat.pow 2 bits :: done)

/-- The records of a table whose rows hold at most sixteen records, none of them zero. -/
def records (bits : Nat) (rows : List Nat) : List Nat :=
  rows.flatMap fun row => splitRow bits 16 row []

/-- The code points from `first` to `last`, with a tag. -/
structure Block where
  first : Nat
  last : Nat
  tag : Nat
  deriving DecidableEq

namespace Block

/-- Six digits for the first code point, six for the last, two for the tag. -/
def ofRecord (record : Nat) : Block :=
  ⟨record >>> 32, (record >>> 8) % Nat.pow 2 24, record % Nat.pow 2 8⟩

def ofRows (rows : List Nat) : List Block :=
  (records 56 rows).map ofRecord

/-- The tag of the block that holds a code point; the blocks stand in increasing order. -/
def find? : List Block → Nat → Option Nat
  | [], _ => none
  | b :: rest, n =>
    if n < b.first then none else if n ≤ b.last then some b.tag else find? rest n

def covers (blocks : List Block) (n : Nat) : Bool :=
  (find? blocks n).isSome

end Block

end CorpusSearch.Unicode
