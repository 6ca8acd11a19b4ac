import CorpusSearch.Unicode.Case
import CorpusSearch.Unicode.Value

/-!
Sets of characters as regular expressions describe them, with the membership test, the look-up of named classes
and an estimate of the space that a set takes.
-/

set_option autoImplicit false

namespace CorpusSearch.Regex

inductive CharSet where
  | all
  | range (first last : Char)
  | word
  | digit
  | space
  | categories (cs : List Unicode.Category)
  | property (p : Unicode.Property)
  | script (number : Nat)
  | scriptExtension (number : Nat)
  | blocks (bs : List Unicode.Block)
  | complement (s : CharSet)
  | union (a b : CharSet)
  | inter (a b : CharSet)
  /-- All characters that differ from a member in case only. -/
  | folded (s : CharSet)
  /-- All characters that are a member or the other case of an ASCII letter that is one. -/
  | asciiFolded (s : CharSet)

namespace CharSet

/-- The characters that an ASCII letter is compared with, itself among them. -/
def asciiOrbit (c : Char) : List Char := [c, c.toLower, c.toUpper]

def contains : CharSet → Char → Bool
  | all, _ => true
  | range first last, c => first ≤ c && c ≤ last
  | word, c => Unicode.isWordCharacter c
  | digit, c => Unicode.isDecimalDigit c
  | space, c => Unicode.isWhiteSpace c
  | categories cs, c => cs.contains (Unicode.category c)
  | property p, c => p.holds c
  | script n, c => Unicode.isOfScript n c
  | scriptExtension n, c => Unicode.isOfScriptExtension n c
  | blocks bs, c => Unicode.Block.covers bs c.toNat
  | complement s, c => !s.contains c
  | union a b, c => a.contains c || b.contains c
  | inter a b, c => a.contains c && b.contains c
  | folded s, c => s.contains c || (Unicode.caseOrbit c).any fun d => s.contains d
  | asciiFolded s, c => (asciiOrbit c).any fun d => s.contains d

def empty : CharSet := complement all

def single (c : Char) : CharSet := range c c

def ofRanges (ranges : List (Char × Char)) : CharSet :=
  ranges.foldr (fun r s => union (range r.1 r.2) s) empty

/-- The number of ranges that write the set, or an estimate of it. -/
def weight : CharSet → Nat
  | all => 1
  | range _ _ => 1
  | word => 796
  | digit => 71
  | space => 10
  | categories cs =>
    (Unicode.Category.blocks.filter fun b =>
      match Unicode.Category.numbered[b.tag]? with
      | some c => cs.contains c
      | none => false).length
  | property p => 300 * p.categories.length + p.added.length + p.removed.length
  | script n => (Unicode.scriptBlocks.filter fun b => b.tag = n).length
  | scriptExtension n => (Unicode.scriptBlocks.filter fun b => b.tag = n).length
  | blocks bs => bs.length
  | complement s => s.weight
  | union a b => a.weight + b.weight
  | inter a b => a.weight + b.weight
  | folded s => 2 * s.weight
  | asciiFolded s => 2 * s.weight

/-- Whether the set has no member beyond ASCII among the first 256 code points. -/
def isAscii (s : CharSet) : Bool :=
  (List.range 128).all fun n => !s.contains (Char.ofNat (n + 128))

/--
Lower case, without separators and characters beyond ASCII, and without `is` at the front. From `is` and a single
`c` nothing is taken off, so that they do not name a category.
-/
def normalizeName (name : List Char) : String :=
  let (stripped, body) : Bool × List Char := match name with
    | a :: b :: rest =>
      if a.toLower = 'i' && b.toLower = 's' then (true, rest) else (false, name)
    | _ => (false, name)
  let kept := body.filter fun c => c.toNat < 0x80 && c ≠ ' ' && c ≠ '_' && c ≠ '-'
  let lower := kept.map Char.toLower
  if stripped && lower = ['c'] then "isc" else String.ofList lower

/-- The set of a general category or of one of the unions named beside them. -/
def ofCategoryName? (name : String) : Option CharSet :=
  if name = "any" then some all
  else if name = "assigned" then some (complement (categories [.unassigned]))
  else if name = "ascii" then some (range (Char.ofNat 0) (Char.ofNat 0x7F))
  else (Unicode.Category.named? name).map categories

/-- The set that a name alone stands for: a property, else a category, else a script. -/
def ofName? (name : List Char) : Option CharSet :=
  let name := normalizeName name
  match Unicode.Property.named? name with
  | some p => some (property p)
  | none =>
    match ofCategoryName? name with
    | some s => some s
    | none => (Unicode.scriptNumber? name).map script

def ofNameAndValue? (name value : List Char) : Option CharSet :=
  let name := normalizeName name
  let value := normalizeName value
  if ["gc", "generalcategory"].contains name then ofCategoryName? value
  else if ["sc", "script"].contains name then (Unicode.scriptNumber? value).map script
  else if ["scx", "scriptextensions"].contains name then
    (Unicode.scriptNumber? value).map scriptExtension
  else do return blocks (← (← Unicode.ValuedProperty.named? name).blocks? value)

end CharSet

end CorpusSearch.Regex
