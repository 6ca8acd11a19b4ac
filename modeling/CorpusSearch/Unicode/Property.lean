import CorpusSearch.Unicode.Category
import CorpusSearch.Unicode.Table.Property
import CorpusSearch.Unicode.Table.Script

/-!
Yes-or-no properties of characters: those with a name, white space, decimal digits, word characters, and the
script a character belongs to. The ASCII part of each is written out; beyond it the tables decide.
-/

set_option autoImplicit false

namespace CorpusSearch.Unicode

/-- A property given by whole categories, ranges besides them and ranges left out of them. -/
structure Property where
  categories : List Category
  added : List Block
  removed : List Block

namespace Property

def ofSpread (s : Table.Spread) : Property :=
  ⟨s.categories, Block.ofRows s.added, Block.ofRows s.removed⟩

def holds (p : Property) (c : Char) : Bool :=
  (p.categories.contains (category c) && !Block.covers p.removed c.toNat)
    || Block.covers p.added c.toNat

def alphabetic : Property := ofSpread Table.alphabetic
def uppercase : Property := ofSpread Table.uppercase
def whiteSpace : Property := ofSpread Table.whiteSpace
def cased : Property := ofSpread Table.cased
def caseIgnorable : Property := ofSpread Table.caseIgnorable
def joinControl : Property := ofSpread Table.joinControl

/-- The property with a name in lower case, without spaces, hyphens and underscores. -/
def named? (name : String) : Option Property :=
  (Table.properties.find? fun s => s.names.contains name).map ofSpread

end Property

def isWhiteSpace (c : Char) : Bool :=
  if c.toNat < 0x80 then c = ' ' || ('\t' ≤ c && c ≤ '\r') else Property.whiteSpace.holds c

def isDecimalDigit (c : Char) : Bool :=
  if c.toNat < 0x80 then c.isDigit else category c = .decimalNumber

/-- A character of a word: alphabetic, a mark, a decimal digit, a connector or a join control. -/
def isWordCharacter (c : Char) : Bool :=
  if c.toNat < 0x80 then c.isAlphanum || c = '_'
  else
    Property.alphabetic.holds c || Category.marks.contains (category c) || isDecimalDigit c
      || category c = .connectorPunctuation || Property.joinControl.holds c

def scriptNumber? (name : String) : Option Nat :=
  Table.scriptNames.findIdx? fun names => names.contains name

def scriptBlocks : List Block := Block.ofRows Table.script

def extensionBlocks : List Block := Block.ofRows Table.scriptExtension

def isOfScript (script : Nat) (c : Char) : Bool :=
  Block.find? scriptBlocks c.toNat = some script

/-- Script extensions; where a character lists none, its script stands for them. -/
def isOfScriptExtension (script : Nat) (c : Char) : Bool :=
  match extensionBlocks.filter fun b => b.first ≤ c.toNat && c.toNat ≤ b.last with
  | [] => isOfScript script c
  | blocks => blocks.any fun b => b.tag = script

end CorpusSearch.Unicode
