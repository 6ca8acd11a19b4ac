import CorpusSearch.Unicode.Property
import CorpusSearch.Unicode.Table.Amendment

/-!
Letters, numbers, case and marks as texts have them. Texts follow a newer version of the standard than regular
expressions do, so each predicate here is a property of the older version together with what the newer one
changes in it.
-/

set_option autoImplicit false

namespace CorpusSearch.Unicode

/-- Characters that gain a property and characters that lose it. -/
structure Amendment where
  gained : List Block
  lost : List Block

namespace Amendment

def ofTable (t : Table.Amendment) : Amendment := ⟨Block.ofRows t.gained, Block.ofRows t.lost⟩

/-- Whether a character has the amended property, given whether it had the property before. -/
def amend (a : Amendment) (held : Bool) (c : Char) : Bool :=
  (held && !Block.covers a.lost c.toNat) || Block.covers a.gained c.toNat

def alphabetic : Amendment := ofTable Table.Amendment.alphabetic
def numeric : Amendment := ofTable Table.Amendment.numeric
def uppercase : Amendment := ofTable Table.Amendment.uppercase
def cased : Amendment := ofTable Table.Amendment.cased
def caseIgnorable : Amendment := ofTable Table.Amendment.caseIgnorable
def mark : Amendment := ofTable Table.Amendment.mark

end Amendment

def isAlphabetic (c : Char) : Bool :=
  if c.toNat < 0x80 then c.isAlpha
  else Amendment.alphabetic.amend (Property.alphabetic.holds c) c

/-- Whether a character counts as a number: a decimal digit, a letter number or another number. -/
def isNumeric (c : Char) : Bool :=
  if c.toNat < 0x80 then c.isDigit
  else Amendment.numeric.amend (Category.numbers.contains (category c)) c

def isAlphanumeric (c : Char) : Bool := isAlphabetic c || isNumeric c

def isUppercase (c : Char) : Bool :=
  if c.toNat < 0x80 then c.isUpper
  else Amendment.uppercase.amend (Property.uppercase.holds c) c

/-- Whether a character has case: it is a letter in upper, lower or title case, or is used like one. -/
def isCased (c : Char) : Bool :=
  if c.toNat < 0x80 then c.isAlpha else Amendment.cased.amend (Property.cased.holds c) c

/-- Whether a character is skipped where the next character with case is looked for. -/
def isCaseIgnorable (c : Char) : Bool :=
  Amendment.caseIgnorable.amend (Property.caseIgnorable.holds c) c

def isMark (c : Char) : Bool :=
  if c.toNat < 0x300 then false
  else Amendment.mark.amend (Category.marks.contains (category c)) c

end CorpusSearch.Unicode
