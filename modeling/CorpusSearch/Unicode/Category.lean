import CorpusSearch.Unicode.Block
import CorpusSearch.Unicode.Table.Category

/-!
The general category of a code point.
-/

set_option autoImplicit false

namespace CorpusSearch.Unicode

/-- The general categories, in the order in which the table numbers them. -/
inductive Category where
  | upper | lower | title | modifierLetter | otherLetter
  | nonspacingMark | spacingMark | enclosingMark
  | decimalNumber | letterNumber | otherNumber
  | connectorPunctuation | dashPunctuation | openPunctuation | closePunctuation
  | initialPunctuation | finalPunctuation | otherPunctuation
  | mathSymbol | currencySymbol | modifierSymbol | otherSymbol
  | spaceSeparator | lineSeparator | paragraphSeparator
  | control | format | surrogate | privateUse | unassigned
  deriving DecidableEq, Repr

namespace Category

/-- All categories that the table can name. -/
def numbered : Array Category :=
  #[upper, lower, title, modifierLetter, otherLetter, nonspacingMark, spacingMark, enclosingMark,
    decimalNumber, letterNumber, otherNumber, connectorPunctuation, dashPunctuation, openPunctuation,
    closePunctuation, initialPunctuation, finalPunctuation, otherPunctuation, mathSymbol,
    currencySymbol, modifierSymbol, otherSymbol, spaceSeparator, lineSeparator, paragraphSeparator,
    control, format, surrogate, privateUse]

def letters : List Category := [upper, lower, title, modifierLetter, otherLetter]
def marks : List Category := [nonspacingMark, spacingMark, enclosingMark]
def numbers : List Category := [decimalNumber, letterNumber, otherNumber]

def punctuation : List Category :=
  [connectorPunctuation, dashPunctuation, openPunctuation, closePunctuation, initialPunctuation,
    finalPunctuation, otherPunctuation]

def symbols : List Category := [mathSymbol, currencySymbol, modifierSymbol, otherSymbol]
def separators : List Category := [spaceSeparator, lineSeparator, paragraphSeparator]
def others : List Category := [control, format, surrogate, privateUse, unassigned]

/-- The blocks of the category table, each tagged with the number of its category. -/
def blocks : List Block := Block.ofRows Table.category

def ofCodePoint (n : Nat) : Category :=
  ((Block.find? blocks n).bind (numbered[·]?)).getD unassigned

/--
Categories and unions of categories by the names they have in patterns: lower case, without spaces, hyphens
and underscores.
-/
def named : List (List String × List Category) := [
  (["lu", "uppercaseletter"], [upper]), (["ll", "lowercaseletter"], [lower]),
  (["lt", "titlecaseletter"], [title]), (["lm", "modifierletter"], [modifierLetter]),
  (["lo", "otherletter"], [otherLetter]), (["lc", "casedletter"], [upper, lower, title]),
  (["l", "letter"], letters),
  (["mn", "nonspacingmark"], [nonspacingMark]), (["mc", "spacingmark"], [spacingMark]),
  (["me", "enclosingmark"], [enclosingMark]), (["m", "mark", "combiningmark"], marks),
  (["nd", "decimalnumber", "digit"], [decimalNumber]), (["nl", "letternumber"], [letterNumber]),
  (["no", "othernumber"], [otherNumber]), (["n", "number"], numbers),
  (["pc", "connectorpunctuation"], [connectorPunctuation]),
  (["pd", "dashpunctuation"], [dashPunctuation]), (["ps", "openpunctuation"], [openPunctuation]),
  (["pe", "closepunctuation"], [closePunctuation]),
  (["pi", "initialpunctuation"], [initialPunctuation]),
  (["pf", "finalpunctuation"], [finalPunctuation]), (["po", "otherpunctuation"], [otherPunctuation]),
  (["p", "punct", "punctuation"], punctuation),
  (["sm", "mathsymbol"], [mathSymbol]), (["sc", "currencysymbol"], [currencySymbol]),
  (["sk", "modifiersymbol"], [modifierSymbol]), (["so", "othersymbol"], [otherSymbol]),
  (["s", "symbol"], symbols),
  (["zs", "spaceseparator"], [spaceSeparator]), (["zl", "lineseparator"], [lineSeparator]),
  (["zp", "paragraphseparator"], [paragraphSeparator]), (["z", "separator"], separators),
  (["cc", "control", "cntrl"], [control]), (["cf", "format"], [format]),
  (["co", "privateuse"], [privateUse]), (["cn", "unassigned"], [unassigned]),
  (["c", "other"], others)]

def named? (name : String) : Option (List Category) :=
  (named.find? fun entry => entry.1.contains name).map (·.2)

end Category

def category (c : Char) : Category := Category.ofCodePoint c.toNat

end CorpusSearch.Unicode
