import CorpusSearch.Unicode.Block
import CorpusSearch.Unicode.Table.Age
import CorpusSearch.Unicode.Table.Break

/-!
Properties of code points with several values: the version that assigned them, and how clusters, words and
sentences break at them.
-/

set_option autoImplicit false

namespace CorpusSearch.Unicode

/-- A property with its own names, the names of its values and the packed blocks of the values. -/
structure ValuedProperty where
  names : List String
  values : List (List String)
  rows : List Nat
  /-- Whether a value includes those before it. -/
  cumulative : Bool

namespace ValuedProperty

def age : ValuedProperty := ⟨["age"], Table.ageNames, Table.age, true⟩

def clusterBreak : ValuedProperty :=
  ⟨["gcb", "graphemeclusterbreak"], Table.clusterBreakNames, Table.clusterBreak, false⟩

def wordBreak : ValuedProperty :=
  ⟨["wb", "wordbreak"], Table.wordBreakNames, Table.wordBreak, false⟩

def sentenceBreak : ValuedProperty :=
  ⟨["sb", "sentencebreak"], Table.sentenceBreakNames, Table.sentenceBreak, false⟩

/-- The property with a name in lower case, without spaces, hyphens and underscores. -/
def named? (name : String) : Option ValuedProperty :=
  [age, clusterBreak, wordBreak, sentenceBreak].find? fun p => p.names.contains name

def blocks? (p : ValuedProperty) (value : String) : Option (List Block) := do
  let n ← p.values.findIdx? fun names => names.contains value
  return (Block.ofRows p.rows).filter fun b => if p.cumulative then b.tag ≤ n else b.tag = n

end ValuedProperty

end CorpusSearch.Unicode
