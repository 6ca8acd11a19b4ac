/-!
Upper bounds on numbers of tokens. The largest word stands for "no bound"; sums and products of finite bounds
stop one below it, so that they stay finite.
-/

set_option autoImplicit false

namespace CorpusSearch.Bound

def unlimited : UInt32 := 4294967295

def largest : UInt32 := 4294967294

def ofCount (n : Nat) : UInt32 := UInt32.ofNat (min n largest.toNat)

def add (a b : UInt32) : UInt32 :=
  if a = unlimited ∨ b = unlimited then unlimited else ofCount (a.toNat + b.toNat)

/-- Bound of a product; nothing is left of a bound repeated zero times. -/
def mul (a b : UInt32) : UInt32 :=
  if a = 0 ∨ b = 0 then 0
  else if a = unlimited ∨ b = unlimited then unlimited
  else ofCount (a.toNat * b.toNat)

end CorpusSearch.Bound
