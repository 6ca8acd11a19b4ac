import CorpusSearch.Toml.Value

/-!
Building the table of a TOML document, header by header and assignment by assignment. A table is opened by a
header once; what dotted names have made is not opened by a header, and the reverse.
-/

set_option autoImplicit false

namespace CorpusSearch.Toml

inductive Origin where
  /-- By its own header. -/
  | header
  /-- By a header of a table in it. -/
  | implied
  /-- By a dotted name. -/
  | dotted
  deriving DecidableEq, Repr

/-- A part of a document that is being built. -/
inductive Node where
  | value (v : Toml)
  | table (origin : Origin) (entries : List (String × Node))
  /-- The tables of one name, the last one first; `last` is the one that is being filled. -/
  | tables (last : List (String × Node)) (others : List (List (String × Node)))
  deriving Inhabited

abbrev NodeEntries := List (String × Node)

namespace Node

/-- Changes the table that a header path leads to; tables on the way are made where they are missing. -/
def atPath (change : NodeEntries → Option NodeEntries) :
    List String → NodeEntries → Option NodeEntries
  | [], entries => change entries
  | name :: path, entries =>
    match Entries.get? name entries with
    | none => do
      let inner ← atPath change path []
      return Entries.insert name (.table .implied inner) entries
    | some (.value _) => none
    | some (.table origin inner) => do
      let inner ← atPath change path inner
      return Entries.insert name (.table origin inner) entries
    | some (.tables last others) => do
      let last ← atPath change path last
      return Entries.insert name (.tables last others) entries

/-- Opens a table in its parent; one that was only implied keeps its entries. -/
def openTable (name : String) (entries : NodeEntries) : Option NodeEntries :=
  match Entries.get? name entries with
  | none => some (Entries.insert name (.table .header []) entries)
  | some (.table .implied inner) => some (Entries.insert name (.table .header inner) entries)
  | some _ => none

def openElement (name : String) (entries : NodeEntries) : Option NodeEntries :=
  match Entries.get? name entries with
  | none => some (Entries.insert name (.tables [] []) entries)
  | some (.tables last others) => some (Entries.insert name (.tables [] (last :: others)) entries)
  | some _ => none

/--
Puts a value under a dotted name. Tables on the way must not have a header, and the innermost one must have been
made by a dotted name; `allowed` says whether the table reached so far is such a table.
-/
def assign (v : Toml) : Bool → List String → NodeEntries → Option NodeEntries
  | _, [], _ => none
  | allowed, [name], entries =>
    if allowed && (Entries.get? name entries).isNone then
      some (Entries.insert name (.value v) entries)
    else none
  | _, name :: path, entries =>
    match Entries.get? name entries with
    | none => do
      let inner ← assign v true path []
      return Entries.insert name (.table .dotted inner) entries
    | some (.value _) | some (.table .header _) => none
    | some (.table origin inner) => do
      let inner ← assign v (origin = .dotted) path inner
      return Entries.insert name (.table origin inner) entries
    | some (.tables last others) => do
      let last ← assign v false path last
      return Entries.insert name (.tables last others) entries

mutual

def finish : Node → Toml
  | value v => v
  | table _ entries => .table (finishEntries entries)
  | tables last others => .array ((.table (finishEntries last) :: finishAll others).reverse)

def finishEntries : List (String × Node) → List (String × Toml)
  | [] => []
  | (name, node) :: rest => (name, node.finish) :: finishEntries rest

def finishAll : List (List (String × Node)) → List Toml
  | [] => []
  | entries :: rest => .table (finishEntries entries) :: finishAll rest

end

end Node

end CorpusSearch.Toml
