import CorpusSearch.Toml.Scalar
import CorpusSearch.Toml.Table

/-!
TOML documents, from their lines. A document that breaks a rule of the format is no table at all.
-/

set_option autoImplicit false

namespace CorpusSearch.Toml

abbrev Assignment := List String × Toml

def tableOf? (assignments : List Assignment) : Option Toml := do
  let entries ← assignments.foldlM (fun entries a => Node.assign a.2 true a.1 entries) []
  return .table (Node.finishEntries entries)

mutual

def readValue : Nat → Nat → List Char → Option (Toml × List Char)
  | 0, _, _ => none
  | fuel + 1, depth, text =>
    match text with
    | '[' :: rest =>
      match depth with
      | 0 => none
      | depth + 1 => readItems fuel depth [] (skipLines (rest.length + 1) rest)
    | '\x7b' :: rest =>
      match depth with
      | 0 => none
      | depth + 1 =>
        match skipBlanks rest with
        | '\x7d' :: rest => some (.table [], rest)
        | rest => readAssignments fuel depth [] rest
    | _ => readScalar text

/-- The items of an array up to its closing bracket; a comma may stand behind the last one. -/
def readItems : Nat → Nat → List Toml → List Char → Option (Toml × List Char)
  | 0, _, _, _ => none
  | fuel + 1, depth, items, text =>
    match text with
    | ']' :: rest => some (.array items.reverse, rest)
    | _ => do
      let (item, rest) ← readValue fuel depth text
      match skipLines (rest.length + 1) rest with
      | ',' :: rest => readItems fuel depth (item :: items) (skipLines (rest.length + 1) rest)
      | ']' :: rest => return (.array (item :: items).reverse, rest)
      | _ => none

/-- The assignments of a table up to its closing brace, all on one line. -/
def readAssignments : Nat → Nat → List Assignment → List Char → Option (Toml × List Char)
  | 0, _, _, _ => none
  | fuel + 1, depth, done, text => do
    let (path, rest) ← readPath nestLimit text
    match rest with
    | '=' :: rest =>
      let (value, rest) ← readValue fuel depth (skipBlanks rest)
      let done := (path, value) :: done
      match skipBlanks rest with
      | ',' :: rest => readAssignments fuel depth done rest
      | '\x7d' :: rest => return (← tableOf? done.reverse, rest)
      | _ => none
    | _ => none

end

/-- A document so far: what was built, and the path of the table that is being filled. -/
structure Draft where
  entries : NodeEntries
  current : List String

def Draft.openBy (d : Draft) (step : String → NodeEntries → Option NodeEntries) (path : List String) :
    Option Draft := do
  let name ← path.getLast?
  return ⟨← Node.atPath (step name) path.dropLast d.entries, path⟩

def readHeader (d : Draft) (text : List Char) : Option (Draft × List Char) := do
  let (path, rest) ← readPath nestLimit text
  match rest with
  | ']' :: rest => return (← d.openBy Node.openTable path, ← lineEnd? rest)
  | _ => none

def readElementHeader (d : Draft) (text : List Char) : Option (Draft × List Char) := do
  let (path, rest) ← readPath nestLimit text
  match rest with
  | ']' :: ']' :: rest => return (← d.openBy Node.openElement path, ← lineEnd? rest)
  | _ => none

def readAssignment (d : Draft) (text : List Char) : Option (Draft × List Char) := do
  let (path, rest) ← readPath nestLimit text
  match rest with
  | '=' :: rest =>
    let (value, rest) ← readValue (2 * rest.length + 2) nestLimit (skipBlanks rest)
    let entries ← Node.atPath (Node.assign value true path) d.current d.entries
    return (⟨entries, d.current⟩, ← lineEnd? rest)
  | _ => none

def readDocumentLines : Nat → Draft → List Char → Option Draft
  | 0, _, _ => none
  | fuel + 1, d, text =>
    match skipLines (text.length + 1) text with
    | [] => some d
    | '#' :: rest => (lineEnd? ('#' :: rest)).map fun _ => d
    | '[' :: '[' :: rest => do
      let (d, rest) ← readElementHeader d rest
      readDocumentLines fuel d rest
    | '[' :: rest => do
      let (d, rest) ← readHeader d rest
      readDocumentLines fuel d rest
    | rest => do
      let (d, rest) ← readAssignment d rest
      readDocumentLines fuel d rest

def dropMark (text : List Char) : List Char :=
  match text with
  | '\ufeff' :: rest => rest
  | _ => text

def read (text : String) : Option Toml := do
  let chars := dropMark text.toList
  let d ← readDocumentLines (chars.length + 1) ⟨[], []⟩ chars
  return .table (Node.finishEntries d.entries)

end CorpusSearch.Toml
