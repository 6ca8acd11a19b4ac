import CorpusSearch.Unicode.Property

/-!
Cutting texts at a separator, and blanks off their ends.
-/

set_option autoImplicit false

namespace CorpusSearch.Text

def dropStart? : List Char → List Char → Option (List Char)
  | [], text => some text
  | _ :: _, [] => none
  | p :: start, c :: text => if p = c then dropStart? start text else none

def splitFirst? (separator : List Char) : List Char → Option (List Char × List Char)
  | [] => if separator.isEmpty then some ([], []) else none
  | c :: rest =>
    match dropStart? separator (c :: rest) with
    | some after => some ([], after)
    | none => (splitFirst? separator rest).map fun (before, after) => (c :: before, after)

def splitLast? (separator : List Char) : List Char → Option (List Char × List Char)
  | [] => if separator.isEmpty then some ([], []) else none
  | c :: rest =>
    match splitLast? separator rest with
    | some (before, after) => some (c :: before, after)
    | none => (dropStart? separator (c :: rest)).map fun after => ([], after)

def unsnoc? : List Char → Option (List Char × Char)
  | [] => none
  | [c] => some ([], c)
  | c :: rest => (unsnoc? rest).map fun (init, last) => (c :: init, last)

def trimStart (text : List Char) : List Char := text.dropWhile Unicode.isWhiteSpace

def trimEnd (text : List Char) : List Char := (trimStart text.reverse).reverse

def trim (text : List Char) : List Char := trimEnd (trimStart text)

end CorpusSearch.Text
