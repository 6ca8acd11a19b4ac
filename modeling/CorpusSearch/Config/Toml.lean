import CorpusSearch.Config
import CorpusSearch.Error
import CorpusSearch.Toml.Reader

/-!
Reading what an installation sets from a TOML document. What the document does not set has its standard value;
names that have no meaning here are passed over.
-/

set_option autoImplicit false

namespace CorpusSearch

open Toml (memberOr)

def Defaults.ofToml? (v : Toml) : Option Defaults := do
  let standard := Defaults.standard
  match ← v.record? ["field", "annotation", "sensitivity", "relation_class"] with
  | [field, layer, sensitivity, relationClass] =>
    return ⟨← memberOr Toml.string? standard.field field, ← memberOr Toml.string? standard.layer layer,
      ← memberOr (Toml.coded? Sensitivity) standard.sensitivity sensitivity,
      ← memberOr Toml.string? standard.relationClass relationClass⟩
  | _ => none

def sizeRange : Nat := Nat.pow 2 64

def depthRange : Nat := Nat.pow 2 32

def Limits.ofToml? (v : Toml) : Option Limits := do
  let standard := Limits.standard
  match ← v.record? ["regex_size_limit", "regex_nest_limit", "max_pattern_depth"] with
  | [size, nesting, depth] =>
    return ⟨← memberOr (Toml.natural? sizeRange) standard.expressionSize size,
      ← memberOr (Toml.natural? depthRange) standard.expressionDepth nesting,
      ← memberOr (Toml.natural? sizeRange) standard.patternDepth depth⟩
  | _ => none

namespace Config

def ofToml? (v : Toml) : Option Config := do
  match ← v.record? ["defaults", "limits"] with
  | [defaults, limits] =>
    return ⟨← memberOr Defaults.ofToml? Defaults.standard defaults,
      ← memberOr Limits.ofToml? Limits.standard limits⟩
  | _ => none

def read (text : String) : Result Config :=
  match (Toml.read text).bind ofToml? with
  | some config => .ok config
  | none => .error .malformedToml

end Config

end CorpusSearch
