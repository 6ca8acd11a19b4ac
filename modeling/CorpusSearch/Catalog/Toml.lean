import CorpusSearch.Catalog
import CorpusSearch.Error
import CorpusSearch.Toml.Reader

/-!
Reading what an index offers from a TOML document.
-/

set_option autoImplicit false

namespace CorpusSearch

open Toml (memberOr)

def Toml.map? {α : Type} (read : Toml → Option α) (v : Toml) : Option (NameMap α) := do
  let entries ← (← v.table?).mapM fun e => do return (e.1, ← read e.2)
  return NameMap.ofList entries

def Layer.sensitivities? (v : Toml) : Option Layer := do
  return Layer.ofList (← (← v.array?).mapM (Toml.coded? Sensitivity))

def Layer.ofToml? (v : Toml) : Option Layer := do
  match ← v.record? ["sensitivities"] with
  | [sensitivities] => memberOr Layer.sensitivities? Layer.standard sensitivities
  | _ => none

def AnnotatedField.ofToml? (v : Toml) : Option AnnotatedField := do
  match ← v.record? ["relations", "annotations"] with
  | [relations, layers] =>
    return ⟨← memberOr Toml.boolean? false relations,
      ← memberOr (Toml.map? Layer.ofToml?) NameMap.empty layers⟩
  | _ => none

namespace Catalog

def ofToml? (v : Toml) : Option Catalog := do
  match ← v.record? ["fields"] with
  | [fields] => return ⟨← memberOr (Toml.map? AnnotatedField.ofToml?) NameMap.empty fields⟩
  | _ => none

def read (text : String) : Result Catalog :=
  match (Toml.read text).bind ofToml? with
  | some catalog => .ok catalog
  | none => .error .malformedToml

end Catalog

end CorpusSearch
