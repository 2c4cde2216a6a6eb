import EdmMapping.Manifest.Basic
import EdmMapping.Toml.Record

/-!
# Manifests in TOML

A manifest is a document with a table `model` and, for each type, a table below `types`.  Keys that
are not known are refused, except below a property.

* `PropertySpec.ofToml?`, `TypeSpec.ofToml?` — what a property and a type are declared as;
* `Manifest.ofToml?` — the manifest that the entries of a document are.
-/

set_option autoImplicit false

namespace EdmMapping

open Toml (Value)

/-- Reads what a property is declared as.  Keys that are not known are ignored, but their numbers
have to fit. -/
def PropertySpec.ofToml? (value : Value) : Option PropertySpec :=
  if !value.isStorable then none
  else
    match value with
    | .string reference => some (.type reference)
    | value => do
      let entries ← value.entries?
      let reference ← (entries.lookup "type").bind Toml.Value.string?
      match entries.lookup "projection" with
      | none => return .detailed reference none
      | some projection => return .detailed reference (some (← projection.string?))

def TypeSpec.ofToml? (value : Value) : Option TypeSpec := do
  let field ← value.record? ["kind", "flags", "properties"]
  let kind ← ((field "kind").bind Toml.Value.word?).bind TypeKind.ofName?
  let flags ←
    match field "flags" with
    | none => some false
    | some flags => flags.boolean?
  let properties ←
    match field "properties" with
    | none => some OrderedMap.empty
    | some properties => properties.orderedMap? PropertySpec.ofToml?
  return ⟨kind, flags, properties⟩

def modelNamespaceOfToml? (value : Value) : Option String := do
  let field ← value.record? ["namespace"]
  (field "namespace").bind Toml.Value.string?

/-- Reads a manifest from the entries of a document. -/
def Manifest.ofToml? (entries : List (String × Value)) : Option Manifest := do
  let field ← (Value.table entries).record? ["model", "types"]
  let ns ← (field "model").bind modelNamespaceOfToml?
  let types ←
    match field "types" with
    | none => some OrderedMap.empty
    | some types => types.orderedMap? TypeSpec.ofToml?
  return ⟨ns, types⟩

end EdmMapping
