import EdmMapping.Manifest.Resolve
import EdmMapping.Source

/-!
# Manifest errors

Why there is no model, as it is told to the author of the description.

* `ManifestError` — the errors, with their place in the source;
* `ManifestError.message`, `code?`, `help?`, `label?` — the texts of an error;
* `Violation.locate` — a violation at its place in a source.
-/

set_option autoImplicit false

namespace EdmMapping

/-- A source, and a part of it if one is known. -/
structure Place where
  source : Source
  span : Option Span
  deriving DecidableEq, Repr

/-- Why there is no model. -/
inductive ManifestError where
  | unreadable (path : String)
  /-- The text is no manifest. -/
  | malformed (source : Source)
  /-- A declaration is not allowed. -/
  | invalid (place : Place) (message : String)
  /-- A type whose values do not combine says that they do. -/
  | flagsOnNonEnum (place : Place) (typeName : String)
  /-- A property refers to a type that is not declared. -/
  | unknownType (place : Place) (reference property : String)
  deriving DecidableEq, Repr

namespace ManifestError

def message : ManifestError → String
  | unreadable path => "failed to read '" ++ path ++ "'"
  | malformed _ => "failed to parse model description"
  | invalid _ message => message
  | flagsOnNonEnum _ typeName => "type '" ++ typeName ++ "' sets flags but is not an enum"
  | unknownType _ reference property =>
    "unknown type '" ++ reference ++ "' on property '" ++ property ++ "'"

def code? : ManifestError → Option String
  | unreadable _ => none
  | malformed _ => some "edmgen::parse_error"
  | invalid _ _ => some "edmgen::validation_error"
  | flagsOnNonEnum _ _ => some "edmgen::flags_on_non_enum"
  | unknownType _ _ _ => some "edmgen::unknown_type"

def help? : ManifestError → Option String
  | unreadable _ => some "pass the model description with --model <path>"
  | malformed _ => none
  | invalid _ _ => none
  | flagsOnNonEnum _ _ => some "only kind = \"enum\" types can have flag semantics"
  | unknownType _ _ _ =>
    some "reference an Edm primitive (e.g. 'Edm.String') or a type declared under [types]"

def place? : ManifestError → Option Place
  | unreadable _ | malformed _ => none
  | invalid place _ | flagsOnNonEnum place _ | unknownType place _ _ => some place

/-- What is written at the place of the error. -/
def label? : ManifestError → Option String
  | unreadable _ | malformed _ => none
  | invalid _ message => some message
  | flagsOnNonEnum _ _ => some "declared here"
  | unknownType _ _ _ => some "not declared"

end ManifestError

namespace Source

/-- The error that a declaration is not allowed, at the first occurrence of `needle`. -/
def invalid (s : Source) (message needle : String) : ManifestError :=
  .invalid ⟨s, s.find needle⟩ message

/-- The error that a type says that its values combine, at its header. -/
def flagsOnNonEnum (s : Source) (typeName : String) : ManifestError :=
  .flagsOnNonEnum ⟨s, s.find ("types." ++ typeName ++ "]")⟩ typeName

def unknownType (s : Source) (reference property : String) : ManifestError :=
  .unknownType ⟨s, s.findQuoted reference⟩ reference property

end Source

def Violation.locate (s : Source) : Violation → ManifestError
  | .emptyNamespace => s.invalid "model namespace must not be empty" "namespace"
  | .edmNamespace =>
    s.invalid "the Edm namespace is reserved for primitives" EdmMapping.edmNamespace
  | .malformedNamespace ns => s.invalid ("invalid namespace '" ++ ns ++ "'") ns
  | .malformedTypeName name => s.invalid ("invalid type name '" ++ name ++ "'") name
  | .flagsOnNonEnum name => s.flagsOnNonEnum name
  | .enumWithProperties name =>
    s.invalid ("enum '" ++ name ++ "' cannot declare properties")
      ("types." ++ name ++ ".properties")
  | .unknownType reference property => s.unknownType reference property

/-- The model of a manifest, or its first violation at its place in a source. -/
def Manifest.resolveIn (m : Manifest) (s : Source) : Except ManifestError Model :=
  match m.resolve with
  | .ok model => .ok model
  | .error v => .error (v.locate s)

end EdmMapping
