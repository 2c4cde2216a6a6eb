import EdmMapping.Manifest.Basic
import EdmMapping.Text.Dotted

/-!
# Resolving a manifest

A manifest is checked, and the references of its properties are looked up; the result is a model.

* `Violation` — what is wrong with a manifest;
* `Manifest.check` — the namespace, then the declaration of every type;
* `Manifest.resolveReference` — what a reference stands for: a primitive, or a declared type;
* `Manifest.resolve` — the model of a manifest, or its first violation.
-/

set_option autoImplicit false

namespace EdmMapping

def edmNamespace : String := "Edm"

/-- What is wrong with a manifest. -/
inductive Violation where
  | emptyNamespace
  /-- The namespace is that of the primitives. -/
  | edmNamespace
  /-- The namespace does not consist of names. -/
  | malformedNamespace (ns : String)
  | malformedTypeName (name : String)
  /-- A type whose values do not combine says that they do. -/
  | flagsOnNonEnum (typeName : String)
  | enumWithProperties (typeName : String)
  /-- A property refers to a type that is not declared. -/
  | unknownType (reference property : String)
  deriving DecidableEq, Repr

def checkNamespace (ns : String) : Except Violation Unit :=
  if ns.isEmpty then .error .emptyNamespace
  else if ns = edmNamespace then .error .edmNamespace
  else if !isDottedName ns then .error (.malformedNamespace ns)
  else .ok ()

def checkType (name : String) (spec : TypeSpec) : Except Violation Unit :=
  if !isSimpleName name then .error (.malformedTypeName name)
  else if spec.flags && spec.kind ≠ .enum then .error (.flagsOnNonEnum name)
  else if spec.kind = .enum && !spec.properties.isEmpty then .error (.enumWithProperties name)
  else .ok ()

/-- The descriptor of a type with the given declaration. -/
def TypeSpec.descriptor (spec : TypeSpec) (name ns : String) : TypeDescriptor :=
  match spec.kind with
  | .enum => (TypeDescriptor.enumeration name spec.flags).inNamespace ns
  | .entity | .complex => (TypeDescriptor.domain name).inNamespace ns

namespace Manifest

/-- Checks the namespace, and then the declarations in order. -/
def check (m : Manifest) : Except Violation Unit := do
  checkNamespace m.ns
  m.types.entries.forM fun (name, spec) => checkType name spec

/-- What a reference of a property stands for. -/
def resolveReference (m : Manifest) (property reference : String) :
    Except Violation TypeDescriptor :=
  match splitQualified reference with
  | none => .error (.unknownType reference property)
  | some (ns, name) =>
    if ns = edmNamespace ∧ name ≠ "" then .ok (.primitive name)
    else if ns ≠ m.ns then .error (.unknownType reference property)
    else
      match m.types.find? name with
      | none => .error (.unknownType reference property)
      | some spec => .ok (spec.descriptor name ns)

/-- The descriptor of a property: its declared type is looked up first, then its projection. -/
def resolveProperty (m : Manifest) (typeName property : String) (spec : PropertySpec) :
    Except Violation PropertyDescriptor := do
  let declaredType ← m.resolveReference property spec.reference
  let projection ←
    match spec.projectionRef with
    | none => pure none
    | some reference => some <$> m.resolveReference property reference
  return ⟨property, typeName, declaredType, projection⟩

def resolveType (m : Manifest) (name : String) (spec : TypeSpec) :
    Except Violation TypeDefinition := do
  let properties ← spec.properties.entries.mapM fun (property, spec) =>
    m.resolveProperty name property spec
  return ⟨name, m.ns, spec.kind, spec.flags, properties⟩

/-- The model of a manifest, or the first of its violations. -/
def resolve (m : Manifest) : Except Violation Model := do
  m.check
  let types ← m.types.entries.mapM fun (name, spec) => m.resolveType name spec
  return ⟨m.ns, types⟩

end Manifest

end EdmMapping
