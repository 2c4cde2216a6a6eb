import EdmMapping.Edm.Model
import EdmMapping.Json.Basic

/-!
# Models as JSON

How descriptors and models are written as JSON values and read from them.  A namespace or a
projection that is absent is left out; `flags` and `properties` are always written, and may be
missing when read.

Every type `T` here has a `T.toJson` and a `T.ofJson?`, which fails on a value of another shape.
-/

set_option autoImplicit false

namespace EdmMapping

def NamespaceKind.name : NamespaceKind → String
  | .primitive => "primitive"
  | .domain => "domain"

def NamespaceKind.ofName? (word : String) : Option NamespaceKind :=
  [primitive, domain].find? fun kind => kind.name = word

def NamespaceKind.ofJson? (value : Json) : Option NamespaceKind :=
  value.word?.bind NamespaceKind.ofName?

def TypeKind.ofJson? (value : Json) : Option TypeKind :=
  value.word?.bind TypeKind.ofName?

namespace TypeDescriptor

def toJson (ty : TypeDescriptor) : Json :=
  .object ([
    ("name", .string ty.name),
    ("namespace_kind", .string ty.namespaceKind.name),
    ("is_enum", .bool ty.isEnum),
    ("is_flags_enum", .bool ty.isFlagsEnum)]
    ++ Json.optionalField "namespace" (ty.ns.map .string))

def ofJson? (value : Json) : Option TypeDescriptor := do
  let field ← value.record? ["name", "namespace_kind", "is_enum", "is_flags_enum", "namespace"]
  let name ← Json.required Json.string? (field "name")
  let namespaceKind ← Json.required NamespaceKind.ofJson? (field "namespace_kind")
  let isEnum ← Json.required Json.bool? (field "is_enum")
  let isFlagsEnum ← Json.required Json.bool? (field "is_flags_enum")
  let ns ← Json.nullable Json.string? (field "namespace")
  return ⟨name, namespaceKind, isEnum, isFlagsEnum, ns⟩

end TypeDescriptor

namespace PropertyDescriptor

def toJson (p : PropertyDescriptor) : Json :=
  .object ([
    ("name", .string p.name),
    ("declaring_type_name", .string p.declaringTypeName),
    ("declared_type", p.declaredType.toJson)]
    ++ Json.optionalField "projection" (p.projection.map TypeDescriptor.toJson))

def ofJson? (value : Json) : Option PropertyDescriptor := do
  let field ← value.record? ["name", "declaring_type_name", "declared_type", "projection"]
  let name ← Json.required Json.string? (field "name")
  let declaringTypeName ← Json.required Json.string? (field "declaring_type_name")
  let declaredType ← Json.required TypeDescriptor.ofJson? (field "declared_type")
  let projection ← Json.nullable TypeDescriptor.ofJson? (field "projection")
  return ⟨name, declaringTypeName, declaredType, projection⟩

end PropertyDescriptor

namespace ParameterDescriptor

def toJson (p : ParameterDescriptor) : Json :=
  .object [("name", .string p.name), ("type", p.type.toJson)]

def ofJson? (value : Json) : Option ParameterDescriptor := do
  let field ← value.record? ["name", "type"]
  let name ← Json.required Json.string? (field "name")
  let type ← Json.required TypeDescriptor.ofJson? (field "type")
  return ⟨name, type⟩

end ParameterDescriptor

namespace TypeDefinition

def toJson (d : TypeDefinition) : Json :=
  .object [
    ("name", .string d.name),
    ("namespace", .string d.ns),
    ("kind", .string d.kind.name),
    ("flags", .bool d.flags),
    ("properties", .array (d.properties.map PropertyDescriptor.toJson))]

def ofJson? (value : Json) : Option TypeDefinition := do
  let field ← value.record? ["name", "namespace", "kind", "flags", "properties"]
  let name ← Json.required Json.string? (field "name")
  let ns ← Json.required Json.string? (field "namespace")
  let kind ← Json.required TypeKind.ofJson? (field "kind")
  let flags ← Json.withDefault false Json.bool? (field "flags")
  let properties ← Json.withDefault [] (Json.list? PropertyDescriptor.ofJson?) (field "properties")
  return ⟨name, ns, kind, flags, properties⟩

end TypeDefinition

namespace Model

def toJson (m : Model) : Json :=
  .object [
    ("namespace", .string m.ns),
    ("types", .array (m.types.map TypeDefinition.toJson))]

def ofJson? (value : Json) : Option Model := do
  let field ← value.record? ["namespace", "types"]
  let ns ← Json.required Json.string? (field "namespace")
  let types ← Json.required (Json.list? TypeDefinition.ofJson?) (field "types")
  return ⟨ns, types⟩

end Model

end EdmMapping
