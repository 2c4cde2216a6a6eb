import EdmMapping.Json.Basic
import EdmMapping.Mapping.Basic

/-!
# Mappings as JSON

How a mapping is written as a JSON value.  The import path of a member that has none is left out;
the place of a note that has none is null.
-/

set_option autoImplicit false

namespace EdmMapping

def MemberMapping.toJson (m : MemberMapping) : Json :=
  .object ([
    ("property", .string m.property),
    ("identifier", .string m.identifier),
    ("type_name", .string m.typeName),
    ("simple", .bool m.simple)]
    ++ Json.optionalField "import_path" (m.importPath.map .string))

def ClassMapping.toJson (c : ClassMapping) : Json :=
  .object [
    ("schema_name", .string c.schemaName),
    ("class_name", .string c.className),
    ("kind", .string c.kind.name),
    ("reference_type", .string c.referenceType),
    ("imports", .array (c.imports.map .string)),
    ("members", .array (c.members.map MemberMapping.toJson))]

def Diagnostic.toJson (d : Diagnostic) : Json :=
  .object [
    ("severity", .string d.severity.name),
    ("stage", .string d.stage),
    ("message", .string d.message),
    ("location", match d.location with
      | some location => .string location
      | none => .null)]

def ModelMapping.toJson (m : ModelMapping) : Json :=
  .object [
    ("language", .string m.language),
    ("classes", .array (m.classes.map ClassMapping.toJson)),
    ("diagnostics", .array (m.diagnostics.items.map Diagnostic.toJson))]

end EdmMapping
