import EdmMapping.Edm.Json
import EdmMapping.Proofs.Json.Record

/-!
# Models survive being written as JSON

Descriptors and models are read back from the JSON that is written for them, and what else they can
be read from differs from it in a way that has a normal form: fields of other names are dropped, a
namespace or a projection that is null is left out, and `flags` and `properties` are filled in.

* `TypeDescriptor.normalForm`, …, `Model.normalForm` — the normal forms;
* `TypeDescriptor.codes`, …, `Model.codes` — both directions for each type, by way of those of its
  fields;
* `json_round_trip` — all of them together;
* `json_round_trip_loose` — a definition that is not written in its normal form.
-/

set_option autoImplicit false

namespace EdmMapping

open Json

/-! ## Choices -/

theorem NamespaceKind.codes :
    Codes (fun kind : NamespaceKind => .string kind.name) NamespaceKind.ofJson? wordForm :=
  codes_word (fun kind => by cases kind <;> decide)
    fun _ _ h => by simpa using List.find?_some h

theorem TypeKind.codes :
    Codes (fun kind : TypeKind => .string kind.name) TypeKind.ofJson? wordForm :=
  codes_word (fun kind => by cases kind <;> decide)
    fun _ _ h => by simpa using List.find?_some h

/-! ## Descriptors -/

namespace TypeDescriptor

def normalForm : Json → Json :=
  normalRecord [
    ("name", .required id),
    ("namespace_kind", .required wordForm),
    ("is_enum", .required id),
    ("is_flags_enum", .required id),
    ("namespace", .optional id)]

theorem codes : Codes toJson ofJson? normalForm where
  read_write ty := by
    have hkind := NamespaceKind.codes.read_write ty.namespaceKind
    have hns := nullable_write codes_string (fun _ => nofun) ty.ns
    unfold toJson ofJson?
    rw [record?_object (nodup_append_optionalField (by simp) (by simp) _)]
    simp [lookup_cons_of_ne, lookup_optionalField, required, string?, bool?, hkind, hns]
  write_read value ty h := by
    unfold ofJson? at h
    obtain ⟨field, hfield, h⟩ := Option.bind_eq_some_iff.1 h
    obtain ⟨name, hname, h⟩ := Option.bind_eq_some_iff.1 h
    obtain ⟨kind, hkind, h⟩ := Option.bind_eq_some_iff.1 h
    obtain ⟨isEnum, hisEnum, h⟩ := Option.bind_eq_some_iff.1 h
    obtain ⟨isFlagsEnum, hisFlagsEnum, h⟩ := Option.bind_eq_some_iff.1 h
    obtain ⟨ns, hns, h⟩ := Option.bind_eq_some_iff.1 h
    cases h
    rw [lookup_of_record? hfield] at hname hkind hisEnum hisFlagsEnum hns
    have hname := fields_required codes_string hname "name"
    have hkind := fields_required NamespaceKind.codes hkind "namespace_kind"
    have hisEnum := fields_required codes_bool hisEnum "is_enum"
    have hisFlagsEnum := fields_required codes_bool hisFlagsEnum "is_flags_enum"
    have hns := fields_nullable codes_string hns "namespace"
    simp only [normalForm, normalRecord, List.flatMap_cons, List.flatMap_nil, List.map_cons,
      List.map_nil, hname, hkind, hisEnum, hisFlagsEnum, hns, List.append_nil]
    rfl

theorem toJson_ne_null (ty : TypeDescriptor) : ty.toJson ≠ .null := nofun

end TypeDescriptor

namespace PropertyDescriptor

def normalForm : Json → Json :=
  normalRecord [
    ("name", .required id),
    ("declaring_type_name", .required id),
    ("declared_type", .required TypeDescriptor.normalForm),
    ("projection", .optional TypeDescriptor.normalForm)]

theorem codes : Codes toJson ofJson? normalForm where
  read_write p := by
    have hdeclaredType := TypeDescriptor.codes.read_write p.declaredType
    have hprojection :=
      nullable_write TypeDescriptor.codes TypeDescriptor.toJson_ne_null p.projection
    unfold toJson ofJson?
    rw [record?_object (nodup_append_optionalField (by simp) (by simp) _)]
    simp [lookup_cons_of_ne, lookup_optionalField, required, string?, hdeclaredType, hprojection]
  write_read value p h := by
    unfold ofJson? at h
    obtain ⟨field, hfield, h⟩ := Option.bind_eq_some_iff.1 h
    obtain ⟨name, hname, h⟩ := Option.bind_eq_some_iff.1 h
    obtain ⟨declaringTypeName, hdeclaring, h⟩ := Option.bind_eq_some_iff.1 h
    obtain ⟨declaredType, hdeclared, h⟩ := Option.bind_eq_some_iff.1 h
    obtain ⟨projection, hprojection, h⟩ := Option.bind_eq_some_iff.1 h
    cases h
    rw [lookup_of_record? hfield] at hname hdeclaring hdeclared hprojection
    have hname := fields_required codes_string hname "name"
    have hdeclaring := fields_required codes_string hdeclaring "declaring_type_name"
    have hdeclared := fields_required TypeDescriptor.codes hdeclared "declared_type"
    have hprojection := fields_nullable TypeDescriptor.codes hprojection "projection"
    simp only [normalForm, normalRecord, List.flatMap_cons, List.flatMap_nil, List.map_cons,
      List.map_nil, hname, hdeclaring, hdeclared, hprojection, List.append_nil]
    rfl

end PropertyDescriptor

namespace ParameterDescriptor

def normalForm : Json → Json :=
  normalRecord [("name", .required id), ("type", .required TypeDescriptor.normalForm)]

theorem codes : Codes toJson ofJson? normalForm where
  read_write p := by
    have htype := TypeDescriptor.codes.read_write p.type
    unfold toJson ofJson?
    rw [record?_object (by simp)]
    simp [lookup_cons_of_ne, required, string?, htype]
  write_read value p h := by
    unfold ofJson? at h
    obtain ⟨field, hfield, h⟩ := Option.bind_eq_some_iff.1 h
    obtain ⟨name, hname, h⟩ := Option.bind_eq_some_iff.1 h
    obtain ⟨type, htype, h⟩ := Option.bind_eq_some_iff.1 h
    cases h
    rw [lookup_of_record? hfield] at hname htype
    have hname := fields_required codes_string hname "name"
    have htype := fields_required TypeDescriptor.codes htype "type"
    simp only [normalForm, normalRecord, List.flatMap_cons, List.flatMap_nil, List.map_cons,
      List.map_nil, hname, htype, List.append_nil]
    rfl

end ParameterDescriptor

/-! ## Models -/

namespace TypeDefinition

def normalForm : Json → Json :=
  normalRecord [
    ("name", .required id),
    ("namespace", .required id),
    ("kind", .required wordForm),
    ("flags", .defaulted (.bool false) id),
    ("properties", .defaulted (.array []) (normalItems PropertyDescriptor.normalForm))]

theorem codes : Codes toJson ofJson? normalForm where
  read_write d := by
    have hkind := TypeKind.codes.read_write d.kind
    have hproperties := PropertyDescriptor.codes.list.read_write d.properties
    unfold toJson ofJson?
    rw [record?_object (by simp)]
    simp [lookup_cons_of_ne, required, withDefault, string?, bool?, hkind, hproperties]
  write_read value d h := by
    unfold ofJson? at h
    obtain ⟨field, hfield, h⟩ := Option.bind_eq_some_iff.1 h
    obtain ⟨name, hname, h⟩ := Option.bind_eq_some_iff.1 h
    obtain ⟨ns, hns, h⟩ := Option.bind_eq_some_iff.1 h
    obtain ⟨kind, hkind, h⟩ := Option.bind_eq_some_iff.1 h
    obtain ⟨flags, hflags, h⟩ := Option.bind_eq_some_iff.1 h
    obtain ⟨properties, hproperties, h⟩ := Option.bind_eq_some_iff.1 h
    cases h
    rw [lookup_of_record? hfield] at hname hns hkind hflags hproperties
    have hname := fields_required codes_string hname "name"
    have hns := fields_required codes_string hns "namespace"
    have hkind := fields_required TypeKind.codes hkind "kind"
    have hflags := fields_withDefault codes_bool hflags "flags"
    have hproperties := fields_withDefault PropertyDescriptor.codes.list hproperties "properties"
    simp only [List.map_nil] at hproperties
    simp only [normalForm, normalRecord, List.flatMap_cons, List.flatMap_nil, List.map_cons,
      List.map_nil, hname, hns, hkind, hflags, hproperties, List.append_nil]
    rfl

end TypeDefinition

namespace Model

def normalForm : Json → Json :=
  normalRecord [
    ("namespace", .required id),
    ("types", .required (normalItems TypeDefinition.normalForm))]

theorem codes : Codes toJson ofJson? normalForm where
  read_write m := by
    have htypes := TypeDefinition.codes.list.read_write m.types
    unfold toJson ofJson?
    rw [record?_object (by simp)]
    simp [lookup_cons_of_ne, required, string?, htypes]
  write_read value m h := by
    unfold ofJson? at h
    obtain ⟨field, hfield, h⟩ := Option.bind_eq_some_iff.1 h
    obtain ⟨ns, hns, h⟩ := Option.bind_eq_some_iff.1 h
    obtain ⟨types, htypes, h⟩ := Option.bind_eq_some_iff.1 h
    cases h
    rw [lookup_of_record? hfield] at hns htypes
    have hns := fields_required codes_string hns "namespace"
    have htypes := fields_required TypeDefinition.codes.list htypes "types"
    simp only [normalForm, normalRecord, List.flatMap_cons, List.flatMap_nil, List.map_cons,
      List.map_nil, hns, htypes, List.append_nil]
    rfl

end Model

/-- **Models survive being written as JSON, and what they are read from has a normal form.**  For
descriptors of types, properties and parameters, for definitions and for models: what is written for
a value is read back as that value, and if a JSON value can be read at all, then its normal form is
written for what was read. -/
theorem json_round_trip :
    Codes TypeDescriptor.toJson TypeDescriptor.ofJson? TypeDescriptor.normalForm ∧
    Codes PropertyDescriptor.toJson PropertyDescriptor.ofJson? PropertyDescriptor.normalForm ∧
    Codes ParameterDescriptor.toJson ParameterDescriptor.ofJson? ParameterDescriptor.normalForm ∧
    Codes TypeDefinition.toJson TypeDefinition.ofJson? TypeDefinition.normalForm ∧
    Codes Model.toJson Model.ofJson? Model.normalForm :=
  ⟨TypeDescriptor.codes, PropertyDescriptor.codes, ParameterDescriptor.codes, TypeDefinition.codes,
    Model.codes⟩

/-- A definition that is written loosely: the kind as an object, a field of another name, no flags,
and nulls in the place of a projection and of a namespace. -/
def looseDefinition : Json :=
  .object [
    ("kind", .object [("complex", .null)]), ("comment", .number "1"), ("name", .string "parcel"),
    ("properties", .array [.object [
      ("projection", .null), ("name", .string "weight"), ("declaring_type_name", .string "parcel"),
      ("declared_type", .object [
        ("namespace", .null), ("name", .string "Int32"), ("namespace_kind", .string "primitive"),
        ("is_enum", .bool false), ("is_flags_enum", .bool false)])]]),
    ("namespace", .string "")]

/-- What is read from the loose definition is written in its normal form, and read from that
again. -/
theorem json_round_trip_loose :
    TypeDefinition.ofJson? looseDefinition =
      some ⟨"parcel", "", .complex, false, [⟨"weight", "parcel", .primitive "Int32", none⟩]⟩ ∧
    (⟨"parcel", "", .complex, false, [⟨"weight", "parcel", .primitive "Int32", none⟩]⟩ :
      TypeDefinition).toJson = TypeDefinition.normalForm looseDefinition ∧
    TypeDefinition.normalForm looseDefinition = .object [
      ("name", .string "parcel"), ("namespace", .string ""), ("kind", .string "complex"),
      ("flags", .bool false),
      ("properties", .array [.object [
        ("name", .string "weight"), ("declaring_type_name", .string "parcel"),
        ("declared_type", .object [
          ("name", .string "Int32"), ("namespace_kind", .string "primitive"),
          ("is_enum", .bool false), ("is_flags_enum", .bool false)])]])] ∧
    TypeDefinition.ofJson? (TypeDefinition.normalForm looseDefinition) =
      TypeDefinition.ofJson? looseDefinition := by
  have hread : TypeDefinition.ofJson? looseDefinition =
      some ⟨"parcel", "", .complex, false, [⟨"weight", "parcel", .primitive "Int32", none⟩]⟩ := rfl
  have hcodes := json_round_trip.2.2.2.1
  have hwrite := hcodes.write_read looseDefinition _ hread
  refine ⟨hread, hwrite, rfl, ?_⟩
  rw [← hwrite, hcodes.read_write, hread]

end EdmMapping
