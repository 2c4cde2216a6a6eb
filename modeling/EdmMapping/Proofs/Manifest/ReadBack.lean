import EdmMapping.Proofs.Manifest.Description

/-!
# Reading a model back

Nothing that a manifest says is lost when it is resolved: the model still tells every declaration,
and every reference can be written again from the descriptor that stands for it.

* `TypeDescriptor.reference` — the reference that a descriptor is written as;
* `Denotes.reference_eq` — it is the reference that was resolved to the descriptor;
* `Manifest.inFull` — a manifest with every property in the longer of its two forms;
* `TypeDefinition.declaration`, `Manifest.declarations` — what a model and a manifest declare;
  a manifest is nothing else (`eq_of_declarations`);
* `Describes.declarations_eq` — a model declares what its manifest in full does;
* `resolveIn_loses_nothing` — so manifests with one model differ in the form of properties only.
-/

set_option autoImplicit false

namespace EdmMapping

/-! ## Declarations -/

/-- A primitive is written after `Edm.`, any other type with its namespace. -/
def TypeDescriptor.reference (ty : TypeDescriptor) : String :=
  if ty.isPrimitive then "Edm." ++ ty.name else ty.qualifiedName

/-- The property with its projection told, also where there is none. -/
def PropertySpec.inFull (spec : PropertySpec) : PropertySpec :=
  .detailed spec.reference spec.projectionRef

def PropertyDescriptor.spec (p : PropertyDescriptor) : PropertySpec :=
  .detailed p.declaredType.reference (p.projection.map (·.reference))

/-- What is said of a type where it is declared. -/
structure Declaration where
  name : String
  kind : TypeKind
  flags : Bool
  properties : List (String × PropertySpec)
  deriving DecidableEq, Repr

def TypeDefinition.declaration (d : TypeDefinition) : Declaration :=
  ⟨d.name, d.kind, d.flags, d.properties.map fun p => (p.name, p.spec)⟩

/-- The map with a function applied to its values. -/
def OrderedMap.map {β γ : Type} (f : β → γ) (m : OrderedMap β) : OrderedMap γ where
  entries := m.entries.map fun (key, value) => (key, f value)
  nodup_keys := by
    rw [List.map_map]
    exact m.nodup_keys

namespace TypeSpec

def inFull (spec : TypeSpec) : TypeSpec :=
  { spec with properties := spec.properties.map PropertySpec.inFull }

def declaration (spec : TypeSpec) (name : String) : Declaration :=
  ⟨name, spec.kind, spec.flags, spec.properties.entries⟩

theorem declaration_inj {spec spec' : TypeSpec} {name name' : String}
    (h : spec.declaration name = spec'.declaration name') : (name, spec) = (name', spec') := by
  obtain ⟨hname, hkind, hflags, hentries⟩ := Declaration.mk.inj h
  have hproperties : spec.properties = spec'.properties := OrderedMap.ext hentries
  cases spec
  cases spec'
  simp_all

end TypeSpec

namespace Manifest

/-- The manifest with every property in full. -/
def inFull (m : Manifest) : Manifest :=
  { m with types := m.types.map TypeSpec.inFull }

def declarations (m : Manifest) : List Declaration :=
  m.types.entries.map fun (name, spec) => spec.declaration name

/-- A manifest is its namespace and what it declares. -/
theorem eq_of_declarations {m m' : Manifest} (hns : m.ns = m'.ns)
    (h : m.declarations = m'.declarations) : m = m' := by
  have hentry : Function.Injective fun entry : String × TypeSpec =>
      entry.2.declaration entry.1 := fun _ _ heq => TypeSpec.declaration_inj heq
  have htypes : m.types = m'.types := OrderedMap.ext (List.map_injective_iff.2 hentry h)
  cases m
  cases m'
  simp_all

/-! ## References -/

variable {m : Manifest}

theorem qualifiedName_descriptor {ns : String} (h : ns ≠ "") (spec : TypeSpec) (name : String) :
    (spec.descriptor name ns).qualifiedName = ns ++ "." ++ name := by
  unfold TypeSpec.descriptor
  cases spec.kind <;>
    simp [TypeDescriptor.qualifiedName, TypeDescriptor.inNamespace, TypeDescriptor.enumeration,
      TypeDescriptor.domain, h]

theorem isPrimitive_descriptor (spec : TypeSpec) (name ns : String) :
    (spec.descriptor name ns).isPrimitive = false := by
  unfold TypeSpec.descriptor
  cases spec.kind <;> rfl

/-- A descriptor is written as the reference that denotes it.  Without a namespace the dot before a
declared name would be lost. -/
theorem Denotes.reference_eq {reference : String} {ty : TypeDescriptor}
    (h : m.Denotes reference ty) (hns : m.ns ≠ "") : ty.reference = reference := by
  cases h with
  | primitive hne hdot => rfl
  | @declared name spec hfound =>
    unfold TypeDescriptor.reference
    rw [isPrimitive_descriptor, qualifiedName_descriptor hns]
    rfl

/-! ## From a manifest to its model -/

theorem DescribesProperty.spec_eq {typeName : String} {entry : String × PropertySpec}
    {p : PropertyDescriptor} (h : m.DescribesProperty typeName entry p) (hns : m.ns ≠ "") :
    p.spec = entry.2.inFull := by
  have hdeclared : p.declaredType.reference = entry.2.reference := h.declared.reference_eq hns
  have hprojection : p.projection.map (·.reference) = entry.2.projectionRef := by
    have hrel := h.projection
    generalize entry.2.projectionRef = reference, p.projection = projection at hrel
    cases hrel with
    | none => rfl
    | some hdenotes => exact congrArg some (hdenotes.reference_eq hns)
  unfold PropertyDescriptor.spec PropertySpec.inFull
  rw [hdeclared, hprojection]

theorem DescribesType.declaration_eq {entry : String × TypeSpec} {d : TypeDefinition}
    (h : m.DescribesType entry d) (hns : m.ns ≠ "") :
    d.declaration = entry.2.inFull.declaration entry.1 := by
  have hproperties : d.properties.map (fun p => (p.name, p.spec)) =
      entry.2.properties.entries.map fun property => (property.1, property.2.inFull) :=
    map_eq_of_forall₂ h.properties fun property p hp => by rw [hp.name, hp.spec_eq hns]
  unfold TypeDefinition.declaration
  rw [h.name, h.kind, h.flags, hproperties]
  rfl

variable {model : Model}

/-- **A model declares what its manifest does**, with every property in full. -/
theorem Describes.declarations_eq (h : m.Describes model) (hns : m.ns ≠ "") :
    model.types.map (·.declaration) = m.inFull.declarations := by
  unfold declarations inFull OrderedMap.map
  rw [List.map_map]
  exact map_eq_of_forall₂ h.types fun entry d hd => hd.declaration_eq hns

theorem Describes.isSome_findType? (h : m.Describes model) (name : String) :
    (model.findType? name).isSome = m.hasType name := by
  rw [Bool.eq_iff_iff, hasType_iff, Model.findType?, List.find?_isSome]
  have hkeys : (∃ d ∈ model.types, d.name = name) ↔ name ∈ m.types.keys := by
    rw [← h.names_eq, List.mem_map]
  simp only [decide_eq_true_eq, hkeys, m.types.find?_eq_some_iff]
  unfold OrderedMap.keys
  simp

/-- The count goes through the types as the list of all properties does. -/
theorem Describes.length_properties (h : m.Describes model) :
    model.properties.length = m.propertyCount := by
  unfold Model.properties propertyCount OrderedMap.values
  have hcount : ∀ (entries : List (String × TypeSpec)) (types : List TypeDefinition) (count : Nat),
      List.Forall₂ m.DescribesType entries types →
      (entries.map Prod.snd).foldl (fun count spec => count + spec.properties.size) count =
        count + (types.flatMap (·.properties)).length := by
    intro entries types count htypes
    induction htypes generalizing count with
    | nil => rfl
    | @cons entry d entries types hd _ ih =>
      have hsize : entry.2.properties.size = d.properties.length := hd.properties.length_eq
      rw [List.map_cons, List.foldl_cons, ih, List.flatMap_cons, List.length_append, hsize,
        Nat.add_assoc]
  rw [hcount m.types.entries model.types 0 h.types, Nat.zero_add]

/-- **Resolving a manifest loses nothing.**  The model has the namespace of the manifest and
declares, in the same order, the same types with the same properties, whose references can be
written again; every property knows the type that it stands in.  So two manifests of one model are
the same once their properties are written in full.  A type is found in the model exactly if the
manifest has it, and both have the same number of properties. -/
theorem resolveIn_loses_nothing {s : Source} (h : m.resolveIn s = .ok model) :
    model.ns = m.ns ∧
    model.types.map (·.declaration) = m.inFull.declarations ∧
    (∀ d ∈ model.types, d.ns = m.ns ∧ ∀ p ∈ d.properties, p.declaringTypeName = d.name) ∧
    (∀ (m' : Manifest) (s' : Source), m'.resolveIn s' = .ok model → m'.inFull = m.inFull) ∧
    (∀ name, (model.findType? name).isSome = m.hasType name) ∧
    model.properties.length = m.propertyCount := by
  have hdesc := describes_of_resolve (resolveIn_eq_ok.1 h)
  have hns : m.ns ≠ "" := (isWellFormed_of_resolveIn h).isNamespace.ne_empty
  refine ⟨hdesc.ns, hdesc.declarations_eq hns, ?_, ?_, hdesc.isSome_findType?,
    hdesc.length_properties⟩
  · intro d hd
    refine ⟨?_, fun p hp => hdesc.declaring_eq hd hp⟩
    rw [hdesc.ns_eq hd, hdesc.ns]
  · intro m' s' h'
    have hdesc' := describes_of_resolve (resolveIn_eq_ok.1 h')
    have hns' : m'.ns ≠ "" := (isWellFormed_of_resolveIn h').isNamespace.ne_empty
    refine eq_of_declarations ?_ ?_
    · show m'.ns = m.ns
      rw [← hdesc'.ns, hdesc.ns]
    · rw [← hdesc'.declarations_eq hns', hdesc.declarations_eq hns]

/-- A parcel with an addressee, whose name is written in the shorter form. -/
def parcelsManifest : Manifest where
  ns := "Mail.Parcels"
  types := ⟨[
    ("person", ⟨.entity, false, ⟨[("name", .type "Edm.String")], by decide⟩⟩),
    ("parcel", ⟨.entity, false, ⟨[
      ("to", .detailed "Edm.String" (some "Mail.Parcels.person"))], by decide⟩⟩)], by decide⟩

/-- The same with the name in the longer form. -/
def parcelsManifestInFull : Manifest where
  ns := "Mail.Parcels"
  types := ⟨[
    ("person", ⟨.entity, false, ⟨[("name", .detailed "Edm.String" none)], by decide⟩⟩),
    ("parcel", ⟨.entity, false, ⟨[
      ("to", .detailed "Edm.String" (some "Mail.Parcels.person"))], by decide⟩⟩)], by decide⟩

def parcelsModel : Model where
  ns := "Mail.Parcels"
  types := [
    ⟨"person", "Mail.Parcels", .entity, false, [
      ⟨"name", "person", .primitive "String", none⟩]⟩,
    ⟨"parcel", "Mail.Parcels", .entity, false, [
      ⟨"to", "parcel", .primitive "String",
        some ⟨"person", .domain, false, false, some "Mail.Parcels"⟩⟩]⟩]

/-- Both forms have one model, which declares the longer one. -/
theorem resolveIn_loses_nothing_parcels :
    parcelsManifest.resolveIn ⟨"", "parcels.toml"⟩ = .ok parcelsModel ∧
    parcelsManifestInFull.resolveIn ⟨"", "full.toml"⟩ = .ok parcelsModel ∧
    parcelsModel.types.map (·.declaration) = parcelsManifest.inFull.declarations ∧
    parcelsManifestInFull.inFull = parcelsManifest.inFull ∧
    parcelsModel.properties.length = 2 := by
  have hshort : parcelsManifest.resolveIn ⟨"", "parcels.toml"⟩ = .ok parcelsModel := rfl
  have hfull : parcelsManifestInFull.resolveIn ⟨"", "full.toml"⟩ = .ok parcelsModel := rfl
  obtain ⟨-, hdeclarations, -, hsame, -, -⟩ := resolveIn_loses_nothing hshort
  exact ⟨hshort, hfull, hdeclarations, hsame _ _ hfull, rfl⟩

end Manifest

end EdmMapping
