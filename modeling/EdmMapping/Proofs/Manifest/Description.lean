import Mathlib.Data.List.Forall2
import EdmMapping.Proofs.Manifest.Requirements

/-!
# The model that a manifest describes

A manifest and its model correspond entry by entry: types to types, properties to properties, and
every reference to the descriptor that it denotes.

* `DescribesProperty`, `DescribesType`, `Describes` — the correspondence;
* `describes_of_resolve` — a manifest describes the model that it is resolved to;
* `Describes.nodup_names`, `DescribesType.nodup_names` — names of types, and of the properties of a
  type, stand once;
* `Describes.declared_unique` — every descriptor that is not primitive is that of one declared type.
-/

set_option autoImplicit false

namespace EdmMapping

section Lists

variable {α β γ ε : Type}

theorem bind_eq_ok {x : Except ε α} {f : α → Except ε β} {b : β} :
    x >>= f = .ok b ↔ ∃ a, x = .ok a ∧ f a = .ok b := by
  cases x with
  | error e => exact ⟨fun h => (by cases h), fun ⟨_, h, _⟩ => (by cases h)⟩
  | ok a => exact ⟨fun h => ⟨a, rfl, h⟩, fun ⟨_, ha, hf⟩ => (by cases ha; exact hf)⟩

theorem mapM_eq_ok {f : α → Except ε β} {l : List α} {ys : List β} (h : l.mapM f = .ok ys) :
    List.Forall₂ (fun x y => f x = .ok y) l ys := by
  induction l generalizing ys with
  | nil => cases h; exact .nil
  | cons x l ih =>
    rw [List.mapM_cons] at h
    obtain ⟨y, hy, h⟩ := bind_eq_ok.1 h
    obtain ⟨rest, hrest, h⟩ := bind_eq_ok.1 h
    cases h
    exact .cons hy (ih hrest)

theorem exists_right_of_forall₂ {R : α → β → Prop} {l : List α} {r : List β}
    (h : List.Forall₂ R l r) {a : α} (ha : a ∈ l) : ∃ b ∈ r, R a b := by
  induction h with
  | nil => cases ha
  | @cons x y l r hxy _ ih =>
    rcases List.mem_cons.1 ha with rfl | ha
    · exact ⟨y, by simp, hxy⟩
    · obtain ⟨b, hb, hab⟩ := ih ha
      exact ⟨b, List.mem_cons_of_mem _ hb, hab⟩

theorem exists_left_of_forall₂ {R : α → β → Prop} {l : List α} {r : List β}
    (h : List.Forall₂ R l r) {b : β} (hb : b ∈ r) : ∃ a ∈ l, R a b :=
  exists_right_of_forall₂ h.flip hb

theorem map_eq_of_forall₂ {R : α → β → Prop} {f : α → γ} {g : β → γ} {l : List α} {r : List β}
    (h : List.Forall₂ R l r) (hR : ∀ a b, R a b → g b = f a) : r.map g = l.map f := by
  induction h with
  | nil => rfl
  | cons hab _ ih => rw [List.map_cons, List.map_cons, hR _ _ hab, ih]

/-- The elements with the key of a member are that member alone, if keys stand once. -/
theorem filter_key_eq_singleton [DecidableEq β] {f : α → β} {l : List α} (h : (l.map f).Nodup)
    {a : α} (ha : a ∈ l) : (l.filter fun x => f x = f a) = [a] := by
  induction l with
  | nil => cases ha
  | cons x l ih =>
    rw [List.map_cons, List.nodup_cons] at h
    rcases List.mem_cons.1 ha with rfl | ha
    · have hrest : (l.filter fun x => f x = f a) = [] := by
        rw [List.filter_eq_nil_iff]
        intro y hy
        have hne : f y ≠ f a := fun hya => h.1 (hya ▸ List.mem_map_of_mem hy)
        simpa using hne
      rw [List.filter_cons_of_pos (by simp), hrest]
    · have hne : f x ≠ f a := fun hxa => h.1 (hxa ▸ List.mem_map_of_mem ha)
      rw [List.filter_cons_of_neg (by simpa using hne), ih h.2 ha]

end Lists

namespace Manifest

/-! ## The correspondence -/

/-- The property of a manifest, below a type of that name, and its descriptor. -/
structure DescribesProperty (m : Manifest) (typeName : String) (entry : String × PropertySpec)
    (p : PropertyDescriptor) : Prop where
  name : p.name = entry.1
  declaring : p.declaringTypeName = typeName
  declared : m.Denotes entry.2.reference p.declaredType
  projection : Option.Rel m.Denotes entry.2.projectionRef p.projection

/-- The declaration of a type in a manifest and its definition. -/
structure DescribesType (m : Manifest) (entry : String × TypeSpec) (d : TypeDefinition) :
    Prop where
  name : d.name = entry.1
  ns : d.ns = m.ns
  kind : d.kind = entry.2.kind
  flags : d.flags = entry.2.flags
  properties :
    List.Forall₂ (m.DescribesProperty entry.1) entry.2.properties.entries d.properties

structure Describes (m : Manifest) (model : Model) : Prop where
  ns : model.ns = m.ns
  types : List.Forall₂ m.DescribesType m.types.entries model.types

variable {m : Manifest} {model : Model}

theorem describesProperty_of_resolve {typeName property : String} {spec : PropertySpec}
    {p : PropertyDescriptor} (h : m.resolveProperty typeName property spec = .ok p) :
    m.DescribesProperty typeName (property, spec) p := by
  unfold resolveProperty at h
  obtain ⟨declaredType, hdeclared, h⟩ := bind_eq_ok.1 h
  cases hspec : spec.projectionRef with
  | none =>
    rw [hspec] at h
    cases h
    exact ⟨rfl, rfl, resolveReference_eq_ok hdeclared, by rw [hspec]; exact .none⟩
  | some reference =>
    rw [hspec] at h
    obtain ⟨projection, hprojection, h⟩ := bind_eq_ok.1 h
    cases href : m.resolveReference property reference with
    | error v => rw [href] at hprojection; cases hprojection
    | ok ty =>
      rw [href] at hprojection
      cases hprojection
      cases h
      exact ⟨rfl, rfl, resolveReference_eq_ok hdeclared,
        by rw [hspec]; exact .some (resolveReference_eq_ok href)⟩

theorem describesType_of_resolve {name : String} {spec : TypeSpec} {d : TypeDefinition}
    (h : m.resolveType name spec = .ok d) : m.DescribesType (name, spec) d := by
  unfold resolveType at h
  obtain ⟨properties, hproperties, h⟩ := bind_eq_ok.1 h
  cases h
  exact ⟨rfl, rfl, rfl, rfl,
    (mapM_eq_ok hproperties).imp fun entry p hp => describesProperty_of_resolve hp⟩

theorem describes_of_resolve (h : m.resolve = .ok model) : m.Describes model := by
  unfold resolve at h
  obtain ⟨_, -, h⟩ := bind_eq_ok.1 h
  obtain ⟨types, htypes, h⟩ := bind_eq_ok.1 h
  cases h
  exact ⟨rfl, (mapM_eq_ok htypes).imp fun entry d hd => describesType_of_resolve hd⟩

theorem describes_of_resolveIn {s : Source} (h : m.resolveIn s = .ok model) : m.Describes model :=
  describes_of_resolve (resolveIn_eq_ok.1 h)

/-! ## Names stand once -/

theorem DescribesType.nodup_names {entry : String × TypeSpec} {d : TypeDefinition}
    (h : m.DescribesType entry d) : (d.properties.map (·.name)).Nodup := by
  rw [map_eq_of_forall₂ h.properties fun _ _ hp => hp.name]
  exact entry.2.properties.nodup_keys

theorem Describes.names_eq (h : m.Describes model) :
    model.types.map (·.name) = m.types.keys :=
  map_eq_of_forall₂ h.types fun _ _ hd => hd.name

theorem Describes.nodup_names (h : m.Describes model) : (model.types.map (·.name)).Nodup := by
  rw [h.names_eq]
  exact m.types.nodup_keys

/-! ## What a definition has of its model -/

theorem Describes.ns_eq (h : m.Describes model) {d : TypeDefinition} (hd : d ∈ model.types) :
    d.ns = model.ns := by
  obtain ⟨entry, -, hdesc⟩ := exists_left_of_forall₂ h.types hd
  rw [hdesc.ns, h.ns]

theorem Describes.isName (h : m.Describes model) (hwf : m.IsWellFormed) {d : TypeDefinition}
    (hd : d ∈ model.types) : IsName d.name := by
  obtain ⟨entry, hentry, hdesc⟩ := exists_left_of_forall₂ h.types hd
  rw [hdesc.name]
  exact hwf.isName entry.1 entry.2 hentry

theorem Describes.nodup_properties (h : m.Describes model) {d : TypeDefinition}
    (hd : d ∈ model.types) : (d.properties.map (·.name)).Nodup := by
  obtain ⟨entry, -, hdesc⟩ := exists_left_of_forall₂ h.types hd
  exact hdesc.nodup_names

theorem Describes.declaring_eq (h : m.Describes model) {d : TypeDefinition} (hd : d ∈ model.types)
    {p : PropertyDescriptor} (hp : p ∈ d.properties) : p.declaringTypeName = d.name := by
  obtain ⟨entry, -, hdesc⟩ := exists_left_of_forall₂ h.types hd
  obtain ⟨property, -, hprop⟩ := exists_left_of_forall₂ hdesc.properties hp
  rw [hprop.declaring, hdesc.name]

/-! ## Descriptors of declared types -/

theorem DescribesType.descriptor_eq {name : String} {spec : TypeSpec} {d : TypeDefinition}
    (h : m.DescribesType (name, spec) d) : d.descriptor = spec.descriptor name m.ns := by
  have hkind : d.kind = spec.kind := h.kind
  unfold TypeDefinition.descriptor TypeSpec.descriptor
  rw [hkind]
  cases spec.kind <;> simp only [h.flags, h.name, h.ns]

@[simp] theorem name_descriptor (spec : TypeSpec) (name ns : String) :
    (spec.descriptor name ns).name = name := by
  unfold TypeSpec.descriptor
  cases spec.kind <;> rfl

/-- A descriptor that a reference denotes, unless it is a primitive, is that of exactly one of the
declared types. -/
theorem Describes.declared_unique (h : m.Describes model) {reference : String}
    {ty : TypeDescriptor} (hty : m.Denotes reference ty) (hdomain : ty.isPrimitive = false) :
    ∃ d, (model.types.filter fun d => d.name = ty.name) = [d] ∧ d ∈ model.types ∧
      ty = d.descriptor := by
  cases hty with
  | primitive hne hdot => cases hdomain
  | @declared name spec hfound =>
    have hentry := m.types.find?_eq_some_iff.1 hfound
    obtain ⟨d, hd, hdesc⟩ := exists_right_of_forall₂ h.types hentry
    have hname : d.name = name := hdesc.name
    refine ⟨d, ?_, hd, hdesc.descriptor_eq.symm⟩
    rw [name_descriptor, ← hname]
    exact filter_key_eq_singleton h.nodup_names hd

/-- Every descriptor of a property, declared or projected, is denoted by a reference. -/
theorem Describes.denotes (h : m.Describes model) {d : TypeDefinition} (hd : d ∈ model.types)
    {p : PropertyDescriptor} (hp : p ∈ d.properties) {ty : TypeDescriptor}
    (hty : ty = p.declaredType ∨ p.projection = some ty) : ∃ reference, m.Denotes reference ty := by
  obtain ⟨entry, -, hdesc⟩ := exists_left_of_forall₂ h.types hd
  obtain ⟨property, -, hprop⟩ := exists_left_of_forall₂ hdesc.properties hp
  rcases hty with rfl | hty
  · exact ⟨_, hprop.declared⟩
  · have hrel := hprop.projection
    rw [hty] at hrel
    generalize property.2.projectionRef = projection at hrel
    cases hrel with
    | some hdenotes => exact ⟨_, hdenotes⟩

/-- A descriptor with the name of a declared type is that of the type, unless it is a primitive. -/
theorem Describes.eq_descriptor (h : m.Describes model) {reference : String} {ty : TypeDescriptor}
    (hty : m.Denotes reference ty) (hdomain : ty.isPrimitive = false) {d : TypeDefinition}
    (hd : d ∈ model.types) (hname : ty.name = d.name) : ty = d.descriptor := by
  obtain ⟨d', hfilter, -, hd'⟩ := h.declared_unique hty hdomain
  have hmem : d ∈ model.types.filter fun x => x.name = ty.name :=
    List.mem_filter.2 ⟨hd, by simp [hname]⟩
  rw [hfilter, List.mem_singleton] at hmem
  rw [hmem, hd']

end Manifest

theorem PropertyDescriptor.projectedType_cases (p : PropertyDescriptor) :
    p.projectedType = p.declaredType ∨ p.projection = some p.projectedType := by
  unfold projectedType
  cases p.projection with
  | none => exact .inl rfl
  | some ty => exact .inr rfl

end EdmMapping
