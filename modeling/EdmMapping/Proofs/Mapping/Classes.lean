import EdmMapping.Mapping.Build
import EdmMapping.Proofs.Imports.Needed
import EdmMapping.Proofs.Manifest.Description

/-!
# The classes of a mapping, one by one

A mapping is built by passing a draft of the class, and the notes on the model, from property to
property and from type to type.  What becomes of a property depends on the property alone, and the
class of a type on its definition alone.

* `PropertyDescriptor.memberIn`, `TypeDefinition.classIn` — the member and the class, without a
  draft;
* `addProperty_draft` — one property added to a draft; `foldl_draft` — all properties of a type;
* `classes_buildWith` — the classes of a mapping are those of its types, in order;
  `language_buildWith` — its language is that of the type mapper;
* `class?_buildWith` — the class of a type is found by the name of the type.
-/

set_option autoImplicit false

namespace EdmMapping

def PropertyDescriptor.memberIn (t : Target) (p : PropertyDescriptor) : MemberMapping where
  property := p.name
  identifier := (sanitizeProperty t.reserved p).name
  typeName := t.mapper.resolvePropertyType p
  simple := t.mapper.isSimpleProperty p
  importPath := if p.projectedType.isPrimitive then none else p.importPath.toOption

def TypeDefinition.classIn (t : Target) (d : TypeDefinition) : ClassMapping where
  schemaName := d.name
  className := d.className
  kind := d.kind
  referenceType := t.mapper.resolveTypeName d.descriptor
  imports := (ImportCollector.collect d.properties).lines
  members := d.properties.map (·.memberIn t)

variable (t : Target)

/-- One property: its member comes last, and its classes are added to those needed so far. -/
theorem addProperty_draft (d : TypeDefinition) (draft : ClassDraft) (p : PropertyDescriptor) :
    (draft.addProperty t d p).members = draft.members ++ [p.memberIn t] ∧
      (draft.addProperty t d p).imports = draft.imports.addEach p.neededClasses := by
  unfold ClassDraft.addProperty PropertyDescriptor.memberIn
  simp only [ImportCollector.addProperty_eq]
  by_cases hprimitive : p.projectedType.isPrimitive = true
  · simp [hprimitive]
  · cases hpath : p.importPath with
    | error e => simp [hprimitive, Except.map, Except.toOption]
    | ok path => simp [hprimitive, Except.map, Except.toOption]

theorem foldl_draft (d : TypeDefinition) (ps : List PropertyDescriptor) (draft : ClassDraft) :
    (ps.foldl (ClassDraft.addProperty t d) draft).members =
        draft.members ++ ps.map (·.memberIn t) ∧
      (ps.foldl (ClassDraft.addProperty t d) draft).imports =
        draft.imports.addEach (ps.flatMap (·.neededClasses)) := by
  induction ps generalizing draft with
  | nil => exact ⟨by simp, rfl⟩
  | cons p ps ih =>
    obtain ⟨hmembers, himports⟩ := addProperty_draft t d draft p
    obtain ⟨ihmembers, ihimports⟩ := ih (draft.addProperty t d p)
    rw [List.foldl_cons, ihmembers, ihimports, hmembers, himports, List.map_cons, List.flatMap_cons,
      ImportCollector.addEach_append]
    exact ⟨by simp, rfl⟩

/-- The class of a type does not depend on the notes so far. -/
theorem mapType_fst (notes : Diagnostics) (d : TypeDefinition) :
    (mapType t notes d).1 = d.classIn t := by
  obtain ⟨hmembers, himports⟩ := foldl_draft t d d.properties ⟨.empty, [], notes⟩
  unfold mapType TypeDefinition.classIn ImportCollector.collect
  simp only [hmembers, himports, List.nil_append]

theorem foldl_addType (ds : List TypeDefinition) (m : ModelMapping) :
    (ds.foldl (ModelMapping.addType t) m).classes = m.classes ++ ds.map (·.classIn t) := by
  induction ds generalizing m with
  | nil => simp
  | cons d ds ih =>
    have hstep : (ModelMapping.addType t m d).classes = m.classes ++ [d.classIn t] := by
      rw [← mapType_fst t m.diagnostics d]
      rfl
    rw [List.foldl_cons, ih, hstep]
    simp

/-- **The classes of a mapping are those of its types, in order.** -/
theorem classes_buildWith (model : Model) :
    (ModelMapping.buildWith t model).classes = model.types.map (·.classIn t) :=
  foldl_addType t model.types _

theorem language_foldl_addType (ds : List TypeDefinition) (m : ModelMapping) :
    (ds.foldl (ModelMapping.addType t) m).language = m.language := by
  induction ds generalizing m with
  | nil => rfl
  | cons d ds ih =>
    rw [List.foldl_cons, ih]
    rfl

theorem language_buildWith (model : Model) :
    (ModelMapping.buildWith t model).language = t.mapper.language :=
  language_foldl_addType t model.types _

/-- Where the names of types stand once, each finds its class. -/
theorem class?_buildWith {model : Model} (h : (model.types.map (·.name)).Nodup)
    {d : TypeDefinition} (hd : d ∈ model.types) :
    (ModelMapping.buildWith t model).class? d.name = some (d.classIn t) := by
  unfold ModelMapping.class?
  rw [classes_buildWith, List.find?_map]
  have hfind : model.types.find? (fun x => x.name = d.name) = some d := by
    rw [← List.head?_filter, filter_key_eq_singleton h hd]
    rfl
  have hkey : (fun c : ClassMapping => decide (c.schemaName = d.name)) ∘ (·.classIn t) =
      fun x : TypeDefinition => decide (x.name = d.name) := rfl
  rw [hkey, hfind]
  rfl

end EdmMapping
