import EdmMapping.Proofs.Imports.Order
import EdmMapping.Proofs.Mapping.Classes

/-!
# The imports of a class

The import statements of a class are those that its members need: `EnumSet` for a property whose
values combine, and the class at the import path of a member.

* `MemberMapping.neededClasses` — what a member needs, read off its import path;
* `neededClasses_memberIn` — it is what its property needs;
* `importPath_memberIn_isSome_iff` — the members that have an import path;
* `ImportsNeeded` — exactly the needed statements, each once, and in order;
  `ImportsNeeded.imports_eq` — they are known from the members;
* `importsNeeded_buildWith` — the classes of a mapping import what is needed.
-/

set_option autoImplicit false

namespace EdmMapping

/-! ## Members -/

/-- The packages and classes that are needed for a member of a type whose values combine, or not. -/
def MemberMapping.neededClasses (member : MemberMapping) (combines : Bool) :
    List (String × String) :=
  (if combines then [("java.util", "EnumSet")] else []) ++
  match member.importPath.bind splitQualified with
  | some (package, name) => [(package, upperFirst name)]
  | none => []

theorem MemberMapping.mem_neededClasses_iff {member : MemberMapping} {combines : Bool}
    {package className : String} :
    (package, className) ∈ member.neededClasses combines ↔
      (combines = true ∧ package = "java.util" ∧ className = "EnumSet") ∨
        ∃ path name, member.importPath = some path ∧
          splitQualified path = some (package, name) ∧ className = upperFirst name := by
  unfold neededClasses
  rw [List.mem_append]
  refine or_congr ?_ ?_
  · cases combines <;> simp
  · cases hpath : member.importPath with
    | none => simp
    | some path =>
      cases hsplit : splitQualified path with
      | none => simp [hsplit]
      | some parts =>
        obtain ⟨ns, name⟩ := parts
        simp only [Option.bind_some, hsplit, List.mem_singleton, Prod.mk.injEq, Option.some.injEq]
        constructor
        · rintro ⟨rfl, rfl⟩
          exact ⟨path, name, rfl, hsplit, rfl⟩
        · rintro ⟨path', name', rfl, hsplit', rfl⟩
          rw [hsplit, Option.some.injEq, Prod.mk.injEq] at hsplit'
          obtain ⟨rfl, rfl⟩ := hsplit'
          exact ⟨rfl, rfl⟩

variable (t : Target) (p : PropertyDescriptor)

theorem importPath_memberIn :
    (p.memberIn t).importPath =
      if p.projectedType.isPrimitive then none
      else
        match splitQualified p.projectedType.qualifiedName with
        | some (ns, name) => some (Unicode.lowercaseText ns ++ "." ++ name)
        | none => none := by
  unfold PropertyDescriptor.memberIn PropertyDescriptor.importPath lowercasedImportPath
  cases splitQualified p.projectedType.qualifiedName <;> rfl

/-- The import path of a member leads to the class that its property needs. -/
theorem neededClasses_memberIn :
    (p.memberIn t).neededClasses p.projectedType.isFlags = p.neededClasses := by
  unfold MemberMapping.neededClasses PropertyDescriptor.neededClasses
  rw [importPath_memberIn]
  by_cases hprimitive : p.projectedType.isPrimitive = true
  · rw [if_pos hprimitive, if_pos hprimitive]
    rfl
  · rw [if_neg hprimitive, if_neg hprimitive]
    cases hsplit : splitQualified p.projectedType.qualifiedName with
    | none => rfl
    | some parts => simp only [Option.bind_some, splitQualified_importPath hsplit]

theorem importPath_memberIn_isSome_iff :
    (p.memberIn t).importPath.isSome = true ↔
      p.projectedType.isPrimitive = false ∧ '.' ∈ p.projectedType.qualifiedName.toList := by
  rw [importPath_memberIn]
  by_cases hprimitive : p.projectedType.isPrimitive = true
  · simp [hprimitive]
  · rw [if_neg hprimitive]
    cases hsplit : splitQualified p.projectedType.qualifiedName with
    | none =>
      have hdot := splitQualified_eq_none_iff.1 hsplit
      simp [hdot]
    | some parts =>
      have hdot : '.' ∈ p.projectedType.qualifiedName.toList := by
        refine Classical.not_not.1 fun hnot => ?_
        rw [splitQualified_eq_none_iff.2 hnot] at hsplit
        cases hsplit
      simp [hdot, hprimitive]

/-! ## Classes -/

/-- What the properties of a type need in its class, in the order of the properties. -/
def TypeDefinition.neededIn (d : TypeDefinition) (c : ClassMapping) : List (String × String) :=
  (d.properties.zip c.members).flatMap fun (p, member) =>
    member.neededClasses p.projectedType.isFlags

/-- The class of the type imports exactly what its members need: every statement once, those of a
package together and with increasing classes, which have no dot in their names, and the packages in
the order in which they are needed first.  The members with an import path are those whose type is
of the model and qualified. -/
structure ImportsNeeded (d : TypeDefinition) (c : ClassMapping) : Prop where
  mem_iff : ∀ line, line ∈ c.imports ↔
    (line = "import java.util.EnumSet;" ∧ ∃ p ∈ d.properties, p.projectedType.isFlags = true) ∨
      ∃ member ∈ c.members, ∃ path package name, member.importPath = some path ∧
        splitQualified path = some (package, name) ∧
        line = "import " ++ package ++ "." ++ upperFirst name ++ ";"
  nodup : c.imports.Nodup
  grouped : ImportCollector.Grouped (d.neededIn c) c.imports
  importPath_iff : List.Forall₂ (fun (p : PropertyDescriptor) (member : MemberMapping) =>
      member.importPath.isSome = true ↔
        p.projectedType.isPrimitive = false ∧ '.' ∈ p.projectedType.qualifiedName.toList)
    d.properties c.members

/-- Nothing but its members has a say in the imports of a class. -/
theorem ImportsNeeded.imports_eq {d : TypeDefinition} {c c' : ClassMapping}
    (h : ImportsNeeded d c) (h' : ImportsNeeded d c') (hmembers : c.members = c'.members) :
    c.imports = c'.imports := by
  have hneeded : d.neededIn c = d.neededIn c' := by
    unfold TypeDefinition.neededIn
    rw [hmembers]
  obtain ⟨groups, hgroups, himports⟩ := h.grouped
  obtain ⟨groups', hgroups', himports'⟩ := h'.grouped
  rw [hneeded] at hgroups
  rw [himports, himports', hgroups.unique hgroups']

variable (d : TypeDefinition)

theorem neededIn_classIn :
    d.neededIn (d.classIn t) = d.properties.flatMap (·.neededClasses) := by
  have hzip : d.properties.zip (d.classIn t).members =
      d.properties.map fun p => (p, p.memberIn t) := List.map_prod_left_eq_zip.symm
  unfold TypeDefinition.neededIn
  rw [hzip, List.flatMap_map]
  simp only [neededClasses_memberIn]

theorem mem_imports_classIn_iff {line : String} :
    line ∈ (d.classIn t).imports ↔
      ∃ p ∈ d.properties, ∃ package className, (package, className) ∈ p.neededClasses ∧
        line = ImportCollector.importLine package className := by
  unfold TypeDefinition.classIn
  rw [ImportCollector.mem_lines_iff]
  simp only [ImportCollector.hasClass_collect]
  constructor
  · rintro ⟨package, className, ⟨p, hp, hneeded⟩, hline⟩
    exact ⟨p, hp, package, className, hneeded, hline⟩
  · rintro ⟨p, hp, package, className, hneeded, hline⟩
    exact ⟨package, className, ⟨p, hp, hneeded⟩, hline⟩

theorem isSorted_collect (ps : List PropertyDescriptor) :
    (ImportCollector.collect ps).IsSorted :=
  ImportCollector.isSorted_addEach ImportCollector.isSorted_empty _

theorem importsNeeded_classIn : ImportsNeeded d (d.classIn t) where
  mem_iff line := by
    rw [mem_imports_classIn_iff]
    constructor
    · rintro ⟨p, hp, package, className, hneeded, rfl⟩
      rw [← neededClasses_memberIn t p, MemberMapping.mem_neededClasses_iff] at hneeded
      rcases hneeded with ⟨hflags, rfl, rfl⟩ | ⟨path, name, hpath, hsplit, rfl⟩
      · exact .inl ⟨rfl, p, hp, hflags⟩
      · exact .inr ⟨p.memberIn t, List.mem_map_of_mem hp, path, package, name, hpath, hsplit, rfl⟩
    · rintro (⟨rfl, p, hp, hflags⟩ | ⟨member, hmember, path, package, name, hpath, hsplit, rfl⟩)
      · refine ⟨p, hp, "java.util", "EnumSet", ?_, rfl⟩
        rw [← neededClasses_memberIn t p, MemberMapping.mem_neededClasses_iff]
        exact .inl ⟨hflags, rfl, rfl⟩
      · obtain ⟨p, hp, rfl⟩ := List.mem_map.1 hmember
        refine ⟨p, hp, package, upperFirst name, ?_, rfl⟩
        rw [← neededClasses_memberIn t p, MemberMapping.mem_neededClasses_iff]
        exact .inr ⟨path, name, hpath, hsplit, rfl⟩
  nodup := by
    refine ImportCollector.nodup_lines (isSorted_collect d.properties) ?_
    intro package className hclass
    obtain ⟨p, -, hneeded⟩ := (ImportCollector.hasClass_collect _).1 hclass
    exact PropertyDescriptor.dot_notMem_of_mem_neededClasses hneeded
  grouped := by
    rw [neededIn_classIn]
    refine ImportCollector.grouped_lines (isSorted_collect d.properties)
      (ImportCollector.keys_collect d.properties) ?_ ?_
    · intro package className
      rw [ImportCollector.hasClass_collect, List.mem_flatMap]
    · intro package className hneeded
      obtain ⟨p, -, hp⟩ := List.mem_flatMap.1 hneeded
      exact PropertyDescriptor.dot_notMem_of_mem_neededClasses hp
  importPath_iff := by
    unfold TypeDefinition.classIn
    rw [List.forall₂_map_right_iff, List.forall₂_same]
    exact fun p _ => importPath_memberIn_isSome_iff t p

/-- **The imports of a class are what its members need**, for every model, whether or not it comes
from a manifest, every type mapper and every table of reserved words. -/
theorem importsNeeded_buildWith (model : Model) :
    List.Forall₂ ImportsNeeded model.types (ModelMapping.buildWith t model).classes := by
  rw [classes_buildWith, List.forall₂_map_right_iff, List.forall₂_same]
  exact fun d _ => importsNeeded_classIn t d

end EdmMapping
