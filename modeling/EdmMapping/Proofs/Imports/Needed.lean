import EdmMapping.Imports.Collector
import EdmMapping.Proofs.Text.Names

/-!
# What is needed

A property needs classes that depend on its projected type alone; a collector that has gone through
properties needs the classes that one of them needs.

* `PropertyDescriptor.neededClasses` — packages and classes that a property needs;
* `addProperty_eq` — one step: going through a property adds these, and what it returns depends on
  the property alone;
* `addGroups`, `addEach`, `collect` — a collector after groups of classes, after single classes, and
  after properties; `hasClass_addGroups`, `hasClass_collect` — what is needed then;
* `mem_lines_iff` — the import statements are those of the needed classes.
-/

set_option autoImplicit false

namespace EdmMapping

/-! ## Properties -/

/-- An import path is cut where the qualified name was. -/
theorem splitQualified_importPath {text ns name : String}
    (h : splitQualified text = some (ns, name)) :
    splitQualified (Unicode.lowercaseText ns ++ "." ++ name) =
      some (Unicode.lowercaseText ns, name) :=
  splitQualified_eq_some_iff.2 ⟨rfl, (splitQualified_eq_some_iff.1 h).2⟩

namespace PropertyDescriptor

/-- The packages and classes that the type of a property needs. -/
def neededClasses (p : PropertyDescriptor) : List (String × String) :=
  (if p.projectedType.isFlags then [("java.util", "EnumSet")] else []) ++
  (if p.projectedType.isPrimitive then []
   else
    match splitQualified p.projectedType.qualifiedName with
    | some (ns, name) => [(Unicode.lowercaseText ns, upperFirst name)]
    | none => [])

end PropertyDescriptor

namespace ImportCollector

variable {package className : String}

theorem mem_foldl_insertName {name : String} {classes names : List String} :
    name ∈ classes.foldl (fun names name => insertName name names) names ↔
      name ∈ classes ∨ name ∈ names := by
  induction classes generalizing names with
  | nil => simp
  | cons c classes ih =>
    rw [List.foldl_cons, ih, mem_insertName, List.mem_cons]
    constructor
    · rintro (h | h | h)
      · exact .inl (.inr h)
      · exact .inl (.inl h)
      · exact .inr h
    · rintro ((h | h) | h)
      · exact .inr (.inl h)
      · exact .inl h
      · exact .inr (.inr h)

/-- Adding classes of a package makes these needed, and nothing else. -/
theorem hasClass_addAll (c : ImportCollector) (added : String) (classes : List String) :
    (c.addAll added classes).hasClass package className = true ↔
      (package = added ∧ className ∈ classes) ∨ c.hasClass package className = true := by
  unfold hasClass addAll
  by_cases h : package = added
  · subst h
    simp [OrderedMap.find?_alter_self, mem_foldl_insertName]
  · simp [OrderedMap.find?_alter_of_ne _ h, h]

/-- A collector after groups of classes, each group of one package. -/
def addGroups (c : ImportCollector) (groups : List (String × List String)) : ImportCollector :=
  groups.foldl (fun c (package, classes) => c.addAll package classes) c

theorem addGroups_cons (c : ImportCollector) (added : String) (classes : List String)
    (groups : List (String × List String)) :
    c.addGroups ((added, classes) :: groups) = (c.addAll added classes).addGroups groups := rfl

theorem hasClass_addGroups (c : ImportCollector) (groups : List (String × List String)) :
    (c.addGroups groups).hasClass package className = true ↔
      (∃ classes, (package, classes) ∈ groups ∧ className ∈ classes) ∨
        c.hasClass package className = true := by
  induction groups generalizing c with
  | nil => simp [addGroups]
  | cons group groups ih =>
    obtain ⟨added, classes⟩ := group
    rw [addGroups_cons, ih, hasClass_addAll]
    simp only [List.mem_cons, Prod.mk.injEq]
    constructor
    · rintro (⟨names, hmem, hname⟩ | ⟨rfl, hname⟩ | h)
      · exact .inl ⟨names, .inr hmem, hname⟩
      · exact .inl ⟨classes, .inl ⟨rfl, rfl⟩, hname⟩
      · exact .inr h
    · rintro (⟨names, ⟨rfl, rfl⟩ | hmem, hname⟩ | h)
      · exact .inr (.inl ⟨rfl, hname⟩)
      · exact .inl ⟨names, hmem, hname⟩
      · exact .inr (.inr h)

def addEach (c : ImportCollector) (needed : List (String × String)) : ImportCollector :=
  needed.foldl (fun c (package, className) => c.add package className) c

theorem addEach_cons (c : ImportCollector) (added className : String)
    (needed : List (String × String)) :
    c.addEach ((added, className) :: needed) = (c.add added className).addEach needed := rfl

/-- Single classes are groups of one. -/
theorem addEach_eq_addGroups (c : ImportCollector) (needed : List (String × String)) :
    c.addEach needed =
      c.addGroups (needed.map fun (package, className) => (package, [className])) := by
  unfold addEach addGroups
  rw [List.foldl_map]
  rfl

theorem addEach_append (c : ImportCollector) (needed more : List (String × String)) :
    c.addEach (needed ++ more) = (c.addEach needed).addEach more :=
  List.foldl_append

theorem hasClass_addEach (c : ImportCollector) (needed : List (String × String)) :
    (c.addEach needed).hasClass package className = true ↔
      (package, className) ∈ needed ∨ c.hasClass package className = true := by
  rw [addEach_eq_addGroups, hasClass_addGroups]
  refine or_congr_left ?_
  constructor
  · rintro ⟨_, hgroup, hname⟩
    obtain ⟨⟨added, name⟩, hentry, heq⟩ := List.mem_map.1 hgroup
    obtain ⟨rfl, rfl⟩ := Prod.mk.inj heq
    rwa [List.mem_singleton.1 hname]
  · intro hentry
    exact ⟨[className], List.mem_map_of_mem hentry, by simp⟩

/-- Going through a property adds what its type needs; what is returned does not depend on what was
needed before. -/
theorem addProperty_eq (c : ImportCollector) (p : PropertyDescriptor) :
    c.addProperty p = (c.addEach p.neededClasses,
      if p.projectedType.isPrimitive then .ok none else p.importPath.map some) := by
  have hflags : (if p.projectedType.isFlags then c.add "java.util" "EnumSet" else c) =
      c.addEach (if p.projectedType.isFlags then [("java.util", "EnumSet")] else []) := by
    split <;> rfl
  unfold addProperty PropertyDescriptor.neededClasses
  simp only [addEach_append, ← hflags]
  generalize (if p.projectedType.isFlags then c.add "java.util" "EnumSet" else c) = c'
  by_cases hprimitive : p.projectedType.isPrimitive = true
  · rw [if_pos hprimitive, if_pos hprimitive, if_pos hprimitive]
    rfl
  · rw [if_neg hprimitive, if_neg hprimitive, if_neg hprimitive]
    unfold PropertyDescriptor.importPath lowercasedImportPath
    cases hsplit : splitQualified p.projectedType.qualifiedName with
    | none => rfl
    | some parts =>
      obtain ⟨ns, name⟩ := parts
      simp only [splitQualified_importPath hsplit]
      rfl

def collect (ps : List PropertyDescriptor) : ImportCollector :=
  empty.addEach (ps.flatMap (·.neededClasses))

theorem hasClass_collect (ps : List PropertyDescriptor) :
    (collect ps).hasClass package className = true ↔
      ∃ p ∈ ps, (package, className) ∈ p.neededClasses := by
  have hempty : empty.hasClass package className = false := rfl
  unfold collect
  rw [hasClass_addEach, List.mem_flatMap, hempty]
  simp

theorem hasClass_iff (c : ImportCollector) :
    c.hasClass package className = true ↔
      ∃ classes, (package, classes) ∈ c.packages.entries ∧ className ∈ classes := by
  unfold hasClass
  simp only [← OrderedMap.find?_eq_some_iff]
  cases c.packages.find? package with
  | none => simp
  | some classes => simp

theorem mem_lines_iff (c : ImportCollector) {line : String} :
    line ∈ c.lines ↔
      ∃ package className, c.hasClass package className = true ∧
        line = importLine package className := by
  unfold lines
  simp only [hasClass_iff, List.mem_flatMap]
  constructor
  · rintro ⟨⟨package, classes⟩, hentry, hline⟩
    obtain ⟨className, hclass, rfl⟩ := List.mem_map.1 hline
    exact ⟨package, className, ⟨classes, hentry, hclass⟩, rfl⟩
  · rintro ⟨package, className, ⟨classes, hentry, hclass⟩, rfl⟩
    exact ⟨(package, classes), hentry, List.mem_map.2 ⟨className, hclass, rfl⟩⟩

end ImportCollector

end EdmMapping
