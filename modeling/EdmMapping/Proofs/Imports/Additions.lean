import EdmMapping.Proofs.Imports.Order
import EdmMapping.Proofs.Imports.Path

/-!
# What one property adds

Going through a property has one of three outcomes, and each of them says what has been added:
nothing or the set class for a type of `Edm` and for a type without a qualified name, and the class
of the type as well for any other one.  The set class is added before the name is looked at, so it
stays when the property is refused.

* `classesOf`, `IsAddition` — a collector with more classes, and otherwise unchanged;
  `isAddition_addEach` — adding classes one by one leads to one;
* `withSetClass` — what is added whatever the outcome;
* `addProperty_of_isPrimitive`, `addProperty_of_unqualified`, `addProperty_of_qualified` — the three
  outcomes;
* `addProperty_exact` — each outcome, when it occurs and the collector that it leaves.
-/

set_option autoImplicit false

namespace EdmMapping

open Unicode

namespace ImportCollector

variable {c : ImportCollector} {p : PropertyDescriptor} {package : String}

/-! ## Additions -/

/-- The classes needed from a package, in their order. -/
def classesOf (c : ImportCollector) (package : String) : List String :=
  (c.packages.find? package).getD []

/-- The second collector is the first one with the classes added, and nothing else is changed. -/
structure IsAddition (before after : ImportCollector) (added : List (String × String)) : Prop where
  hasClass_iff : ∀ package className, after.hasClass package className = true ↔
    (package, className) ∈ added ∨ before.hasClass package className = true
  /-- Packages keep their places, and new ones come last, in the order in which they are added
  to. -/
  keys_eq : after.packages.keys = (before.packages.keys ++ added.map Prod.fst).eraseDups
  /-- A package that nothing is added to is left as it is. -/
  find?_eq : ∀ package, package ∉ added.map Prod.fst →
    after.packages.find? package = before.packages.find? package
  /-- The classes of a package keep their order, and increase afterwards if they did before. -/
  sublist : ∀ package, (before.classesOf package).Sublist (after.classesOf package)
  isSorted : before.IsSorted → after.IsSorted

theorem sublist_insertName (name : String) (names : List String) :
    names.Sublist (insertName name names) := by
  induction names with
  | nil => exact List.nil_sublist _
  | cons n rest ih =>
    unfold insertName
    split
    · exact List.sublist_cons_self name (n :: rest)
    · split
      · exact List.Sublist.refl _
      · exact ih.cons_cons n

theorem classesOf_add_self (c : ImportCollector) (package className : String) :
    (c.add package className).classesOf package = insertName className (c.classesOf package) := by
  unfold classesOf add addAll
  rw [OrderedMap.find?_alter_self]
  rfl

theorem find?_add_of_ne (c : ImportCollector) {added : String} (h : package ≠ added)
    (className : String) :
    (c.add added className).packages.find? package = c.packages.find? package :=
  c.packages.find?_alter_of_ne h _

theorem sublist_classesOf_add (c : ImportCollector) (added className package : String) :
    (c.classesOf package).Sublist ((c.add added className).classesOf package) := by
  by_cases h : package = added
  · rw [h, classesOf_add_self]
    exact sublist_insertName className _
  · unfold classesOf
    rw [find?_add_of_ne c h]

theorem find?_addEach_of_notMem {added : List (String × String)}
    (h : package ∉ added.map Prod.fst) :
    (c.addEach added).packages.find? package = c.packages.find? package := by
  induction added generalizing c with
  | nil => rfl
  | cons entry added ih =>
    obtain ⟨other, className⟩ := entry
    rw [List.map_cons, List.mem_cons, not_or] at h
    obtain ⟨hfirst, hrest⟩ := h
    rw [addEach_cons, ih hrest, find?_add_of_ne c hfirst]

theorem sublist_classesOf_addEach (c : ImportCollector) (added : List (String × String))
    (package : String) : (c.classesOf package).Sublist ((c.addEach added).classesOf package) := by
  induction added generalizing c with
  | nil => exact List.Sublist.refl _
  | cons entry added ih =>
    obtain ⟨other, className⟩ := entry
    rw [addEach_cons]
    exact (sublist_classesOf_add c other className package).trans (ih _)

/-- A list without duplicates consists of first occurrences. -/
theorem eraseDups_of_nodup {keys : List String} (h : keys.Nodup) : keys.eraseDups = keys := by
  induction keys with
  | nil => rfl
  | cons key keys ih =>
    obtain ⟨hkey, hkeys⟩ := List.nodup_cons.1 h
    have hrest : keys.filter (fun other => !other == key) = keys := by
      rw [List.filter_eq_self]
      intro other hother
      simpa using ne_of_mem_of_not_mem hother hkey
    rw [List.eraseDups_cons, hrest, ih hkeys]

theorem isAddition_addEach (c : ImportCollector) (added : List (String × String)) :
    IsAddition c (c.addEach added) added where
  hasClass_iff _ _ := hasClass_addEach c added
  keys_eq := keys_addEach _ (eraseDups_of_nodup c.packages.nodup_keys).symm added
  find?_eq _ h := find?_addEach_of_notMem h
  sublist := sublist_classesOf_addEach c added
  isSorted h := isSorted_addEach h added

/-! ## Outcomes -/

/-- The collector with the set class, if the type of the property is a flags enumeration. -/
def withSetClass (c : ImportCollector) (p : PropertyDescriptor) : ImportCollector :=
  if p.projectedType.isFlags then c.add "java.util" "EnumSet" else c

theorem addEach_setClass_append (c : ImportCollector) (p : PropertyDescriptor)
    (more : List (String × String)) :
    c.addEach ((if p.projectedType.isFlags then [("java.util", "EnumSet")] else []) ++ more) =
      (c.withSetClass p).addEach more := by
  rw [addEach_append, withSetClass]
  split
  · rfl
  · rfl

/-- A type of `Edm` needs no class of its own. -/
theorem addProperty_of_isPrimitive (h : p.projectedType.isPrimitive = true) :
    c.addProperty p = (c.withSetClass p, .ok none) := by
  rw [addProperty_eq, PropertyDescriptor.neededClasses, if_pos h, if_pos h, addEach_setClass_append]
  rfl

/-- A type without a qualified name is refused, after the set class has been added. -/
theorem addProperty_of_unqualified (h : p.projectedType.isPrimitive = false)
    (hdot : '.' ∉ p.projectedType.qualifiedName.toList) :
    c.addProperty p =
      (c.withSetClass p, .error (.unqualified p.projectedType.qualifiedName)) := by
  have hpath : p.importPath = .error (.unqualified p.projectedType.qualifiedName) :=
    lowercasedImportPath_eq_error_iff.2 ⟨hdot, rfl⟩
  have hdomain : ¬ p.projectedType.isPrimitive = true := by simp [h]
  rw [addProperty_eq, PropertyDescriptor.neededClasses, if_neg hdomain, if_neg hdomain, hpath,
    splitQualified_eq_none_iff.2 hdot, addEach_setClass_append]
  rfl

/-- Any other type is imported, and its path is returned. -/
theorem addProperty_of_qualified {ns name : String} (h : p.projectedType.isPrimitive = false)
    (hname : p.projectedType.qualifiedName = ns ++ "." ++ name) (hdot : '.' ∉ name.toList) :
    c.addProperty p =
      ((c.withSetClass p).add (lowercaseText ns) (upperFirst name),
        .ok (some (lowercaseText ns ++ "." ++ name))) := by
  have hpath : p.importPath = .ok (lowercaseText ns ++ "." ++ name) :=
    lowercasedImportPath_eq_ok_iff.2 ⟨ns, name, hname, hdot, rfl⟩
  have hdomain : ¬ p.projectedType.isPrimitive = true := by simp [h]
  rw [addProperty_eq, PropertyDescriptor.neededClasses, if_neg hdomain, if_neg hdomain, hpath,
    splitQualified_eq_some_iff.2 ⟨hname, hdot⟩, addEach_setClass_append]
  rfl

/-- There is no fourth outcome. -/
theorem addProperty_cases (c : ImportCollector) (p : PropertyDescriptor) :
    (p.projectedType.isPrimitive = true ∧ c.addProperty p = (c.withSetClass p, .ok none)) ∨
    (p.projectedType.isPrimitive = false ∧ '.' ∉ p.projectedType.qualifiedName.toList ∧
      c.addProperty p =
        (c.withSetClass p, .error (.unqualified p.projectedType.qualifiedName))) ∨
    (p.projectedType.isPrimitive = false ∧
      ∃ ns name, p.projectedType.qualifiedName = ns ++ "." ++ name ∧ '.' ∉ name.toList ∧
        c.addProperty p = ((c.withSetClass p).add (lowercaseText ns) (upperFirst name),
          .ok (some (lowercaseText ns ++ "." ++ name)))) := by
  cases hprimitive : p.projectedType.isPrimitive with
  | true => exact .inl ⟨rfl, addProperty_of_isPrimitive hprimitive⟩
  | false =>
    right
    cases hsplit : splitQualified p.projectedType.qualifiedName with
    | none =>
      have hdot := splitQualified_eq_none_iff.1 hsplit
      exact .inl ⟨rfl, hdot, addProperty_of_unqualified hprimitive hdot⟩
    | some parts =>
      obtain ⟨ns, name⟩ := parts
      obtain ⟨hname, hdot⟩ := splitQualified_eq_some_iff.1 hsplit
      exact .inr ⟨rfl, ns, name, hname, hdot, addProperty_of_qualified hprimitive hname hdot⟩

/-- **Adding a property is exact on success, and leaves the promised collector on failure.**  For
every collector and every property:

* the property is refused exactly if its type is of the model and its qualified name has no dot; the
  set class has been added to the collector then if the type is a flags enumeration, and nothing
  else;
* nothing is returned exactly if the type is one of `Edm`, with the same single addition;
* a path is returned in all other cases; it is the import path of the type, and the class of the
  type has been added as well, under the lowercase of what stands before the last dot of the name;
* and apart from what is added the collector is the same, with its packages and classes in their
  order. -/
theorem addProperty_exact (c : ImportCollector) (p : PropertyDescriptor) :
    (∀ after e, c.addProperty p = (after, .error e) ↔
      (p.projectedType.isPrimitive = false ∧ '.' ∉ p.projectedType.qualifiedName.toList) ∧
        after = c.withSetClass p ∧ e = .unqualified p.projectedType.qualifiedName) ∧
    (∀ after, c.addProperty p = (after, .ok none) ↔
      p.projectedType.isPrimitive = true ∧ after = c.withSetClass p) ∧
    (∀ after path, c.addProperty p = (after, .ok (some path)) ↔
      p.projectedType.isPrimitive = false ∧ p.importPath = .ok path ∧
        ∃ ns name, p.projectedType.qualifiedName = ns ++ "." ++ name ∧ '.' ∉ name.toList ∧
          splitQualified path = some (lowercaseText ns, name) ∧
          after = (c.withSetClass p).add (lowercaseText ns) (upperFirst name)) ∧
    IsAddition c (c.addProperty p).1 p.neededClasses := by
  have houtcome := addProperty_cases c p
  refine ⟨?_, ?_, ?_, ?_⟩
  · intro after e
    constructor
    · intro h
      rw [h] at houtcome
      rcases houtcome with ⟨-, hrun⟩ | ⟨hdomain, hdot, hrun⟩ | ⟨-, ns, name, -, -, hrun⟩
      · cases hrun
      · cases hrun
        exact ⟨⟨hdomain, hdot⟩, rfl, rfl⟩
      · cases hrun
    · rintro ⟨⟨hdomain, hdot⟩, rfl, rfl⟩
      exact addProperty_of_unqualified hdomain hdot
  · intro after
    constructor
    · intro h
      rw [h] at houtcome
      rcases houtcome with ⟨hprimitive, hrun⟩ | ⟨-, -, hrun⟩ | ⟨-, ns, name, -, -, hrun⟩
      · cases hrun
        exact ⟨hprimitive, rfl⟩
      · cases hrun
      · cases hrun
    · rintro ⟨hprimitive, rfl⟩
      exact addProperty_of_isPrimitive hprimitive
  · intro after path
    constructor
    · intro h
      rw [h] at houtcome
      rcases houtcome with ⟨-, hrun⟩ | ⟨-, -, hrun⟩ | ⟨hdomain, ns, name, hname, hdot, hrun⟩
      · cases hrun
      · cases hrun
      · cases hrun
        exact ⟨hdomain, lowercasedImportPath_eq_ok_iff.2 ⟨ns, name, hname, hdot, rfl⟩, ns, name,
          hname, hdot, splitQualified_eq_some_iff.2 ⟨rfl, hdot⟩, rfl⟩
    · rintro ⟨hdomain, -, ns, name, hname, hdot, hsplit, rfl⟩
      rw [(splitQualified_eq_some_iff.1 hsplit).1]
      exact addProperty_of_qualified hdomain hname hdot
  · rw [addProperty_eq]
    exact isAddition_addEach c p.neededClasses

end ImportCollector

end EdmMapping
