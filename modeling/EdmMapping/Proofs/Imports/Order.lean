import Mathlib.Data.List.Nodup
import Mathlib.Data.List.Sort
import EdmMapping.Proofs.Imports.Needed
import EdmMapping.Proofs.Unicode.Isolated

/-!
# The order of import statements

A collector keeps packages in the order in which they are first needed, and the classes of a package
in increasing order.  Both hold of the empty collector and are kept by adding classes.

* `pairwise_insertName` — a name is inserted at its place;
* `ImportCollector.IsSorted`, `isSorted_addGroups` — the classes of every package increase;
* `keys_addGroups` — the packages, each where it is needed first;
* `importLine_inj` — a statement names one package and one class, as long as the class has no dot;
* `nodup_lines` — no statement stands twice;
* `GroupsNeeded`, `GroupsNeeded.unique` — what is needed, package by package; it can be grouped in
  one way only;
* `Grouped`, `grouped_lines` — statements package by package.
-/

set_option autoImplicit false

namespace EdmMapping

theorem pairwise_insertName {name : String} {names : List String}
    (h : names.Pairwise (· < ·)) : (insertName name names).Pairwise (· < ·) := by
  induction names with
  | nil => exact List.pairwise_singleton _ _
  | cons n rest ih =>
    obtain ⟨hn, hrest⟩ := List.pairwise_cons.1 h
    unfold insertName
    by_cases hlt : name < n
    · rw [if_pos hlt]
      refine List.pairwise_cons.2 ⟨?_, h⟩
      intro other hother
      rcases List.mem_cons.1 hother with rfl | hother
      · exact hlt
      · exact String.lt_trans hlt (hn other hother)
    · by_cases heq : name = n
      · rw [if_neg hlt, if_pos heq]
        exact h
      · rw [if_neg hlt, if_neg heq]
        have hgt : n < name := by
          refine Classical.not_not.1 fun hge => heq ?_
          exact String.le_antisymm (String.not_lt.1 hge) (String.not_lt.1 hlt)
        refine List.pairwise_cons.2 ⟨?_, ih hrest⟩
        intro other hother
        rcases mem_insertName.1 hother with rfl | hother
        · exact hgt
        · exact hn other hother

theorem pairwise_foldl_insertName {classes names : List String} (h : names.Pairwise (· < ·)) :
    (classes.foldl (fun names name => insertName name names) names).Pairwise (· < ·) := by
  induction classes generalizing names with
  | nil => exact h
  | cons name classes ih => exact ih (pairwise_insertName h)

/-- One more element at the end of a list, of which first occurrences are kept. -/
theorem eraseDups_concat (seen : List String) (s : String) :
    (seen ++ [s]).eraseDups = if s ∈ seen then seen.eraseDups else seen.eraseDups ++ [s] := by
  rw [List.eraseDups_append]
  by_cases h : s ∈ seen
  · simp [List.removeAll, h]
  · simp [List.removeAll, h, List.eraseDups_cons]

namespace ImportCollector

variable {c : ImportCollector}

/-! ## Classes -/

/-- Every package has classes, in strictly increasing order. -/
def IsSorted (c : ImportCollector) : Prop :=
  ∀ entry ∈ c.packages.entries, entry.2 ≠ [] ∧ entry.2.Pairwise (· < ·)

theorem isSorted_empty : empty.IsSorted := fun _ hentry => (by cases hentry)

theorem isSorted_addAll (h : c.IsSorted) (package : String) {classes : List String}
    (hne : classes ≠ []) : (c.addAll package classes).IsSorted := by
  rintro ⟨other, names⟩ hentry
  rw [← OrderedMap.find?_eq_some_iff] at hentry
  unfold addAll at hentry
  by_cases hother : other = package
  · subst hother
    rw [OrderedMap.find?_alter_self, Option.some.injEq] at hentry
    subst hentry
    obtain ⟨name, hname⟩ := List.exists_mem_of_ne_nil classes hne
    refine ⟨List.ne_nil_of_mem (mem_foldl_insertName.2 (.inl hname)), ?_⟩
    apply pairwise_foldl_insertName
    cases hfind : c.packages.find? other with
    | none => exact List.Pairwise.nil
    | some present => exact (h (other, present) (c.packages.find?_eq_some_iff.1 hfind)).2
  · rw [OrderedMap.find?_alter_of_ne _ hother] at hentry
    exact h (other, names) (c.packages.find?_eq_some_iff.1 hentry)

theorem isSorted_addGroups (h : c.IsSorted) {groups : List (String × List String)}
    (hne : ∀ group ∈ groups, group.2 ≠ []) : (c.addGroups groups).IsSorted := by
  induction groups generalizing c with
  | nil => exact h
  | cons group groups ih =>
    exact ih (isSorted_addAll h group.1 (hne group (by simp)))
      fun other hother => hne other (List.mem_cons_of_mem group hother)

theorem isSorted_addEach (h : c.IsSorted) (needed : List (String × String)) :
    (c.addEach needed).IsSorted := by
  rw [addEach_eq_addGroups]
  apply isSorted_addGroups h
  intro group hgroup
  obtain ⟨entry, -, rfl⟩ := List.mem_map.1 hgroup
  exact List.cons_ne_nil _ _

/-! ## Packages -/

/-- A package goes to the end when it is needed first, and stays there. -/
theorem keys_addGroups (seen : List String) (h : c.packages.keys = seen.eraseDups)
    (groups : List (String × List String)) :
    (c.addGroups groups).packages.keys = (seen ++ groups.map Prod.fst).eraseDups := by
  induction groups generalizing c seen with
  | nil => rw [List.map_nil, List.append_nil]; exact h
  | cons group groups ih =>
    obtain ⟨package, classes⟩ := group
    have hadd : (c.addAll package classes).packages.keys = (seen ++ [package]).eraseDups := by
      unfold addAll
      rw [OrderedMap.keys_alter, eraseDups_concat, h]
      simp only [List.mem_eraseDups]
    rw [addGroups_cons, ih (seen ++ [package]) hadd, List.map_cons, List.append_assoc,
      List.singleton_append]

theorem keys_addEach (seen : List String) (h : c.packages.keys = seen.eraseDups)
    (needed : List (String × String)) :
    (c.addEach needed).packages.keys = (seen ++ needed.map Prod.fst).eraseDups := by
  rw [addEach_eq_addGroups, keys_addGroups seen h, List.map_map]
  rfl

theorem keys_collect (ps : List PropertyDescriptor) :
    (collect ps).packages.keys = ((ps.flatMap (·.neededClasses)).map Prod.fst).eraseDups :=
  keys_addEach [] rfl _

/-! ## Statements -/

/-- The class of a statement stands behind its last dot. -/
theorem importLine_inj {package package' className className' : String}
    (hdot : '.' ∉ className.toList) (hdot' : '.' ∉ className'.toList)
    (h : importLine package className = importLine package' className') :
    package = package' ∧ className = className' := by
  unfold importLine at h
  have htext : "import " ++ package ++ "." ++ className =
      "import " ++ package' ++ "." ++ className' := (String.append_left_inj ";").1 h
  have hsplit : splitQualified ("import " ++ package ++ "." ++ className) =
      some ("import " ++ package, className) := splitQualified_eq_some_iff.2 ⟨rfl, hdot⟩
  have hsplit' : splitQualified ("import " ++ package ++ "." ++ className) =
      some ("import " ++ package', className') := splitQualified_eq_some_iff.2 ⟨htext, hdot'⟩
  rw [hsplit, Option.some.injEq, Prod.mk.injEq] at hsplit'
  obtain ⟨hpackage, hclass⟩ := hsplit'
  exact ⟨(String.append_right_inj "import ").1 hpackage, hclass⟩

theorem nodup_lines (hsorted : c.IsSorted)
    (hdot : ∀ package className, c.hasClass package className = true → '.' ∉ className.toList) :
    c.lines.Nodup := by
  have hclass : ∀ entry ∈ c.packages.entries, ∀ className ∈ entry.2, '.' ∉ className.toList :=
    fun entry hentry className hmem =>
      hdot entry.1 className (c.hasClass_iff.2 ⟨entry.2, hentry, hmem⟩)
  unfold lines
  rw [List.nodup_flatMap]
  constructor
  · intro entry hentry
    have hnodup : entry.2.Nodup := (hsorted entry hentry).2.imp String.ne_of_lt
    refine hnodup.map_on fun x hx y hy heq => ?_
    exact (importLine_inj (hclass entry hentry x hx) (hclass entry hentry y hy) heq).2
  · have hkeys : c.packages.entries.Pairwise fun e e' => e.1 ≠ e'.1 :=
      List.pairwise_map.1 c.packages.nodup_keys
    refine hkeys.imp_of_mem ?_
    intro entry entry' hentry hentry' hne line hline hline'
    obtain ⟨x, hx, rfl⟩ := List.mem_map.1 hline
    obtain ⟨y, hy, heq⟩ := List.mem_map.1 hline'
    have hpackage := importLine_inj (hclass entry' hentry' y hy) (hclass entry hentry x hx) heq
    exact hne hpackage.1.symm

/-! ## Statements package by package -/

/-- What is needed, in groups: every package once, in the order in which they are needed first, and
with each package the classes that are needed from it, in strictly increasing order.  The name of a
class has no dot, so a statement tells its package. -/
structure GroupsNeeded (needed : List (String × String)) (groups : List (String × List String)) :
    Prop where
  packages : groups.map Prod.fst = (needed.map Prod.fst).eraseDups
  nodup : (groups.map Prod.fst).Nodup
  sorted : ∀ group ∈ groups, group.2 ≠ [] ∧ group.2.Pairwise (· < ·)
  mem_iff : ∀ group ∈ groups, ∀ className, className ∈ group.2 ↔ (group.1, className) ∈ needed
  dot_notMem : ∀ group ∈ groups, ∀ className ∈ group.2, '.' ∉ className.toList

/-- What is needed can be grouped in one way only. -/
theorem GroupsNeeded.unique {needed : List (String × String)}
    {groups groups' : List (String × List String)} (h : GroupsNeeded needed groups)
    (h' : GroupsNeeded needed groups') : groups = groups' := by
  have hpackages : groups.map Prod.fst = groups'.map Prod.fst := h.packages.trans h'.packages.symm
  refine List.ext_getElem (by simpa using congrArg List.length hpackages) fun i hi hi' => ?_
  have hpackage : groups[i].1 = groups'[i].1 := by
    have hat := congrArg (fun packages => packages[i]?) hpackages
    simpa [hi, hi'] using hat
  have hmem := List.getElem_mem hi
  have hmem' := List.getElem_mem hi'
  -- strictly increasing names are known from which names there are
  have hclasses : groups[i].2 = groups'[i].2 := by
    apply (h.sorted _ hmem).2.eq_of_mem_iff (h'.sorted _ hmem').2
    intro className
    rw [h.mem_iff _ hmem, h'.mem_iff _ hmem', hpackage]
  exact Prod.ext hpackage hclasses

/-- The statements are those of what is needed, package by package. -/
def Grouped (needed : List (String × String)) (lines : List String) : Prop :=
  ∃ groups, GroupsNeeded needed groups ∧
    lines = groups.flatMap fun (package, classes) => classes.map (importLine package)

theorem grouped_lines {needed : List (String × String)} (h : c.IsSorted)
    (hkeys : c.packages.keys = (needed.map Prod.fst).eraseDups)
    (hclass : ∀ package className,
      c.hasClass package className = true ↔ (package, className) ∈ needed)
    (hdot : ∀ package className, (package, className) ∈ needed → '.' ∉ className.toList) :
    Grouped needed c.lines := by
  have hmem : ∀ group ∈ c.packages.entries, ∀ className,
      className ∈ group.2 ↔ (group.1, className) ∈ needed := by
    rintro ⟨package, classes⟩ hgroup className
    rw [← hclass, c.hasClass_iff]
    constructor
    · exact fun hname => ⟨classes, hgroup, hname⟩
    · rintro ⟨classes', hgroup', hname⟩
      rw [← c.packages.find?_eq_some_iff] at hgroup hgroup'
      rw [hgroup, Option.some.injEq] at hgroup'
      rwa [hgroup']
  refine ⟨c.packages.entries, ?_, rfl⟩
  exact
    { packages := hkeys
      nodup := c.packages.nodup_keys
      sorted := h
      mem_iff := hmem
      dot_notMem := fun group hgroup className hname =>
        hdot group.1 className ((hmem group hgroup className).1 hname) }

end ImportCollector

/-! ## Needed classes -/

/-- Capitalising the last part of a qualified name adds no dot to it. -/
theorem PropertyDescriptor.dot_notMem_of_mem_neededClasses {p : PropertyDescriptor}
    {package className : String} (h : (package, className) ∈ p.neededClasses) :
    '.' ∉ className.toList := by
  unfold neededClasses at h
  rcases List.mem_append.1 h with h | h
  · split at h
    · obtain ⟨rfl, rfl⟩ := Prod.mk.inj (List.mem_singleton.1 h)
      decide
    · cases h
  · split at h
    · cases h
    · split at h
      · rename_i ns name hsplit
        obtain ⟨rfl, rfl⟩ := Prod.mk.inj (List.mem_singleton.1 h)
        rw [mem_upperFirst_iff Unicode.uppercase_isolated_dot]
        exact (splitQualified_eq_some_iff.1 hsplit).2
      · cases h

end EdmMapping
