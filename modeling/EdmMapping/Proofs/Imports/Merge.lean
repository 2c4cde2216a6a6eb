import Mathlib.Data.List.Induction
import Mathlib.Data.List.Sort
import EdmMapping.Proofs.Imports.Order

/-!
# Collectors and the calls behind them

A collector shows no more of its past than the order in which packages were first needed and the
classes needed from each.  Merging brings in exactly what the calls behind the other collector would
have added, had they been made here one after the other.

* `ImportCall`, `ofCalls` — the calls on a collector, and the collector that they lead to;
* `ImportHistory` — how a collector was come by: calls, and merged collectors with histories of
  their own;
* `ext_of_isSorted` — a collector is known from its packages and from what it needs;
* `hasClass_merge`, `keys_merge`, `isSorted_merge` — what merging does to each of them;
* `merge_ofCalls` — merging collectors is making the calls of both;
* `merge_is_concatenation` — the laws of merging, and what every collector shows of its history.
-/

set_option autoImplicit false

namespace EdmMapping

/-- A call that adds to a collector. -/
inductive ImportCall where
  | add (package className : String)
  | addProperty (p : PropertyDescriptor)

/-- The packages and classes that the call adds.  For a property that cannot be imported it is still
the set class, if its type is a flags enumeration. -/
def ImportCall.added : ImportCall → List (String × String)
  | add package className => [(package, className)]
  | addProperty p => p.neededClasses

/-- How a collector was come by. -/
inductive ImportHistory where
  | new
  | call (before : ImportHistory) (step : ImportCall)
  | merge (before other : ImportHistory)

/-- The calls of a history, with those behind merged collectors at the place of the merge. -/
def ImportHistory.calls : ImportHistory → List ImportCall
  | new => []
  | call before step => before.calls ++ [step]
  | merge before other => before.calls ++ other.calls

namespace ImportCollector

def make (c : ImportCollector) : ImportCall → ImportCollector
  | .add package className => c.add package className
  | .addProperty p => (c.addProperty p).1

/-- The collector that the calls lead to, from an empty one. -/
def ofCalls (calls : List ImportCall) : ImportCollector :=
  calls.foldl make empty

end ImportCollector

def ImportHistory.collector : ImportHistory → ImportCollector
  | new => .empty
  | call before step => before.collector.make step
  | merge before other => before.collector.merge other.collector

namespace ImportCollector

variable {c d : ImportCollector} {package className : String}

/-! ## What a collector is known from -/

/-- A collector is known from the order of its packages, and from what it needs. -/
theorem ext_of_isSorted (hc : c.IsSorted) (hd : d.IsSorted)
    (hkeys : c.packages.keys = d.packages.keys)
    (hclass : ∀ package className,
      c.hasClass package className = true ↔ d.hasClass package className = true) : c = d := by
  apply ext
  apply OrderedMap.ext_find? hkeys
  intro package
  by_cases hmem : package ∈ c.packages.keys
  · obtain ⟨names, hnames⟩ := c.packages.mem_keys_iff.1 hmem
    obtain ⟨names', hnames'⟩ := d.packages.mem_keys_iff.1 (hkeys ▸ hmem)
    have hsorted := (hc (package, names) (c.packages.find?_eq_some_iff.1 hnames)).2
    have hsorted' := (hd (package, names') (d.packages.find?_eq_some_iff.1 hnames')).2
    -- strictly increasing names are known from which names there are
    have hsame : names = names' := by
      apply hsorted.eq_of_mem_iff hsorted'
      intro className
      have hiff := hclass package className
      unfold hasClass at hiff
      simpa [hnames, hnames'] using hiff
    rw [hnames, hnames', hsame]
  · have hnone : c.packages.find? package = none := by
      rw [← Option.not_isSome_iff_eq_none, Option.isSome_iff_exists]
      exact fun hsome => hmem (c.packages.mem_keys_iff.2 hsome)
    have hnone' : d.packages.find? package = none := by
      rw [← Option.not_isSome_iff_eq_none, Option.isSome_iff_exists]
      exact fun hsome => hmem (hkeys ▸ d.packages.mem_keys_iff.2 hsome)
    rw [hnone, hnone']

/-! ## Merging -/

theorem hasClass_merge :
    (c.merge d).hasClass package className = true ↔
      d.hasClass package className = true ∨ c.hasClass package className = true := by
  rw [d.hasClass_iff]
  exact hasClass_addGroups c d.packages.entries

theorem keys_merge {seen : List String} (h : c.packages.keys = seen.eraseDups) :
    (c.merge d).packages.keys = (seen ++ d.packages.keys).eraseDups :=
  keys_addGroups seen h d.packages.entries

theorem isSorted_merge (hc : c.IsSorted) (hd : d.IsSorted) : (c.merge d).IsSorted :=
  isSorted_addGroups hc fun entry hentry => (hd entry hentry).1

/-- What stands twice later on can be dropped before first occurrences are kept. -/
theorem eraseDups_append_eraseDups (xs ys : List String) :
    (xs ++ ys.eraseDups).eraseDups = (xs ++ ys).eraseDups := by
  induction ys using List.reverseRecOn with
  | nil => rfl
  | append_singleton ys y ih =>
    rw [eraseDups_concat, ← List.append_assoc, eraseDups_concat (xs ++ ys), ← ih]
    by_cases hy : y ∈ ys
    · rw [if_pos hy, if_pos (List.mem_append_right xs hy)]
    · rw [if_neg hy, ← List.append_assoc, eraseDups_concat]
      simp only [List.mem_append, List.mem_eraseDups]

/-! ## Calls -/

theorem make_eq_addEach (c : ImportCollector) (call : ImportCall) :
    c.make call = c.addEach call.added := by
  cases call with
  | add package className => rfl
  | addProperty p => exact congrArg Prod.fst (c.addProperty_eq p)

theorem ofCalls_eq_addEach (calls : List ImportCall) :
    ofCalls calls = empty.addEach (calls.flatMap (·.added)) := by
  have hrun (c : ImportCollector) : calls.foldl make c = c.addEach (calls.flatMap (·.added)) := by
    induction calls generalizing c with
    | nil => rfl
    | cons call calls ih =>
      rw [List.foldl_cons, make_eq_addEach, ih, List.flatMap_cons, addEach_append]
  exact hrun empty

theorem isSorted_ofCalls (calls : List ImportCall) : (ofCalls calls).IsSorted := by
  rw [ofCalls_eq_addEach]
  exact isSorted_addEach isSorted_empty _

theorem keys_ofCalls (calls : List ImportCall) :
    (ofCalls calls).packages.keys = ((calls.flatMap (·.added)).map Prod.fst).eraseDups := by
  rw [ofCalls_eq_addEach]
  exact keys_addEach [] rfl _

theorem hasClass_ofCalls (calls : List ImportCall) :
    (ofCalls calls).hasClass package className = true ↔
      ∃ call ∈ calls, (package, className) ∈ call.added := by
  have hempty : empty.hasClass package className = false := rfl
  rw [ofCalls_eq_addEach, hasClass_addEach, List.mem_flatMap, hempty]
  simp

/-- **Merging collectors is making the calls of both.** -/
theorem merge_ofCalls (calls others : List ImportCall) :
    (ofCalls calls).merge (ofCalls others) = ofCalls (calls ++ others) := by
  apply ext_of_isSorted
  · exact isSorted_merge (isSorted_ofCalls calls) (isSorted_ofCalls others)
  · exact isSorted_ofCalls (calls ++ others)
  · rw [keys_merge (keys_ofCalls calls), keys_ofCalls others, keys_ofCalls (calls ++ others),
      eraseDups_append_eraseDups, List.flatMap_append, List.map_append]
  · intro package className
    rw [hasClass_merge, hasClass_ofCalls, hasClass_ofCalls, hasClass_ofCalls]
    simp only [List.mem_append, or_and_right, exists_or]
    exact or_comm

theorem collector_eq_ofCalls (h : ImportHistory) : h.collector = ofCalls h.calls := by
  induction h with
  | new => rfl
  | call before step ih =>
    show before.collector.make step = ofCalls (before.calls ++ [step])
    rw [ih, ofCalls, ofCalls, List.foldl_append]
    rfl
  | merge before other ih ih' =>
    show before.collector.merge other.collector = ofCalls (before.calls ++ other.calls)
    rw [ih, ih', merge_ofCalls]

theorem merge_self (h : ImportHistory) : h.collector.merge h.collector = h.collector := by
  rw [collector_eq_ofCalls h]
  have hsorted := isSorted_ofCalls h.calls
  apply ext_of_isSorted (isSorted_merge hsorted hsorted) hsorted
  · have hkeys := keys_ofCalls h.calls
    have hrest (l : List String) : l.removeAll l = [] := by
      simp [List.removeAll, List.filter_eq_nil_iff]
    rw [keys_merge hkeys, hkeys, eraseDups_append_eraseDups, List.eraseDups_append, hrest,
      List.eraseDups_nil, List.append_nil]
  · intro package className
    rw [hasClass_merge, or_self_iff]

/-! ## What a collector shows -/

/-- A package without classes would show in one of the two only. -/
theorem isEmpty_iff_lines_eq_nil (h : c.IsSorted) : c.isEmpty = true ↔ c.lines = [] := by
  unfold isEmpty OrderedMap.isEmpty lines
  rw [List.isEmpty_iff, List.flatMap_eq_nil_iff]
  constructor
  · intro hnil entry hentry
    rw [hnil] at hentry
    cases hentry
  · intro hlines
    apply List.eq_nil_iff_forall_not_mem.2
    intro entry hentry
    exact (h entry hentry).1 (List.map_eq_nil_iff.1 (hlines entry hentry))

/-- The collector shows what the calls added to it, and nothing else. -/
structure Shows (c : ImportCollector) (calls : List ImportCall) : Prop where
  hasClass_iff : ∀ package className,
    c.hasClass package className = true ↔ ∃ call ∈ calls, (package, className) ∈ call.added
  /-- Packages stand in the order in which they were first added to. -/
  keys_eq : c.packages.keys = ((calls.flatMap (·.added)).map Prod.fst).eraseDups
  nodup_keys : c.packages.keys.Nodup
  /-- No package is without classes, and those of a package increase. -/
  isSorted : c.IsSorted
  isEmpty_iff : c.isEmpty = true ↔ c.lines = []

theorem shows_ofCalls (calls : List ImportCall) : (ofCalls calls).Shows calls where
  hasClass_iff _ _ := hasClass_ofCalls calls
  keys_eq := keys_ofCalls calls
  nodup_keys := (ofCalls calls).packages.nodup_keys
  isSorted := isSorted_ofCalls calls
  isEmpty_iff := isEmpty_iff_lines_eq_nil (isSorted_ofCalls calls)

/-- **Collecting takes concatenation of calls to merging of collectors**, package order and classes
included.  So merging collectors, however they were come by, is associative, has the empty collector
as its unit, and changes nothing if a collector is merged into itself.  And every collector shows
what the calls of its history added, be it directly or through merged collectors. -/
theorem merge_is_concatenation :
    (∀ calls others : List ImportCall,
      (ofCalls calls).merge (ofCalls others) = ofCalls (calls ++ others)) ∧
    (∀ a b c : ImportHistory,
      (a.collector.merge b.collector).merge c.collector =
        a.collector.merge (b.collector.merge c.collector)) ∧
    (∀ a : ImportHistory,
      empty.merge a.collector = a.collector ∧ a.collector.merge empty = a.collector ∧
        a.collector.merge a.collector = a.collector) ∧
    ∀ a : ImportHistory, a.collector.Shows a.calls := by
  have hempty : empty = ofCalls [] := rfl
  refine ⟨merge_ofCalls, ?_, ?_, ?_⟩
  · intro a b c
    simp only [collector_eq_ofCalls, merge_ofCalls, List.append_assoc]
  · intro a
    refine ⟨?_, ?_, merge_self a⟩
    · rw [collector_eq_ofCalls, hempty, merge_ofCalls, List.nil_append]
    · rw [collector_eq_ofCalls, hempty, merge_ofCalls, List.append_nil]
  · intro a
    rw [collector_eq_ofCalls]
    exact shows_ofCalls a.calls

/-- A property that cannot be imported needs the set class all the same. -/
example : (ofCalls [.addProperty ⟨"colors", "item", .enumeration "color" true, none⟩]).lines =
    ["import java.util.EnumSet;"] := by
  decide +kernel

end ImportCollector

end EdmMapping
