import EdmMapping.Imports.Path
import EdmMapping.OrderedMap
import EdmMapping.Text.Capital

/-!
# Collected imports

The imports of one class: packages in the order in which they are first needed, and the classes of
each package once, in increasing order.

* `add`, `addProperty`, `merge` — more imports: one class, what a property needs, or all those of
  another collector;
* `hasClass`, `isEmpty` — the view by package;
* `lines` — the import statements.
-/

set_option autoImplicit false

namespace EdmMapping

/-- Adds a name to names in strictly increasing order. -/
def insertName (name : String) : List String → List String
  | [] => [name]
  | n :: rest =>
    if name < n then name :: n :: rest
    else if name = n then n :: rest
    else n :: insertName name rest

@[simp] theorem mem_insertName {name other : String} {names : List String} :
    other ∈ insertName name names ↔ other = name ∨ other ∈ names := by
  induction names with
  | nil => simp [insertName]
  | cons n rest ih =>
    unfold insertName
    split
    · simp
    · split
      · rename_i h; subst h; simp
      · simp only [List.mem_cons, ih]
        exact ⟨fun h => by rcases h with h | h | h <;> simp [h],
          fun h => by rcases h with h | h | h <;> simp [h]⟩

/-- The classes needed from each package. -/
structure ImportCollector where
  packages : OrderedMap (List String)

namespace ImportCollector

@[ext] theorem ext {c d : ImportCollector} (h : c.packages = d.packages) : c = d := by
  cases c; cases d; simp_all

def empty : ImportCollector := ⟨OrderedMap.empty⟩

def addAll (c : ImportCollector) (package : String) (classes : List String) : ImportCollector :=
  ⟨c.packages.alter package fun present =>
    classes.foldl (fun names name => insertName name names) (present.getD [])⟩

def add (c : ImportCollector) (package className : String) : ImportCollector :=
  c.addAll package [className]

/-- Adds what the type of a property needs: the set class for a flags enumeration, and the class
itself for a type of the model, whose path is returned.  A type of the model without a qualified
name has no path. -/
def addProperty (c : ImportCollector) (p : PropertyDescriptor) :
    ImportCollector × Except ImportError (Option String) :=
  let ty := p.projectedType
  let c := if ty.isFlags then c.add "java.util" "EnumSet" else c
  if ty.isPrimitive then (c, .ok none)
  else
    match p.importPath with
    | .error e => (c, .error e)
    | .ok path =>
      match splitQualified path with
      | some (package, name) => (c.add package (upperFirst name), .ok (some path))
      | none => (c, .ok (some path))

/-- Adds all that another collector needs. -/
def merge (c other : ImportCollector) : ImportCollector :=
  other.packages.entries.foldl (fun c (package, classes) => c.addAll package classes) c

def hasClass (c : ImportCollector) (package className : String) : Bool :=
  ((c.packages.find? package).getD []).contains className

def isEmpty (c : ImportCollector) : Bool := c.packages.isEmpty

def importLine (package className : String) : String :=
  "import " ++ package ++ "." ++ className ++ ";"

/-- The import statements, package by package. -/
def lines (c : ImportCollector) : List String :=
  c.packages.entries.flatMap fun (package, classes) => classes.map (importLine package)

end ImportCollector

end EdmMapping
