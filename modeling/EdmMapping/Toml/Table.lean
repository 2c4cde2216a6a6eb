import EdmMapping.Toml.Value

/-!
# Assembling TOML tables

A document is a sequence of statements: assignments, and headers that open a table or one more
element of an array of tables.  Here the statements are put together to one table.

* `Origin` — how a table came to be, which decides what may still be added to it;
* `assign` — one assignment with a dotted key;
* `openTable`, `openElement` — a header with the assignments below it;
* `assemble` — all statements of a document;
* `assembleInline` — the assignments between two braces.

A key is never given twice.  A table with a header of its own takes no assignments from elsewhere,
and a table that only headers passed through moves to the place of its own header when that comes.
-/

set_option autoImplicit false

namespace EdmMapping.Toml

/-- How a table came to be. -/
inductive Origin where
  | header
  | passed
  | dotted
  deriving DecidableEq, Repr

/-- A part of a document that is being put together. -/
inductive Node where
  /-- A value that is complete, such as a table between braces. -/
  | leaf (value : Value)
  | table (origin : Origin) (entries : List (String × Node))
  /-- An array of tables: those before the last, and the last. -/
  | tables (earlier : List (List (String × Node))) (last : List (String × Node))

/-- The entries of a table that is being put together. -/
abbrev Entries : Type := List (String × Node)

namespace Node

mutual

def toValue : Node → Value
  | leaf value => value
  | table _ entries => .table (entriesToValues entries)
  | tables earlier last =>
    .array (tablesToValues earlier ++ [.table (entriesToValues last)])

def entriesToValues : Entries → List (String × Value)
  | [] => []
  | (key, node) :: rest => (key, node.toValue) :: entriesToValues rest

def tablesToValues : List Entries → List Value
  | [] => []
  | entries :: rest => .table (entriesToValues entries) :: tablesToValues rest

end

end Node

/-- Replaces what stands at the key in its place, or adds to the end if there is nothing. -/
def alterEntry (key : String) (f : Option Node → Option Node) : Entries → Option Entries
  | [] => (f none).map fun node => [(key, node)]
  | (k, node) :: rest =>
    if k = key then (f (some node)).map fun node => (k, node) :: rest
    else (alterEntry key f rest).map ((k, node) :: ·)

/-- Whether the last table on the way of a dotted key may take the assignment: it must have been
made by a dotted key, and the tables before it must not have headers of their own. -/
def admitsAssignment (origin : Origin) (isLast : Bool) : Bool :=
  match origin with
  | .dotted => true
  | .passed => !isLast
  | .header => false

/-- Gives the dotted key a value. -/
def assign (key : String) (value : Value) : List String → Entries → Option Entries
  | [], entries =>
    if (entries.lookup key).isSome then none else some (entries ++ [(key, .leaf value)])
  | k :: path, entries =>
    alterEntry k (fun
      | none => (assign key value path []).map (.table .dotted)
      | some (.table origin inner) =>
        if admitsAssignment origin path.isEmpty then
          (assign key value path inner).map (.table origin)
        else none
      | some (.tables earlier last) =>
        if path.isEmpty then none else (assign key value path last).map (.tables earlier)
      | some (.leaf _) => none) entries

/-- An assignment: the keys on the way, the last key, and the value. -/
structure Assignment where
  path : List String
  key : String
  value : Value

/-- Carries out assignments one after the other. -/
def assignAll (assignments : List Assignment) (entries : Entries) : Option Entries :=
  assignments.foldlM (fun entries a => assign a.key a.value a.path entries) entries

/-- Goes down the keys of a header, through new tables where there are none, and changes the entries
that it arrives at. -/
def descend (f : Entries → Option Entries) : List String → Entries → Option Entries
  | [], entries => f entries
  | k :: path, entries =>
    alterEntry k (fun
      | none => (descend f path []).map (.table .passed)
      | some (.table origin inner) => (descend f path inner).map (.table origin)
      | some (.tables earlier last) => (descend f path last).map (.tables earlier)
      | some (.leaf _) => none) entries

/-- Opens the table of a header and carries out the assignments below it.  A table that is there
already must only have been passed through; it moves to the end. -/
def openTable (key : String) (body : List Assignment) (entries : Entries) : Option Entries :=
  match entries.lookup key with
  | none => (assignAll body []).map fun inner => entries ++ [(key, .table .header inner)]
  | some (.table .passed inner) =>
    (assignAll body inner).map fun inner =>
      (entries.filter fun entry => entry.1 ≠ key) ++ [(key, .table .header inner)]
  | some _ => none

/-- Opens one more element of an array of tables and carries out the assignments below it. -/
def openElement (key : String) (body : List Assignment) (entries : Entries) : Option Entries :=
  alterEntry key (fun
    | none => (assignAll body []).map (.tables [])
    | some (.tables earlier last) => (assignAll body []).map (.tables (earlier ++ [last]))
    | some _ => none) entries

inductive HeaderKind where
  | table
  | element
  deriving DecidableEq, Repr

/-- A header with the assignments below it: the keys on the way and the last key. -/
structure Section where
  kind : HeaderKind
  path : List String
  key : String
  body : List Assignment

/-- Adds a section to the document. -/
def addSection (entries : Entries) (s : Section) : Option Entries :=
  match s.kind with
  | .table => descend (openTable s.key s.body) s.path entries
  | .element => descend (openElement s.key s.body) s.path entries

/-- The entries of a document with assignments before the first header, and sections. -/
def assemble (top : List Assignment) (sections : List Section) :
    Option (List (String × Value)) := do
  let entries ← assignAll top []
  return Node.entriesToValues (← sections.foldlM addSection entries)

/-- The entries of a table between braces. -/
def assembleInline (assignments : List Assignment) : Option (List (String × Value)) :=
  assemble assignments []

end EdmMapping.Toml
