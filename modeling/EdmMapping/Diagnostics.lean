import EdmMapping.Naming.Rename

/-!
# Diagnostics

What is noticed while a model is mapped, in the order in which it is noticed.

* `Diagnostic` — one note with its severity, the stage that made it and, if known, its place;
* `Diagnostics` — the notes collected so far; it is a sink for renames, which become infos.
-/

set_option autoImplicit false

namespace EdmMapping

/-- How much a note matters. -/
inductive Severity where
  /-- The mapping cannot be used. -/
  | error
  /-- The author of the model should look at it. -/
  | warning
  /-- Nothing has to be done. -/
  | info
  deriving DecidableEq, Repr

def Severity.name : Severity → String
  | .error => "error"
  | .warning => "warning"
  | .info => "info"

/-- A note about the model. -/
structure Diagnostic where
  severity : Severity
  stage : String
  message : String
  location : Option String
  deriving DecidableEq, Repr

namespace Diagnostic

/-- The note with its place; a place that it had before is replaced. -/
def locatedAt (d : Diagnostic) (location : String) : Diagnostic :=
  { d with location := some location }

/-- The note that an identifier is renamed. -/
def ofRename (e : RenameEvent) : Diagnostic :=
  ⟨.info, "sanitize", e.message, none⟩

def text (d : Diagnostic) : String :=
  let line := d.severity.name ++ ": " ++ d.message
  match d.location with
  | some location => line ++ " (at " ++ location ++ ")"
  | none => line

end Diagnostic

/-- The notes collected so far, oldest first. -/
structure Diagnostics where
  items : List Diagnostic
  deriving DecidableEq, Repr

namespace Diagnostics

def empty : Diagnostics := ⟨[]⟩

def push (ds : Diagnostics) (d : Diagnostic) : Diagnostics :=
  ⟨ds.items ++ [d]⟩

def size (ds : Diagnostics) : Nat := ds.items.length

def isEmpty (ds : Diagnostics) : Bool := ds.items.isEmpty

def hasErrors (ds : Diagnostics) : Bool :=
  ds.items.any fun d => d.severity = .error

def warningCount (ds : Diagnostics) : Nat :=
  ds.items.countP fun d => d.severity = .warning

/-- The messages of one severity, in order, as `format` writes them. -/
def messages (ds : Diagnostics) (severity : Severity) (format : Diagnostic → String) :
    List String :=
  (ds.items.filter fun d => d.severity = severity).map format

/-- Renames are noted as infos without a place. -/
instance : RenameSink Diagnostics where
  record ds e := ds.push (.ofRename e)

@[simp] theorem items_push (ds : Diagnostics) (d : Diagnostic) :
    (ds.push d).items = ds.items ++ [d] := rfl

@[simp] theorem items_record (ds : Diagnostics) (e : RenameEvent) :
    (RenameSink.record ds e).items = ds.items ++ [.ofRename e] := rfl

end Diagnostics

end EdmMapping
