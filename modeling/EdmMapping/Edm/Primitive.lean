/-!
# Edm primitives

The primitive types of the `Edm` namespace that a target language maps to a type of its own.  Any
other `Edm` type (`String`, `Boolean`, `Double`, …) is mapped by capitalising its name, so it has no
constructor here.
-/

set_option autoImplicit false

namespace EdmMapping

/-- The primitives with a mapping of their own. -/
inductive EdmPrimitive where
  | int16
  | int32
  | int64
  | guid
  | dateTimeOffset
  | date
  | timeOfDay
  | duration
  | json
  | binary
  | single
  deriving DecidableEq, Repr

namespace EdmPrimitive

/-- Every primitive with a mapping of its own. -/
def all : List EdmPrimitive :=
  [int16, int32, int64, guid, dateTimeOffset, date, timeOfDay, duration, json, binary, single]

/-- The name of the type as it stands in metadata, without the namespace. -/
def name : EdmPrimitive → String
  | int16 => "Int16"
  | int32 => "Int32"
  | int64 => "Int64"
  | guid => "Guid"
  | dateTimeOffset => "DateTimeOffset"
  | date => "Date"
  | timeOfDay => "TimeOfDay"
  | duration => "Duration"
  | json => "Json"
  | binary => "Binary"
  | single => "Single"

/-- The primitive of that name; names are compared exactly. -/
def ofName? (name : String) : Option EdmPrimitive :=
  all.find? fun p => p.name = name

/-- What is said of a name that no mapped primitive has. -/
def unknownMessage (name : String) : String :=
  "'" ++ name ++ "' is not a mapped Edm primitive"

theorem mem_all (p : EdmPrimitive) : p ∈ all := by
  cases p <;> decide

@[simp] theorem ofName?_name (p : EdmPrimitive) : ofName? p.name = some p := by
  cases p <;> decide

theorem name_of_ofName? {s : String} {p : EdmPrimitive} (h : ofName? s = some p) : p.name = s := by
  simpa using List.find?_some h

end EdmPrimitive

end EdmMapping
