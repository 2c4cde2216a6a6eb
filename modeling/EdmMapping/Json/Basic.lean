/-!
# JSON values

* `Json` — the values; an object keeps its fields in order, a number its spelling;
* `Json.record?` — the fields of a record, which is written as an object or, by position, as an
  array;
* `Json.word?` — the word for one of a fixed set of choices.
-/

set_option autoImplicit false

namespace EdmMapping

inductive Json where
  | null
  | bool (value : Bool)
  | number (literal : String)
  | string (text : String)
  | array (items : List Json)
  | object (fields : List (String × Json))
  deriving Inhabited

namespace Json

def string? : Json → Option String
  | .string text => some text
  | _ => none

def bool? : Json → Option Bool
  | .bool value => some value
  | _ => none

def array? : Json → Option (List Json)
  | .array items => some items
  | _ => none

def list? {α : Type} (read : Json → Option α) (value : Json) : Option (List α) :=
  value.array?.bind fun items => items.mapM read

/-- The word of a choice: a string, or an object whose only field has the word as name and no
value. -/
def word? : Json → Option String
  | .string word => some word
  | .object [(word, .null)] => some word
  | _ => none

/-- The values of a record with the named fields.  In an object they stand under their names, each
at most once, beside fields of other names; in an array they stand at their positions, and nothing
follows the last of them. -/
def record? (names : List String) : Json → Option (String → Option Json)
  | .object fields =>
    if names.all fun name => fields.countP (fun field => field.1 = name) ≤ 1 then
      some fun name => fields.lookup name
    else none
  | .array items =>
    if items.length ≤ names.length then some fun name => (names.zip items).lookup name
    else none
  | _ => none

/-- Reads a value that has to be there. -/
def required {α : Type} (read : Json → Option α) : Option Json → Option α
  | some value => read value
  | none => none

/-- Reads a value that may be missing, and stands for `default` then. -/
def withDefault {α : Type} (default : α) (read : Json → Option α) : Option Json → Option α
  | some value => read value
  | none => some default

/-- Reads a value that may be missing or null. -/
def nullable {α : Type} (read : Json → Option α) : Option Json → Option (Option α)
  | some .null => some none
  | some value => (read value).map some
  | none => some none

/-- A field that is left out if it has no value. -/
def optionalField (name : String) : Option Json → List (String × Json)
  | some value => [(name, value)]
  | none => []

end Json

end EdmMapping
