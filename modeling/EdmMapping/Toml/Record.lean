import EdmMapping.OrderedMap
import EdmMapping.Toml.Value

/-!
# Reading TOML values

Shapes that the parts of a description are written in.

* `Value.record?` — values under names that are fixed beforehand; a record may also be an array,
  with its values in the order of the names;
* `Value.word?` — one of a fixed set of choices;
* `Value.orderedMap?` — a table with keys of the author's choice.
-/

set_option autoImplicit false

namespace EdmMapping.Toml.Value

/-- The values of a record with the named fields: under their names in a table, which has no others,
or in their order in an array, where further items are ignored. -/
def record? (names : List String) : Value → Option (String → Option Value)
  | .array items => some fun name => (names.zip items).lookup name
  | value => do
    let entries ← value.entries?
    guard (entries.all fun entry => names.contains entry.1)
    return fun name => entries.lookup name

def isUnit : Value → Bool
  | .table entries => entries.isEmpty
  | .array items => items.isEmpty
  | _ => false

/-- The word of a choice: a string, or a table whose only key is the word, with nothing in it. -/
def word? : Value → Option String
  | .string word => some word
  | .table [(word, value)] => if value.isUnit then some word else none
  | _ => none

/-- Reads the entries of a table. -/
def orderedMap? {β : Type} (read : Value → Option β) (value : Value) : Option (OrderedMap β) := do
  let entries ← value.entries?
  let read ← entries.mapM fun (key, value) => (read value).map fun b => (key, b)
  return OrderedMap.ofList read

end EdmMapping.Toml.Value
