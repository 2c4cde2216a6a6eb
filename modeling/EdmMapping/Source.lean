import EdmMapping.Text.Search

/-!
# Sources

The text that a model description was read from, and places in it.

* `Source.find` — the place of a text;
* `Source.findQuoted` — the place of a text between quotes, without the quotes.
-/

set_option autoImplicit false

namespace EdmMapping

/-- A text and the name of the file that it comes from. -/
structure Source where
  text : String
  fileName : String
  deriving DecidableEq, Repr

/-- A part of a text: where it starts and how long it is, in bytes. -/
structure Span where
  offset : Nat
  length : Nat
  deriving DecidableEq, Repr

namespace Source

/-- The first occurrence of a text; an empty one has no place. -/
def find (s : Source) (needle : String) : Option Span :=
  if needle.isEmpty then none
  else (byteOffset? needle s.text).map fun offset => ⟨offset, utf8Size needle.toList⟩

/-- The first occurrence of a text between quotes, without the quotes. -/
def findQuoted (s : Source) (value : String) : Option Span :=
  (byteOffset? ("\"" ++ value ++ "\"") s.text).map fun offset =>
    ⟨offset + 1, utf8Size value.toList⟩

end Source

end EdmMapping
