/-!
# Reserved words

A table of words that a language keeps for itself, and the text that is put before a name to keep it
apart from them.

* `ReservedWords.isReserved` — membership; capitals do not count, for ASCII letters only;
* `ReservedWords.escape` — the name after the table's text;
* `javaReserved` — the keywords of Java and its three literals.
-/

set_option autoImplicit false

namespace EdmMapping

/-- The name with its ASCII capitals made small: names with the same key count as the same word. -/
def wordKey (name : String) : List Char :=
  name.toList.map Char.toLower

/-- Words that no identifier may be, and the text that an escaped one starts with. -/
structure ReservedWords where
  words : List String
  renamePrefix : String
  deriving DecidableEq, Repr

namespace ReservedWords

/-- Whether the name is one of the words, in any mixture of capitals. -/
def isReserved (table : ReservedWords) (name : String) : Bool :=
  table.words.any fun word => wordKey word = wordKey name

/-- The name kept apart from the words; its own capitals stay. -/
def escape (table : ReservedWords) (name : String) : String :=
  table.renamePrefix ++ name

def size (table : ReservedWords) : Nat := table.words.length

def isEmpty (table : ReservedWords) : Bool := table.words.isEmpty

def sorted (table : ReservedWords) : List String :=
  table.words.mergeSort fun a b => decide (a ≤ b)

theorem isReserved_iff {table : ReservedWords} {name : String} :
    table.isReserved name = true ↔ ∃ word ∈ table.words, wordKey word = wordKey name := by
  simp [isReserved]

end ReservedWords

/-- The keywords of Java with the literals `true`, `false` and `null`. -/
def javaReserved : ReservedWords where
  words := [
    "abstract", "continue", "for", "new", "switch", "assert", "default", "if", "package",
    "synchronized", "boolean", "do", "goto", "private", "this", "break", "double",
    "implements", "protected", "throw", "byte", "else", "import", "public", "throws", "case",
    "enum", "instanceof", "return", "transient", "catch", "extends", "int", "short", "try",
    "char", "final", "interface", "static", "void", "class", "finally", "long", "strictfp",
    "volatile", "const", "float", "native", "super", "while", "true", "false", "null"]
  renamePrefix := "msgraph"

end EdmMapping
