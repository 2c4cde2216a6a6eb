import EdmMapping.Unicode.UppercaseTable
import EdmMapping.Unicode.LowercaseTable
import EdmMapping.Unicode.CasedTable
import EdmMapping.Unicode.CaseIgnorableTable

/-!
# Case mapping

Uppercase and lowercase of characters, and the lowercase of a text.

* `uppercase`, `lowercase` — the full mapping of one character, without context: one character may
  become two or three;
* `lowercaseText` — the lowercase of a text, which maps every character on its own except the
  capital sigma: at the end of a word it becomes the final sigma `ς`, elsewhere `σ`.
-/

set_option autoImplicit false

namespace EdmMapping.Unicode

/-- The image of a character under a case mapping given by its two tables. -/
def mapCase (expansions : List CaseExpansion) (runs : List CaseRun) (c : Char) : List Char :=
  match expansions.find? (·.source = c) with
  | some e => e.image
  | none =>
    match runs.find? (·.contains c) with
    | some r => [r.image c]
    | none => [c]

def uppercase (c : Char) : List Char :=
  mapCase uppercaseExpansions uppercaseRuns c

def lowercase (c : Char) : List Char :=
  mapCase lowercaseExpansions lowercaseRuns c

/-- Whether the first character that is not case-ignorable exists and is cased. -/
def startsCased (cs : List Char) : Bool :=
  match cs.dropWhile isCaseIgnorable with
  | [] => false
  | c :: _ => isCased c

/-- The lowercase of a capital sigma between `before`, nearest character first, and `after`: final
when a cased letter stands before it and none after it. -/
def lowercaseSigma (before after : List Char) : Char :=
  if startsCased before && !startsCased after then 'ς' else 'σ'

/-- The lowercase of the rest of a text whose characters so far are `before`, nearest first. -/
def lowercaseAfter (before : List Char) : List Char → List Char
  | [] => []
  | c :: rest =>
    (if c = 'Σ' then [lowercaseSigma before rest] else lowercase c)
      ++ lowercaseAfter (c :: before) rest

def lowercaseText (text : String) : String :=
  String.ofList (lowercaseAfter [] text.toList)

@[simp] theorem toList_lowercaseText (text : String) :
    (lowercaseText text).toList = lowercaseAfter [] text.toList := by
  simp [lowercaseText]

end EdmMapping.Unicode
