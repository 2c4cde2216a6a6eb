import EdmMapping.Unicode.CaseMapping

/-!
# Capitalised names

Names are capitalised or decapitalised by the full case mapping of their first character; the rest
of the name stays as it is.

* `upperFirst`, `lowerFirst` — the name with its first character in uppercase or in lowercase;
* `upperFirstChars`, `lowerFirstChars` — the same on characters.
-/

set_option autoImplicit false

namespace EdmMapping

open Unicode

def upperFirstChars : List Char → List Char
  | [] => []
  | c :: rest => uppercase c ++ rest

def lowerFirstChars : List Char → List Char
  | [] => []
  | c :: rest => lowercase c ++ rest

/-- The name with its first character in uppercase. -/
def upperFirst (name : String) : String :=
  String.ofList (upperFirstChars name.toList)

/-- The name with its first character in lowercase. -/
def lowerFirst (name : String) : String :=
  String.ofList (lowerFirstChars name.toList)

@[simp] theorem toList_upperFirst (name : String) :
    (upperFirst name).toList = upperFirstChars name.toList := by
  simp [upperFirst]

@[simp] theorem toList_lowerFirst (name : String) :
    (lowerFirst name).toList = lowerFirstChars name.toList := by
  simp [lowerFirst]

/-- Two names have the same capitalisation exactly if their characters have. -/
theorem upperFirst_eq_iff {a b : String} :
    upperFirst a = upperFirst b ↔ upperFirstChars a.toList = upperFirstChars b.toList := by
  rw [← String.toList_inj, toList_upperFirst, toList_upperFirst]

end EdmMapping
