import EdmMapping.Unicode.WhiteSpace

/-!
# Dotted names

A qualified name is a namespace, a dot and a name; the namespace may hold dots itself, so the last
dot is the one that separates.

* `splitAtLastDot` — the two parts of a qualified name;
* `isSimpleName` — a name that can stand between dots: not empty, without dot or white space;
* `isDottedName` — simple names joined by dots.

`splitAtLastDot_eq_some_iff` says that the parts are the only way to write the text as something, a
dot and something without a dot; `splitAtLastDot_eq_none_iff` that only texts without a dot fail.
-/

set_option autoImplicit false

namespace EdmMapping

/-- What stands before and after the last dot. -/
def splitAtLastDot : List Char → Option (List Char × List Char)
  | [] => none
  | c :: rest =>
    match splitAtLastDot rest with
    | some (before, after) => some (c :: before, after)
    | none => if c = '.' then some ([], rest) else none

theorem splitAtLastDot_eq_none_iff {cs : List Char} :
    splitAtLastDot cs = none ↔ '.' ∉ cs := by
  induction cs with
  | nil => simp [splitAtLastDot]
  | cons c rest ih =>
    cases h : splitAtLastDot rest with
    | some parts =>
      have hmem : '.' ∈ rest := by simpa [h] using ih
      simp [splitAtLastDot, h, hmem]
    | none =>
      have hmem : '.' ∉ rest := ih.1 h
      by_cases hc : c = '.'
      · simp [splitAtLastDot, h, hc]
      · simp [splitAtLastDot, h, hc, hmem, Ne.symm hc]

theorem splitAtLastDot_append {before after : List Char} (h : '.' ∉ after) :
    splitAtLastDot (before ++ '.' :: after) = some (before, after) := by
  induction before with
  | nil => simp [splitAtLastDot, splitAtLastDot_eq_none_iff.2 h]
  | cons c before ih => simp [splitAtLastDot, ih]

theorem splitAtLastDot_eq_some_iff {cs before after : List Char} :
    splitAtLastDot cs = some (before, after) ↔ cs = before ++ '.' :: after ∧ '.' ∉ after := by
  constructor
  · intro h
    induction cs generalizing before with
    | nil => simp [splitAtLastDot] at h
    | cons c rest ih =>
      cases hr : splitAtLastDot rest with
      | some parts =>
        obtain ⟨b, a⟩ := parts
        simp only [splitAtLastDot, hr, Option.some.injEq, Prod.mk.injEq] at h
        obtain ⟨rfl, rfl⟩ := h
        obtain ⟨hrest, hdot⟩ := ih hr
        exact ⟨by simp [hrest], hdot⟩
      | none =>
        by_cases hc : c = '.'
        · simp only [splitAtLastDot, hr, hc, if_true, Option.some.injEq, Prod.mk.injEq] at h
          obtain ⟨rfl, rfl⟩ := h
          exact ⟨by simp [hc], splitAtLastDot_eq_none_iff.1 hr⟩
        · simp [splitAtLastDot, hr, hc] at h
  · rintro ⟨rfl, h⟩
    exact splitAtLastDot_append h

/-- The namespace and the name of a qualified name, cut at its last dot. -/
def splitQualified (name : String) : Option (String × String) :=
  (splitAtLastDot name.toList).map fun (before, after) =>
    (String.ofList before, String.ofList after)

/-- Whether the characters are a name without dots and white space, and not empty. -/
def isSimpleNameChars (cs : List Char) : Bool :=
  !cs.isEmpty && cs.all fun c => c != '.' && !Unicode.isWhiteSpace c

/-- Whether the text is a name without dots and white space, and not empty. -/
def isSimpleName (name : String) : Bool :=
  isSimpleNameChars name.toList

/-- Whether the text consists of simple names joined by dots. -/
def isDottedName (name : String) : Bool :=
  (name.toList.splitOn '.').all isSimpleNameChars

end EdmMapping
