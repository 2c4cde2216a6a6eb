/-!
# Searching a text

Positions in a source text count the bytes of its UTF-8 form.

* `utf8Size` — the number of bytes that characters take;
* `byteOffset?` — where a text occurs first in another one.

`byteOffsetFrom?_append` says that an occurrence which stands after `before` is found there, unless
an earlier one is.
-/

set_option autoImplicit false

namespace EdmMapping

/-- The number of bytes in the UTF-8 form of the characters. -/
def utf8Size : List Char → Nat
  | [] => 0
  | c :: cs => c.utf8Size + utf8Size cs

@[simp] theorem utf8Size_nil : utf8Size [] = 0 := rfl

@[simp] theorem utf8Size_cons (c : Char) (cs : List Char) :
    utf8Size (c :: cs) = c.utf8Size + utf8Size cs := rfl

@[simp] theorem utf8Size_append (cs ds : List Char) :
    utf8Size (cs ++ ds) = utf8Size cs + utf8Size ds := by
  induction cs with
  | nil => simp
  | cons c cs ih => rw [List.cons_append, utf8Size_cons, ih, utf8Size_cons, Nat.add_assoc]

/-- The byte offset of the first occurrence of `needle`, when the text starts at `offset`. -/
def byteOffsetFrom? (needle : List Char) (offset : Nat) : List Char → Option Nat
  | [] => if needle.isEmpty then some offset else none
  | c :: rest =>
    if needle.isPrefixOf (c :: rest) then some offset
    else byteOffsetFrom? needle (offset + c.utf8Size) rest

/-- The byte offset of the first occurrence of `needle` in `text`. -/
def byteOffset? (needle text : String) : Option Nat :=
  byteOffsetFrom? needle.toList 0 text.toList

/-- An occurrence is found, at its place or before it. -/
theorem byteOffsetFrom?_append (needle before after : List Char) (offset : Nat) :
    ∃ position, byteOffsetFrom? needle offset (before ++ needle ++ after) = some position ∧
      position ≤ offset + utf8Size before := by
  induction before generalizing offset with
  | nil =>
    refine ⟨offset, ?_, by simp⟩
    cases h : needle ++ after with
    | nil =>
      have hn : needle = [] := (List.append_eq_nil_iff.1 h).1
      rw [List.nil_append, h, hn]
      rfl
    | cons c rest =>
      have hp : needle.isPrefixOf (c :: rest) = true := by
        rw [List.isPrefixOf_iff_prefix]
        exact ⟨after, h⟩
      simp [byteOffsetFrom?, h, hp]
  | cons c before ih =>
    simp only [List.cons_append, byteOffsetFrom?]
    split
    · exact ⟨offset, rfl, by simp⟩
    · obtain ⟨position, hfound, hle⟩ := ih (offset + c.utf8Size)
      exact ⟨position, hfound, by simpa [Nat.add_assoc] using hle⟩

end EdmMapping
