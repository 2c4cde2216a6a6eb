import EdmMapping.Text.Search

/-!
# Where a text stands in another one

Places are told in bytes, and at a place either all bytes of a text stand or they do not.  Bytes
that do not start a character are never the first ones of a text, so an occurrence in bytes is
always one in characters, and the search through the characters finds the first one.

* `StandsAt` — the bytes of a text, from a place on, are those of another text;
* `StandsAt.isValid` — a text starts and ends between characters wherever it stands;
* `standsAt_iff_exists_append` — the places of a text are those where it cuts the other one in
  three;
* `byteOffset?_eq_some_iff` — the search finds the first place and no other;
* `byteOffset?_eq_none_iff` — it finds nothing only if there is no place.
-/

set_option autoImplicit false

namespace EdmMapping

/-- The bytes of `needle` are those of `text` from the byte `offset` on. -/
def StandsAt (needle text : String) (offset : Nat) : Prop :=
  offset + needle.utf8ByteSize ≤ text.utf8ByteSize ∧
    text.toByteArray.extract offset (offset + needle.utf8ByteSize) = needle.toByteArray

/-! ## Characters and bytes -/

theorem utf8Size_eq_utf8ByteSize_ofList (cs : List Char) :
    utf8Size cs = (String.ofList cs).utf8ByteSize := by
  induction cs with
  | nil => rfl
  | cons c cs ih =>
    have hcons : String.ofList (c :: cs) = String.singleton c ++ String.ofList cs := by
      rw [String.singleton_eq_ofList, ← String.ofList_append]
      rfl
    rw [utf8Size_cons, ih, hcons, String.utf8ByteSize_append, String.utf8ByteSize_singleton]

theorem utf8Size_toList (s : String) : utf8Size s.toList = s.utf8ByteSize := by
  rw [utf8Size_eq_utf8ByteSize_ofList, String.ofList_toList]

/-- The part of a text between two others is found where the first one ends. -/
theorem extract_append_append (before needle after : String) :
    (before ++ needle ++ after).toByteArray.extract before.utf8ByteSize
      (before.utf8ByteSize + needle.utf8ByteSize) = needle.toByteArray := by
  rw [String.append_assoc, String.toByteArray_append, String.toByteArray_append]
  have hskip := ByteArray.extract_append_size_add (a := before.toByteArray)
    (b := needle.toByteArray ++ after.toByteArray) (i := 0) (j := needle.utf8ByteSize)
  rw [Nat.add_zero, String.size_toByteArray] at hskip
  rw [hskip]
  exact ByteArray.extract_append_eq_left String.size_toByteArray.symm

theorem standsAt_append (before needle after : String) :
    StandsAt needle (before ++ needle ++ after) before.utf8ByteSize := by
  refine ⟨?_, extract_append_append before needle after⟩
  simp only [String.utf8ByteSize_append]
  omega

/-- Two places between characters cut a text in three. -/
theorem exists_append_of_isValid {text : String} {offset length : Nat}
    (hstart : (⟨offset⟩ : String.Pos.Raw).IsValid text)
    (hend : (⟨offset + length⟩ : String.Pos.Raw).IsValid text) :
    ∃ before part after, text = before ++ part ++ after ∧ offset = before.utf8ByteSize ∧
      length = part.utf8ByteSize := by
  obtain ⟨before, rest, rfl, hbefore⟩ := String.Pos.Raw.isValid_iff_exists_append.1 hstart
  have hoffset : offset = before.utf8ByteSize := congrArg String.Pos.Raw.byteIdx hbefore
  subst hoffset
  rcases String.Pos.Raw.isValid_append.1 hend with hinside | ⟨-, hrest⟩
  · -- the second place is not behind the first one
    have hle := String.Pos.Raw.le_iff.1 hinside.le_rawEndPos
    simp only [String.byteIdx_rawEndPos] at hle
    refine ⟨before, "", rest, by rw [String.append_empty], rfl, ?_⟩
    rw [String.utf8ByteSize_empty]
    omega
  · obtain ⟨part, after, rfl, hpart⟩ := String.Pos.Raw.isValid_iff_exists_append.1 hrest
    refine ⟨before, part, after, (String.append_assoc ..).symm, rfl, ?_⟩
    simpa using congrArg String.Pos.Raw.byteIdx hpart

/-- No text but the empty one starts or ends inside a character. -/
theorem StandsAt.isValid {needle text : String} {offset : Nat} (hne : needle ≠ "")
    (h : StandsAt needle text offset) :
    (⟨offset⟩ : String.Pos.Raw).IsValid text ∧
      (⟨offset + needle.utf8ByteSize⟩ : String.Pos.Raw).IsValid text := by
  obtain ⟨hrange, hbytes⟩ := h
  have hvalid : (text.toByteArray.extract offset (offset + needle.utf8ByteSize)).IsValidUTF8 :=
    hbytes ▸ needle.isValidUTF8
  have hcut := (String.Pos.Raw.isValidUTF8_extract_iff (s := text) ⟨offset⟩
    ⟨offset + needle.utf8ByteSize⟩ (by simp [String.Pos.Raw.le_iff])
    (by simpa [String.Pos.Raw.le_iff] using hrange)).1 hvalid
  rcases hcut with hsame | hvalid
  · have hoffset : offset = offset + needle.utf8ByteSize := congrArg String.Pos.Raw.byteIdx hsame
    exact absurd (String.utf8ByteSize_eq_zero_iff.1 (by omega)) hne
  · exact hvalid

/-- An occurrence in bytes cuts the text between characters. -/
theorem StandsAt.exists_append {needle text : String} {offset : Nat} (hne : needle ≠ "")
    (h : StandsAt needle text offset) :
    ∃ before after, text = before ++ needle ++ after ∧ offset = before.utf8ByteSize := by
  obtain ⟨hstart, hend⟩ := h.isValid hne
  obtain ⟨before, part, after, rfl, rfl, hsize⟩ := exists_append_of_isValid hstart hend
  have hpart : needle = part := by
    rw [← String.toByteArray_inj, ← h.2, hsize]
    exact extract_append_append before part after
  subst hpart
  exact ⟨before, after, rfl, rfl⟩

theorem standsAt_iff_exists_append {needle text : String} {offset : Nat} (hne : needle ≠ "") :
    StandsAt needle text offset ↔
      ∃ before after, text = before ++ needle ++ after ∧ offset = before.utf8ByteSize := by
  constructor
  · exact fun h => h.exists_append hne
  · rintro ⟨before, after, rfl, rfl⟩
    exact standsAt_append before needle after

/-! ## The search -/

/-- What is found is an occurrence. -/
theorem exists_append_of_byteOffsetFrom? {needle text : List Char} {offset position : Nat}
    (h : byteOffsetFrom? needle offset text = some position) :
    ∃ before after, text = before ++ needle ++ after ∧ position = offset + utf8Size before := by
  induction text generalizing offset with
  | nil =>
    simp only [byteOffsetFrom?] at h
    split at h
    · rename_i hempty
      cases h
      exact ⟨[], [], by simpa using hempty, rfl⟩
    · cases h
  | cons c rest ih =>
    simp only [byteOffsetFrom?] at h
    split at h
    · rename_i hprefix
      cases h
      obtain ⟨after, hafter⟩ := List.isPrefixOf_iff_prefix.1 hprefix
      exact ⟨[], after, hafter.symm, rfl⟩
    · obtain ⟨before, after, hrest, hposition⟩ := ih h
      refine ⟨c :: before, after, by rw [hrest]; rfl, ?_⟩
      rw [hposition, utf8Size_cons]
      omega

theorem exists_append_of_byteOffset? {needle text : String} {position : Nat}
    (h : byteOffset? needle text = some position) :
    ∃ before after, text = before ++ needle ++ after ∧ position = before.utf8ByteSize := by
  obtain ⟨before, after, htext, hposition⟩ := exists_append_of_byteOffsetFrom? h
  refine ⟨String.ofList before, String.ofList after, ?_, ?_⟩
  · rw [← String.toList_inj, htext]
    simp
  · rw [hposition, utf8Size_eq_utf8ByteSize_ofList]
    omega

/-- An occurrence is found, or an earlier one. -/
theorem exists_byteOffset?_append (before needle after : String) :
    ∃ position ≤ before.utf8ByteSize,
      byteOffset? needle (before ++ needle ++ after) = some position := by
  obtain ⟨position, hfound, hle⟩ :=
    byteOffsetFrom?_append needle.toList before.toList after.toList 0
  refine ⟨position, by rw [← utf8Size_toList before]; omega, ?_⟩
  unfold byteOffset?
  rw [String.toList_append, String.toList_append]
  exact hfound

variable {needle text : String}

theorem exists_byteOffset?_le (hne : needle ≠ "") {offset : Nat} (h : StandsAt needle text offset) :
    ∃ position ≤ offset, byteOffset? needle text = some position := by
  obtain ⟨before, after, rfl, rfl⟩ := (standsAt_iff_exists_append hne).1 h
  exact exists_byteOffset?_append before needle after

theorem standsAt_of_byteOffset? {position : Nat} (h : byteOffset? needle text = some position) :
    StandsAt needle text position := by
  obtain ⟨before, after, rfl, rfl⟩ := exists_append_of_byteOffset? h
  exact standsAt_append before needle after

/-- **The search finds the first place.** -/
theorem byteOffset?_eq_some_iff (hne : needle ≠ "") {position : Nat} :
    byteOffset? needle text = some position ↔
      StandsAt needle text position ∧ ∀ offset < position, ¬ StandsAt needle text offset := by
  constructor
  · intro h
    refine ⟨standsAt_of_byteOffset? h, fun offset hlt hoffset => ?_⟩
    obtain ⟨earlier, hle, hearlier⟩ := exists_byteOffset?_le hne hoffset
    have : earlier = position := Option.some.inj (hearlier.symm.trans h)
    omega
  · rintro ⟨hstands, hfirst⟩
    obtain ⟨earlier, hle, hearlier⟩ := exists_byteOffset?_le hne hstands
    have hnot : ¬ earlier < position := fun hlt =>
      hfirst earlier hlt (standsAt_of_byteOffset? hearlier)
    rw [hearlier, show earlier = position by omega]

/-- **The search fails only where there is no place.** -/
theorem byteOffset?_eq_none_iff (hne : needle ≠ "") :
    byteOffset? needle text = none ↔ ∀ offset, ¬ StandsAt needle text offset := by
  constructor
  · intro h offset hoffset
    obtain ⟨position, -, hposition⟩ := exists_byteOffset?_le hne hoffset
    rw [h] at hposition
    cases hposition
  · intro h
    cases hfound : byteOffset? needle text with
    | none => rfl
    | some position => exact absurd (standsAt_of_byteOffset? hfound) (h position)

end EdmMapping
