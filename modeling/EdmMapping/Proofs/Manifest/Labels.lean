import EdmMapping.Proofs.Manifest.Requirements
import EdmMapping.Proofs.Text.Occurrences

/-!
# Where errors point

An error about a declaration points at a part of the source.  The part is told in bytes, and it
holds exactly the text that the error is about, where that text stands first.

* `Span.IsPartOf`, `Span.Covers` — a part of a text that cuts no character, and what it holds;
* `Span.IsFirst`, `Span.IsFirstQuoted` — the first such part, by itself and between quotes;
* `Source.find_eq_none_iff`, `Source.isFirst_of_find` — the parts that the search by itself finds;
* `Source.findQuoted_eq_none_iff`, `Source.isFirstQuoted_of_findQuoted` — those between quotes;
* `labels_point_at_texts` — every error points at its text, or nowhere if that does not occur.
-/

set_option autoImplicit false

namespace EdmMapping

/-! ## Parts of a text -/

/-- A part inside a text that starts and ends between characters. -/
structure Span.IsPartOf (span : Span) (text : String) : Prop where
  in_range : span.offset + span.length ≤ text.utf8ByteSize
  starts : (⟨span.offset⟩ : String.Pos.Raw).IsValid text
  ends : (⟨span.offset + span.length⟩ : String.Pos.Raw).IsValid text

/-- A part whose bytes are those of `needle`. -/
structure Span.Covers (span : Span) (text needle : String) : Prop extends span.IsPartOf text where
  bytes : text.toByteArray.extract span.offset (span.offset + span.length) = needle.toByteArray

/-- The part where `needle` stands first. -/
structure Span.IsFirst (span : Span) (text needle : String) : Prop
    extends span.Covers text needle where
  first : ∀ offset < span.offset, ¬ StandsAt needle text offset

/-- The part between the quotes where `value` stands in quotes first. -/
structure Span.IsFirstQuoted (span : Span) (text value : String) : Prop
    extends span.Covers text value where
  opened : ∃ offset, StandsAt "\"" text offset ∧ span.offset = offset + 1
  closed : StandsAt "\"" text (span.offset + span.length)
  first : ∀ offset, offset + 1 < span.offset → ¬ StandsAt ("\"" ++ value ++ "\"") text offset

theorem Span.covers_append (before needle after : String) :
    Span.Covers ⟨before.utf8ByteSize, needle.utf8ByteSize⟩ (before ++ needle ++ after) needle where
  in_range := (standsAt_append before needle after).1
  starts := String.Pos.Raw.isValid_iff_exists_append.2
    ⟨before, needle ++ after, String.append_assoc .., rfl⟩
  ends := String.Pos.Raw.isValid_iff_exists_append.2
    ⟨before ++ needle, after, rfl, by simp [String.Pos.Raw.ext_iff]⟩
  bytes := (standsAt_append before needle after).2

namespace Source

variable {s : Source}

theorem find_eq_none_iff {needle : String} :
    s.find needle = none ↔ needle = "" ∨ ∀ offset, ¬ StandsAt needle s.text offset := by
  unfold find
  by_cases hne : needle = ""
  · simp [hne]
  · rw [if_neg (by simpa using hne), Option.map_eq_none_iff, byteOffset?_eq_none_iff hne]
    simp [hne]

theorem isFirst_of_find {needle : String} {span : Span} (h : s.find needle = some span) :
    span.IsFirst s.text needle := by
  unfold find at h
  split at h
  · cases h
  · rename_i hempty
    have hne : needle ≠ "" := by simpa using hempty
    obtain ⟨offset, hfound, rfl⟩ := Option.map_eq_some_iff.1 h
    obtain ⟨before, after, htext, hoffset⟩ := exists_append_of_byteOffset? hfound
    have hcovers := Span.covers_append before needle after
    rw [← htext, ← hoffset, ← utf8Size_toList needle] at hcovers
    exact { toCovers := hcovers, first := ((byteOffset?_eq_some_iff hne).1 hfound).2 }

theorem quoted_ne_empty (value : String) : "\"" ++ value ++ "\"" ≠ "" := by
  simp

theorem findQuoted_eq_none_iff {value : String} :
    s.findQuoted value = none ↔ ∀ offset, ¬ StandsAt ("\"" ++ value ++ "\"") s.text offset := by
  unfold findQuoted
  rw [Option.map_eq_none_iff, byteOffset?_eq_none_iff (quoted_ne_empty value)]

theorem isFirstQuoted_of_findQuoted {value : String} {span : Span}
    (h : s.findQuoted value = some span) : span.IsFirstQuoted s.text value := by
  obtain ⟨offset, hfound, rfl⟩ := Option.map_eq_some_iff.1 h
  obtain ⟨before, after, htext, hoffset⟩ := exists_append_of_byteOffset? hfound
  have hfirst := ((byteOffset?_eq_some_iff (quoted_ne_empty value)).1 hfound).2
  have hquote : ("\"" : String).utf8ByteSize = 1 := by decide
  -- the text cut at the opening quote, at the value and at the closing quote
  have hopened := standsAt_append before "\"" (value ++ "\"" ++ after)
  have hcovers := Span.covers_append (before ++ "\"") value ("\"" ++ after)
  have hclosed := standsAt_append (before ++ "\"" ++ value) "\"" after
  simp only [String.utf8ByteSize_append, hquote, ← hoffset, ← utf8Size_toList value,
    String.append_assoc] at hopened hcovers hclosed htext
  rw [← htext] at hopened hcovers hclosed
  exact
    { toCovers := hcovers
      opened := ⟨offset, hopened, rfl⟩
      closed := by simpa only [Nat.add_assoc] using hclosed
      first := fun earlier hlt => hfirst earlier (by simpa using hlt) }

end Source

/-! ## The places of errors -/

/-- The place in `s` where `needle` stands first, without a part if there is none. -/
structure Place.MarksFirst (place : Place) (s : Source) (needle : String) : Prop where
  source : place.source = s
  span_eq_none : place.span = none ↔ needle = "" ∨ ∀ offset, ¬ StandsAt needle s.text offset
  isFirst : ∀ span, place.span = some span → span.IsFirst s.text needle

/-- The place in `s` where `value` stands in quotes first, without a part if there is none. -/
structure Place.MarksQuoted (place : Place) (s : Source) (value : String) : Prop where
  source : place.source = s
  span_eq_none : place.span = none ↔
    ∀ offset, ¬ StandsAt ("\"" ++ value ++ "\"") s.text offset
  isFirstQuoted : ∀ span, place.span = some span → span.IsFirstQuoted s.text value

/-- The place in `s`, with a part of its text or none. -/
structure Place.IsIn (place : Place) (s : Source) : Prop where
  source : place.source = s
  isPartOf : ∀ span, place.span = some span → span.IsPartOf s.text

theorem Place.MarksFirst.isIn {place : Place} {s : Source} {needle : String}
    (h : place.MarksFirst s needle) : place.IsIn s where
  source := h.source
  isPartOf span hspan := (h.isFirst span hspan).toIsPartOf

theorem Place.MarksQuoted.isIn {place : Place} {s : Source} {value : String}
    (h : place.MarksQuoted s value) : place.IsIn s where
  source := h.source
  isPartOf span hspan := (h.isFirstQuoted span hspan).toIsPartOf

namespace Source

variable (s : Source)

theorem marksFirst_find (needle : String) : Place.MarksFirst ⟨s, s.find needle⟩ s needle where
  source := rfl
  span_eq_none := find_eq_none_iff
  isFirst _ h := isFirst_of_find h

theorem marksQuoted_findQuoted (value : String) :
    Place.MarksQuoted ⟨s, s.findQuoted value⟩ s value where
  source := rfl
  span_eq_none := findQuoted_eq_none_iff
  isFirstQuoted _ h := isFirstQuoted_of_findQuoted h

end Source

/-- Whatever is wrong with a manifest, the error has a place in the source. -/
theorem Violation.exists_place_locate (s : Source) (v : Violation) :
    ∃ place, (v.locate s).place? = some place ∧ place.IsIn s := by
  have hfind (needle : String) : Place.IsIn ⟨s, s.find needle⟩ s := (s.marksFirst_find needle).isIn
  cases v with
  | emptyNamespace => exact ⟨_, rfl, hfind _⟩
  | edmNamespace => exact ⟨_, rfl, hfind _⟩
  | malformedNamespace ns => exact ⟨_, rfl, hfind _⟩
  | malformedTypeName name => exact ⟨_, rfl, hfind _⟩
  | flagsOnNonEnum name => exact ⟨_, rfl, hfind _⟩
  | enumWithProperties name => exact ⟨_, rfl, hfind _⟩
  | unknownType reference property =>
    exact ⟨_, rfl, (s.marksQuoted_findQuoted reference).isIn⟩

/-- **Errors point at the texts that they are about.**  The error that a declaration is not allowed
points at the first occurrence of its text, the error that a type says that its values combine at
the first occurrence of its header, and the error that a type is unknown at the reference between
its quotes; they point nowhere exactly if there is no such occurrence.  So an error of a manifest
never points outside the source or into a character, whatever the source. -/
theorem labels_point_at_texts (s : Source) :
    (∀ message needle, ∃ place, (s.invalid message needle).place? = some place ∧
      place.MarksFirst s needle) ∧
    (∀ typeName, ∃ place, (s.flagsOnNonEnum typeName).place? = some place ∧
      place.MarksFirst s ("types." ++ typeName ++ "]")) ∧
    (∀ reference property, ∃ place, (s.unknownType reference property).place? = some place ∧
      place.MarksQuoted s reference) ∧
    ∀ (m : Manifest) e, m.resolveIn s = .error e →
      ∃ place, e.place? = some place ∧ place.IsIn s := by
  refine ⟨fun message needle => ?_, fun typeName => ?_, fun reference property => ?_,
    fun m e he => ?_⟩
  · exact ⟨_, rfl, s.marksFirst_find needle⟩
  · exact ⟨_, rfl, s.marksFirst_find ("types." ++ typeName ++ "]")⟩
  · exact ⟨_, rfl, s.marksQuoted_findQuoted reference⟩
  · obtain ⟨v, -, rfl⟩ := Manifest.resolveIn_eq_error.1 he
    exact v.exists_place_locate s

/-- A description with texts that take more bytes than characters, and behind them a reference to a
type that is not declared. -/
def measureSource : Source :=
  ⟨"[model]\nnamespace = 'zoo'\n[types.'Bär'.properties]\n'maß' = \"Größe\"\n", "zoo.toml"⟩

def measureManifest : Manifest :=
  ⟨"zoo", ⟨[("Bär", ⟨.entity, false, ⟨[("maß", .type "Größe")], by decide⟩⟩)], by decide⟩⟩

/-- The error points at the seven bytes between the quotes. -/
theorem labels_point_at_texts_measure :
    let e : ManifestError := .unknownType ⟨measureSource, some ⟨62, 7⟩⟩ "Größe" "maß"
    measureManifest.resolveIn measureSource = .error e ∧
      ∃ place, e.place? = some place ∧ place.IsIn measureSource := by
  intro e
  have hresolve : measureManifest.resolve = .error (.unknownType "Größe" "maß") := rfl
  have hlocate : Violation.locate measureSource (.unknownType "Größe" "maß") = e := by
    decide +kernel
  have he : measureManifest.resolveIn measureSource = .error e :=
    Manifest.resolveIn_eq_error.2 ⟨_, hresolve, hlocate.symm⟩
  exact ⟨he, (labels_point_at_texts measureSource).2.2.2 measureManifest e he⟩

end EdmMapping
