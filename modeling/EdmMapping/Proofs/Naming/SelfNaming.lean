import EdmMapping.Proofs.Naming.Clashes
import EdmMapping.Proofs.Text.Names
import EdmMapping.Proofs.Unicode.Isolated

/-!
# Properties named like their class

The rules tell a property from its class by the name that they are given.  What they do to it
afterwards is not looked at again: a removed character or an escaped word can bring the name of the
class back.

* `Owner.Rejoins` — a source that becomes the name of the class only once it is stripped or escaped;
* `upperFirst_suffix_ne` — the ending of a property never leads back;
* `upperFirst_sanitize_eq_iff` — the identifier has the name of the class exactly if its source
  rejoins it;
* `sanitizeProperty_eq_className_iff` — the same for the properties of a model, and the properties
  that are always told from their class;
* `sanitizeProperty_can_rejoin` — there is a property that ends up with the name of its class.
-/

set_option autoImplicit false

namespace EdmMapping

theorem isClean_upperFirst {name : String} : IsClean (upperFirst name) ↔ IsClean name := by
  unfold IsClean
  rw [mem_upperFirst_iff Unicode.uppercase_isolated_at,
    mem_upperFirst_iff Unicode.uppercase_isolated_dot]

/-! ## The ending of a property -/

theorem upperFirst_append_propertySuffix_ne (name : String) :
    upperFirst (name ++ propertySuffix) ≠ upperFirst name := by
  rw [ne_eq, upperFirst_eq_iff, String.toList_append]
  cases name.toList with
  | nil => decide +kernel
  | cons c cs =>
    intro h
    simp only [List.cons_append, upperFirstChars, List.append_cancel_left_eq] at h
    have hlength := congrArg List.length h
    simp [propertySuffix] at hlength

/-- The ending tells a stripped name from the name as it was given. -/
theorem upperFirst_suffix_ne (raw : String) :
    upperFirst (strip raw ++ propertySuffix) ≠ upperFirst raw := by
  by_cases hclean : IsClean raw
  · rw [strip_eq_self_iff.2 hclean]
    exact upperFirst_append_propertySuffix_ne raw
  · intro h
    have hsuffix : IsClean (strip raw ++ propertySuffix) :=
      isClean_append.2 ⟨isClean_strip raw, by decide⟩
    rw [← isClean_upperFirst, h, isClean_upperFirst] at hsuffix
    exact hclean hsuffix

/-! ## Sources that lead back to the class -/

namespace Owner

variable {table : ReservedWords} {o : Owner} {raw : String}

/-- The name of the class comes out of the name once it is stripped, or escaped. -/
def Rejoins (table : ReservedWords) (o : Owner) (source : String) : Prop :=
  (¬ IsClean source ∧ table.isReserved (strip source) = false ∧
      upperFirst (strip source) = o.className) ∨
    (table.isReserved (strip source) = true ∧
      upperFirst (table.escape (strip source)) = o.className)

instance (table : ReservedWords) (o : Owner) (source : String) :
    Decidable (o.Rejoins table source) :=
  inferInstanceAs (Decidable ((_ ∧ _ ∧ _) ∨ (_ ∧ _)))

/-- Only a reserved word is left with the name of the class; anything else is renamed. -/
theorem isReserved_source_of_eq (h : upperFirst (o.source table raw) = o.className) :
    table.isReserved (o.source table raw) = true := by
  unfold source at h ⊢
  by_cases hr : table.isReserved raw = true
  · rwa [if_pos hr]
  · by_cases hclass : upperFirst raw = o.className
    · by_cases htype : o.typeName = o.className
      · rw [if_neg hr, if_pos hclass, if_pos htype, ← hclass] at h
        exact absurd h (upperFirst_append_propertySuffix_ne raw)
      · rw [if_neg hr, if_pos hclass, if_neg htype, o.upperFirst_typeName] at h
        exact absurd h htype
    · rw [if_neg hr, if_neg hclass] at h
      exact absurd h hclass

theorem isClean_source (hraw : IsClean raw) (htype : IsClean o.propertyTypeName) :
    IsClean (o.source table raw) := by
  unfold source
  split
  · exact hraw
  · split
    · split
      · exact isClean_append.2 ⟨hraw, by decide⟩
      · exact isClean_upperFirst.2 htype
    · exact hraw

end Owner

variable {table : ReservedWords}

theorem sanitize_name_eq_settle (h : table.Admissible) (raw : String) (o : Owner) :
    (sanitize table raw (some o)).name = table.settle (strip (o.source table raw)) := by
  rw [sanitize_source h, sanitize_none_name h]

/-- **When the name of the class comes back**: if the source of the identifier rejoins it. -/
theorem upperFirst_sanitize_eq_iff (h : table.Admissible) (raw : String) (o : Owner) :
    upperFirst (sanitize table raw (some o)).name = o.className ↔
      o.Rejoins table (o.source table raw) := by
  rw [sanitize_name_eq_settle h]
  unfold ReservedWords.settle Owner.Rejoins
  by_cases hr : table.isReserved (strip (o.source table raw)) = true
  · rw [if_pos hr]
    simp [hr]
  · rw [if_neg hr]
    have hfree : table.isReserved (strip (o.source table raw)) = false := by simpa using hr
    constructor
    · intro heq
      refine .inl ⟨?_, hfree, heq⟩
      -- a clean source is the identifier itself, and would have been renamed
      intro hclean
      rw [strip_eq_self_iff.2 hclean] at heq hr
      exact hr (Owner.isReserved_source_of_eq heq)
    · rintro (⟨-, -, heq⟩ | ⟨hr', -⟩)
      · exact heq
      · exact absurd hr' hr

theorem upperFirst_sanitize_ne_of_suffix {raw : String} {o : Owner}
    (hr : table.isReserved raw = false) (hclass : upperFirst raw = o.className)
    (htype : o.typeName = o.className) :
    upperFirst (sanitize table raw (some o)).name ≠ o.className := by
  rw [sanitize_of_suffix ⟨hr, hclass, htype⟩, ← hclass]
  exact upperFirst_suffix_ne raw

/-! ## Properties -/

/-- **When a property has the name of its class**, once it is sanitized for Java: exactly if the
source of its identifier rejoins that name.  It never happens to a property that takes the ending,
nor to one whose name and type are clean, in a class that is not named like an escaped word. -/
theorem sanitizeProperty_eq_className_iff (p : PropertyDescriptor) :
    (upperFirst (sanitizeProperty javaReserved p).name = upperFirst p.declaringTypeName ↔
      (Owner.ofProperty p).Rejoins javaReserved
        ((Owner.ofProperty p).source javaReserved p.name)) ∧
    (javaReserved.isReserved p.name = false →
      upperFirst p.name = upperFirst p.declaringTypeName →
      upperFirst p.projectedType.name = upperFirst p.declaringTypeName →
      upperFirst (sanitizeProperty javaReserved p).name ≠ upperFirst p.declaringTypeName) ∧
    (IsClean p.name → IsClean p.projectedType.name →
      (∀ word, javaReserved.isReserved word = true →
        upperFirst (javaReserved.escape word) ≠ upperFirst p.declaringTypeName) →
      upperFirst (sanitizeProperty javaReserved p).name ≠ upperFirst p.declaringTypeName) := by
  have hiff := upperFirst_sanitize_eq_iff javaReserved_admissible p.name (Owner.ofProperty p)
  refine ⟨hiff, ?_, ?_⟩
  · intro hr hclass htype
    exact upperFirst_sanitize_ne_of_suffix hr hclass htype
  · intro hname htype hclass heq
    rcases hiff.1 heq with ⟨hdirty, -, -⟩ | ⟨hr, hescaped⟩
    · exact hdirty (Owner.isClean_source hname htype)
    · exact hclass _ hr hescaped

/-- Of the properties `@foo` and `foo` of a class `foo`, the one with the sign gets the name of the
class, and the other one that of its type. -/
theorem sanitizeProperty_eq_className_foo :
    upperFirst (sanitizeProperty javaReserved ⟨"@foo", "foo", .primitive "String", none⟩).name =
        upperFirst "foo" ∧
      upperFirst (sanitizeProperty javaReserved ⟨"foo", "foo", .primitive "foo", none⟩).name ≠
        upperFirst "foo" ∧
      upperFirst (sanitizeProperty javaReserved ⟨"foo", "foo", .primitive "String", none⟩).name ≠
        upperFirst "foo" := by
  refine ⟨?_, ?_, ?_⟩
  · exact (sanitizeProperty_eq_className_iff ⟨"@foo", "foo", .primitive "String", none⟩).1.2
      (by decide +kernel)
  · exact (sanitizeProperty_eq_className_iff ⟨"foo", "foo", .primitive "foo", none⟩).2.1
      (by decide +kernel) rfl rfl
  · refine (sanitizeProperty_eq_className_iff ⟨"foo", "foo", .primitive "String", none⟩).2.2
      (by decide) (by decide) ?_
    intro word _ h
    have hm : Unicode.uppercase 'm' = ['M'] := by decide +kernel
    have hf : Unicode.uppercase 'f' = ['F'] := by decide +kernel
    rw [upperFirst_eq_iff, ReservedWords.escape, String.toList_append] at h
    simp [javaReserved, upperFirstChars, hm, hf] at h

/-- A name between dots does not keep a class apart from its properties. -/
theorem sanitizeProperty_can_rejoin :
    ¬ ∀ p : PropertyDescriptor, IsName p.declaringTypeName →
      upperFirst (sanitizeProperty javaReserved p).name ≠ upperFirst p.declaringTypeName := by
  intro h
  refine h ⟨"@foo", "foo", .primitive "String", none⟩ (isSimpleName_iff.1 (by decide +kernel)) ?_
  decide +kernel

end EdmMapping
