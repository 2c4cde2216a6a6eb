import EdmMapping.Proofs.Naming.SelfNaming

/-!
# Renames that lead back

A rename says which name stands for which.  The name that is given up may be that of the type, which
a property named like its class takes over; so a rename can lead back to the name that the property
had.

* `Owner.Returns` — a property whose name is what its class and its type make of it;
* `renamed_to_itself_iff` — these are told to be renamed, and keep their name; every other rename
  changes the name.
-/

set_option autoImplicit false

namespace EdmMapping

variable {table : ReservedWords}

namespace Owner

variable {o : Owner} {raw : String}

/-- The property has the name of its class, and is named like the escaped form of what is left of
the name of its type, a reserved word. -/
def Returns (table : ReservedWords) (o : Owner) (raw : String) : Prop :=
  upperFirst raw = o.className ∧ table.isReserved (strip o.typeName) = true ∧
    raw = table.escape (strip o.typeName)

instance (table : ReservedWords) (o : Owner) (raw : String) : Decidable (o.Returns table raw) :=
  inferInstanceAs (Decidable (_ ∧ _ ∧ _))

/-- Without the ending, a class puts nothing but the name of the type in the place of a name. -/
theorem source_eq_typeName_of_ne (h : ¬ o.TakesSuffix table raw)
    (hsource : o.source table raw ≠ raw) :
    upperFirst raw = o.className ∧ o.source table raw = o.typeName := by
  unfold source at hsource ⊢
  by_cases hr : table.isReserved raw = true
  · rw [if_pos hr] at hsource
    exact absurd rfl hsource
  · rw [if_neg hr] at hsource ⊢
    by_cases hclass : upperFirst raw = o.className
    · have htype : o.typeName ≠ o.className := fun htype => h ⟨by simpa using hr, hclass, htype⟩
      rw [if_pos hclass, if_neg htype]
      exact ⟨hclass, rfl⟩
    · rw [if_neg hclass] at hsource
      exact absurd rfl hsource

end Owner

theorem length_le_length_upperFirst (name : String) :
    name.toList.length ≤ (upperFirst name).toList.length := by
  rw [toList_upperFirst]
  cases name.toList with
  | nil => exact Nat.le_refl _
  | cons c cs =>
    obtain ⟨d, rest, hc, -⟩ := Unicode.uppercase_stable c
    simp only [upperFirstChars, hc, List.cons_append, List.length_cons, List.length_append]
    omega

namespace ReservedWords

/-- An escaped word is longer than the word. -/
theorem length_lt_length_escape (h : table.renamePrefix ≠ "") (word : String) :
    word.toList.length < (table.escape word).toList.length := by
  have hpre : table.renamePrefix.toList.length ≠ 0 := by
    simpa using h
  unfold escape
  rw [String.toList_append, List.length_append]
  omega

end ReservedWords

namespace Owner.Returns

variable {o : Owner} {raw : String}

theorem isReserved_eq_false (h : o.Returns table raw) (ha : table.Admissible) :
    table.isReserved raw = false := by
  rw [h.2.2]
  exact (ha.settled_escape h.2.1).free

/-- The type of such a property is not named like the class. -/
theorem typeName_ne_className (h : o.Returns table raw) (ha : table.Admissible)
    (hpre : table.renamePrefix ≠ "") : o.typeName ≠ o.className := by
  obtain ⟨hclass, hr, hraw⟩ := h
  intro htype
  have hclean : IsClean o.typeName := by
    rw [htype, ← hclass, isClean_upperFirst, hraw]
    exact (ha.settled_escape hr).clean
  rw [strip_eq_self_iff.2 hclean] at hraw
  -- the property would be longer than its type, and be no longer than it when both are capitalised
  have hshort : raw.toList.length ≤ o.typeName.toList.length := by
    rw [htype, ← hclass]
    exact length_le_length_upperFirst raw
  have hlong := ReservedWords.length_lt_length_escape hpre o.typeName
  rw [← hraw] at hlong
  omega

theorem source_eq (h : o.Returns table raw) (ha : table.Admissible)
    (hpre : table.renamePrefix ≠ "") : o.source table raw = o.typeName := by
  have hfree := h.isReserved_eq_false ha
  have htype := h.typeName_ne_className ha hpre
  simp [Owner.source, hfree, h.1, htype]

end Owner.Returns

/-- **Which renames lead back**: a property is told to be renamed and has its name nevertheless
exactly if it returns to it by way of its type. -/
theorem renamed_to_itself_iff (ha : table.Admissible) (hpre : table.renamePrefix ≠ "")
    (raw : String) (o : Owner) :
    ((sanitize table raw (some o)).events ≠ [] ∧ (sanitize table raw (some o)).name = raw) ↔
      o.Returns table raw := by
  constructor
  · rintro ⟨hevents, hname⟩
    by_cases hsuffix : o.TakesSuffix table raw
    · rw [sanitize_of_suffix hsuffix] at hname
      exact absurd (congrArg upperFirst hname) (upperFirst_suffix_ne raw)
    · rw [sanitize_of_not_suffix hsuffix, sanitize_none ha] at hevents hname
      have hr : table.isReserved (strip (o.source table raw)) = true := by
        simpa using hevents
      have hraw : raw = table.settle (strip (o.source table raw)) := hname.symm
      rw [ReservedWords.settle, if_pos hr] at hraw
      -- a name cannot be its own escaped form, so the source is not the name itself
      have hsource : o.source table raw ≠ raw := by
        intro heq
        rw [heq] at hr hraw
        have hclean : IsClean raw := by
          rw [hraw]
          exact (ha.settled_escape hr).clean
        have hlong := ReservedWords.length_lt_length_escape hpre (strip raw)
        rw [← hraw, strip_eq_self_iff.2 hclean] at hlong
        exact Nat.lt_irrefl _ hlong
      obtain ⟨hclass, htype⟩ := Owner.source_eq_typeName_of_ne hsuffix hsource
      rw [htype] at hr hraw
      exact ⟨hclass, hr, hraw⟩
  · intro h
    have hsource := h.source_eq ha hpre
    have htype := h.typeName_ne_className ha hpre
    rw [sanitize_of_not_suffix fun hsuffix => htype hsuffix.2.2, sanitize_none ha, hsource]
    refine ⟨by simp [h.2.1], ?_⟩
    rw [ReservedWords.settle, if_pos h.2.1]
    exact h.2.2.symm

end EdmMapping
