import EdmMapping.Naming.Sanitizer

/-!
# Sanitized names are settled

The rules of the sanitizer end in one of four ways: a word is escaped, a name gets the ending of a
property, characters are removed, or a word that only appears then is escaped.  Each way leads to a
name that the rules leave alone, provided that the table of reserved words is *admissible*: nothing
that is put together from the table's prefix, its words and the ending is a word of the table again.

* `IsClean` — a name without the characters that are removed;
* `ReservedWords.Admissible` — the conditions on a table, which that of Java meets
  (`javaReserved_admissible`);
* `Settled` — a clean name that is not reserved; the rules without a class return it without a
  rename (`sanitize_of_settled`);
* `settled_sanitizeWithin` — what the rules return is settled, for every bound on renames, every
  class and every sink;
* `sanitize_fixed_point` — sanitizing twice is sanitizing once.
-/

set_option autoImplicit false

namespace EdmMapping

/-! ## Clean names -/

/-- The name holds no character that is removed from identifiers. -/
def IsClean (name : String) : Prop := '@' ∉ name.toList ∧ '.' ∉ name.toList

instance (name : String) : Decidable (IsClean name) :=
  inferInstanceAs (Decidable ('@' ∉ name.toList ∧ '.' ∉ name.toList))

theorem isClean_iff {name : String} :
    IsClean name ↔ ∀ c ∈ name.toList, isStripped c = false := by
  unfold IsClean isStripped
  constructor
  · rintro ⟨hat, hdot⟩ c hc
    have h1 : c ≠ '@' := fun e => hat (e ▸ hc)
    have h2 : c ≠ '.' := fun e => hdot (e ▸ hc)
    simp [h1, h2]
  · intro h
    exact ⟨fun hc => by simpa using h _ hc, fun hc => by simpa using h _ hc⟩

theorem strip_eq_self_iff {name : String} : strip name = name ↔ IsClean name := by
  rw [← String.toList_inj, toList_strip, List.filter_eq_self, isClean_iff]
  simp

theorem isClean_strip (name : String) : IsClean (strip name) :=
  strip_eq_self_iff.1 (strip_strip name)

theorem isClean_append {a b : String} : IsClean (a ++ b) ↔ IsClean a ∧ IsClean b := by
  simp only [isClean_iff, String.toList_append, List.mem_append]
  exact ⟨fun h => ⟨fun c hc => h c (.inl hc), fun c hc => h c (.inr hc)⟩,
    fun h c hc => hc.elim (h.1 c) (h.2 c)⟩

/-! ## Keys of words -/

@[simp] theorem wordKey_append (a b : String) : wordKey (a ++ b) = wordKey a ++ wordKey b := by
  simp [wordKey]

/-- Making ASCII capitals small neither makes nor loses a character that is removed. -/
theorem isStripped_toLower (c : Char) : isStripped c.toLower = isStripped c := by
  by_cases h : c.val ≥ 'A'.val ∧ c.val ≤ 'Z'.val
  · -- the capitals are few enough to be looked at one by one
    have capitals : ∀ n < 91, 65 ≤ n →
        isStripped (Char.ofNat n).toLower = isStripped (Char.ofNat n) := by decide
    have hlo : 65 ≤ c.toNat := UInt32.le_iff_toNat_le.1 h.1
    have hhi : c.toNat ≤ 90 := UInt32.le_iff_toNat_le.1 h.2
    rw [← Char.ofNat_toNat c]
    exact capitals c.toNat (by omega) hlo
  · have hsame : c.toLower = c := dif_neg h
    rw [hsame]

theorem isClean_iff_wordKey {name : String} :
    IsClean name ↔ ∀ c ∈ wordKey name, isStripped c = false := by
  rw [isClean_iff, wordKey]
  simp only [List.forall_mem_map, isStripped_toLower]

theorem isClean_of_wordKey_eq {a b : String} (h : wordKey a = wordKey b) (ha : IsClean a) :
    IsClean b := by
  rw [isClean_iff_wordKey] at ha ⊢
  rwa [← h]

namespace ReservedWords

/-! ## Admissible tables -/

/-- Nothing that the rules put together from the words of the table is a word of it. -/
structure Admissible (table : ReservedWords) : Prop where
  clean_words : ∀ word ∈ table.words, IsClean word
  clean_prefix : IsClean table.renamePrefix
  /-- No word is the prefix followed by a word, in any mixture of capitals. -/
  escape_fresh : ∀ word ∈ table.words, ∀ other ∈ table.words,
    wordKey other ≠ wordKey (table.escape word)
  /-- No word ends like a property that is told from its class. -/
  suffix_fresh : ∀ word ∈ table.words, ¬ wordKey propertySuffix <:+ wordKey word

end ReservedWords

/-- No word of Java starts like an escaped one. -/
theorem not_isPrefix_javaReserved :
    ∀ word ∈ javaReserved.words, ¬ wordKey javaReserved.renamePrefix <+: wordKey word := by
  decide +kernel

theorem javaReserved_admissible : javaReserved.Admissible where
  clean_words := by decide +kernel
  clean_prefix := by decide
  escape_fresh := by
    intro word _ other hother hkey
    refine not_isPrefix_javaReserved other hother ?_
    rw [hkey, ReservedWords.escape, wordKey_append]
    exact List.prefix_append _ _
  suffix_fresh := by decide +kernel

/-- A clean name that is not reserved: nothing is left to do for the rules without a class. -/
structure Settled (table : ReservedWords) (name : String) : Prop where
  clean : IsClean name
  free : table.isReserved name = false

namespace ReservedWords.Admissible

variable {table : ReservedWords}

theorem isClean_of_isReserved (h : table.Admissible) {name : String}
    (hr : table.isReserved name = true) : IsClean name := by
  obtain ⟨word, hmem, hkey⟩ := isReserved_iff.1 hr
  exact isClean_of_wordKey_eq hkey (h.clean_words word hmem)

theorem settled_escape (h : table.Admissible) {name : String}
    (hr : table.isReserved name = true) : Settled table (table.escape name) := by
  refine ⟨isClean_append.2 ⟨h.clean_prefix, h.isClean_of_isReserved hr⟩, ?_⟩
  obtain ⟨word, hmem, hkey⟩ := isReserved_iff.1 hr
  rw [← Bool.not_eq_true, isReserved_iff]
  rintro ⟨other, hother, heq⟩
  refine h.escape_fresh word hmem other hother ?_
  rw [heq, escape, escape, wordKey_append, wordKey_append, hkey]

theorem settled_suffix (h : table.Admissible) (raw : String) :
    Settled table (strip raw ++ propertySuffix) := by
  refine ⟨isClean_append.2 ⟨isClean_strip raw, by decide⟩, ?_⟩
  rw [← Bool.not_eq_true, isReserved_iff]
  rintro ⟨word, hmem, hkey⟩
  refine h.suffix_fresh word hmem ?_
  rw [hkey, wordKey_append]
  exact List.suffix_append _ _

end ReservedWords.Admissible

/-! ## The ways to a name -/

section Rules

variable {σ : Type} [RenameSink σ] {table : ReservedWords}

theorem settled_stripInto (h : table.Admissible) {raw : String}
    (hr : table.isReserved raw = false) (sink : σ) :
    Settled table (stripInto table raw sink).1 := by
  simp only [stripInto]
  split
  · rename_i hs
    exact h.settled_escape hs.2
  · rename_i hs
    refine ⟨isClean_strip raw, ?_⟩
    by_cases he : strip raw = raw
    · rw [he]; exact hr
    · simpa [he] using hs

/-- Whatever the class and the bound on renames, the rules return a settled name. -/
theorem settled_sanitizeWithin (h : table.Admissible) (owner : Option Owner) (renames : Nat)
    (raw : String) (sink : σ) : Settled table (sanitizeWithin table owner renames raw sink).1 := by
  induction renames generalizing raw with
  | zero =>
    unfold sanitizeWithin
    split
    · rename_i hr
      exact h.settled_escape hr
    · rename_i hr
      exact settled_stripInto h (by simpa using hr) sink
  | succ renames ih =>
    unfold sanitizeWithin
    split
    · rename_i hr
      exact h.settled_escape hr
    · rename_i hr
      have hfree : table.isReserved raw = false := by simpa using hr
      cases owner with
      | none => exact settled_stripInto h hfree sink
      | some o =>
        simp only
        split
        · split
          · exact h.settled_suffix raw
          · exact ih o.typeName
        · exact settled_stripInto h hfree sink

end Rules

variable {table : ReservedWords}

theorem settled_sanitize (h : table.Admissible) (raw : String) (owner : Option Owner) :
    Settled table (sanitize table raw owner).name :=
  settled_sanitizeWithin h owner maxRenames raw ([] : List RenameEvent)

/-- A settled name is returned as it is, and no rename is told. -/
theorem sanitize_of_settled {name : String} (h : Settled table name) :
    sanitize table name none = ⟨name, []⟩ := by
  have hstrip : strip name = name := strip_eq_self_iff.2 h.clean
  simp [sanitize, sanitizeInto, sanitizeWithin_none, stripInto, h.free, hstrip]

/-- **Sanitizing twice is sanitizing once.**  For every admissible table, which the table of Java
is, the identifier for a name, in the company of any class or none, is returned as it is and without
a rename when it is sanitized again; it is not reserved and holds no character that is removed. -/
theorem sanitize_fixed_point :
    javaReserved.Admissible ∧
    ∀ table : ReservedWords, table.Admissible →
      ∀ (raw : String) (owner : Option Owner) (n : String), (sanitize table raw owner).name = n →
        sanitize table n none = ⟨n, []⟩ ∧ table.isReserved n = false ∧
          '@' ∉ n.toList ∧ '.' ∉ n.toList := by
  refine ⟨javaReserved_admissible, ?_⟩
  rintro table h raw owner n rfl
  have hs := settled_sanitize h raw owner
  exact ⟨sanitize_of_settled hs, hs.free, hs.clean⟩

/-- A property named like its class takes the name of its type, which is a reserved word once the
sign is removed; the escaped word stays. -/
theorem sanitize_fixed_point_type_name :
    javaReserved.Admissible ∧
    sanitize javaReserved "foo" (some ⟨"Foo", "class@"⟩) =
      ⟨"msgraphClass", [⟨"Class", "msgraphClass", .reservedWord⟩]⟩ ∧
    sanitize javaReserved "msgraphClass" none = ⟨"msgraphClass", []⟩ := by
  have hrun : sanitize javaReserved "foo" (some ⟨"Foo", "class@"⟩) =
      ⟨"msgraphClass", [⟨"Class", "msgraphClass", .reservedWord⟩]⟩ := by decide +kernel
  refine ⟨javaReserved_admissible, hrun, ?_⟩
  exact (sanitize_fixed_point.2 javaReserved javaReserved_admissible "foo" (some ⟨"Foo", "class@"⟩)
    "msgraphClass" (congrArg Sanitized.name hrun)).1

end EdmMapping
