import EdmMapping.Proofs.Naming.Settled
import EdmMapping.Proofs.Unicode.CaseStability

/-!
# Names that clash

The sanitizer looks at one name at a time, so different names can become one identifier.  Without a
class it happens to names that are the same once stripped, and to a reserved word and its escaped
form; the company of a class only replaces the name that the rules without a class are applied to.

* `ReservedWords.settle` — what becomes of a stripped name; `sanitize_none` — and what is told of
  it;
* `Owner.source` — the name that a class puts in the place of a raw one;
* `Owner.TakesSuffix` — a property that shares its name with its class and its type;
* `sanitize_of_suffix`, `sanitize_of_not_suffix` — such a property takes an ending, and any other
  one is sanitized like its source; `sanitize_source` — either way it has the identifier of its
  source;
* `Clash`, `sanitize_name_eq_iff` — which names have one identifier;
  `sanitize_identifies_exactly` — these names spelled out, for Java.
-/

set_option autoImplicit false

namespace EdmMapping

/-! ## Without a class -/

/-- The identifier for a name from which nothing is to be removed. -/
def ReservedWords.settle (table : ReservedWords) (name : String) : String :=
  if table.isReserved name then table.escape name else name

variable {table : ReservedWords}

/-- Without a class a name is stripped and settled, and the one rename is that of a reserved
word. -/
theorem sanitize_none (h : table.Admissible) (raw : String) :
    sanitize table raw none = ⟨table.settle (strip raw),
      if table.isReserved (strip raw) then
        [⟨strip raw, table.escape (strip raw), .reservedWord⟩]
      else []⟩ := by
  unfold sanitize sanitizeInto
  rw [sanitizeWithin_none]
  by_cases hr : table.isReserved raw = true
  · have hstrip : strip raw = raw := strip_eq_self_iff.2 (h.isClean_of_isReserved hr)
    rw [if_pos hr, hstrip, ReservedWords.settle, if_pos hr, if_pos hr]
    rfl
  · rw [if_neg hr]
    unfold stripInto ReservedWords.settle
    by_cases hs : table.isReserved (strip raw) = true
    · have hne : strip raw ≠ raw := fun e => hr (e ▸ hs)
      rw [if_pos ⟨hne, hs⟩, if_pos hs, if_pos hs]
      rfl
    · rw [if_neg fun hand => hs hand.2, if_neg hs, if_neg hs]

theorem sanitize_none_name (h : table.Admissible) (raw : String) :
    (sanitize table raw none).name = table.settle (strip raw) := by
  rw [sanitize_none h]

/-- Nothing depends on the characters that are removed. -/
theorem sanitize_none_strip (h : table.Admissible) (raw : String) :
    sanitize table raw none = sanitize table (strip raw) none := by
  rw [sanitize_none h raw, sanitize_none h (strip raw), strip_strip]

/-- Two names are the same without the characters that are removed, or one of them is a reserved
word then, and the other one its escaped form. -/
def Clash (table : ReservedWords) (a b : String) : Prop :=
  strip a = strip b ∨
    (table.isReserved (strip a) = true ∧ strip b = table.escape (strip a)) ∨
    (table.isReserved (strip b) = true ∧ strip a = table.escape (strip b))

instance (table : ReservedWords) (a b : String) : Decidable (Clash table a b) :=
  inferInstanceAs (Decidable (_ ∨ (_ ∧ _) ∨ (_ ∧ _)))

theorem ReservedWords.escape_inj {a b : String} :
    table.escape a = table.escape b ↔ a = b :=
  String.append_right_inj table.renamePrefix

namespace ReservedWords.Admissible

theorem escape_ne_of_isReserved (h : table.Admissible) {a b : String}
    (ha : table.isReserved a = true) (hb : table.isReserved b = true) : table.escape a ≠ b := by
  intro e
  have hfree : table.isReserved (table.escape a) = false := (h.settled_escape ha).free
  rw [e, hb] at hfree
  cases hfree

theorem settle_eq_iff (h : table.Admissible) {a b : String} :
    table.settle a = table.settle b ↔
      a = b ∨ (table.isReserved a = true ∧ b = table.escape a) ∨
        (table.isReserved b = true ∧ a = table.escape b) := by
  unfold settle
  by_cases ha : table.isReserved a = true <;> by_cases hb : table.isReserved b = true
  · have hab : b ≠ table.escape a := (h.escape_ne_of_isReserved ha hb).symm
    have hba : a ≠ table.escape b := (h.escape_ne_of_isReserved hb ha).symm
    rw [if_pos ha, if_pos hb, escape_inj]
    simp [hab, hba]
  · have hne : a ≠ b := fun e => hb (e ▸ ha)
    rw [if_pos ha, if_neg hb]
    simp [ha, hb, hne, eq_comm]
  · have hne : a ≠ b := fun e => ha (e ▸ hb)
    rw [if_neg ha, if_pos hb]
    simp [ha, hb, hne]
  · rw [if_neg ha, if_neg hb]
    simp [ha, hb]

end ReservedWords.Admissible

/-- **Names have one identifier exactly if they clash**, without a class. -/
theorem sanitize_name_eq_iff (h : table.Admissible) {a b : String} :
    (sanitize table a none).name = (sanitize table b none).name ↔ Clash table a b := by
  rw [sanitize_none_name h, sanitize_none_name h, h.settle_eq_iff]
  rfl

/-- **Which names the sanitizer identifies**, for Java and without a class.  A name and what is left
of it without `@` and `.` lead to one identifier, and to the same renames; and two names lead to one
identifier exactly if the same is left of them, or if a reserved word is left of one of them, and of
the other one that word behind the prefix of renames. -/
theorem sanitize_identifies_exactly (a b : String) :
    sanitize javaReserved a none = sanitize javaReserved (strip a) none ∧
    ((sanitize javaReserved a none).name = (sanitize javaReserved b none).name ↔
      strip a = strip b ∨
        (javaReserved.isReserved (strip a) = true ∧ strip b = "msgraph" ++ strip a) ∨
        (javaReserved.isReserved (strip b) = true ∧ strip a = "msgraph" ++ strip b)) :=
  ⟨sanitize_none_strip javaReserved_admissible a, sanitize_name_eq_iff javaReserved_admissible⟩

/-- The word is escaped into the other name, once the signs are removed. -/
example : (sanitize javaReserved "Class@" none).name =
    (sanitize javaReserved "msgraph.Class" none).name := by
  decide +kernel

/-! ## With a class -/

/-- The name that the identifier is made of in the company of a class: a property named like its
class is told from it by an ending, or named after its type. -/
def Owner.source (table : ReservedWords) (o : Owner) (raw : String) : String :=
  if table.isReserved raw then raw
  else if upperFirst raw = o.className then
    if o.typeName = o.className then raw ++ propertySuffix else o.typeName
  else raw

/-- The property has the name of its class, and so has its type. -/
def Owner.TakesSuffix (table : ReservedWords) (o : Owner) (raw : String) : Prop :=
  table.isReserved raw = false ∧ upperFirst raw = o.className ∧ o.typeName = o.className

theorem strip_append (a b : String) : strip (a ++ b) = strip a ++ strip b := by
  rw [← String.toList_inj]
  simp

theorem Owner.upperFirst_typeName (o : Owner) : upperFirst o.typeName = o.typeName :=
  upperFirst_upperFirst _

section Rules

variable {σ : Type} [RenameSink σ] {o : Owner} {raw : String}

/-- A class has no say over a name other than its own. -/
theorem sanitizeWithin_of_ne (h : upperFirst raw ≠ o.className) (renames : Nat) (sink : σ) :
    sanitizeWithin table (some o) renames raw sink =
      if table.isReserved raw then escapeInto table raw sink else stripInto table raw sink := by
  cases renames with
  | zero => rfl
  | succ renames => simp only [sanitizeWithin, h, if_false]

/-- The rules start over with the name of the type, and the class has no say over that. -/
theorem sanitizeWithin_of_type_ne (hr : table.isReserved raw = false)
    (hclass : upperFirst raw = o.className) (htype : o.typeName ≠ o.className) (renames : Nat)
    (sink : σ) :
    sanitizeWithin table (some o) (renames + 1) raw sink =
      if table.isReserved o.typeName then escapeInto table o.typeName sink
      else stripInto table o.typeName sink := by
  have hne : upperFirst o.typeName ≠ o.className := by
    rwa [o.upperFirst_typeName]
  rw [← sanitizeWithin_of_ne hne renames sink, sanitizeWithin]
  simp only [hr, hclass, htype, if_true, if_false, Bool.false_eq_true]

end Rules

/-- A property that shares its name with its class and its type takes the ending of a property. -/
theorem sanitize_of_suffix {raw : String} {o : Owner} (h : o.TakesSuffix table raw) :
    sanitize table raw (some o) =
      ⟨strip raw ++ propertySuffix, [⟨raw, strip raw ++ propertySuffix, .selfNamedProperty⟩]⟩ := by
  obtain ⟨hr, hclass, htype⟩ := h
  simp [sanitize, sanitizeInto, maxRenames, sanitizeWithin, suffixInto, hr, hclass, htype]

/-- Any other property is sanitized as its source is without a class, renames and all. -/
theorem sanitize_of_not_suffix {raw : String} {o : Owner} (h : ¬ o.TakesSuffix table raw) :
    sanitize table raw (some o) = sanitize table (o.source table raw) none := by
  unfold Owner.source
  by_cases hr : table.isReserved raw = true
  · simp only [sanitize, sanitizeInto, maxRenames, sanitizeWithin, hr, if_true]
  · have hfree : table.isReserved raw = false := by simpa using hr
    by_cases hclass : upperFirst raw = o.className
    · have htype : o.typeName ≠ o.className := fun htype => h ⟨hfree, hclass, htype⟩
      rw [if_neg hr, if_pos hclass, if_neg htype]
      simp only [sanitize, sanitizeInto, maxRenames,
        sanitizeWithin_of_type_ne hfree hclass htype 3, sanitizeWithin_none]
    · rw [if_neg hr, if_neg hclass]
      simp only [sanitize, sanitizeInto, sanitizeWithin_of_ne hclass, sanitizeWithin_none]

/-- **A class replaces the name, and nothing else**: the identifier is that of the source. -/
theorem sanitize_source (h : table.Admissible) (raw : String) (o : Owner) :
    (sanitize table raw (some o)).name = (sanitize table (o.source table raw) none).name := by
  by_cases hsuffix : o.TakesSuffix table raw
  · have hsource : o.source table raw = raw ++ propertySuffix := by
      simp [Owner.source, hsuffix.1, hsuffix.2.1, hsuffix.2.2]
    have hend : strip propertySuffix = propertySuffix := by decide
    have hfree : table.isReserved (strip raw ++ propertySuffix) = false :=
      (h.settled_suffix raw).free
    rw [sanitize_of_suffix hsuffix, hsource, sanitize_none_name h, strip_append, hend,
      ReservedWords.settle, if_neg (by simp [hfree])]
  · rw [sanitize_of_not_suffix hsuffix]

end EdmMapping
