import EdmMapping.Proofs.Naming.Clashes

/-!
# The rules start over once at most

A property that is named like its class is named after its type, and the rules start over.  The name
of the type is capitalised then, so it has the name of the class only if the type had it before; but
such a type is dealt with by an ending.  The class has no say any more, and neither has the bound on
renames.

* `sanitizeTraced` — the rules with a record of the depths at which they start over;
  `sanitizeTraced_fst` — they are the same rules;
* `sanitizeTraced_snd_typeName` — with the name of the type they do not start over;
* `sanitizeWithin_succ` — the rules without a call of themselves, for every bound that is not zero;
* `self_naming_settles_at_once` — the depth of calls, the bound, and what becomes of the property.
-/

set_option autoImplicit false

namespace EdmMapping

section Rules

variable {σ : Type} [RenameSink σ]

/-- The rules with a record of their calls of themselves: the depths of the calls that start over
with the name of the type, where `depth` is that of the call at hand. -/
def sanitizeTraced (table : ReservedWords) (owner : Option Owner) :
    Nat → Nat → String → σ → (String × σ) × List Nat
  | _, 0, raw, sink =>
    (if table.isReserved raw then escapeInto table raw sink else stripInto table raw sink, [])
  | depth, renames + 1, raw, sink =>
    if table.isReserved raw then (escapeInto table raw sink, [])
    else
      match owner with
      | none => (stripInto table raw sink, [])
      | some o =>
        if upperFirst raw = o.className then
          if o.typeName = o.className then (suffixInto raw sink, [])
          else
            let (outcome, depths) := sanitizeTraced table owner (depth + 1) renames o.typeName sink
            (outcome, depth :: depths)
        else (stripInto table raw sink, [])

variable {table : ReservedWords} {owner : Option Owner} {o : Owner}

/-- The record changes nothing. -/
theorem sanitizeTraced_fst (depth renames : Nat) (raw : String) (sink : σ) :
    (sanitizeTraced table owner depth renames raw sink).1 =
      sanitizeWithin table owner renames raw sink := by
  induction renames generalizing depth raw with
  | zero => rfl
  | succ renames ih =>
    unfold sanitizeTraced sanitizeWithin
    by_cases hr : table.isReserved raw = true
    · rw [if_pos hr, if_pos hr]
    · rw [if_neg hr, if_neg hr]
      cases owner with
      | none => rfl
      | some o =>
        by_cases hclass : upperFirst raw = o.className
        · by_cases htype : o.typeName = o.className
          · simp only [hclass, htype, if_true]
          · simp only [hclass, htype, if_true, if_false]
            exact ih (depth + 1) o.typeName
        · simp only [hclass, if_false]

/-- With the name of the type the rules do not start over again. -/
theorem sanitizeTraced_snd_typeName (depth renames : Nat) (sink : σ) :
    (sanitizeTraced table (some o) depth renames o.typeName sink).2 = [] := by
  cases renames with
  | zero => rfl
  | succ renames =>
    unfold sanitizeTraced
    by_cases hr : table.isReserved o.typeName = true
    · rw [if_pos hr]
    · rw [if_neg hr]
      -- the name is capitalised, so what is compared with the class is the name itself
      by_cases htype : o.typeName = o.className
      · have hclass : upperFirst o.typeName = o.className := by rw [o.upperFirst_typeName, htype]
        simp only [if_pos hclass, if_pos htype]
      · have hclass : upperFirst o.typeName ≠ o.className := by rwa [o.upperFirst_typeName]
        simp only [if_neg hclass]

/-- The rules start over in the call at hand, or nowhere. -/
theorem sanitizeTraced_snd (depth renames : Nat) (raw : String) (sink : σ) :
    (sanitizeTraced table owner depth renames raw sink).2 = [] ∨
      (sanitizeTraced table owner depth renames raw sink).2 = [depth] := by
  cases renames with
  | zero => exact .inl rfl
  | succ renames =>
    unfold sanitizeTraced
    by_cases hr : table.isReserved raw = true
    · rw [if_pos hr]
      exact .inl rfl
    · rw [if_neg hr]
      cases owner with
      | none => exact .inl rfl
      | some o =>
        by_cases hclass : upperFirst raw = o.className
        · by_cases htype : o.typeName = o.className
          · left
            simp only [if_pos hclass, if_pos htype]
          · right
            simp only [if_pos hclass, if_neg htype, sanitizeTraced_snd_typeName]
        · left
          simp only [if_neg hclass]

/-- The rules without a call of themselves: started over, they are the rules without a class. -/
theorem sanitizeWithin_succ (renames : Nat) (raw : String) (sink : σ) :
    sanitizeWithin table (some o) (renames + 1) raw sink =
      if table.isReserved raw then escapeInto table raw sink
      else if upperFirst raw = o.className then
        if o.typeName = o.className then suffixInto raw sink
        else sanitizeWithin table none 0 o.typeName sink
      else stripInto table raw sink := by
  by_cases hr : table.isReserved raw = true
  · simp only [sanitizeWithin, hr, if_true]
  · have hfree : table.isReserved raw = false := by simpa using hr
    by_cases hclass : upperFirst raw = o.className
    · by_cases htype : o.typeName = o.className
      · simp only [sanitizeWithin, hfree, hclass, htype, if_true, if_false, Bool.false_eq_true]
      · rw [sanitizeWithin_of_type_ne hfree hclass htype, if_neg hr, if_pos hclass, if_neg htype,
          sanitizeWithin_none]
    · rw [sanitizeWithin_of_ne hclass, if_neg hr, if_neg hr, if_neg hclass]

/-- No bound but zero has a say. -/
theorem sanitizeWithin_eq_of_pos {bound other : Nat} (h : 1 ≤ bound) (h' : 1 ≤ other) (raw : String)
    (sink : σ) :
    sanitizeWithin table owner bound raw sink = sanitizeWithin table owner other raw sink := by
  cases owner with
  | none => rw [sanitizeWithin_none, sanitizeWithin_none]
  | some o =>
    obtain ⟨bound, rfl⟩ := Nat.exists_eq_add_of_le' h
    obtain ⟨other, rfl⟩ := Nat.exists_eq_add_of_le' h'
    rw [sanitizeWithin_succ, sanitizeWithin_succ]

end Rules

/-- **The rules start over once at most, and the bound on renames has no say**: for every table,
name and class, and whatever the bound, no call of the rules by themselves starts over again, so
that any bound but zero leads to the same identifier and the same renames.  And a property that is
named like its class, but is no reserved word, becomes what the name of its type becomes without a
class, if that is another name. -/
theorem self_naming_settles_at_once {σ : Type} [RenameSink σ] (table : ReservedWords)
    (owner : Option Owner) (raw : String) (sink : σ) :
    (∀ bound,
      (sanitizeTraced table owner 0 bound raw sink).1 = sanitizeWithin table owner bound raw sink ∧
      (sanitizeTraced table owner 0 bound raw sink).2.length ≤ 1 ∧
      ∀ depth ∈ (sanitizeTraced table owner 0 bound raw sink).2, depth = 0) ∧
    (∀ bound, 1 ≤ bound →
      sanitizeWithin table owner bound raw sink = sanitizeInto table raw owner sink) ∧
    ∀ o : Owner, table.isReserved raw = false → upperFirst raw = upperFirst o.name →
      upperFirst o.propertyTypeName ≠ upperFirst raw →
      sanitize table raw (some o) = sanitize table (upperFirst o.propertyTypeName) none := by
  refine ⟨?_, ?_, ?_⟩
  · intro bound
    refine ⟨sanitizeTraced_fst 0 bound raw sink, ?_⟩
    have hcalls : (sanitizeTraced table owner 0 bound raw sink).2 = [] ∨
        (sanitizeTraced table owner 0 bound raw sink).2 = [0] := sanitizeTraced_snd 0 bound raw sink
    rcases hcalls with hnone | hone
    · simp [hnone]
    · simp [hone]
  · intro bound hbound
    exact sanitizeWithin_eq_of_pos hbound (by decide) raw sink
  · intro o hr hclass htype
    have hsame : upperFirst raw = o.className := hclass
    have hne : o.typeName ≠ o.className := fun h => htype (h.trans hclass.symm)
    rw [sanitize_of_not_suffix fun hsuffix => hne hsuffix.2.2, Owner.source,
      if_neg (by simp [hr]), if_pos hsame, if_neg hne]
    rfl

/-- A property with the name of its class, spelled out, is named after its type; the bounds are one
and seven, and the name of the type is a reserved word once the sign is removed. -/
theorem self_naming_settles_at_once_spelled_out :
    sanitizeWithin javaReserved (some ⟨"ßa", "class@"⟩) 1 "SSa" ([] : List RenameEvent) =
      sanitizeWithin javaReserved (some ⟨"ßa", "class@"⟩) 7 "SSa" [] ∧
    javaReserved.isReserved "SSa" = false ∧ upperFirst "SSa" = upperFirst "ßa" ∧
    upperFirst "class@" ≠ upperFirst "SSa" ∧
    sanitize javaReserved "SSa" (some ⟨"ßa", "class@"⟩) =
      sanitize javaReserved (upperFirst "class@") none := by
  obtain ⟨-, hbound, htype⟩ := self_naming_settles_at_once javaReserved
    (some ⟨"ßa", "class@"⟩) "SSa" ([] : List RenameEvent)
  have hr : javaReserved.isReserved "SSa" = false := by decide +kernel
  have hclass : upperFirst "SSa" = upperFirst "ßa" := by decide +kernel
  have hne : upperFirst "class@" ≠ upperFirst "SSa" := by decide +kernel
  refine ⟨?_, hr, hclass, hne, htype ⟨"ßa", "class@"⟩ hr hclass hne⟩
  rw [hbound 1 (by decide), hbound 7 (by decide)]

/-- A bound of zero has a say: the property keeps the name of its class. -/
example :
    (sanitizeWithin javaReserved (some ⟨"Foo", "Bar"⟩) 0 "Foo" ([] : List RenameEvent)).1 = "Foo" ∧
    (sanitizeWithin javaReserved (some ⟨"Foo", "Bar"⟩) 1 "Foo" ([] : List RenameEvent)).1 =
      "Bar" := by
  decide +kernel

end EdmMapping
