import EdmMapping.Diagnostics
import EdmMapping.Naming.Sanitizer
import EdmMapping.Text.Search

/-!
# How the rules end

The rules of the sanitizer end in one of three ways, whatever the table of reserved words: a
reserved word is escaped, a property gets an ending, or characters are removed.  The first two tell
of one rename, the last one tells of none, and neither the name nor what is told depends on whom it
is told to.

* `IsSource` — the names that the rules may be left with: that of the property and that of its type;
* `Outcome` — the three ways; `ends_sanitizeWithin` — every run takes one of them, for every class,
  every bound on renames and every sink;
* `strip_ne_iff_utf8Size_ne` — the length of a name tells whether something is removed from it;
* `tellAll` — a sink that is told of renames one by one; `sanitizeInto_eq` — what a sink is told is
  what `sanitize` returns;
* `length_events_sanitize_le_one` — one rename at most;
* `renames_tell_the_truth` — what a rename says, and what the name is without one.
-/

set_option autoImplicit false

namespace EdmMapping

variable {table : ReservedWords} {owner : Option Owner} {raw : String}

/-! ## The three ways -/

/-- The name that is made into an identifier: the raw one, or the name of its type for a property
that is named like its class. -/
def IsSource (owner : Option Owner) (raw source : String) : Prop :=
  source = raw ∨ ∃ o, owner = some o ∧ upperFirst raw = o.className ∧ source = o.typeName

/-- The identifier for a name, and the renames that are told. -/
inductive Outcome (table : ReservedWords) (owner : Option Owner) (raw : String) :
    String → List RenameEvent → Prop where
  /-- A source that is a reserved word as it stands, or without the characters that are removed. -/
  | escaped {source word : String} (hsource : IsSource owner raw source)
      (hword : word = source ∨ word = strip source) (hr : table.isReserved word = true) :
      Outcome table owner raw (table.escape word) [⟨word, table.escape word, .reservedWord⟩]
  | suffixed {o : Owner} (howner : owner = some o) (hclass : upperFirst raw = o.className)
      (htype : o.typeName = o.className) :
      Outcome table owner raw (strip raw ++ propertySuffix)
        [⟨raw, strip raw ++ propertySuffix, .selfNamedProperty⟩]
  | stripped {source : String} (hsource : IsSource owner raw source)
      (hfree : table.isReserved (strip source) = false) :
      Outcome table owner raw (strip source) []

/-- What the rules make of the type of a property that is named like its class, they make of the
property.  The type does not get an ending: it would have the name of the class. -/
theorem Outcome.of_typeName {o : Owner} {name : String} {events : List RenameEvent}
    (hclass : upperFirst raw = o.className) (htype : o.typeName ≠ o.className)
    (h : Outcome table (some o) o.typeName name events) :
    Outcome table (some o) raw name events := by
  have hsources (source : String) (hs : IsSource (some o) o.typeName source) :
      IsSource (some o) raw source := by
    right
    rcases hs with rfl | ⟨o', ho, -, rfl⟩
    · exact ⟨o, rfl, hclass, rfl⟩
    · cases ho
      exact ⟨o, rfl, hclass, rfl⟩
  cases h with
  | escaped hsource hword hr => exact .escaped (hsources _ hsource) hword hr
  | suffixed howner _ htype' =>
    cases howner
    exact absurd htype' htype
  | stripped hsource hfree => exact .stripped (hsources _ hsource) hfree

/-! ## Lengths -/

/-- What is left of a text and what is removed from it take its bytes between them. -/
theorem utf8Size_filter_add (p : Char → Bool) (cs : List Char) :
    utf8Size (cs.filter p) + utf8Size (cs.filter fun c => !p c) = utf8Size cs := by
  induction cs with
  | nil => rfl
  | cons c cs ih =>
    cases hp : p c with
    | true =>
      simp only [List.filter_cons, hp, Bool.not_true, Bool.false_eq_true, if_true, if_false,
        utf8Size_cons]
      omega
    | false =>
      simp only [List.filter_cons, hp, Bool.not_false, Bool.false_eq_true, if_true, if_false,
        utf8Size_cons]
      omega

/-- **Comparing lengths is comparing names**: a name has lost a character exactly if it has lost
bytes. -/
theorem strip_ne_iff_utf8Size_ne :
    strip raw ≠ raw ↔ utf8Size (strip raw).toList ≠ utf8Size raw.toList := by
  constructor
  · intro hne hsize
    apply hne
    rw [← String.toList_inj, toList_strip, List.filter_eq_self]
    intro c hc
    have hparts := utf8Size_filter_add (fun c => !isStripped c) raw.toList
    rw [← toList_strip] at hparts
    cases hstripped : isStripped c with
    | false => rfl
    | true =>
      -- a character that is removed would take bytes, and none are missing
      have hremoved : c ∈ raw.toList.filter fun c => !!isStripped c :=
        List.mem_filter.2 ⟨hc, by simp [hstripped]⟩
      obtain ⟨before, after, hsplit⟩ := List.append_of_mem hremoved
      rw [hsplit, utf8Size_append, utf8Size_cons] at hparts
      have hpos := c.utf8Size_pos
      omega
  · intro hsize heq
    rw [heq] at hsize
    exact hsize rfl

/-! ## Runs -/

/-- The sink that has been told of the renames, one after the other. -/
def tellAll {σ : Type} [RenameSink σ] (sink : σ) (events : List RenameEvent) : σ :=
  events.foldl RenameSink.record sink

@[simp] theorem tellAll_nil {σ : Type} [RenameSink σ] (sink : σ) : tellAll sink [] = sink := rfl

@[simp] theorem tellAll_cons {σ : Type} [RenameSink σ] (sink : σ) (e : RenameEvent)
    (events : List RenameEvent) :
    tellAll sink (e :: events) = tellAll (RenameSink.record sink e) events := rfl

theorem tellAll_list (told events : List RenameEvent) : tellAll told events = told ++ events := by
  induction events generalizing told with
  | nil => simp
  | cons e events ih => rw [tellAll_cons, ih, record_list, List.append_assoc, List.singleton_append]

theorem items_tellAll (notes : Diagnostics) (events : List RenameEvent) :
    (tellAll notes events).items = notes.items ++ events.map .ofRename := by
  induction events generalizing notes with
  | nil => simp
  | cons e events ih =>
    rw [tellAll_cons, ih, Diagnostics.items_record, List.append_assoc, List.map_cons,
      List.singleton_append]

/-- The run takes one of the three ways, and tells every sink the same. -/
def Ends (table : ReservedWords) (owner : Option Owner) (raw : String)
    (run : (σ : Type) → [RenameSink σ] → σ → String × σ) : Prop :=
  ∃ name events, Outcome table owner raw name events ∧
    ∀ (σ : Type) [RenameSink σ] (sink : σ), run σ sink = (name, tellAll sink events)

theorem ends_escapeInto (hr : table.isReserved raw = true) :
    Ends table owner raw fun _ _ sink => escapeInto table raw sink :=
  ⟨_, _, .escaped (.inl rfl) (.inl rfl) hr, fun _ _ _ => rfl⟩

theorem ends_stripInto (hr : table.isReserved raw = false) :
    Ends table owner raw fun _ _ sink => stripInto table raw sink := by
  by_cases hs : strip raw ≠ raw ∧ table.isReserved (strip raw) = true
  · refine ⟨_, _, .escaped (.inl rfl) (.inr rfl) hs.2, ?_⟩
    intro σ _ sink
    simp only [stripInto, if_pos hs]
    rfl
  · have hfree : table.isReserved (strip raw) = false := by
      by_cases heq : strip raw = raw
      · rw [heq, hr]
      · simpa [heq] using hs
    refine ⟨_, _, .stripped (.inl rfl) hfree, ?_⟩
    intro σ _ sink
    simp only [stripInto, if_neg hs]
    rfl

/-- **Every run of the rules takes one of the three ways**, and tells every sink the same. -/
theorem ends_sanitizeWithin (table : ReservedWords) (owner : Option Owner) (renames : Nat)
    (raw : String) :
    Ends table owner raw fun _ _ sink => sanitizeWithin table owner renames raw sink := by
  induction renames generalizing raw with
  | zero =>
    cases hr : table.isReserved raw with
    | true =>
      simp only [sanitizeWithin, hr, if_true]
      exact ends_escapeInto hr
    | false =>
      simp only [sanitizeWithin, hr, Bool.false_eq_true, if_false]
      exact ends_stripInto hr
  | succ renames ih =>
    cases hr : table.isReserved raw with
    | true =>
      simp only [sanitizeWithin, hr, if_true]
      exact ends_escapeInto hr
    | false =>
      cases owner with
      | none =>
        simp only [sanitizeWithin, hr, Bool.false_eq_true, if_false]
        exact ends_stripInto hr
      | some o =>
        by_cases hclass : upperFirst raw = o.className
        · by_cases htype : o.typeName = o.className
          · simp only [sanitizeWithin, hr, hclass, htype, Bool.false_eq_true, if_false, if_true]
            exact ⟨_, _, .suffixed rfl hclass htype, fun _ _ _ => rfl⟩
          · simp only [sanitizeWithin, hr, hclass, htype, Bool.false_eq_true, if_false, if_true]
            obtain ⟨name, events, houtcome, hrun⟩ := ih o.typeName
            exact ⟨name, events, houtcome.of_typeName hclass htype, hrun⟩
        · simp only [sanitizeWithin, hr, hclass, Bool.false_eq_true, if_false]
          exact ends_stripInto hr

/-! ## What is told -/

/-- What a sink is told is what is returned without one. -/
theorem ends_sanitizeInto (table : ReservedWords) (raw : String) (owner : Option Owner) :
    Outcome table owner raw (sanitize table raw owner).name (sanitize table raw owner).events ∧
      ∀ (σ : Type) [RenameSink σ] (sink : σ), sanitizeInto table raw owner sink =
        ((sanitize table raw owner).name, tellAll sink (sanitize table raw owner).events) := by
  obtain ⟨name, events, houtcome, hrun⟩ := ends_sanitizeWithin table owner maxRenames raw
  have hlist : sanitizeInto table raw owner ([] : List RenameEvent) = (name, events) :=
    (hrun (List RenameEvent) []).trans (by rw [tellAll_list, List.nil_append])
  have hsanitize : sanitize table raw owner = ⟨name, events⟩ := by
    unfold sanitize
    rw [hlist]
  rw [hsanitize]
  exact ⟨houtcome, hrun⟩

theorem sanitizeInto_eq {σ : Type} [RenameSink σ] (table : ReservedWords) (raw : String)
    (owner : Option Owner) (sink : σ) :
    sanitizeInto table raw owner sink =
      ((sanitize table raw owner).name, tellAll sink (sanitize table raw owner).events) :=
  (ends_sanitizeInto table raw owner).2 σ sink

theorem outcome_sanitize (table : ReservedWords) (raw : String) (owner : Option Owner) :
    Outcome table owner raw (sanitize table raw owner).name (sanitize table raw owner).events :=
  (ends_sanitizeInto table raw owner).1

namespace Outcome

variable {name : String} {events : List RenameEvent}

theorem length_events_le_one (h : Outcome table owner raw name events) : events.length ≤ 1 := by
  cases h with
  | escaped => exact Nat.le_refl 1
  | suffixed => exact Nat.le_refl 1
  | stripped => exact Nat.zero_le 1

/-- A rename gives the name that is returned, and the reason for it. -/
theorem of_mem_events (h : Outcome table owner raw name events) {e : RenameEvent}
    (he : e ∈ events) :
    e.renamed = name ∧
      ((e.reason = .reservedWord ∧ table.isReserved e.given = true ∧
          e.renamed = table.renamePrefix ++ e.given ∧
          ∃ source, IsSource owner raw source ∧ (e.given = source ∨ e.given = strip source)) ∨
        (e.reason = .selfNamedProperty ∧ e.given = raw ∧
          (∃ o, owner = some o ∧ upperFirst raw = upperFirst o.name ∧
            upperFirst o.propertyTypeName = upperFirst o.name) ∧
          e.renamed = strip raw ++ "Property")) := by
  cases h with
  | escaped hsource hword hr =>
    cases List.mem_singleton.1 he
    exact ⟨rfl, .inl ⟨rfl, hr, rfl, _, hsource, hword⟩⟩
  | suffixed howner hclass htype =>
    cases List.mem_singleton.1 he
    exact ⟨rfl, .inr ⟨rfl, rfl, ⟨_, howner, hclass, htype⟩, rfl⟩⟩
  | stripped => cases he

/-- Without a rename the name is that of a source without the characters that are removed. -/
theorem of_events_eq_nil (h : Outcome table owner raw name events) (hnone : events = []) :
    table.isReserved name = false ∧
      (name = strip raw ∨
        ∃ o, owner = some o ∧ upperFirst raw = upperFirst o.name ∧
          name = strip (upperFirst o.propertyTypeName)) := by
  cases h with
  | escaped => cases hnone
  | suffixed => cases hnone
  | stripped hsource hfree =>
    refine ⟨hfree, ?_⟩
    rcases hsource with rfl | ⟨o, howner, hclass, rfl⟩
    · exact .inl rfl
    · exact .inr ⟨o, howner, hclass, rfl⟩

end Outcome

theorem length_events_sanitize_le_one (raw : String) (owner : Option Owner) :
    (sanitize table raw owner).events.length ≤ 1 :=
  (outcome_sanitize table raw owner).length_events_le_one

/-- **Renames tell the truth**, for every table, name and class.  There is one at most.  It gives
the name that is returned, and either escapes a reserved word, which the raw name or the name of the
type is or becomes when it is stripped, or puts the ending of a property behind a name that has the
capitalisation of its class and of its type.  Without a rename the name is no reserved word, and is
the raw name or the capitalised name of the type, without `@` and `.`.  A list of renames and a list
of notes get these renames behind what they hold, and change nothing about the name. -/
theorem renames_tell_the_truth (table : ReservedWords) (raw : String) (owner : Option Owner) :
    (sanitize table raw owner).events.length ≤ 1 ∧
    (∀ e ∈ (sanitize table raw owner).events,
      e.renamed = (sanitize table raw owner).name ∧
        ((e.reason = .reservedWord ∧ table.isReserved e.given = true ∧
            e.renamed = table.renamePrefix ++ e.given ∧
            ∃ source, IsSource owner raw source ∧ (e.given = source ∨ e.given = strip source)) ∨
          (e.reason = .selfNamedProperty ∧ e.given = raw ∧
            (∃ o, owner = some o ∧ upperFirst raw = upperFirst o.name ∧
              upperFirst o.propertyTypeName = upperFirst o.name) ∧
            e.renamed = strip raw ++ "Property"))) ∧
    ((sanitize table raw owner).events = [] →
      table.isReserved (sanitize table raw owner).name = false ∧
        ((sanitize table raw owner).name = strip raw ∨
          ∃ o, owner = some o ∧ upperFirst raw = upperFirst o.name ∧
            (sanitize table raw owner).name = strip (upperFirst o.propertyTypeName))) ∧
    (∀ told : List RenameEvent, sanitizeInto table raw owner told =
      ((sanitize table raw owner).name, told ++ (sanitize table raw owner).events)) ∧
    ∀ notes : Diagnostics, sanitizeInto table raw owner notes =
      ((sanitize table raw owner).name,
        ⟨notes.items ++ (sanitize table raw owner).events.map .ofRename⟩) := by
  have houtcome := outcome_sanitize table raw owner
  refine ⟨houtcome.length_events_le_one, ?_, houtcome.of_events_eq_nil, ?_, ?_⟩
  · intro e he
    exact houtcome.of_mem_events he
  · intro told
    rw [sanitizeInto_eq, tellAll_list]
  · intro notes
    rw [sanitizeInto_eq, ← items_tellAll]

/-- A reserved word that only appears once the sign is removed, a property that shares its name with
its class and its type, and one that is named after its type without a rename. -/
theorem renames_tell_the_truth_three_ways :
    (⟨"class", "msgraphclass", .reservedWord⟩ ∈ (sanitize javaReserved "class@" none).events ∧
      (sanitize javaReserved "class@" none).name = "msgraphclass") ∧
    (⟨"fo.o", "fooProperty", .selfNamedProperty⟩ ∈
        (sanitize javaReserved "fo.o" (some ⟨"Fo.o", "fo.o"⟩)).events ∧
      (sanitize javaReserved "fo.o" (some ⟨"Fo.o", "fo.o"⟩)).name = "fooProperty") ∧
    (sanitize javaReserved "foo" (some ⟨"Foo", "b@r"⟩)).events = [] ∧
    javaReserved.isReserved (sanitize javaReserved "foo" (some ⟨"Foo", "b@r"⟩)).name = false := by
  have hword : ⟨"class", "msgraphclass", .reservedWord⟩ ∈
      (sanitize javaReserved "class@" none).events := by decide +kernel
  have hself : ⟨"fo.o", "fooProperty", .selfNamedProperty⟩ ∈
      (sanitize javaReserved "fo.o" (some ⟨"Fo.o", "fo.o"⟩)).events := by decide +kernel
  have hnone : (sanitize javaReserved "foo" (some ⟨"Foo", "b@r"⟩)).events = [] := by decide +kernel
  refine ⟨⟨hword, ?_⟩, ⟨hself, ?_⟩, hnone, ?_⟩
  · exact ((renames_tell_the_truth javaReserved "class@" none).2.1 _ hword).1.symm
  · exact ((renames_tell_the_truth javaReserved "fo.o" (some ⟨"Fo.o", "fo.o"⟩)).2.1 _ hself).1.symm
  · exact ((renames_tell_the_truth javaReserved "foo" (some ⟨"Foo", "b@r"⟩)).2.2.1 hnone).1

end EdmMapping
