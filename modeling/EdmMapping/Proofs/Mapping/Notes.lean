import EdmMapping.Proofs.Imports.Path
import EdmMapping.Proofs.Mapping.Classes

/-!
# The notes on a mapping

The notes go through the whole build in one list that every property adds to.  What a property adds
depends on the property and its type alone, so the list is that of all properties put together, in
the order of the model.

* `PropertyDescriptor.IsUnqualified` — a type of the model that no package can be told from;
* `PropertyDescriptor.notesIn` — the notes on a property, without the notes so far;
* `diagnostics_addProperty` — one property; `diagnostics_foldl_addProperty`, `diagnostics_mapType`
  and `diagnostics_foldl_addType` — all properties of a type, and all types;
* `countP_notesIn` — how many of the notes on a property have a given severity;
  `location_of_mem_notesIn` — and where they are placed;
* `notes_complete_exact` — the notes on a mapping, and what its errors and warnings tell.
-/

set_option autoImplicit false

namespace EdmMapping

namespace PropertyDescriptor

/-- The type that is emitted belongs to the model, but its name is not that of a type in a
package. -/
def IsUnqualified (p : PropertyDescriptor) : Prop :=
  p.projectedType.isPrimitive = false ∧ '.' ∉ p.projectedType.qualifiedName.toList

instance (p : PropertyDescriptor) : Decidable p.IsUnqualified :=
  inferInstanceAs (Decidable (_ ∧ _))

/-- What there is to note about a property of the type `d`: its renames, that nothing is left of
its identifier, and that its type cannot be imported. -/
def notesIn (table : ReservedWords) (d : TypeDefinition) (p : PropertyDescriptor) :
    List Diagnostic :=
  let place := some (d.name ++ "." ++ p.name)
  let sanitized := sanitizeProperty table p
  sanitized.events.map (fun e => ⟨.info, "sanitize", e.message, place⟩)
    ++ (if sanitized.name = "" then
        [⟨.warning, "sanitize", "identifier is empty after sanitizing", place⟩]
      else [])
    ++ (if p.IsUnqualified then
        [⟨.error, "imports",
          (ImportError.unqualified p.projectedType.qualifiedName).message, place⟩]
      else [])

theorem importPath_eq_error_iff {p : PropertyDescriptor} {e : ImportError} :
    p.importPath = .error e ↔
      '.' ∉ p.projectedType.qualifiedName.toList ∧ e = .unqualified p.projectedType.qualifiedName :=
  lowercasedImportPath_eq_error_iff

end PropertyDescriptor

/-- A name without namespace counts as it stands, and so does one with an empty namespace. -/
theorem TypeDescriptor.dot_notMem_qualifiedName_iff {ty : TypeDescriptor} :
    '.' ∉ ty.qualifiedName.toList ↔ (ty.ns = none ∨ ty.ns = some "") ∧ '.' ∉ ty.name.toList := by
  unfold qualifiedName
  cases hns : ty.ns with
  | none => simp
  | some ns =>
    by_cases hempty : ns = ""
    · simp [hempty]
    · simp [hempty]

variable (t : Target)

/-! ## One property -/

theorem items_foldl_push (notes : Diagnostics) (news : List Diagnostic)
    (f : Diagnostic → Diagnostic) :
    (news.foldl (fun notes n => notes.push (f n)) notes).items = notes.items ++ news.map f := by
  induction news generalizing notes with
  | nil => simp
  | cons n news ih => rw [List.foldl_cons, ih, Diagnostics.items_push, List.map_cons,
      List.append_assoc, List.singleton_append]

theorem items_push_if (notes : Diagnostics) (c : Prop) [Decidable c] (n : Diagnostic) :
    (if c then notes.push n else notes).items = notes.items ++ if c then [n] else [] := by
  split <;> simp

/-- **One property**: its notes come last. -/
theorem diagnostics_addProperty (d : TypeDefinition) (draft : ClassDraft) (p : PropertyDescriptor) :
    (draft.addProperty t d p).diagnostics.items =
      draft.diagnostics.items ++ p.notesIn t.reserved d := by
  unfold ClassDraft.addProperty PropertyDescriptor.notesIn PropertyDescriptor.IsUnqualified
  simp only [ImportCollector.addProperty_eq, String.isEmpty_iff]
  -- the last note depends on the outcome of the import alone
  by_cases hprimitive : p.projectedType.isPrimitive = true
  · simp only [hprimitive, if_true, Bool.true_eq_false, false_and, if_false, List.append_nil]
    rw [items_push_if, items_foldl_push, List.map_map, List.append_assoc]
    rfl
  · cases hpath : p.importPath with
    | ok path =>
      have hdot : '.' ∈ p.projectedType.qualifiedName.toList := by
        refine Classical.not_not.1 fun hnot => ?_
        rw [PropertyDescriptor.importPath_eq_error_iff.2 ⟨hnot, rfl⟩] at hpath
        cases hpath
      simp only [hprimitive, hdot, Except.map, if_false, not_true, and_false, List.append_nil,
        Bool.false_eq_true]
      rw [items_push_if, items_foldl_push, List.map_map, List.append_assoc]
      rfl
    | error e =>
      obtain ⟨hdot, rfl⟩ := PropertyDescriptor.importPath_eq_error_iff.1 hpath
      simp only [hprimitive, hdot, Except.map, if_false, Bool.false_eq_true, not_false_eq_true,
        and_self, if_true]
      rw [Diagnostics.items_push, items_push_if, items_foldl_push, List.map_map, List.append_assoc,
        List.append_assoc, List.append_assoc]
      rfl

/-! ## All properties -/

theorem diagnostics_foldl_addProperty (d : TypeDefinition) (ps : List PropertyDescriptor)
    (draft : ClassDraft) :
    (ps.foldl (ClassDraft.addProperty t d) draft).diagnostics.items =
      draft.diagnostics.items ++ ps.flatMap (·.notesIn t.reserved d) := by
  induction ps generalizing draft with
  | nil => simp
  | cons p ps ih =>
    rw [List.foldl_cons, ih, diagnostics_addProperty, List.flatMap_cons, List.append_assoc]

theorem diagnostics_mapType (notes : Diagnostics) (d : TypeDefinition) :
    (mapType t notes d).2.items = notes.items ++ d.properties.flatMap (·.notesIn t.reserved d) :=
  diagnostics_foldl_addProperty t d d.properties ⟨.empty, [], notes⟩

theorem diagnostics_foldl_addType (ds : List TypeDefinition) (m : ModelMapping) :
    (ds.foldl (ModelMapping.addType t) m).diagnostics.items =
      m.diagnostics.items ++ ds.flatMap fun d => d.properties.flatMap (·.notesIn t.reserved d) := by
  induction ds generalizing m with
  | nil => simp
  | cons d ds ih =>
    have hstep : (ModelMapping.addType t m d).diagnostics.items =
        m.diagnostics.items ++ d.properties.flatMap (·.notesIn t.reserved d) :=
      diagnostics_mapType t m.diagnostics d
    rw [List.foldl_cons, ih, hstep, List.flatMap_cons, List.append_assoc]

theorem diagnostics_buildWith (model : Model) :
    (ModelMapping.buildWith t model).diagnostics.items =
      model.types.flatMap fun d => d.properties.flatMap (·.notesIn t.reserved d) :=
  diagnostics_foldl_addType t model.types _

/-! ## Severities -/

/-- How many notes on the property have the severity: an info for every rename, and one warning and
one error at most. -/
theorem countP_notesIn (table : ReservedWords) (d : TypeDefinition) (p : PropertyDescriptor)
    (severity : Severity) :
    (p.notesIn table d).countP (fun n => n.severity = severity) =
      match severity with
      | .error => if p.IsUnqualified then 1 else 0
      | .warning => if (sanitizeProperty table p).name = "" then 1 else 0
      | .info => (sanitizeProperty table p).events.length := by
  unfold PropertyDescriptor.notesIn
  rw [List.countP_append, List.countP_append, List.countP_map]
  by_cases hempty : (sanitizeProperty table p).name = "" <;> by_cases hun : p.IsUnqualified <;>
    cases severity <;> simp [hempty, hun, Function.comp_def, List.countP_false]

theorem exists_severity_iff {notes : List Diagnostic} {severity : Severity} :
    (∃ n ∈ notes, n.severity = severity) ↔
      0 < notes.countP fun n => n.severity = severity := by
  simp [List.countP_pos_iff]

/-- All notes on a property are placed at it. -/
theorem location_of_mem_notesIn {table : ReservedWords} {d : TypeDefinition}
    {p : PropertyDescriptor} {n : Diagnostic} (h : n ∈ p.notesIn table d) :
    n.location = some (d.name ++ "." ++ p.name) := by
  unfold PropertyDescriptor.notesIn at h
  rcases List.mem_append.1 h with h | h
  · rcases List.mem_append.1 h with h | h
    · obtain ⟨e, -, rfl⟩ := List.mem_map.1 h
      rfl
    · split at h
      · rw [List.mem_singleton.1 h]
      · cases h
  · split at h
    · rw [List.mem_singleton.1 h]
    · cases h

/-- Lists that are put together piece by piece hold equally many elements of two sorts if their
pieces do. -/
theorem countP_flatMap_congr {α β γ : Type} {l : List α} {f : α → List β} {g : α → List γ}
    {q : β → Bool} {r : γ → Bool} (h : ∀ a ∈ l, (f a).countP q = (g a).countP r) :
    (l.flatMap f).countP q = (l.flatMap g).countP r := by
  have hpieces : l.map (List.countP q ∘ f) = l.map (List.countP r ∘ g) := List.map_congr_left h
  rw [List.countP_flatMap, List.countP_flatMap, hpieces]

theorem members_buildWith (model : Model) :
    (ModelMapping.buildWith t model).classes.flatMap (·.members) =
      model.types.flatMap fun d => d.properties.flatMap fun p => [p.memberIn t] := by
  rw [classes_buildWith, List.flatMap_map]
  simp only [← List.map_eq_flatMap]
  rfl

theorem hasErrors_buildWith_iff (model : Model) :
    (ModelMapping.buildWith t model).diagnostics.hasErrors = true ↔
      ∃ d ∈ model.types, ∃ p ∈ d.properties, p.IsUnqualified := by
  have hnotes (d : TypeDefinition) (p : PropertyDescriptor) :
      (∃ n ∈ p.notesIn t.reserved d, n.severity = .error) ↔ p.IsUnqualified := by
    rw [exists_severity_iff, countP_notesIn]
    by_cases hun : p.IsUnqualified <;> simp [hun]
  unfold Diagnostics.hasErrors
  rw [diagnostics_buildWith, List.any_eq_true]
  simp only [List.mem_flatMap, decide_eq_true_eq]
  constructor
  · rintro ⟨n, ⟨d, hd, p, hp, hn⟩, herror⟩
    exact ⟨d, hd, p, hp, (hnotes d p).1 ⟨n, hn, herror⟩⟩
  · rintro ⟨d, hd, p, hp, hun⟩
    obtain ⟨n, hn, herror⟩ := (hnotes d p).2 hun
    exact ⟨n, ⟨d, hd, p, hp, hn⟩, herror⟩

theorem warningCount_buildWith (model : Model) :
    (ModelMapping.buildWith t model).diagnostics.warningCount =
      ((ModelMapping.buildWith t model).classes.flatMap (·.members)).countP
        fun x => x.identifier = "" := by
  unfold Diagnostics.warningCount
  rw [diagnostics_buildWith, members_buildWith]
  refine countP_flatMap_congr fun d _ => countP_flatMap_congr fun p _ => ?_
  rw [countP_notesIn, List.countP_singleton]
  simp only [decide_eq_true_eq]
  rfl

/-- **The notes on a mapping are complete, exact and in the order of the model**, for every model,
every type mapper and every table of reserved words: they are the notes on the properties of its
types, each of which tells the renames, then that the identifier of the member is empty, and then
that the type cannot be imported.  So there are errors exactly if the projected type of a property
is of the model and unqualified, and there are as many warnings as members with an empty
identifier. -/
theorem notes_complete_exact (model : Model) :
    (ModelMapping.buildWith t model).diagnostics.items =
        model.types.flatMap (fun d => d.properties.flatMap fun p => p.notesIn t.reserved d) ∧
    ((ModelMapping.buildWith t model).classes.map fun c => c.members.map (·.identifier)) =
        (model.types.map fun d => d.properties.map fun p =>
          (sanitizeProperty t.reserved p).name) ∧
    ((ModelMapping.buildWith t model).diagnostics.hasErrors = true ↔
        ∃ d ∈ model.types, ∃ p ∈ d.properties, p.IsUnqualified) ∧
    (ModelMapping.buildWith t model).diagnostics.warningCount =
        ((ModelMapping.buildWith t model).classes.flatMap (·.members)).countP
          fun x => x.identifier = "" := by
  refine ⟨diagnostics_buildWith t model, ?_, hasErrors_buildWith_iff t model,
    warningCount_buildWith t model⟩
  rw [classes_buildWith, List.map_map]
  refine List.map_congr_left fun d _ => ?_
  show (d.properties.map (·.memberIn t)).map (·.identifier) = _
  rw [List.map_map]
  rfl

end EdmMapping
