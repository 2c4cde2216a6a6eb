import EdmMapping.CommandLine.Run
import EdmMapping.Proofs.CommandLine.Check
import EdmMapping.Proofs.Text.Names

/-!
# One type of a mapping

The mapping of a model can be shown for one of its types.  The classes are chosen from the mapping
of the whole model then, and the notes are not: they are those on all types, where the mapping of
the type alone has those on the type.

* `Model.only` — the model with one of its types; `Diagnostic.isAbout` — a note on a type, told by
  its place;
* `classes_restrictTo` — one class is chosen, and it is that of the type alone;
* `diagnostics_only` — the notes on the type alone are chosen from those on the model;
* `notesIn_eq_nil_iff` — the properties with nothing to note; `forall_isAbout_iff` — the models with
  notes on one type only;
* `calls_restrictTo_eq_iff` — when the report on one type is that on the type alone;
* `restricted_report_iff` — the same for the type of a model file that is asked for;
* `restricted_report_not_always_alone` — there is a manifest where it is another.
-/

set_option autoImplicit false

namespace EdmMapping

/-- The model with the given type and no other. -/
def Model.only (model : Model) (d : TypeDefinition) : Model := { model with types := [d] }

/-- The note is placed at a property of the type with that name. -/
def Diagnostic.isAbout (typeName : String) (n : Diagnostic) : Bool :=
  n.location.any fun place => (typeName ++ ".").toList.isPrefixOf place.toList

/-! ## Classes -/

@[simp] theorem language_restrictTo (m : ModelMapping) (typeName : String) :
    (m.restrictTo typeName).language = m.language := rfl

@[simp] theorem diagnostics_restrictTo (m : ModelMapping) (typeName : String) :
    (m.restrictTo typeName).diagnostics = m.diagnostics := rfl

theorem classes_only (t : Target) (model : Model) (d : TypeDefinition) :
    (ModelMapping.buildWith t (model.only d)).classes = [d.classIn t] :=
  classes_buildWith t (model.only d)

/-- Where the names of types stand once, the class of a type is the only one of its name. -/
theorem classes_restrictTo (t : Target) {model : Model} (h : (model.types.map (·.name)).Nodup)
    {d : TypeDefinition} (hd : d ∈ model.types) :
    ((ModelMapping.buildWith t model).restrictTo d.name).classes = [d.classIn t] := by
  have hkey : (fun c : ClassMapping => decide (c.schemaName = d.name)) ∘ (·.classIn t) =
      fun x : TypeDefinition => decide (x.name = d.name) := rfl
  unfold ModelMapping.restrictTo
  simp only [classes_buildWith, List.filter_map, hkey, filter_key_eq_singleton h hd,
    List.map_singleton]

/-! ## Notes -/

theorem diagnostics_only_eq (t : Target) (model : Model) (d : TypeDefinition) :
    (ModelMapping.buildWith t (model.only d)).diagnostics.items =
      d.properties.flatMap (·.notesIn t.reserved d) := by
  rw [diagnostics_buildWith, Model.only, List.flatMap_singleton]

/-- A note on a property is about the type of the property, and about no other. -/
theorem isAbout_of_mem_notesIn {table : ReservedWords} {d : TypeDefinition} {p : PropertyDescriptor}
    {n : Diagnostic} (h : n ∈ p.notesIn table d) (hd : '.' ∉ d.name.toList) {typeName : String}
    (htype : '.' ∉ typeName.toList) : n.isAbout typeName = decide (d.name = typeName) := by
  unfold Diagnostic.isAbout
  rw [location_of_mem_notesIn h, Option.any_some, Bool.eq_iff_iff, List.isPrefixOf_iff_prefix,
    decide_eq_true_iff]
  constructor
  · rintro ⟨rest, hrest⟩
    have hplace : typeName ++ "." ++ String.ofList rest = d.name ++ "." ++ p.name := by
      rw [← String.toList_inj, String.toList_append, String.toList_ofList, hrest]
    exact (append_dot_inj htype hd hplace).1.symm
  · rintro rfl
    exact ⟨p.name.toList, (String.toList_append ..).symm⟩

theorem flatMap_filter_eq {α β : Type} (l : List α) (q : α → Bool) (f : α → List β) :
    (l.filter q).flatMap f = l.flatMap fun a => if q a then f a else [] := by
  induction l with
  | nil => rfl
  | cons a l ih =>
    by_cases hq : q a = true
    · rw [List.filter_cons_of_pos hq, List.flatMap_cons, List.flatMap_cons, if_pos hq, ih]
    · rw [List.filter_cons_of_neg hq, List.flatMap_cons, if_neg hq, List.nil_append, ih]

variable {m : Manifest} {s : Source} {model : Model} {d : TypeDefinition}

/-- The declared types of a model are told apart by the places of notes. -/
theorem isAbout_of_resolveIn (h : m.resolveIn s = .ok model) (hd : d ∈ model.types)
    {other : TypeDefinition} (hother : other ∈ model.types) {table : ReservedWords}
    {p : PropertyDescriptor} {n : Diagnostic} (hn : n ∈ p.notesIn table other) :
    n.isAbout d.name = decide (other.name = d.name) := by
  have hdesc := Manifest.describes_of_resolveIn h
  have hwf := Manifest.isWellFormed_of_resolveIn h
  exact isAbout_of_mem_notesIn hn (hdesc.isName hwf hother).dot_notMem
    (hdesc.isName hwf hd).dot_notMem

/-- **The notes on a type alone** are those on the model that are about the type, in their order. -/
theorem diagnostics_only (h : m.resolveIn s = .ok model) (hd : d ∈ model.types) (t : Target) :
    (ModelMapping.buildWith t (model.only d)).diagnostics.items =
      (ModelMapping.buildWith t model).diagnostics.items.filter (·.isAbout d.name) := by
  have hnodup := (Manifest.describes_of_resolveIn h).nodup_names
  have hpieces : ∀ other ∈ model.types,
      (other.properties.flatMap (·.notesIn t.reserved other)).filter (·.isAbout d.name) =
        if decide (other.name = d.name) then other.properties.flatMap (·.notesIn t.reserved other)
        else [] := by
    intro other hother
    have habout : ∀ n ∈ other.properties.flatMap (·.notesIn t.reserved other),
        n.isAbout d.name = decide (other.name = d.name) := by
      intro n hn
      obtain ⟨p, -, hn⟩ := List.mem_flatMap.1 hn
      exact isAbout_of_resolveIn h hd hother hn
    rw [List.filter_congr habout]
    cases decide (other.name = d.name) <;> simp
  rw [diagnostics_only_eq, diagnostics_buildWith, List.filter_flatMap,
    List.flatMap_congr hpieces, ← flatMap_filter_eq, filter_key_eq_singleton hnodup hd,
    List.flatMap_singleton]

/-- There is nothing to note about a property that is not renamed, has an identifier, and can be
imported. -/
theorem notesIn_eq_nil_iff {table : ReservedWords} {p : PropertyDescriptor} :
    p.notesIn table d = [] ↔
      (sanitizeProperty table p).events = [] ∧ (sanitizeProperty table p).name ≠ "" ∧
        ¬ p.IsUnqualified := by
  unfold PropertyDescriptor.notesIn
  simp only [List.append_eq_nil_iff, List.map_eq_nil_iff, ite_eq_right_iff, List.cons_ne_nil,
    imp_false, and_assoc]

/-! ## Reports -/

theorem noteCalls_inj {a b : List String} :
    (if a.isEmpty then [] else OutputCall.newline :: a.map .preformatted) =
        (if b.isEmpty then [] else .newline :: b.map .preformatted) ↔ a = b := by
  have htext : Function.Injective OutputCall.preformatted := fun _ _ => OutputCall.preformatted.inj
  cases a <;> cases b <;> simp [htext.eq_iff, (List.map_injective_iff.2 htext).eq_iff]

/-- Mappings with the same classes are shown by the same calls exactly if their notes read the
same. -/
theorem calls_ofMapping_eq_iff {a b : ModelMapping} (hlanguage : a.language = b.language)
    (hclasses : a.classes = b.classes) :
    (MapReport.ofMapping a).calls = (MapReport.ofMapping b).calls ↔
      a.diagnostics.items.map Diagnostic.text = b.diagnostics.items.map Diagnostic.text := by
  unfold MapReport.calls MapReport.ofMapping
  simp only [hlanguage, hclasses, List.cons.injEq, true_and, List.append_cancel_left_eq,
    noteCalls_inj]

/-- Notes read the same when some are left out only if none is. -/
theorem map_eq_map_filter_iff {α β : Type} {f : α → β} {q : α → Bool} {l : List α} :
    l.map f = (l.filter q).map f ↔ ∀ a ∈ l, q a = true := by
  constructor
  · intro h
    have hlength := congrArg List.length h
    rw [List.length_map, List.length_map] at hlength
    exact List.length_filter_eq_length_iff.1 hlength.symm
  · intro h
    rw [List.filter_eq_self.2 h]

/-- All notes on the model are about the type exactly if there is nothing to note about the
others. -/
theorem forall_isAbout_iff (h : m.resolveIn s = .ok model) (hd : d ∈ model.types) (t : Target) :
    (∀ n ∈ (ModelMapping.buildWith t model).diagnostics.items, n.isAbout d.name = true) ↔
      ∀ other ∈ model.types, other ≠ d → ∀ p ∈ other.properties,
        (sanitizeProperty t.reserved p).events = [] ∧
          (sanitizeProperty t.reserved p).name ≠ "" := by
  have hnodup := (Manifest.describes_of_resolveIn h).nodup_names
  have habout {other : TypeDefinition} (hother : other ∈ model.types) {p : PropertyDescriptor}
      {n : Diagnostic} (hn : n ∈ p.notesIn t.reserved other) :
      n.isAbout d.name = true ↔ other = d := by
    rw [isAbout_of_resolveIn h hd hother hn, decide_eq_true_iff]
    exact ⟨List.inj_on_of_nodup_map hnodup hother hd, fun hsame => hsame ▸ rfl⟩
  simp only [diagnostics_buildWith, List.mem_flatMap]
  constructor
  · intro hall other hother hne p hp
    have hnil : p.notesIn t.reserved other = [] := by
      refine List.eq_nil_iff_forall_not_mem.2 fun n hn => hne ?_
      exact (habout hother hn).1 (hall n ⟨other, hother, p, hp, hn⟩)
    obtain ⟨hevents, hname, -⟩ := notesIn_eq_nil_iff.1 hnil
    exact ⟨hevents, hname⟩
  · rintro hquiet n ⟨other, hother, p, hp, hn⟩
    rw [habout hother hn]
    by_contra hne
    obtain ⟨hevents, hname⟩ := hquiet other hother hne p hp
    -- whatever resolves can be imported, so nothing is left to be noted
    have hnil : p.notesIn t.reserved other = [] :=
      notesIn_eq_nil_iff.2 ⟨hevents, hname, not_isUnqualified_of_resolveIn h hother hp⟩
    rw [hnil] at hn
    cases hn

theorem calls_restrictTo_eq_iff (h : m.resolveIn s = .ok model) (hd : d ∈ model.types)
    (t : Target) :
    (MapReport.ofMapping ((ModelMapping.buildWith t model).restrictTo d.name)).calls =
        (MapReport.ofMapping (ModelMapping.buildWith t (model.only d))).calls ↔
      ∀ other ∈ model.types, other ≠ d → ∀ p ∈ other.properties,
        (sanitizeProperty t.reserved p).events = [] ∧
          (sanitizeProperty t.reserved p).name ≠ "" := by
  have hnodup := (Manifest.describes_of_resolveIn h).nodup_names
  have hlanguage : ((ModelMapping.buildWith t model).restrictTo d.name).language =
      (ModelMapping.buildWith t (model.only d)).language := by
    rw [language_restrictTo, language_buildWith, language_buildWith]
  have hclasses : ((ModelMapping.buildWith t model).restrictTo d.name).classes =
      (ModelMapping.buildWith t (model.only d)).classes := by
    rw [classes_restrictTo t hnodup hd, classes_only]
  rw [calls_ofMapping_eq_iff hlanguage hclasses, diagnostics_restrictTo, diagnostics_only h hd,
    map_eq_map_filter_iff, forall_isAbout_iff h hd]

open CommandLine

theorem runMap_of_mem {f : ModelFile} (h : (f.model.types.map (·.name)).Nodup)
    (hd : d ∈ f.model.types) (json : Bool) :
    runMap f (some d.name) json =
      .done (showMapping json ((ModelMapping.build f.model).restrictTo d.name)) := by
  unfold runMap ModelMapping.build
  simp only [class?_buildWith javaTarget h hd]

/-- **When one type is shown as if it were mapped alone**: exactly if there is nothing to note about
the properties of the other types.  A declared type of a model file is shown with the one class that
its model has on its own, and with the notes on the whole model, of which those on its own are the
ones about it. -/
theorem restricted_report_iff {f : ModelFile} (h : f.manifest.resolveIn s = .ok f.model)
    (hd : d ∈ f.model.types) :
    runMap f (some d.name) false =
        .done (showOnTerminal
          (MapReport.ofMapping ((ModelMapping.build f.model).restrictTo d.name)).calls) ∧
    ((ModelMapping.build f.model).restrictTo d.name).classes = [d.classIn javaTarget] ∧
    (ModelMapping.build (f.model.only d)).classes = [d.classIn javaTarget] ∧
    (ModelMapping.build (f.model.only d)).diagnostics.items =
        ((ModelMapping.build f.model).restrictTo d.name).diagnostics.items.filter
          (·.isAbout d.name) ∧
    ((MapReport.ofMapping ((ModelMapping.build f.model).restrictTo d.name)).calls =
          (MapReport.ofMapping (ModelMapping.build (f.model.only d))).calls ↔
      ∀ other ∈ f.model.types, other ≠ d → ∀ p ∈ other.properties,
        (sanitizeProperty javaReserved p).events = [] ∧
          (sanitizeProperty javaReserved p).name ≠ "") := by
  have hnodup := (Manifest.describes_of_resolveIn h).nodup_names
  exact ⟨runMap_of_mem hnodup hd false, classes_restrictTo javaTarget hnodup hd,
    classes_only javaTarget f.model d, diagnostics_only h hd javaTarget,
    calls_restrictTo_eq_iff h hd javaTarget⟩

/-- A shop with two types, one of which has a property that is renamed. -/
def usersManifest : Manifest where
  ns := "Shop"
  types := ⟨[
    ("item", ⟨.complex, false, ⟨[("id", .type "Edm.String")], by decide⟩⟩),
    ("user", ⟨.complex, false, ⟨[("class", .type "Edm.Int32")], by decide⟩⟩)], by decide⟩

def itemType : TypeDefinition :=
  ⟨"item", "Shop", .complex, false, [⟨"id", "item", .primitive "String", none⟩]⟩

def userType : TypeDefinition :=
  ⟨"user", "Shop", .complex, false, [⟨"class", "user", .primitive "Int32", none⟩]⟩

def usersModel : Model := ⟨"Shop", [itemType, userType]⟩

/-- The type with the rename is shown as if it were mapped alone, and the other one is not. -/
theorem restricted_report_iff_users :
    usersManifest.resolveIn ⟨"", "users.toml"⟩ = .ok usersModel ∧
    (MapReport.ofMapping ((ModelMapping.build usersModel).restrictTo "user")).calls =
      (MapReport.ofMapping (ModelMapping.build (usersModel.only userType))).calls ∧
    (MapReport.ofMapping ((ModelMapping.build usersModel).restrictTo "item")).calls ≠
      (MapReport.ofMapping (ModelMapping.build (usersModel.only itemType))).calls := by
  have hresolve : usersManifest.resolveIn ⟨"", "users.toml"⟩ = .ok usersModel := rfl
  have huser : userType ∈ usersModel.types := by decide
  have hitem : itemType ∈ usersModel.types := by decide
  let file : ModelFile := ⟨"users.toml", "", usersManifest, usersModel⟩
  obtain ⟨-, -, -, -, huserReport⟩ := restricted_report_iff (f := file) hresolve huser
  obtain ⟨-, -, -, -, hitemReport⟩ := restricted_report_iff (f := file) hresolve hitem
  refine ⟨hresolve, huserReport.2 (by decide +kernel), fun heq => ?_⟩
  have hquiet := hitemReport.1 heq userType huser (by decide)
    ⟨"class", "user", .primitive "Int32", none⟩ (by decide)
  exact absurd hquiet.1 (by decide +kernel)

/-- The notes on the other types are shown with the mapping of a type. -/
theorem restricted_report_not_always_alone :
    ¬ ∀ (m : Manifest) (s : Source) (model : Model), m.resolveIn s = .ok model →
      ∀ d ∈ model.types,
        (MapReport.ofMapping ((ModelMapping.build model).restrictTo d.name)).calls =
          (MapReport.ofMapping (ModelMapping.build (model.only d))).calls := by
  intro h
  have heq := h usersManifest ⟨"", "users.toml"⟩ usersModel rfl itemType (by decide)
  revert heq
  decide +kernel

end EdmMapping
