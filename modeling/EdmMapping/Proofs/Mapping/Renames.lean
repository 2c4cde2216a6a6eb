import Mathlib.Data.List.Nodup
import EdmMapping.Proofs.Mapping.Notes
import EdmMapping.Proofs.Mapping.References
import EdmMapping.Proofs.Naming.Outcome
import EdmMapping.Proofs.Naming.Renames
import EdmMapping.Report.Check

/-!
# Renames that are told, and renames that count

The notes on a mapping tell of every rename by the sanitizer, while its number of renames compares
the identifier of each member with the name of its property.  Both agree on every member, except one
whose property returns to its name: it is told to be renamed, and does not count.

* `ModelMapping.TellsRename` — an info of the mapping is placed at the member;
* `tellsRename_memberIn_iff` — in the mapping of a manifest, the sanitizer told of a rename then;
* `PropertyDescriptor.ReturnsToName` — the property is told to be renamed and keeps its name;
* `infos_le_renameCount_add` — there are no more infos than members that count or return;
* `renames_counted_unless_returning` — both, from a manifest to its mapping and its report;
* `renames_not_always_counted` — there is a manifest with a rename that does not count.
-/

set_option autoImplicit false

namespace EdmMapping

/-! ## Places -/

/-- An info of the mapping is placed at the member of the class. -/
def ModelMapping.TellsRename (m : ModelMapping) (c : ClassMapping) (x : MemberMapping) : Prop :=
  ∃ n ∈ m.diagnostics.items,
    n.severity = .info ∧ n.location = some (c.schemaName ++ "." ++ x.property)

instance (m : ModelMapping) (c : ClassMapping) (x : MemberMapping) :
    Decidable (m.TellsRename c x) :=
  inferInstanceAs (Decidable (∃ n ∈ _, _ ∧ _))

variable {m : Manifest} {s : Source} {model : Model}

/-- The place of a note tells the type and the property that it is about. -/
theorem eq_of_location_eq (h : m.resolveIn s = .ok model) {d d' : TypeDefinition}
    (hd : d ∈ model.types) (hd' : d' ∈ model.types) {p p' : PropertyDescriptor}
    (hp : p ∈ d.properties) (hp' : p' ∈ d'.properties)
    (hplace : d.name ++ "." ++ p.name = d'.name ++ "." ++ p'.name) : d = d' ∧ p = p' := by
  have hdesc := Manifest.describes_of_resolveIn h
  have hwf := Manifest.isWellFormed_of_resolveIn h
  obtain ⟨htype, hproperty⟩ := append_dot_inj (hdesc.isName hwf hd).dot_notMem
    (hdesc.isName hwf hd').dot_notMem hplace
  have hsame : d = d' := List.inj_on_of_nodup_map hdesc.nodup_names hd hd' htype
  subst hsame
  exact ⟨rfl, List.inj_on_of_nodup_map (hdesc.nodup_properties hd) hp hp' hproperty⟩

theorem tellsRename_memberIn_iff (h : m.resolveIn s = .ok model) (t : Target) {d : TypeDefinition}
    (hd : d ∈ model.types) {p : PropertyDescriptor} (hp : p ∈ d.properties) :
    (ModelMapping.buildWith t model).TellsRename (d.classIn t) (p.memberIn t) ↔
      (sanitizeProperty t.reserved p).events ≠ [] := by
  have hinfo : (∃ n ∈ p.notesIn t.reserved d, n.severity = .info) ↔
      (sanitizeProperty t.reserved p).events ≠ [] := by
    rw [exists_severity_iff, countP_notesIn]
    exact List.length_pos_iff
  unfold ModelMapping.TellsRename
  rw [diagnostics_buildWith, ← hinfo]
  simp only [List.mem_flatMap]
  constructor
  · rintro ⟨n, ⟨d', hd', p', hp', hn⟩, hseverity, hplace⟩
    rw [location_of_mem_notesIn hn, Option.some.injEq] at hplace
    obtain ⟨rfl, rfl⟩ := eq_of_location_eq h hd' hd hp' hp hplace
    exact ⟨n, hn, hseverity⟩
  · rintro ⟨n, hn, hseverity⟩
    exact ⟨n, ⟨d, hd, p, hp, hn⟩, hseverity, location_of_mem_notesIn hn⟩

/-! ## Properties that return to their name -/

/-- The property is named like its class, which sends it to its type, and like the escaped form of
the name of the type, which sends it back. -/
def PropertyDescriptor.ReturnsToName (table : ReservedWords) (p : PropertyDescriptor) : Prop :=
  (Owner.ofProperty p).Returns table p.name

instance (table : ReservedWords) (p : PropertyDescriptor) : Decidable (p.ReturnsToName table) :=
  inferInstanceAs (Decidable (Owner.Returns _ _ _))

theorem javaReserved_renamePrefix_ne : javaReserved.renamePrefix ≠ "" := by decide

variable {t : Target}

/-- A property with a rename counts or returns to its name. -/
theorem length_events_le (ha : t.reserved.Admissible) (hpre : t.reserved.renamePrefix ≠ "")
    (p : PropertyDescriptor) :
    (sanitizeProperty t.reserved p).events.length ≤
      [p.memberIn t].countP (·.isRenamed) + [p].countP fun p => p.ReturnsToName t.reserved := by
  by_cases hevents : (sanitizeProperty t.reserved p).events = []
  · rw [hevents]
    exact Nat.zero_le _
  · have hone : (sanitizeProperty t.reserved p).events.length ≤ 1 :=
      length_events_sanitize_le_one p.name (some (Owner.ofProperty p))
    by_cases hname : (sanitizeProperty t.reserved p).name = p.name
    · have hreturns : p.ReturnsToName t.reserved :=
        (renamed_to_itself_iff ha hpre p.name (Owner.ofProperty p)).1 ⟨hevents, hname⟩
      rw [List.countP_singleton (a := p), if_pos (by simpa using hreturns)]
      omega
    · have hrenamed : (p.memberIn t).isRenamed = true := decide_eq_true hname
      rw [List.countP_singleton, if_pos hrenamed]
      omega

/-- Lists that are put together piece by piece keep a bound by two others. -/
theorem countP_flatMap_le_add {α β γ δ : Type} {l : List α} {f : α → List β} {g : α → List γ}
    {k : α → List δ} {q : β → Bool} {r : γ → Bool} {u : δ → Bool}
    (h : ∀ a ∈ l, (f a).countP q ≤ (g a).countP r + (k a).countP u) :
    (l.flatMap f).countP q ≤ (l.flatMap g).countP r + (l.flatMap k).countP u := by
  induction l with
  | nil => simp
  | cons a l ih =>
    have hfirst := h a (by simp)
    have hrest := ih fun b hb => h b (List.mem_cons_of_mem a hb)
    simp only [List.flatMap_cons, List.countP_append]
    omega

theorem infos_le_renameCount_add (ha : t.reserved.Admissible)
    (hpre : t.reserved.renamePrefix ≠ "") (model : Model) :
    ((ModelMapping.buildWith t model).diagnostics.items.countP fun n => n.severity = .info) ≤
      (ModelMapping.buildWith t model).renameCount +
        model.properties.countP fun p => p.ReturnsToName t.reserved := by
  have hproperties : model.properties =
      model.types.flatMap fun d => d.properties.flatMap fun p => [p] := by
    simp [Model.properties]
  unfold ModelMapping.renameCount
  rw [diagnostics_buildWith, members_buildWith, hproperties]
  refine countP_flatMap_le_add fun d _ => countP_flatMap_le_add fun p _ => ?_
  rw [countP_notesIn]
  exact length_events_le ha hpre p

/-! ## From a manifest to its report -/

theorem length_messages (ds : Diagnostics) (severity : Severity) (format : Diagnostic → String) :
    (ds.messages severity format).length = ds.items.countP fun n => n.severity = severity := by
  unfold Diagnostics.messages
  rw [List.length_map, List.countP_eq_length_filter]

/-- **Renames that are told count, unless they lead back.**  In the mapping of a manifest for Java,
a member that an info tells to be renamed has the name of its property exactly if the property
returns to its name; and such a property keeps the name of its class, too.  So there are no more
infos than members that count and properties that return, in the mapping as in the report. -/
theorem renames_counted_unless_returning {m : Manifest} {s : Source} {model : Model}
    (h : m.resolveIn s = .ok model) :
    (∀ d ∈ model.types, ∀ p ∈ d.properties, ∃ c x,
      (ModelMapping.build model).class? d.name = some c ∧
      (c.members.filter fun y => y.property = p.name) = [x] ∧
      ((ModelMapping.build model).TellsRename c x ∧ x.identifier = x.property ↔
        p.ReturnsToName javaReserved) ∧
      (p.ReturnsToName javaReserved → upperFirst x.identifier = c.className)) ∧
    ((ModelMapping.build model).diagnostics.items.countP fun n => n.severity = .info) ≤
      (ModelMapping.build model).renameCount +
        model.properties.countP (fun p => p.ReturnsToName javaReserved) ∧
    ∀ path content,
      (CheckReport.ofModelFile ⟨path, content, m, model⟩).infos.length ≤
        (CheckReport.ofModelFile ⟨path, content, m, model⟩).renamed +
          model.properties.countP (fun p => p.ReturnsToName javaReserved) := by
  have hdesc := Manifest.describes_of_resolveIn h
  have hinfos := infos_le_renameCount_add (t := javaTarget) javaReserved_admissible
    javaReserved_renamePrefix_ne model
  refine ⟨?_, hinfos, ?_⟩
  · intro d hd p hp
    have hreturns := renamed_to_itself_iff javaReserved_admissible javaReserved_renamePrefix_ne
      p.name (Owner.ofProperty p)
    refine ⟨d.classIn javaTarget, p.memberIn javaTarget,
      class?_buildWith javaTarget hdesc.nodup_names hd,
      filter_members javaTarget (hdesc.nodup_properties hd) hp, ?_, ?_⟩
    · rw [ModelMapping.build, tellsRename_memberIn_iff h javaTarget hd hp]
      exact hreturns
    · intro hp'
      have hname : (p.memberIn javaTarget).identifier = p.name := (hreturns.2 hp').2
      have hclass : upperFirst p.name = upperFirst p.declaringTypeName := hp'.1
      rw [hname, hclass, hdesc.declaring_eq hd hp]
      rfl
  · intro path content
    have hlength : (CheckReport.ofModelFile ⟨path, content, m, model⟩).infos.length =
        (ModelMapping.build model).diagnostics.items.countP fun n => n.severity = .info :=
      length_messages _ .info Diagnostic.placedMessage
    rw [hlength]
    exact hinfos

/-- A shop with a type that is named like a keyword, and one that is named like the escaped word. -/
def keywordsManifest : Manifest where
  ns := "Shop"
  types := ⟨[
    ("class", ⟨.complex, false, .empty⟩),
    ("msgraphClass", ⟨.complex, false, ⟨[
      ("msgraphClass", .type "Shop.class"), ("class", .type "Edm.Int32")], by decide⟩⟩)], by decide⟩

def keywordsType : TypeDefinition where
  name := "msgraphClass"
  ns := "Shop"
  kind := .complex
  flags := false
  properties := [
    ⟨"msgraphClass", "msgraphClass", ⟨"class", .domain, false, false, some "Shop"⟩, none⟩,
    ⟨"class", "msgraphClass", .primitive "Int32", none⟩]

def keywordsModel : Model where
  ns := "Shop"
  types := [⟨"class", "Shop", .complex, false, []⟩, keywordsType]

/-- Both members are told to be renamed; the one that returns to its name does not count. -/
theorem renames_counted_unless_returning_keywords :
    keywordsManifest.resolveIn ⟨"", "keywords.toml"⟩ = .ok keywordsModel ∧
    (∃ c x, (ModelMapping.build keywordsModel).class? "msgraphClass" = some c ∧
      (c.members.filter fun y => y.property = "msgraphClass") = [x] ∧
      (ModelMapping.build keywordsModel).TellsRename c x ∧ x.identifier = x.property) ∧
    (∃ c x, (ModelMapping.build keywordsModel).class? "msgraphClass" = some c ∧
      (c.members.filter fun y => y.property = "class") = [x] ∧
      ¬ ((ModelMapping.build keywordsModel).TellsRename c x ∧ x.identifier = x.property)) ∧
    ((ModelMapping.build keywordsModel).diagnostics.items.countP fun n => n.severity = .info) ≤
      (ModelMapping.build keywordsModel).renameCount + 1 := by
  have hresolve : keywordsManifest.resolveIn ⟨"", "keywords.toml"⟩ = .ok keywordsModel := rfl
  have hcount : keywordsModel.properties.countP (fun p => p.ReturnsToName javaReserved) = 1 := by
    decide +kernel
  obtain ⟨hmembers, hinfos, -⟩ := renames_counted_unless_returning hresolve
  rw [hcount] at hinfos
  refine ⟨hresolve, ?_, ?_, hinfos⟩
  · obtain ⟨c, x, hclass, hmember, hiff, -⟩ := hmembers keywordsType (by simp [keywordsModel])
      ⟨"msgraphClass", "msgraphClass", ⟨"class", .domain, false, false, some "Shop"⟩, none⟩
      (by simp [keywordsType])
    exact ⟨c, x, hclass, hmember, hiff.2 (by decide +kernel)⟩
  · obtain ⟨c, x, hclass, hmember, hiff, -⟩ := hmembers keywordsType (by simp [keywordsModel])
      ⟨"class", "msgraphClass", .primitive "Int32", none⟩ (by simp [keywordsType])
    refine ⟨c, x, hclass, hmember, ?_⟩
    rw [hiff]
    decide +kernel

/-- Not every member that is told to be renamed has another name than its property. -/
theorem renames_not_always_counted :
    ¬ ∀ (m : Manifest) (s : Source) (model : Model), m.resolveIn s = .ok model →
      ∀ c ∈ (ModelMapping.build model).classes, ∀ x ∈ c.members,
        (ModelMapping.build model).TellsRename c x → x.identifier ≠ x.property := by
  intro hall
  have htold := hall keywordsManifest ⟨"", "keywords.toml"⟩ keywordsModel rfl
  revert htold
  decide +kernel

end EdmMapping
