import EdmMapping.Proofs.CommandLine.Check
import EdmMapping.Proofs.Manifest.ReadBack

/-!
# What the report on a model file tells

The notes on a mapping are sorted by severity, the types of the model are counted by kind, and the
calls of the report are made from the two.  Nothing is lost on the way and nothing counted twice:
the severities split the notes, and the kinds split the types.

* `Diagnostic.WrittenAs`, `Diagnostic.ShownBy` — a note with its place, as a text and as a call;
* `CheckReport.Tells` — a report on given notes; `CheckReport.Counts` — a report with the figures of
  a manifest;
* `perm_severities`, `countKind_total` — severities and kinds split what they sort;
* `exists_location_of_mem` — every note on a mapping has a place;
* `tells_ofModelFile`, `counts_ofModelFile` — the report on a model file does both;
* `check_report_faithful` — it tells the notes of every model, and counts what every file that can
  be loaded declares.
-/

set_option autoImplicit false

namespace EdmMapping

/-! ## Notes as they are shown -/

/-- The text is the message of the note, with its place on a second line. -/
def Diagnostic.WrittenAs (n : Diagnostic) (text : String) : Prop :=
  ∃ place, n.location = some place ∧ text = n.message ++ "\n" ++ "  --> " ++ place

/-- The call that shows a text of the severity. -/
def Severity.call : Severity → String → OutputCall
  | .error, text => .preformatted ("error: " ++ text)
  | .warning, text => .warning text
  | .info, text => .info text

def Diagnostic.ShownBy (n : Diagnostic) (call : OutputCall) : Prop :=
  ∃ text, n.WrittenAs text ∧ call = n.severity.call text

def Diagnostics.ofSeverity (ds : Diagnostics) (severity : Severity) : List Diagnostic :=
  ds.items.filter fun n => n.severity = severity

/-- The number of types that are declared as the kind. -/
def Manifest.countKind (m : Manifest) (kind : TypeKind) : Nat :=
  m.types.values.countP fun spec => spec.kind = kind

namespace CheckReport

def messages (r : CheckReport) : Severity → List String
  | .error => r.errors
  | .warning => r.warnings
  | .info => r.infos

/-- The report is on these notes: it has them by severity, each with its place, is valid if none of
them is an error, and shows each of them once, followed by its figures if it is valid. -/
structure Tells (r : CheckReport) (ds : Diagnostics) : Prop where
  messages : ∀ severity,
    List.Forall₂ Diagnostic.WrittenAs (ds.ofSeverity severity) (r.messages severity)
  complete : r.errors.length + r.warnings.length + r.infos.length = ds.items.length
  valid : r.isValid = true ↔ ∀ n ∈ ds.items, n.severity ≠ .error
  calls : ∃ notes shown,
    notes = ds.ofSeverity .error ++ ds.ofSeverity .warning ++ ds.ofSeverity .info ∧
    notes.Perm ds.items ∧ List.Forall₂ Diagnostic.ShownBy notes shown ∧
    r.calls = shown ++ if r.isValid then r.summaryCalls else []

/-- The figures of the report are those of the manifest in the file. -/
structure Counts (r : CheckReport) (f : ModelFile) : Prop where
  kinds : r.kinds =
    ⟨f.manifest.countKind .entity, f.manifest.countKind .complex, f.manifest.countKind .enum⟩
  types : r.kinds.entities + r.kinds.complexes + r.kinds.enums = f.manifest.types.size
  properties : r.properties = f.manifest.propertyCount
  summary : r.summaryCalls = [
    .preformatted ("✓ " ++ f.path ++ " is valid"),
    .newline,
    .keyValue "Namespace" f.manifest.ns,
    .keyValue "Types" (toString f.manifest.types.size
      ++ " (" ++ toString (f.manifest.countKind .entity) ++ " entity, "
      ++ toString (f.manifest.countKind .complex) ++ " complex, "
      ++ toString (f.manifest.countKind .enum) ++ " enum)"),
    .keyValue "Properties" (toString f.manifest.propertyCount),
    .keyValue "Renamed" (toString (ModelMapping.build f.model).renameCount)]

end CheckReport

/-! ## Notes by severity -/

/-- Every note has one of the severities, and only one. -/
theorem perm_severities (notes : List Diagnostic) :
    (notes.filter (fun n => n.severity = .error) ++ notes.filter (fun n => n.severity = .warning)
      ++ notes.filter fun n => n.severity = .info).Perm notes := by
  induction notes with
  | nil => exact .nil
  | cons n notes ih =>
    cases hseverity : n.severity with
    | error => simpa [List.filter_cons, hseverity] using ih
    | warning =>
      simp only [List.filter_cons, hseverity, reduceCtorEq, decide_false, decide_true,
        if_true, Bool.false_eq_true, if_false, List.append_assoc, List.cons_append]
      refine List.perm_middle.trans (List.Perm.cons n ?_)
      rwa [← List.append_assoc]
    | info =>
      simp only [List.filter_cons, hseverity, reduceCtorEq, decide_false, decide_true,
        if_true, Bool.false_eq_true, if_false]
      exact List.perm_middle.trans (List.Perm.cons n ih)

/-- Every note on a mapping is placed at a property. -/
theorem exists_location_of_mem (t : Target) (model : Model) {n : Diagnostic}
    (h : n ∈ (ModelMapping.buildWith t model).diagnostics.items) :
    ∃ place, n.location = some place := by
  rw [diagnostics_buildWith] at h
  obtain ⟨d, -, h⟩ := List.mem_flatMap.1 h
  obtain ⟨p, -, h⟩ := List.mem_flatMap.1 h
  exact ⟨_, location_of_mem_notesIn h⟩

theorem Diagnostic.writtenAs_placedMessage {n : Diagnostic}
    (h : ∃ place, n.location = some place) : n.WrittenAs n.placedMessage := by
  obtain ⟨place, hplace⟩ := h
  refine ⟨place, hplace, ?_⟩
  rw [Diagnostic.placedMessage, hplace]
  simp only [String.append_assoc]
  rfl

theorem messages_ofModelFile (f : ModelFile) (severity : Severity) :
    (CheckReport.ofModelFile f).messages severity =
      (ModelMapping.build f.model).diagnostics.messages severity Diagnostic.placedMessage := by
  cases severity <;> rfl

theorem writtenAs_messages (f : ModelFile) (severity : Severity) :
    List.Forall₂ Diagnostic.WrittenAs
      ((ModelMapping.build f.model).diagnostics.ofSeverity severity)
      ((CheckReport.ofModelFile f).messages severity) := by
  rw [messages_ofModelFile, Diagnostics.messages, List.forall₂_map_right_iff,
    ← Diagnostics.ofSeverity, List.forall₂_same]
  intro n hn
  apply Diagnostic.writtenAs_placedMessage
  exact exists_location_of_mem javaTarget f.model (List.mem_filter.1 hn).1

/-- The notes of one severity are shown by one form of call. -/
theorem Diagnostics.shownBy_call {ds : Diagnostics} {severity : Severity} {texts : List String}
    (h : List.Forall₂ Diagnostic.WrittenAs (ds.ofSeverity severity) texts) :
    List.Forall₂ Diagnostic.ShownBy (ds.ofSeverity severity) (texts.map severity.call) := by
  have hseverity : ∀ n ∈ ds.ofSeverity severity, n.severity = severity := by
    intro n hn
    simpa using (List.mem_filter.1 hn).2
  generalize ds.ofSeverity severity = notes at h hseverity
  induction h with
  | nil => exact .nil
  | @cons n text notes texts hn _ ih =>
    refine .cons ⟨text, hn, ?_⟩ (ih fun m hm => hseverity m (List.mem_cons_of_mem _ hm))
    rw [hseverity n List.mem_cons_self]

theorem CheckReport.calls_eq (r : CheckReport) :
    r.calls = (r.messages .error).map Severity.error.call
        ++ (r.messages .warning).map Severity.warning.call
        ++ (r.messages .info).map Severity.info.call
        ++ if r.isValid then r.summaryCalls else [] := rfl

/-- **The report tells the notes on the mapping**, for every model, whether it has errors or not. -/
theorem tells_ofModelFile (f : ModelFile) :
    (CheckReport.ofModelFile f).Tells (ModelMapping.build f.model).diagnostics := by
  have hmessages := writtenAs_messages f
  have hsplit := perm_severities (ModelMapping.build f.model).diagnostics.items
  refine ⟨hmessages, ?_, ?_, ?_⟩
  · have herrors : _ = (CheckReport.ofModelFile f).errors.length := (hmessages .error).length_eq
    have hwarnings : _ = (CheckReport.ofModelFile f).warnings.length :=
      (hmessages .warning).length_eq
    have hinfos : _ = (CheckReport.ofModelFile f).infos.length := (hmessages .info).length_eq
    rw [← herrors, ← hwarnings, ← hinfos, ← List.length_append, ← List.length_append]
    exact hsplit.length_eq
  · rw [isValid_ofModelFile, Bool.not_eq_true']
    simp [Diagnostics.hasErrors]
  · refine ⟨_, _, rfl, hsplit, ?_, CheckReport.calls_eq _⟩
    apply List.rel_append
    · apply List.rel_append
      · exact Diagnostics.shownBy_call (hmessages .error)
      · exact Diagnostics.shownBy_call (hmessages .warning)
    · exact Diagnostics.shownBy_call (hmessages .info)

/-! ## Types by kind -/

/-- Every type has one of the kinds, and only one. -/
theorem countKind_total (m : Model) :
    m.countKind .entity + m.countKind .complex + m.countKind .enum = m.types.length := by
  unfold Model.countKind
  induction m.types with
  | nil => rfl
  | cons d ds ih =>
    rw [List.countP_cons, List.countP_cons, List.countP_cons, List.length_cons, ← ih]
    cases d.kind <;> simp <;> omega

namespace Manifest

variable {m : Manifest} {model : Model}

theorem Describes.countKind_eq (h : m.Describes model) (kind : TypeKind) :
    model.countKind kind = m.countKind kind := by
  have hkinds : model.types.map (·.kind) = m.types.entries.map (·.2.kind) :=
    map_eq_of_forall₂ h.types fun _ _ hd => hd.kind
  unfold Model.countKind Manifest.countKind OrderedMap.values
  rw [List.countP_map]
  have hcount := congrArg (List.countP fun k => k = kind) hkinds
  rwa [List.countP_map, List.countP_map] at hcount

theorem Describes.length_types (h : m.Describes model) :
    model.types.length = m.types.size :=
  h.types.length_eq.symm

end Manifest

theorem counts_ofModelFile {f : ModelFile} (h : f.manifest.Describes f.model) :
    (CheckReport.ofModelFile f).Counts f := by
  have hkinds : (CheckReport.ofModelFile f).kinds =
      ⟨f.manifest.countKind .entity, f.manifest.countKind .complex,
        f.manifest.countKind .enum⟩ := by
    rw [← h.countKind_eq, ← h.countKind_eq, ← h.countKind_eq]
    rfl
  have htypes : (CheckReport.ofModelFile f).kinds.total = f.manifest.types.size := by
    rw [← h.length_types, ← countKind_total]
    rfl
  have hproperties : (CheckReport.ofModelFile f).properties = f.manifest.propertyCount :=
    h.length_properties
  refine ⟨hkinds, htypes, hproperties, ?_⟩
  unfold CheckReport.summaryCalls KindCounts.text
  rw [htypes, hproperties, hkinds]
  have hns : (CheckReport.ofModelFile f).ns = f.manifest.ns := h.ns
  rw [hns]
  rfl

/-- **The report on a model file is a faithful summary.**  For every model it has the notes on the
mapping for Java by severity, in their order and each with its place; it is valid if none is an
error, and shows every note once, errors before warnings before infos, and then its figures if it is
valid. The figures on a file that can be loaded are those of its manifest. -/
theorem check_report_faithful :
    (∀ f : ModelFile, (CheckReport.ofModelFile f).Tells (ModelMapping.build f.model).diagnostics) ∧
    ∀ (path : String) (content : Option ByteArray) (f : ModelFile),
      ModelFile.ofFile path content = .ok f → (CheckReport.ofModelFile f).Counts f := by
  refine ⟨tells_ofModelFile, ?_⟩
  intro path content f h
  obtain ⟨s, hresolve⟩ := resolveIn_of_ofFile h
  exact counts_ofModelFile (Manifest.describes_of_resolveIn hresolve)

/-- A zoo with pets of a size, which is declared under a name that nothing is left of. -/
def zooText : String :=
  "[model]\nnamespace='Zoo'\n[types.pet]\nkind='entity'\n"
    ++ "[types.pet.properties]\n'@.'='Zoo.size'\n[types.size]\nkind='enum'\n"

def zooModel : Model where
  ns := "Zoo"
  types := [
    ⟨"pet", "Zoo", .entity, false, [
      ⟨"@.", "pet", ⟨"size", .domain, true, false, some "Zoo"⟩, none⟩]⟩,
    ⟨"size", "Zoo", .enum, false, []⟩]

/-- The types of the zoo are counted by kind, and its one note is a warning. -/
theorem check_report_faithful_zoo :
    ∃ f, ModelFile.ofFile "zoo.toml" (some zooText.toUTF8) = .ok f ∧
      (CheckReport.ofModelFile f).Counts f ∧
      f.manifest.types.size = 2 ∧ f.manifest.propertyCount = 1 ∧
      (CheckReport.ofModelFile f).isValid = true ∧
      (CheckReport.ofModelFile f).messages .warning =
        ["identifier is empty after sanitizing\n  --> pet.@."] := by
  have hloaded : (ModelFile.ofFile "zoo.toml" (some zooText.toUTF8)).toOption.map (·.model) =
      some zooModel := by decide +kernel
  cases hfile : ModelFile.ofFile "zoo.toml" (some zooText.toUTF8) with
  | error e =>
    rw [hfile] at hloaded
    cases hloaded
  | ok f =>
    rw [hfile] at hloaded
    have hmodel : f.model = zooModel := Option.some.inj hloaded
    have hcounts := check_report_faithful.2 _ _ f hfile
    have htypes := hcounts.types
    have hproperties := hcounts.properties
    have hkinds : (CheckReport.ofModelFile f).kinds = .ofModel f.model := rfl
    have hlength : (CheckReport.ofModelFile f).properties = f.model.properties.length := rfl
    rw [hkinds, hmodel] at htypes
    rw [hlength, hmodel] at hproperties
    refine ⟨f, rfl, hcounts, htypes.symm, hproperties.symm, ?_, ?_⟩
    · rw [isValid_ofModelFile, hmodel]
      decide +kernel
    · rw [messages_ofModelFile, hmodel]
      decide +kernel

end EdmMapping
