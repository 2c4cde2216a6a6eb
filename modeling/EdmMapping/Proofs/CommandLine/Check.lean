import EdmMapping.CommandLine.Run
import EdmMapping.Proofs.Manifest.Sources
import EdmMapping.Proofs.Mapping.Imports
import EdmMapping.Proofs.Mapping.Notes
import EdmMapping.Proofs.Mapping.References

/-!
# Whatever loads also maps

A manifest is checked before it is mapped, and nothing is left for the mapping to fail on: a type of
the model is referred to in the namespace of the model, which is not empty, so its qualified name
has a dot to be cut at.  What cannot be imported is found in no model file.

* `Manifest.Describes.not_isUnqualified` — no property of a resolved model is unqualified;
* `hasErrors_buildWith_of_resolveIn` — its mapping has no errors;
* `isValid_ofModelFile` — the report on a model file is valid exactly if its mapping has no errors;
* `resolveIn_of_ofFile` — the model of a model file is that of its manifest;
* `loaded_maps_and_checks` — what loads is mapped without errors, and passes the check.
-/

set_option autoImplicit false

namespace EdmMapping

/-! ## From a manifest to its mapping -/

/-- The namespace of a model reaches every descriptor of its properties that is not primitive. -/
theorem Manifest.Describes.not_isUnqualified {m : Manifest} {model : Model} (h : m.Describes model)
    (hwf : m.IsWellFormed) {d : TypeDefinition} (hd : d ∈ model.types) {p : PropertyDescriptor}
    (hp : p ∈ d.properties) : ¬ p.IsUnqualified := by
  rintro ⟨hdomain, hdot⟩
  obtain ⟨reference, hdenotes⟩ := h.denotes hd hp p.projectedType_cases
  obtain ⟨T, -, hT, hdescriptor⟩ := h.declared_unique hdenotes hdomain
  -- a reference carries the namespace of the type that it denotes, which is that of the manifest
  have hns : p.projectedType.ns = some m.ns := by
    rw [hdescriptor, TypeDefinition.ns_descriptor, h.ns_eq hT, h.ns]
  have hne : m.ns ≠ "" := hwf.isNamespace.ne_empty
  obtain ⟨habsent | hempty, -⟩ := TypeDescriptor.dot_notMem_qualifiedName_iff.1 hdot
  · rw [hns] at habsent
    cases habsent
  · rw [hns, Option.some.injEq] at hempty
    exact hne hempty

variable {m : Manifest} {s : Source} {model : Model}

theorem not_isUnqualified_of_resolveIn (h : m.resolveIn s = .ok model) {d : TypeDefinition}
    (hd : d ∈ model.types) {p : PropertyDescriptor} (hp : p ∈ d.properties) : ¬ p.IsUnqualified :=
  (Manifest.describes_of_resolveIn h).not_isUnqualified
    (Manifest.isWellFormed_of_resolveIn h) hd hp

theorem hasErrors_buildWith_of_resolveIn (h : m.resolveIn s = .ok model) (t : Target) :
    (ModelMapping.buildWith t model).diagnostics.hasErrors = false := by
  rw [← Bool.not_eq_true, hasErrors_buildWith_iff]
  rintro ⟨d, hd, p, hp, hun⟩
  exact not_isUnqualified_of_resolveIn h hd hp hun

theorem isSome_importPath_of_resolveIn (h : m.resolveIn s = .ok model) (t : Target)
    {d : TypeDefinition} (hd : d ∈ model.types) {p : PropertyDescriptor} (hp : p ∈ d.properties)
    (hdomain : p.projectedType.isPrimitive = false) : (p.memberIn t).importPath.isSome = true := by
  rw [importPath_memberIn_isSome_iff]
  refine ⟨hdomain, Classical.not_not.1 fun hdot => ?_⟩
  exact not_isUnqualified_of_resolveIn h hd hp ⟨hdomain, hdot⟩

/-! ## From a model file to its report -/

theorem isValid_ofModelFile (f : ModelFile) :
    (CheckReport.ofModelFile f).isValid =
      !(ModelMapping.build f.model).diagnostics.hasErrors := by
  have herrors : (CheckReport.ofModelFile f).errors =
      (ModelMapping.build f.model).diagnostics.messages .error Diagnostic.placedMessage := rfl
  rw [CheckReport.isValid, herrors, Bool.eq_iff_iff]
  unfold Diagnostics.messages Diagnostics.hasErrors
  simp

/-- The model of a model file is that of its manifest. -/
theorem resolveIn_of_ofFile {path : String} {content : Option ByteArray} {f : ModelFile}
    (h : ModelFile.ofFile path content = .ok f) : ∃ s, f.manifest.resolveIn s = .ok f.model := by
  obtain ⟨-, -, -, hresolve⟩ := ModelFile.ofFile_eq_ok_iff.1 h
  exact ⟨⟨f.content, path⟩, hresolve _⟩

theorem isValid_of_resolveIn {f : ModelFile} (h : f.manifest.resolveIn s = .ok f.model) :
    (CheckReport.ofModelFile f).isValid = true := by
  have herrors := hasErrors_buildWith_of_resolveIn h javaTarget
  rw [isValid_ofModelFile, ModelMapping.build, herrors]
  rfl

/-! ## The check of a model file -/

open CommandLine

theorem exitCode_runCheck {f : ModelFile} (h : (CheckReport.ofModelFile f).isValid = true) :
    (runCheck f).exitCode = 0 := by
  unfold runCheck
  rw [if_pos h]
  rfl

theorem exitCode_check (path : String) (content : Option ByteArray) :
    ((Command.check path).run content).exitCode =
      match ModelFile.ofFile path content with
      | .ok _ => 0
      | .error _ => 1 := by
  have hrun : (Command.check path).run content =
      match ModelFile.ofFile path content with
      | .ok f => runCheck f
      | .error e => .unloadable e := rfl
  rw [hrun]
  cases hfile : ModelFile.ofFile path content with
  | error e => rfl
  | ok f =>
    obtain ⟨s, hresolve⟩ := resolveIn_of_ofFile hfile
    exact exitCode_runCheck (isValid_of_resolveIn hresolve)

/-- **Whatever loads also maps.**  Whichever way a manifest was come by, if it resolves to a model,
the mapping of the model for Java has no errors, every member whose projected type is not primitive
has an import path, and the report on it is valid.  So a check ends with status 1 exactly if the
model file cannot be loaded, and otherwise with status 0. -/
theorem loaded_maps_and_checks :
    (∀ (m : Manifest) (s : Source) (model : Model), m.resolveIn s = .ok model →
      (ModelMapping.build model).diagnostics.hasErrors = false ∧
      List.Forall₂ (fun (d : TypeDefinition) (c : ClassMapping) =>
          List.Forall₂ (fun (p : PropertyDescriptor) (x : MemberMapping) =>
              p.projectedType.isPrimitive = false → x.importPath.isSome = true)
            d.properties c.members)
        model.types (ModelMapping.build model).classes ∧
      ∀ path content, (CheckReport.ofModelFile ⟨path, content, m, model⟩).isValid = true) ∧
    ∀ (files : String → Option ByteArray) (words : List String) (path : String),
      Command.parse words = .ok (.check path) →
      (run files words).exitCode =
        match ModelFile.ofFile path (files path) with
        | .ok _ => 0
        | .error _ => 1 := by
  refine ⟨?_, ?_⟩
  · intro m s model h
    refine ⟨hasErrors_buildWith_of_resolveIn h javaTarget, ?_, ?_⟩
    · rw [ModelMapping.build, classes_buildWith, List.forall₂_map_right_iff, List.forall₂_same]
      intro d hd
      show List.Forall₂ _ d.properties (d.properties.map (·.memberIn javaTarget))
      rw [List.forall₂_map_right_iff, List.forall₂_same]
      intro p hp hdomain
      exact isSome_importPath_of_resolveIn h javaTarget hd hp hdomain
    · intro path content
      exact isValid_of_resolveIn (f := ⟨path, content, m, model⟩) h
  · intro files words path hparse
    unfold run
    rw [hparse]
    exact exitCode_check path (files path)

/-- A depot where a crate may stand in another one. -/
def cratesText : String :=
  "[model]\nnamespace='Depot'\n[types.crate]\nkind='entity'\n"
    ++ "[types.crate.properties]\nin='Depot.crate'\n"

def cratesManifest : Manifest where
  ns := "Depot"
  types := ⟨[("crate", ⟨.entity, false, ⟨[("in", .type "Depot.crate")], by decide⟩⟩)], by decide⟩

def cratesModel : Model where
  ns := "Depot"
  types := [
    ⟨"crate", "Depot", .entity, false, [
      ⟨"in", "crate", ⟨"crate", .domain, false, false, some "Depot"⟩, none⟩]⟩]

def cratesFiles (path : String) : Option ByteArray :=
  if path = "crates.toml" then some cratesText.toUTF8 else none

/-- The crates are mapped without errors; their file passes the check, and a missing one does
not. -/
theorem loaded_maps_and_checks_crates :
    cratesManifest.resolveIn ⟨cratesText, "crates.toml"⟩ = .ok cratesModel ∧
    (ModelMapping.build cratesModel).diagnostics.hasErrors = false ∧
    (CheckReport.ofModelFile ⟨"crates.toml", cratesText, cratesManifest, cratesModel⟩).isValid =
      true ∧
    (run cratesFiles ["check", "--model", "crates.toml"]).exitCode = 0 ∧
    (run cratesFiles ["check", "-m", "boxes.toml"]).exitCode = 1 := by
  have hresolve : cratesManifest.resolveIn ⟨cratesText, "crates.toml"⟩ = .ok cratesModel := rfl
  obtain ⟨herrors, -, hvalid⟩ := loaded_maps_and_checks.1 _ _ _ hresolve
  refine ⟨hresolve, herrors, hvalid "crates.toml" cratesText, ?_, ?_⟩
  · rw [loaded_maps_and_checks.2 cratesFiles _ "crates.toml" (by rfl)]
    decide +kernel
  · rw [loaded_maps_and_checks.2 cratesFiles _ "boxes.toml" (by rfl)]
    decide +kernel

end EdmMapping
