import EdmMapping.ModelFile
import EdmMapping.Proofs.Manifest.Description

/-!
# What a source has a say in

A manifest is resolved against a source, the text that it was read from and the name of its file.
The source has a say in where an error is placed, and in nothing else: neither in whether there is a
model, nor in the model, nor in which error is reported.  So it does not matter by which way a text
is loaded.

* `ManifestError.SameButPlace`, `SameOutcome` — what two sources may make of one manifest;
* `Manifest.resolveAtOnce` — resolving with the source at hand: every check looks for its place
  itself and reports at once;
* `Manifest.resolveAtOnce_eq` — that comes to the same as resolving first and looking for the place
  afterwards, function by function;
* `sameOutcome_resolveIn`, `sameOutcome_loadSource` — two sources, with one manifest or one text;
* `Manifest.ofText_eq_ok_iff`, `Manifest.ofFile_eq_ok_iff`, `ModelFile.ofFile_eq_ok_iff` — what is
  loaded, by every way;
* `sources_only_place_errors` — all of it in one statement.
-/

set_option autoImplicit false

namespace EdmMapping

/-! ## Outcomes that differ in places -/

/-- One error that says the same as another one, perhaps of another place. -/
inductive ManifestError.SameButPlace : ManifestError → ManifestError → Prop
  | unreadable (path : String) : SameButPlace (.unreadable path) (.unreadable path)
  | malformed (s s' : Source) : SameButPlace (.malformed s) (.malformed s')
  | invalid (place place' : Place) (message : String) :
    SameButPlace (.invalid place message) (.invalid place' message)
  | flagsOnNonEnum (place place' : Place) (typeName : String) :
    SameButPlace (.flagsOnNonEnum place typeName) (.flagsOnNonEnum place' typeName)
  | unknownType (place place' : Place) (reference property : String) :
    SameButPlace (.unknownType place reference property) (.unknownType place' reference property)

/-- The same value, or errors that say the same. -/
inductive SameOutcome {α : Type} : Except ManifestError α → Except ManifestError α → Prop
  | ok (a : α) : SameOutcome (.ok a) (.ok a)
  | error {e e' : ManifestError} (h : e.SameButPlace e') : SameOutcome (.error e) (.error e')

theorem SameOutcome.map {α β : Type} {x y : Except ManifestError α} (h : SameOutcome x y)
    (f : α → β) : SameOutcome (x.map f) (y.map f) := by
  cases h with
  | ok a => exact .ok (f a)
  | error he => exact .error he

/-- What the author of a description is told does not depend on the place. -/
theorem ManifestError.SameButPlace.message_eq {e e' : ManifestError} (h : e.SameButPlace e') :
    e.message = e'.message := by
  cases h <;> rfl

theorem SameOutcome.mapError_message {α : Type} {x y : Except ManifestError α}
    (h : SameOutcome x y) : x.mapError (·.message) = y.mapError (·.message) := by
  cases h with
  | ok a => rfl
  | error he => exact congrArg Except.error he.message_eq

/-- Whatever is wrong, the error says the same against every source. -/
theorem Violation.sameButPlace_locate (s s' : Source) (v : Violation) :
    (v.locate s).SameButPlace (v.locate s') := by
  cases v with
  | emptyNamespace => exact .invalid ..
  | edmNamespace => exact .invalid ..
  | malformedNamespace ns => exact .invalid ..
  | malformedTypeName name => exact .invalid ..
  | flagsOnNonEnum name => exact .flagsOnNonEnum ..
  | enumWithProperties name => exact .invalid ..
  | unknownType reference property => exact .unknownType ..

/-! ## Resolving with the source at hand -/

section AtOnce

variable (s : Source)

/-- The check of a namespace, which looks for the place of what it refuses. -/
def checkNamespaceAtOnce (ns : String) : Except ManifestError Unit :=
  if ns.isEmpty then .error (s.invalid "model namespace must not be empty" "namespace")
  else if ns = edmNamespace then
    .error (s.invalid "the Edm namespace is reserved for primitives" ns)
  else if !isDottedName ns then .error (s.invalid ("invalid namespace '" ++ ns ++ "'") ns)
  else .ok ()

def checkTypeAtOnce (name : String) (spec : TypeSpec) : Except ManifestError Unit :=
  if !isSimpleName name then .error (s.invalid ("invalid type name '" ++ name ++ "'") name)
  else if spec.flags && spec.kind ≠ .enum then .error (s.flagsOnNonEnum name)
  else if spec.kind = .enum && !spec.properties.isEmpty then
    .error (s.invalid ("enum '" ++ name ++ "' cannot declare properties")
      ("types." ++ name ++ ".properties"))
  else .ok ()

namespace Manifest

variable (m : Manifest)

def checkAtOnce : Except ManifestError Unit := do
  checkNamespaceAtOnce s m.ns
  m.types.entries.forM fun (name, spec) => checkTypeAtOnce s name spec

def resolveReferenceAtOnce (property reference : String) : Except ManifestError TypeDescriptor :=
  match splitQualified reference with
  | none => .error (s.unknownType reference property)
  | some (ns, name) =>
    if ns = edmNamespace ∧ name ≠ "" then .ok (.primitive name)
    else if ns ≠ m.ns then .error (s.unknownType reference property)
    else
      match m.types.find? name with
      | none => .error (s.unknownType reference property)
      | some spec => .ok (spec.descriptor name ns)

def resolvePropertyAtOnce (typeName property : String) (spec : PropertySpec) :
    Except ManifestError PropertyDescriptor := do
  let declaredType ← m.resolveReferenceAtOnce s property spec.reference
  let projection ←
    match spec.projectionRef with
    | none => pure none
    | some reference => some <$> m.resolveReferenceAtOnce s property reference
  return ⟨property, typeName, declaredType, projection⟩

def resolveTypeAtOnce (name : String) (spec : TypeSpec) : Except ManifestError TypeDefinition := do
  let properties ← spec.properties.entries.mapM fun (property, spec) =>
    m.resolvePropertyAtOnce s name property spec
  return ⟨name, m.ns, spec.kind, spec.flags, properties⟩

/-- The model of a manifest, or its first violation, reported by the check that meets it. -/
def resolveAtOnce : Except ManifestError Model := do
  m.checkAtOnce s
  let types ← m.types.entries.mapM fun (name, spec) => m.resolveTypeAtOnce s name spec
  return ⟨m.ns, types⟩

end Manifest

end AtOnce

/-! ## The place of an error can be looked for afterwards -/

section MapError

variable {α β γ ε δ : Type} (report : ε → δ)

theorem mapError_bind (x : Except ε α) (f : α → Except ε β) :
    (x >>= f).mapError report = x.mapError report >>= fun a => (f a).mapError report := by
  cases x <;> rfl

theorem mapError_map (x : Except ε α) (f : α → β) :
    (f <$> x).mapError report = f <$> x.mapError report := by
  cases x <;> rfl

theorem mapError_mapM (f : γ → Except ε α) (l : List γ) :
    (l.mapM f).mapError report = l.mapM fun x => (f x).mapError report := by
  induction l with
  | nil => rfl
  | cons x l ih =>
    rw [List.mapM_cons, List.mapM_cons, mapError_bind]
    refine bind_congr fun a => ?_
    rw [mapError_bind, ih]
    rfl

theorem mapError_forM (f : γ → Except ε Unit) (l : List γ) :
    (l.forM f).mapError report = l.forM fun x => (f x).mapError report := by
  induction l with
  | nil => rfl
  | cons x l ih =>
    have hstep := mapError_bind report (f x) fun _ => l.forM f
    rw [ih] at hstep
    exact hstep

end MapError

variable (s : Source)

theorem checkNamespaceAtOnce_eq (ns : String) :
    checkNamespaceAtOnce s ns = (checkNamespace ns).mapError (Violation.locate s) := by
  unfold checkNamespaceAtOnce checkNamespace
  -- the cases are named because the second text looked for is the namespace, known only there
  by_cases hempty : ns.isEmpty
  · rw [if_pos hempty, if_pos hempty]
    rfl
  · rw [if_neg hempty, if_neg hempty]
    by_cases hedm : ns = edmNamespace
    · rw [if_pos hedm, if_pos hedm, hedm]
      rfl
    · rw [if_neg hedm, if_neg hedm]
      split <;> rfl

theorem checkTypeAtOnce_eq (name : String) (spec : TypeSpec) :
    checkTypeAtOnce s name spec = (checkType name spec).mapError (Violation.locate s) := by
  unfold checkTypeAtOnce checkType
  split
  · rfl
  · split
    · rfl
    · split <;> rfl

namespace Manifest

variable (m : Manifest)

theorem checkAtOnce_eq : m.checkAtOnce s = m.check.mapError (Violation.locate s) := by
  unfold checkAtOnce check
  rw [mapError_bind, checkNamespaceAtOnce_eq]
  refine bind_congr fun _ => ?_
  rw [mapError_forM]
  simp only [checkTypeAtOnce_eq]

theorem resolveReferenceAtOnce_eq (property reference : String) :
    m.resolveReferenceAtOnce s property reference =
      (m.resolveReference property reference).mapError (Violation.locate s) := by
  unfold resolveReferenceAtOnce resolveReference
  cases splitQualified reference with
  | none => rfl
  | some parts =>
    obtain ⟨ns, name⟩ := parts
    dsimp only
    split
    · rfl
    · split
      · rfl
      · cases m.types.find? name <;> rfl

theorem resolvePropertyAtOnce_eq (typeName property : String) (spec : PropertySpec) :
    m.resolvePropertyAtOnce s typeName property spec =
      (m.resolveProperty typeName property spec).mapError (Violation.locate s) := by
  unfold resolvePropertyAtOnce resolveProperty
  rw [mapError_bind, resolveReferenceAtOnce_eq]
  refine bind_congr fun declaredType => ?_
  cases spec.projectionRef with
  | none => rfl
  | some reference =>
    dsimp only
    rw [mapError_bind, mapError_map, resolveReferenceAtOnce_eq]
    rfl

theorem resolveTypeAtOnce_eq (name : String) (spec : TypeSpec) :
    m.resolveTypeAtOnce s name spec =
      (m.resolveType name spec).mapError (Violation.locate s) := by
  unfold resolveTypeAtOnce resolveType
  rw [mapError_bind, mapError_mapM]
  simp only [resolvePropertyAtOnce_eq]
  rfl

theorem resolveIn_eq_mapError : m.resolveIn s = m.resolve.mapError (Violation.locate s) := by
  unfold resolveIn
  cases m.resolve <;> rfl

/-- **No search for a place has a say in what is found wrong.** -/
theorem resolveAtOnce_eq : m.resolveAtOnce s = m.resolveIn s := by
  rw [resolveIn_eq_mapError]
  unfold resolveAtOnce resolve
  rw [mapError_bind, checkAtOnce_eq]
  refine bind_congr fun _ => ?_
  rw [mapError_bind, mapError_mapM]
  simp only [resolveTypeAtOnce_eq]
  rfl

theorem sameOutcome_resolveIn (s' : Source) : SameOutcome (m.resolveIn s) (m.resolveIn s') := by
  unfold resolveIn
  cases m.resolve with
  | ok model => exact .ok model
  | error v => exact .error (v.sameButPlace_locate s s')

end Manifest

/-! ## Ways to load a text -/

variable {s} {m : Manifest} {model : Model}

theorem loadSource_eq_ok_iff :
    loadSource s = .ok (m, model) ↔
      Manifest.ofToml s.text = some m ∧ m.resolveIn s = .ok model := by
  unfold loadSource
  cases Manifest.ofToml s.text with
  | none => simp
  | some m' =>
    dsimp only
    cases hresolve : m'.resolveIn s with
    | error e =>
      refine ⟨fun h => (by cases h), ?_⟩
      rintro ⟨heq, h⟩
      obtain rfl := Option.some.inj heq
      rw [hresolve] at h
      cases h
    | ok model' =>
      constructor
      · intro h
        cases h
        exact ⟨rfl, hresolve⟩
      · rintro ⟨heq, h⟩
        obtain rfl := Option.some.inj heq
        rw [hresolve] at h
        cases h
        rfl

/-- The name of a file has no say in what is loaded from its text. -/
theorem sameOutcome_loadSource (text fileName fileName' : String) :
    SameOutcome (loadSource ⟨text, fileName⟩) (loadSource ⟨text, fileName'⟩) := by
  unfold loadSource
  dsimp only
  cases Manifest.ofToml text with
  | none => exact .error (.malformed ..)
  | some m =>
    dsimp only
    have hsame := m.sameOutcome_resolveIn ⟨text, fileName⟩ ⟨text, fileName'⟩
    generalize m.resolveIn ⟨text, fileName⟩ = x at hsame ⊢
    generalize m.resolveIn ⟨text, fileName'⟩ = y at hsame ⊢
    cases hsame with
    | ok model => exact .ok (m, model)
    | error he => exact .error he

theorem readText_eq_ok_iff {path text : String} {content : Option ByteArray} :
    readText path content = .ok text ↔ content.bind String.fromUTF8? = some text := by
  unfold readText
  cases content.bind String.fromUTF8? <;> simp

theorem Manifest.ofNamedText_eq_ok_iff {text : String} (fileName : String) :
    Manifest.ofNamedText text fileName = .ok m ↔
      Manifest.ofToml text = some m ∧ ∃ model, ∀ s, m.resolveIn s = .ok model := by
  unfold ofNamedText
  constructor
  · intro h
    cases hload : loadSource ⟨text, fileName⟩ with
    | error e => rw [hload] at h; cases h
    | ok loaded =>
      obtain ⟨m', model⟩ := loaded
      rw [hload] at h
      cases h
      obtain ⟨hread, hresolve⟩ := loadSource_eq_ok_iff.1 hload
      exact ⟨hread, model, fun s => resolveIn_eq_ok.2 (resolveIn_eq_ok.1 hresolve)⟩
  · rintro ⟨hread, model, hresolve⟩
    have hload : loadSource ⟨text, fileName⟩ = .ok (m, model) :=
      loadSource_eq_ok_iff.2 ⟨hread, hresolve ⟨text, fileName⟩⟩
    rw [hload]
    rfl

theorem Manifest.ofText_eq_ok_iff {text : String} :
    Manifest.ofText text = .ok m ↔
      Manifest.ofToml text = some m ∧ ∃ model, ∀ s, m.resolveIn s = .ok model :=
  ofNamedText_eq_ok_iff "model.toml"

theorem Manifest.sameOutcome_ofNamedText (text fileName : String) :
    SameOutcome (Manifest.ofNamedText text fileName) (Manifest.ofText text) :=
  (sameOutcome_loadSource text fileName "model.toml").map Prod.fst

section Files

variable {path : String} {content : Option ByteArray}

theorem Manifest.ofFile_eq_ok_iff :
    Manifest.ofFile path content = .ok m ↔
      ∃ text, content.bind String.fromUTF8? = some text ∧ Manifest.ofText text = .ok m := by
  unfold ofFile
  rw [bind_eq_ok]
  refine exists_congr fun text => and_congr readText_eq_ok_iff ?_
  rw [ofNamedText_eq_ok_iff, ofText_eq_ok_iff]

theorem ModelFile.ofFile_eq_ok_iff {f : ModelFile} :
    ModelFile.ofFile path content = .ok f ↔
      f.path = path ∧ content.bind String.fromUTF8? = some f.content ∧
      Manifest.ofText f.content = .ok f.manifest ∧ ∀ s, f.manifest.resolveIn s = .ok f.model := by
  unfold ofFile
  rw [bind_eq_ok]
  constructor
  · rintro ⟨text, htext, h⟩
    obtain ⟨⟨m, model⟩, hload, h⟩ := bind_eq_ok.1 h
    cases h
    obtain ⟨hread, hresolve⟩ := loadSource_eq_ok_iff.1 hload
    have hall : ∀ s, m.resolveIn s = .ok model := fun s =>
      Manifest.resolveIn_eq_ok.2 (Manifest.resolveIn_eq_ok.1 hresolve)
    exact ⟨rfl, readText_eq_ok_iff.1 htext, Manifest.ofText_eq_ok_iff.2 ⟨hread, model, hall⟩, hall⟩
  · obtain ⟨path', text, m, model⟩ := f
    rintro ⟨rfl, htext, hmanifest, hall⟩
    refine ⟨text, readText_eq_ok_iff.2 htext, bind_eq_ok.2 ⟨(m, model), ?_, rfl⟩⟩
    exact loadSource_eq_ok_iff.2 ⟨(Manifest.ofText_eq_ok_iff.1 hmanifest).1, hall _⟩

/-- The two ways to load a file also fail alike. -/
theorem ModelFile.map_manifest_ofFile :
    (ModelFile.ofFile path content).map (·.manifest) = Manifest.ofFile path content := by
  unfold ofFile Manifest.ofFile Manifest.ofNamedText
  cases readText path content with
  | error e => rfl
  | ok text =>
    show (loadSource ⟨text, path⟩ >>= _).map _ = (loadSource ⟨text, path⟩).map _
    cases loadSource ⟨text, path⟩ <;> rfl

end Files

/-- **A source only places errors.**  Whether every check looks for its place itself or the first
violation is placed in the end, a manifest has the same outcome; and against any two sources it has
one and the same model, or errors that differ in their places alone, with one message.  So a text is
accepted under every file name or under none: exactly if it is a manifest, and the manifest has a
model, which is the same against every source.  A file is accepted exactly if its content is such a
text; and a model file holds that text, that manifest, and the one model that it has against every
source. -/
theorem sources_only_place_errors :
    (∀ (m : Manifest) (s : Source), m.resolveAtOnce s = m.resolveIn s) ∧
    (∀ (m : Manifest) (s s' : Source), SameOutcome (m.resolveIn s) (m.resolveIn s') ∧
      (m.resolveIn s).mapError (·.message) = (m.resolveIn s').mapError (·.message)) ∧
    (∀ text fileName, SameOutcome (Manifest.ofNamedText text fileName) (Manifest.ofText text)) ∧
    (∀ text m, Manifest.ofText text = .ok m ↔
      Manifest.ofToml text = some m ∧ ∃ model, ∀ s, m.resolveIn s = .ok model) ∧
    (∀ path content m, Manifest.ofFile path content = .ok m ↔
      ∃ text, content.bind String.fromUTF8? = some text ∧ Manifest.ofText text = .ok m) ∧
    (∀ path content f, ModelFile.ofFile path content = .ok f ↔
      f.path = path ∧ content.bind String.fromUTF8? = some f.content ∧
      Manifest.ofText f.content = .ok f.manifest ∧ ∀ s, f.manifest.resolveIn s = .ok f.model) ∧
    ∀ path content,
      (ModelFile.ofFile path content).map (·.manifest) = Manifest.ofFile path content :=
  ⟨fun m s => m.resolveAtOnce_eq s,
    fun m s s' => ⟨m.sameOutcome_resolveIn s s', (m.sameOutcome_resolveIn s s').mapError_message⟩,
    Manifest.sameOutcome_ofNamedText, fun _ _ => Manifest.ofText_eq_ok_iff,
    fun _ _ _ => Manifest.ofFile_eq_ok_iff, fun _ _ _ => ModelFile.ofFile_eq_ok_iff,
    fun _ _ => ModelFile.map_manifest_ofFile⟩

/-- The place does depend on the source: a reference is found in one, and not in the other. -/
example :
    let m : Manifest :=
      ⟨"zoo", ⟨[("cage", ⟨.entity, false, ⟨[("in", .type "zoo.yard")], by decide⟩⟩)], by decide⟩⟩
    let s : Source := ⟨"in = \"zoo.yard\"", "cages.toml"⟩
    let s' : Source := ⟨"", "empty.toml"⟩
    m.resolveIn s = .error (.unknownType ⟨s, some ⟨6, 8⟩⟩ "zoo.yard" "in") ∧
      m.resolveIn s' = .error (.unknownType ⟨s', none⟩ "zoo.yard" "in") :=
  ⟨rfl, rfl⟩

end EdmMapping
