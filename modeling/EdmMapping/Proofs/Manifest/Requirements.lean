import EdmMapping.Manifest.Error
import EdmMapping.Proofs.Manifest.References

/-!
# What is required of a manifest

Everything that a manifest has to satisfy, written down as one list in the order in which it is
asked for: the namespace, then every declaration, then every reference.

* `Requirement` — a condition and the violation that its failure is;
* `FirstBroken` — the violation of the first requirement of a list that fails;
* `Decides` — a computation succeeds if all requirements of a list hold, and otherwise fails with
  the first broken one; this is closed under sequencing (`Decides.bind`) and under going through a
  list (`Decides.mapM`, `Decides.forM`);
* `Manifest.requirements` — the list for a manifest, and `Manifest.IsWellFormed` what it amounts to;
* `decides_resolve` — resolving a manifest decides its requirements;
* `resolveIn_accepts_and_reports` — the manifests that are accepted, and the error of every other.
-/

set_option autoImplicit false

namespace EdmMapping

/-! ## Requirements in order -/

/-- A condition, and what is wrong if it fails. -/
structure Requirement where
  holds : Prop
  violation : Violation

/-- `v` is the violation of the first requirement that fails. -/
def FirstBroken (rs : List Requirement) (v : Violation) : Prop :=
  ∃ before r after, rs = before ++ r :: after ∧ (∀ q ∈ before, q.holds) ∧ ¬ r.holds ∧
    v = r.violation

/-- The computation succeeds with all requirements met, or fails with the first broken one. -/
def Decides {α : Type} (rs : List Requirement) : Except Violation α → Prop
  | .ok _ => ∀ r ∈ rs, r.holds
  | .error v => FirstBroken rs v

theorem FirstBroken.append_right {rs : List Requirement} {v : Violation} (h : FirstBroken rs v)
    (more : List Requirement) : FirstBroken (rs ++ more) v := by
  obtain ⟨before, r, after, rfl, hbefore, hr, hv⟩ := h
  exact ⟨before, r, after ++ more, by simp, hbefore, hr, hv⟩

theorem FirstBroken.append_left {rs : List Requirement} {v : Violation} (h : FirstBroken rs v)
    {first : List Requirement} (hfirst : ∀ q ∈ first, q.holds) : FirstBroken (first ++ rs) v := by
  obtain ⟨before, r, after, rfl, hbefore, hr, hv⟩ := h
  refine ⟨first ++ before, r, after, by simp, ?_, hr, hv⟩
  intro q hq
  rcases List.mem_append.1 hq with hq | hq
  · exact hfirst q hq
  · exact hbefore q hq

/-- A list with a broken requirement does not hold as a whole. -/
theorem FirstBroken.not_all {rs : List Requirement} {v : Violation} (h : FirstBroken rs v) :
    ¬ ∀ r ∈ rs, r.holds := by
  obtain ⟨before, r, after, rfl, -, hr, -⟩ := h
  exact fun hall => hr (hall r (by simp))

theorem FirstBroken.cons_iff {r : Requirement} {rs : List Requirement} {v : Violation} :
    FirstBroken (r :: rs) v ↔ (¬ r.holds ∧ v = r.violation) ∨ (r.holds ∧ FirstBroken rs v) := by
  constructor
  · rintro ⟨before, q, after, heq, hbefore, hq, hv⟩
    cases before with
    | nil =>
      obtain ⟨rfl, rfl⟩ := List.cons.inj heq
      exact .inl ⟨hq, hv⟩
    | cons p before =>
      obtain ⟨rfl, rfl⟩ := List.cons.inj heq
      exact .inr ⟨hbefore r (by simp),
        before, q, after, rfl, fun x hx => hbefore x (List.mem_cons_of_mem _ hx), hq, hv⟩
  · rintro (⟨hr, rfl⟩ | ⟨hr, h⟩)
    · exact ⟨[], r, rs, rfl, by simp, hr, rfl⟩
    · show FirstBroken ([r] ++ rs) v
      exact h.append_left (by simpa using hr)

/-- There is one first broken requirement at most. -/
theorem FirstBroken.unique {rs : List Requirement} {v w : Violation} (hv : FirstBroken rs v)
    (hw : FirstBroken rs w) : v = w := by
  induction rs with
  | nil => obtain ⟨before, r, after, heq, -⟩ := hv; simp at heq
  | cons r rs ih =>
    rcases FirstBroken.cons_iff.1 hv with ⟨hr, rfl⟩ | ⟨hr, hv⟩
    · rcases FirstBroken.cons_iff.1 hw with ⟨-, rfl⟩ | ⟨hr', -⟩
      · rfl
      · exact absurd hr' hr
    · rcases FirstBroken.cons_iff.1 hw with ⟨hr', -⟩ | ⟨-, hw⟩
      · exact absurd hr hr'
      · exact ih hv hw

section Decides

variable {α β : Type}

/-- One condition tested before the rest. -/
theorem Decides.ite {p : Prop} [Decidable p] {r : Requirement} {rs : List Requirement}
    {x : Except Violation α} (hp : p ↔ ¬ r.holds) (hx : Decides rs x) :
    Decides (r :: rs) (if p then .error r.violation else x) := by
  by_cases h : p
  · rw [if_pos h]
    exact FirstBroken.cons_iff.2 (.inl ⟨hp.1 h, rfl⟩)
  · have hr : r.holds := Classical.not_not.1 fun hn => h (hp.2 hn)
    rw [if_neg h]
    cases x with
    | ok a =>
      intro q hq
      rcases List.mem_cons.1 hq with rfl | hq
      · exact hr
      · exact hx q hq
    | error v => exact FirstBroken.cons_iff.2 (.inr ⟨hr, hx⟩)

/-- One computation after the other; the second may rely on the requirements of the first. -/
theorem Decides.bind {rs more : List Requirement} {x : Except Violation α}
    {f : α → Except Violation β} (hx : Decides rs x)
    (hf : ∀ a, x = .ok a → (∀ r ∈ rs, r.holds) → Decides more (f a)) :
    Decides (rs ++ more) (x >>= f) := by
  cases x with
  | error v => exact FirstBroken.append_right hx more
  | ok a =>
    have hmore : Decides more (f a) := hf a rfl hx
    show Decides (rs ++ more) (f a)
    cases hfa : f a with
    | ok b =>
      rw [hfa] at hmore
      intro r hr
      rcases List.mem_append.1 hr with hr | hr
      · exact hx r hr
      · exact hmore r hr
    | error v =>
      rw [hfa] at hmore
      exact FirstBroken.append_left hmore hx

theorem Decides.map {rs : List Requirement} {x : Except Violation α} (hx : Decides rs x)
    (f : α → β) : Decides rs (f <$> x) := by
  cases x with
  | ok a => exact hx
  | error v => exact hx

theorem Decides.bind_pure {rs : List Requirement} {x : Except Violation α} (hx : Decides rs x)
    (f : α → β) : Decides rs (x >>= fun a => pure (f a)) := by
  cases x with
  | ok a => exact hx
  | error v => exact hx

theorem Decides.mapM {γ : Type} {requirements : γ → List Requirement}
    {f : γ → Except Violation α} {l : List γ} (h : ∀ x ∈ l, Decides (requirements x) (f x)) :
    Decides (l.flatMap requirements) (l.mapM f) := by
  induction l with
  | nil => intro r hr; cases hr
  | cons x l ih =>
    rw [List.mapM_cons, List.flatMap_cons]
    refine (h x (by simp)).bind fun a _ _ => ?_
    exact (ih fun y hy => h y (List.mem_cons_of_mem _ hy)).bind_pure fun as => a :: as

theorem Decides.forM {γ : Type} {requirements : γ → List Requirement}
    {f : γ → Except Violation PUnit} {l : List γ} (h : ∀ x ∈ l, Decides (requirements x) (f x)) :
    Decides (l.flatMap requirements) (l.forM f) := by
  induction l with
  | nil => intro r hr; cases hr
  | cons x l ih =>
    show Decides (requirements x ++ l.flatMap requirements) (f x >>= fun _ => l.forM f)
    exact (h x (by simp)).bind fun _ _ _ => ih fun y hy => h y (List.mem_cons_of_mem _ hy)

theorem Decides.ok_iff {rs : List Requirement} {x : Except Violation α} (hx : Decides rs x) :
    (∃ a, x = .ok a) ↔ ∀ r ∈ rs, r.holds := by
  cases x with
  | ok a => exact ⟨fun _ => hx, fun _ => ⟨a, rfl⟩⟩
  | error v =>
    refine ⟨fun ⟨a, ha⟩ => (by cases ha), fun hall => ?_⟩
    exact absurd hall (FirstBroken.not_all hx)

theorem Decides.error_iff {rs : List Requirement} {x : Except Violation α} (hx : Decides rs x)
    {v : Violation} : x = .error v ↔ FirstBroken rs v := by
  cases x with
  | ok a =>
    exact ⟨fun h => (by cases h), fun hv => absurd hx hv.not_all⟩
  | error w =>
    refine ⟨fun h => ?_, fun hv => ?_⟩
    · cases h; exact hx
    · rw [FirstBroken.unique hx hv]

end Decides

/-! ## The requirements of a manifest -/

def namespaceRequirements (ns : String) : List Requirement :=
  [⟨ns ≠ "", .emptyNamespace⟩,
   ⟨ns ≠ "Edm", .edmNamespace⟩,
   ⟨IsNamespace ns, .malformedNamespace ns⟩]

def typeRequirements (name : String) (spec : TypeSpec) : List Requirement :=
  [⟨IsName name, .malformedTypeName name⟩,
   ⟨spec.flags = true → spec.kind = .enum, .flagsOnNonEnum name⟩,
   ⟨spec.kind = .enum → spec.properties.entries = [], .enumWithProperties name⟩]

namespace Manifest

/-- What is required of the references of a property: the declared type before the projection. -/
def referenceRequirements (m : Manifest) (property : String) (spec : PropertySpec) :
    List Requirement :=
  (spec.reference :: spec.projectionRef.toList).map fun reference =>
    ⟨m.IsKnown reference, .unknownType reference property⟩

/-- All that is required of a manifest, in the order in which it is asked for. -/
def requirements (m : Manifest) : List Requirement :=
  (namespaceRequirements m.ns ++
    m.types.entries.flatMap fun (name, spec) => typeRequirements name spec) ++
  m.types.entries.flatMap fun (_, spec) =>
    spec.properties.entries.flatMap fun (property, spec) => m.referenceRequirements property spec

/-- The manifests that have a model. -/
structure IsWellFormed (m : Manifest) : Prop where
  ns_ne_edm : m.ns ≠ "Edm"
  isNamespace : IsNamespace m.ns
  isName : ∀ name spec, (name, spec) ∈ m.types.entries → IsName name
  flags_enum : ∀ name spec, (name, spec) ∈ m.types.entries → spec.flags = true → spec.kind = .enum
  enum_bare : ∀ name spec, (name, spec) ∈ m.types.entries → spec.kind = .enum →
    spec.properties.entries = []
  known : ∀ name spec, (name, spec) ∈ m.types.entries →
    ∀ property propertySpec, (property, propertySpec) ∈ spec.properties.entries →
      m.IsKnown propertySpec.reference ∧
        ∀ projection, propertySpec.projectionRef = some projection → m.IsKnown projection

theorem forall_referenceRequirements {m : Manifest} {property : String} {spec : PropertySpec} :
    (∀ r ∈ m.referenceRequirements property spec, r.holds) ↔
      m.IsKnown spec.reference ∧
        ∀ projection, spec.projectionRef = some projection → m.IsKnown projection := by
  simp [referenceRequirements]

theorem isWellFormed_iff {m : Manifest} : m.IsWellFormed ↔ ∀ r ∈ m.requirements, r.holds := by
  constructor
  · intro h r hr
    rcases List.mem_append.1 hr with hr | hr
    · rcases List.mem_append.1 hr with hr | hr
      · simp only [namespaceRequirements, List.mem_cons, List.not_mem_nil, or_false] at hr
        rcases hr with rfl | rfl | rfl
        · exact h.isNamespace.ne_empty
        · exact h.ns_ne_edm
        · exact h.isNamespace
      · obtain ⟨⟨name, spec⟩, hmem, hr⟩ := List.mem_flatMap.1 hr
        simp only [typeRequirements, List.mem_cons, List.not_mem_nil, or_false] at hr
        rcases hr with rfl | rfl | rfl
        · exact h.isName name spec hmem
        · exact h.flags_enum name spec hmem
        · exact h.enum_bare name spec hmem
    · obtain ⟨⟨name, spec⟩, hmem, hr⟩ := List.mem_flatMap.1 hr
      obtain ⟨⟨property, propertySpec⟩, hprop, hr⟩ := List.mem_flatMap.1 hr
      exact forall_referenceRequirements.2 (h.known name spec hmem property propertySpec hprop) r hr
  · intro h
    have hns : ∀ r ∈ namespaceRequirements m.ns, r.holds := fun r hr =>
      h r (List.mem_append_left _ (List.mem_append_left _ hr))
    have htype : ∀ name spec, (name, spec) ∈ m.types.entries →
        ∀ r ∈ typeRequirements name spec, r.holds := fun name spec hmem r hr =>
      h r (List.mem_append_left _ (List.mem_append_right _
        (List.mem_flatMap.2 ⟨(name, spec), hmem, hr⟩)))
    have href : ∀ name spec, (name, spec) ∈ m.types.entries →
        ∀ property propertySpec, (property, propertySpec) ∈ spec.properties.entries →
        ∀ r ∈ m.referenceRequirements property propertySpec, r.holds :=
      fun name spec hmem property propertySpec hprop r hr =>
        h r (List.mem_append_right _ (List.mem_flatMap.2 ⟨(name, spec), hmem,
          List.mem_flatMap.2 ⟨(property, propertySpec), hprop, hr⟩⟩))
    simp only [namespaceRequirements, typeRequirements, List.forall_mem_cons] at hns htype
    exact
      { ns_ne_edm := hns.2.1
        isNamespace := hns.2.2.1
        isName := fun name spec hmem => (htype name spec hmem).1
        flags_enum := fun name spec hmem => (htype name spec hmem).2.1
        enum_bare := fun name spec hmem => (htype name spec hmem).2.2.1
        known := fun name spec hmem property propertySpec hprop =>
          forall_referenceRequirements.1 (href name spec hmem property propertySpec hprop) }

end Manifest

/-! ## The checks decide the requirements -/

theorem decides_checkNamespace (ns : String) :
    Decides (namespaceRequirements ns) (checkNamespace ns) := by
  unfold checkNamespace namespaceRequirements
  refine .ite (by simp) (.ite (by simp [edmNamespace]) (.ite ?_ ?_))
  · rw [Bool.not_eq_true', ← Bool.not_eq_true, isDottedName_iff]
  · exact fun r hr => by cases hr

theorem decides_checkType (name : String) (spec : TypeSpec) :
    Decides (typeRequirements name spec) (checkType name spec) := by
  unfold checkType typeRequirements
  refine .ite ?_ (.ite (by simp) (.ite ?_ ?_))
  · rw [Bool.not_eq_true', ← Bool.not_eq_true, isSimpleName_iff]
  · simp [OrderedMap.isEmpty]
  · exact fun r hr => by cases hr

namespace Manifest

variable {m : Manifest}

theorem decides_check (m : Manifest) :
    Decides (namespaceRequirements m.ns ++
      m.types.entries.flatMap fun (name, spec) => typeRequirements name spec) m.check :=
  (decides_checkNamespace m.ns).bind fun _ _ _ =>
    .forM fun (name, spec) _ => decides_checkType name spec

/-- What the references rely on: the manifest has passed the checks before them. -/
structure IsChecked (m : Manifest) : Prop where
  ns_ne_edm : m.ns ≠ "Edm"
  isName : ∀ name, m.hasType name = true → IsName name

theorem decides_resolveReference (h : m.IsChecked) (property reference : String) :
    Decides [⟨m.IsKnown reference, .unknownType reference property⟩]
      (m.resolveReference property reference) := by
  cases hres : m.resolveReference property reference with
  | ok ty =>
    intro r hr
    rw [List.mem_singleton.1 hr]
    exact isKnown_iff.2 ⟨ty, resolveReference_eq_ok hres⟩
  | error v =>
    refine FirstBroken.cons_iff.2 (.inl ⟨?_, resolveReference_eq_error hres⟩)
    intro hknown
    obtain ⟨ty, hty⟩ := isKnown_iff.1 hknown
    rw [resolveReference_of_denotes h.ns_ne_edm (fun name hn => (h.isName name hn).dot_notMem) hty]
      at hres
    cases hres

theorem decides_resolveProperty (h : m.IsChecked) (typeName property : String)
    (spec : PropertySpec) :
    Decides (m.referenceRequirements property spec)
      (m.resolveProperty typeName property spec) := by
  unfold resolveProperty referenceRequirements
  rw [List.map_cons, ← List.singleton_append]
  refine (decides_resolveReference h property spec.reference).bind fun declaredType _ _ => ?_
  cases spec.projectionRef with
  | none => exact fun r hr => by cases hr
  | some projection =>
    exact ((decides_resolveReference h property projection).map some).bind_pure fun projection =>
      (⟨property, typeName, declaredType, projection⟩ : PropertyDescriptor)

theorem decides_resolveType (h : m.IsChecked) (name : String) (spec : TypeSpec) :
    Decides
      (spec.properties.entries.flatMap fun (property, spec) =>
        m.referenceRequirements property spec)
      (m.resolveType name spec) := by
  unfold resolveType
  refine Decides.bind_pure (.mapM fun (property, spec) _ => ?_) fun properties =>
    (⟨name, m.ns, spec.kind, spec.flags, properties⟩ : TypeDefinition)
  exact decides_resolveProperty h name property spec

/-- A manifest whose declarations are in order has passed the checks before the references. -/
theorem isChecked_of_requirements
    (h : ∀ r ∈ namespaceRequirements m.ns ++
      m.types.entries.flatMap (fun (name, spec) => typeRequirements name spec), r.holds) :
    m.IsChecked where
  ns_ne_edm := h ⟨m.ns ≠ "Edm", .edmNamespace⟩ (by simp [namespaceRequirements])
  isName name hname := by
    obtain ⟨spec, hfound⟩ := hasType_iff.1 hname
    refine h ⟨IsName name, .malformedTypeName name⟩ (List.mem_append_right _ ?_)
    exact List.mem_flatMap.2 ⟨(name, spec), m.types.find?_eq_some_iff.1 hfound,
      by simp [typeRequirements]⟩

/-- **Resolving a manifest decides its requirements.** -/
theorem decides_resolve (m : Manifest) : Decides m.requirements m.resolve := by
  refine (decides_check m).bind fun _ _ hchecks => ?_
  have h : m.IsChecked := isChecked_of_requirements hchecks
  refine Decides.bind_pure (.mapM fun (name, spec) _ => ?_) fun types => (⟨m.ns, types⟩ : Model)
  exact decides_resolveType h name spec

theorem resolveIn_eq_ok {s : Source} {model : Model} :
    m.resolveIn s = .ok model ↔ m.resolve = .ok model := by
  unfold resolveIn
  cases m.resolve <;> simp

theorem resolveIn_eq_error {s : Source} {e : ManifestError} :
    m.resolveIn s = .error e ↔ ∃ v, m.resolve = .error v ∧ e = v.locate s := by
  unfold resolveIn
  cases m.resolve with
  | ok model => simp
  | error v => simp [eq_comm]

theorem isWellFormed_of_resolveIn {s : Source} {model : Model} (h : m.resolveIn s = .ok model) :
    m.IsWellFormed :=
  isWellFormed_iff.2 ((decides_resolve m).ok_iff.1 ⟨model, resolveIn_eq_ok.1 h⟩)

/-- **What is accepted, and what is reported otherwise.**  Whatever the source, a manifest has a
model exactly if it is well-formed; any other manifest fails with the error, at its place in the
source, of the first requirement that it breaks. -/
theorem resolveIn_accepts_and_reports (m : Manifest) (s : Source) :
    ((∃ model, m.resolveIn s = .ok model) ↔ m.IsWellFormed) ∧
    ∀ e, m.resolveIn s = .error e ↔ ∃ v, FirstBroken m.requirements v ∧ e = v.locate s := by
  refine ⟨?_, fun e => ?_⟩
  · rw [isWellFormed_iff, ← (decides_resolve m).ok_iff]
    exact exists_congr fun model => resolveIn_eq_ok
  · rw [resolveIn_eq_error]
    exact exists_congr fun v => and_congr_left fun _ => (decides_resolve m).error_iff

end Manifest

end EdmMapping
