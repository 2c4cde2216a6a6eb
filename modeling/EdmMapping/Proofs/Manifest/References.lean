import EdmMapping.Manifest.Resolve
import EdmMapping.Proofs.Text.Names

/-!
# What references stand for

* `Manifest.Denotes` — a reference stands for a primitive, after `Edm.`, or for a declared type,
  after the namespace of the manifest;
* `resolveReference_eq_ok` — a reference that is resolved stands for what it is resolved to, in any
  manifest; `resolveReference_of_denotes` is the converse where names and namespace are as they
  should be;
* `Manifest.IsKnown` — a reference that stands for something.
-/

set_option autoImplicit false

namespace EdmMapping.Manifest

variable {m : Manifest} {reference property : String} {ty : TypeDescriptor}

inductive Denotes (m : Manifest) : String → TypeDescriptor → Prop where
  | primitive {name : String} (nonempty : name ≠ "") (dotless : '.' ∉ name.toList) :
    m.Denotes ("Edm." ++ name) (.primitive name)
  | declared {name : String} {spec : TypeSpec} (found : m.types.find? name = some spec) :
    m.Denotes (m.ns ++ "." ++ name) (spec.descriptor name m.ns)

/-- The reference names a primitive, or a declared type in the namespace of the manifest. -/
def IsKnown (m : Manifest) (reference : String) : Prop :=
  (∃ name, reference = "Edm." ++ name ∧ name ≠ "" ∧ '.' ∉ name.toList) ∨
    ∃ name, reference = m.ns ++ "." ++ name ∧ m.hasType name = true

theorem hasType_iff {name : String} :
    m.hasType name = true ↔ ∃ spec, m.types.find? name = some spec := by
  unfold hasType OrderedMap.contains
  exact Option.isSome_iff_exists

theorem isKnown_iff : m.IsKnown reference ↔ ∃ ty, m.Denotes reference ty := by
  constructor
  · rintro (⟨name, rfl, hne, hdot⟩ | ⟨name, rfl, hname⟩)
    · exact ⟨_, .primitive hne hdot⟩
    · obtain ⟨spec, hfound⟩ := hasType_iff.1 hname
      exact ⟨_, .declared hfound⟩
  · rintro ⟨ty, hty⟩
    cases hty with
    | primitive hne hdot => exact .inl ⟨_, rfl, hne, hdot⟩
    | declared hfound => exact .inr ⟨_, rfl, hasType_iff.2 ⟨_, hfound⟩⟩

theorem resolveReference_eq_ok (h : m.resolveReference property reference = .ok ty) :
    m.Denotes reference ty := by
  unfold resolveReference at h
  split at h
  · cases h
  · rename_i ns name hsplit
    obtain ⟨rfl, hdot⟩ := splitQualified_eq_some_iff.1 hsplit
    split at h
    · rename_i hedm
      cases h
      obtain ⟨rfl, hne⟩ := hedm
      exact .primitive hne hdot
    · split at h
      · cases h
      · rename_i hns
        have hns : ns = m.ns := Classical.not_not.1 hns
        subst hns
        split at h
        · cases h
        · rename_i spec hfound
          cases h
          exact .declared hfound

/-- Nothing but a missing type is found wrong with a reference. -/
theorem resolveReference_eq_error {v : Violation}
    (h : m.resolveReference property reference = .error v) :
    v = .unknownType reference property := by
  unfold resolveReference at h
  split at h
  · cases h; rfl
  · split at h
    · cases h
    · split at h
      · cases h; rfl
      · split at h
        · cases h; rfl
        · cases h

/-- In a namespace other than `Edm`, and with declared names that hold no dot, every reference that
stands for something is resolved to it. -/
theorem resolveReference_of_denotes (hns : m.ns ≠ "Edm")
    (hnames : ∀ name, m.hasType name = true → '.' ∉ name.toList) (h : m.Denotes reference ty) :
    m.resolveReference property reference = .ok ty := by
  cases h with
  | @primitive name hne hdot =>
    have hsplit : splitQualified ("Edm." ++ name) = some ("Edm", name) :=
      splitQualified_eq_some_iff.2 ⟨rfl, hdot⟩
    simp [resolveReference, hsplit, edmNamespace, hne]
  | @declared name spec hfound =>
    have hdot := hnames name (hasType_iff.2 ⟨spec, hfound⟩)
    have hsplit : splitQualified (m.ns ++ "." ++ name) = some (m.ns, name) :=
      splitQualified_eq_some_iff.2 ⟨rfl, hdot⟩
    simp [resolveReference, hsplit, edmNamespace, hns, hfound]

end EdmMapping.Manifest
