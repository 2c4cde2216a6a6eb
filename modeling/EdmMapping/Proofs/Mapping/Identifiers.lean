import EdmMapping.Proofs.Mapping.Classes
import EdmMapping.Proofs.Naming.Clashes

/-!
# Identifiers of the members of a class

The properties of a type have different names, but each becomes an identifier on its own, without a
look at its siblings.  Two members of a class have one identifier exactly if the names that their
identifiers are made of clash; it cannot happen as long as all names are plain.

* `TypeDefinition.sourceOf` — the name that the identifier of a property is made of;
* `TypeDefinition.IsPlain` — a property that neither loses a character nor leaves its name, and is
  not named like an escaped word;
* `classIn_nodup_iff` — the identifiers of a class differ exactly if no two sources clash;
* `identifiers_nodup_iff` — the same from a manifest to its mapping for Java;
* `identifiers_not_always_nodup` — there is a manifest with two members of one identifier.
-/

set_option autoImplicit false

namespace EdmMapping

namespace TypeDefinition

/-- The name that the identifier of a property of the type is made of. -/
def sourceOf (table : ReservedWords) (d : TypeDefinition) (p : PropertyDescriptor) : String :=
  Owner.source table ⟨d.name, p.projectedType.name⟩ p.name

/-- The property keeps its name, unless that is a reserved word, and the name is not what a reserved
word becomes. -/
structure IsPlain (table : ReservedWords) (d : TypeDefinition) (p : PropertyDescriptor) : Prop where
  clean : IsClean p.name
  apart : table.isReserved p.name = true ∨ upperFirst p.name ≠ d.className
  unescaped : ∀ word, table.isReserved word = true → p.name ≠ table.escape word

end TypeDefinition

variable {table : ReservedWords} {d : TypeDefinition}

theorem TypeDefinition.IsPlain.strip_sourceOf {p : PropertyDescriptor} (h : d.IsPlain table p) :
    strip (d.sourceOf table p) = p.name := by
  have hsource : d.sourceOf table p = p.name := by
    unfold sourceOf Owner.source
    rcases h.apart with hr | hne
    · rw [if_pos hr]
    · have hclass : upperFirst p.name ≠ Owner.className ⟨d.name, p.projectedType.name⟩ := hne
      rw [if_neg hclass, ite_self]
  rw [hsource, strip_eq_self_iff.2 h.clean]

theorem TypeDefinition.IsPlain.not_clash {p q : PropertyDescriptor} (hp : d.IsPlain table p)
    (hq : d.IsPlain table q) (hne : p.name ≠ q.name) :
    ¬ Clash table (d.sourceOf table p) (d.sourceOf table q) := by
  unfold Clash
  rw [hp.strip_sourceOf, hq.strip_sourceOf]
  rintro (heq | ⟨hr, heq⟩ | ⟨hr, heq⟩)
  · exact hne heq
  · exact hq.unescaped p.name hr heq
  · exact hp.unescaped q.name hr heq

/-! ## One class -/

theorem classIn_nodup_iff {t : Target} (h : t.reserved.Admissible)
    (hd : ∀ p ∈ d.properties, p.declaringTypeName = d.name) :
    ((d.classIn t).members.map (·.identifier)).Nodup ↔
      d.properties.Pairwise fun p q =>
        ¬ Clash t.reserved (d.sourceOf t.reserved p) (d.sourceOf t.reserved q) := by
  have hidentifier : ∀ p ∈ d.properties, (p.memberIn t).identifier =
      (sanitize t.reserved (d.sourceOf t.reserved p) none).name := by
    intro p hp
    have howner : Owner.ofProperty p = ⟨d.name, p.projectedType.name⟩ := by
      unfold Owner.ofProperty
      rw [hd p hp]
    unfold PropertyDescriptor.memberIn sanitizeProperty
    rw [howner]
    exact sanitize_source h p.name _
  unfold TypeDefinition.classIn List.Nodup
  rw [List.map_map, List.pairwise_map]
  refine List.Pairwise.iff_of_mem fun {p q} hp hq => ?_
  show (p.memberIn t).identifier ≠ (q.memberIn t).identifier ↔ _
  rw [hidentifier p hp, hidentifier q hq, ne_eq, sanitize_name_eq_iff h]

/-- Plain properties with different names have different identifiers. -/
theorem classIn_nodup_of_isPlain {t : Target} (h : t.reserved.Admissible)
    (hd : ∀ p ∈ d.properties, p.declaringTypeName = d.name)
    (hnames : (d.properties.map (·.name)).Nodup)
    (hplain : ∀ p ∈ d.properties, d.IsPlain t.reserved p) :
    ((d.classIn t).members.map (·.identifier)).Nodup := by
  rw [classIn_nodup_iff h hd]
  unfold List.Nodup at hnames
  rw [List.pairwise_map] at hnames
  exact hnames.imp_of_mem fun hp hq hne => (hplain _ hp).not_clash (hplain _ hq) hne

/-! ## All classes -/

/-- **When identifiers differ**, in every class that a manifest is mapped to: exactly if no two of
its properties clash, and in particular if all of its properties are plain. -/
theorem identifiers_nodup_iff {m : Manifest} {s : Source} {model : Model}
    (h : m.resolveIn s = .ok model) :
    List.Forall₂ (fun (d : TypeDefinition) (c : ClassMapping) =>
        ((c.members.map (·.identifier)).Nodup ↔
          d.properties.Pairwise fun p q =>
            ¬ Clash javaReserved (d.sourceOf javaReserved p) (d.sourceOf javaReserved q)) ∧
        ((∀ p ∈ d.properties, d.IsPlain javaReserved p) → (c.members.map (·.identifier)).Nodup))
      model.types (ModelMapping.build model).classes := by
  have hdesc := Manifest.describes_of_resolve (Manifest.resolveIn_eq_ok.1 h)
  unfold ModelMapping.build
  rw [classes_buildWith, List.forall₂_map_right_iff, List.forall₂_same]
  intro d hd
  have hdeclaring : ∀ p ∈ d.properties, p.declaringTypeName = d.name := by
    intro p hp
    exact hdesc.declaring_eq hd hp
  exact ⟨classIn_nodup_iff javaReserved_admissible hdeclaring,
    classIn_nodup_of_isPlain (t := javaTarget) javaReserved_admissible hdeclaring
      (hdesc.nodup_properties hd)⟩

/-- A shop with two types: the sizes of an item differ in a sign only, those of a box in a
letter. -/
def sizesManifest : Manifest where
  ns := "Shop"
  types := ⟨[
    ("item", ⟨.complex, false, ⟨[("size", .type "Edm.Int32"), ("@size", .type "Edm.Int32")],
      by decide⟩⟩),
    ("box", ⟨.complex, false, ⟨[("size", .type "Edm.Int32"), ("sizes", .type "Edm.Int32")],
      by decide⟩⟩)], by decide⟩

def sizesModel : Model where
  ns := "Shop"
  types := [
    ⟨"item", "Shop", .complex, false, [
      ⟨"size", "item", .primitive "Int32", none⟩, ⟨"@size", "item", .primitive "Int32", none⟩]⟩,
    ⟨"box", "Shop", .complex, false, [
      ⟨"size", "box", .primitive "Int32", none⟩, ⟨"sizes", "box", .primitive "Int32", none⟩]⟩]

/-- The sizes of an item clash, the sizes of a box do not. -/
theorem identifiers_nodup_iff_sizes :
    sizesManifest.resolveIn ⟨"", "sizes.toml"⟩ = .ok sizesModel ∧
    ∃ item box, (ModelMapping.build sizesModel).classes = [item, box] ∧
      ¬ (item.members.map (·.identifier)).Nodup ∧ (box.members.map (·.identifier)).Nodup := by
  have hresolve : sizesManifest.resolveIn ⟨"", "sizes.toml"⟩ = .ok sizesModel := rfl
  have hnodup := identifiers_nodup_iff hresolve
  generalize (ModelMapping.build sizesModel).classes = classes at hnodup ⊢
  obtain _ | ⟨hitem, _ | ⟨hbox, _ | _⟩⟩ := hnodup
  refine ⟨hresolve, _, _, rfl, ?_, ?_⟩
  · rw [hitem.1]
    decide +kernel
  · rw [hbox.1]
    decide +kernel

/-- Different names of properties do not make different identifiers. -/
theorem identifiers_not_always_nodup :
    ¬ ∀ (m : Manifest) (s : Source) (model : Model), m.resolveIn s = .ok model →
      ∀ c ∈ (ModelMapping.build model).classes, (c.members.map (·.identifier)).Nodup := by
  intro hall
  have hnodup := hall sizesManifest ⟨"", "sizes.toml"⟩ sizesModel rfl
  revert hnodup
  decide +kernel

end EdmMapping
