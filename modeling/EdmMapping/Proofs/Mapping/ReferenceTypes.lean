import EdmMapping.Proofs.Mapping.References
import EdmMapping.Proofs.Unicode.CaseStability

/-!
# Reference types

Other classes should refer to a declared type by the name of the class that is generated for it.
They do, unless the type has the name of a primitive with a mapping of its own: the table of
primitives is asked by name, whatever the namespace, and its answer takes the place of the class.

* `referenceType_classIn` — the reference type of a class, for every type mapper;
* `referenceType_classIn_eq_iff` — for Java it is the name of the class exactly if no primitive has
  the name of the type;
* `qualifyForJava`, `typeName_memberIn_eq_iff` — the same for the members that have the type;
* `referenceType_eq_className_iff` — both, from a manifest to its mapping for Java;
* `referenceType_not_always_className` — there is a manifest with a class that is not referred to.
-/

set_option autoImplicit false

namespace EdmMapping

/-! ## The table of primitives -/

-- Each lemma goes through the table in one evaluation, which reads the reserved words only once.

/-- No primitive is mapped to the class that a type of its name would become. -/
theorem javaPrimitiveType_ne_upperFirst (q : EdmPrimitive) :
    javaPrimitiveType q ≠ upperFirst q.name := by
  have hall : ∀ q ∈ EdmPrimitive.all, javaPrimitiveType q ≠ upperFirst q.name := by decide +kernel
  exact hall q q.mem_all

/-- The one primitive type that could be the name of a class, and is not reserved. -/
theorem javaPrimitiveType_eq_integer {q : EdmPrimitive}
    (hupper : upperFirst (javaPrimitiveType q) = javaPrimitiveType q)
    (hfree : javaReserved.isReserved (javaPrimitiveType q) = false) :
    javaPrimitiveType q = "Integer" := by
  have hall : ∀ q ∈ EdmPrimitive.all, upperFirst (javaPrimitiveType q) = javaPrimitiveType q →
      javaReserved.isReserved (javaPrimitiveType q) = false → javaPrimitiveType q = "Integer" := by
    decide +kernel
  exact hall q q.mem_all hupper hfree

/-- What is qualified with the models' namespace comes after it. -/
theorem eq_drop_of_qualified {name typeName : String}
    (h : javaModelNamespace ++ "." ++ name = typeName) :
    name = String.ofList (typeName.toList.drop (javaModelNamespace ++ ".").toList.length) := by
  have hchars : typeName.toList = (javaModelNamespace ++ ".").toList ++ name.toList := by
    rw [← h, String.toList_append]
  rw [hchars, List.drop_left, String.ofList_toList]

/-- The primitive types of the models' namespace do not end in a reserved word. -/
theorem isReserved_of_javaPrimitiveType {q : EdmPrimitive} {name : String}
    (h : javaModelNamespace ++ "." ++ name = javaPrimitiveType q) :
    javaReserved.isReserved name = false := by
  have hall : ∀ q ∈ EdmPrimitive.all, javaReserved.isReserved (String.ofList
      ((javaPrimitiveType q).toList.drop (javaModelNamespace ++ ".").toList.length)) = false := by
    decide +kernel
  rw [eq_drop_of_qualified h]
  exact hall q q.mem_all

/-! ## One class -/

variable {d : TypeDefinition}

theorem isFlags_descriptor_eq_false (h : d.kind = .enum → d.flags = false) :
    d.descriptor.isFlags = false := by
  rw [TypeDefinition.isFlags_descriptor]
  by_cases hkind : d.kind = .enum
  · simp [h hkind]
  · simp [hkind]

theorem referenceType_classIn (t : Target) (h : d.kind = .enum → d.flags = false) :
    (d.classIn t).referenceType =
      match EdmPrimitive.ofName? d.name with
      | some q => t.mapper.mapPrimitive q
      | none => d.className := by
  have hflags := isFlags_descriptor_eq_false h
  unfold TypeDefinition.classIn TypeMapper.resolveTypeName
  simp only [hflags, TypeDefinition.name_descriptor, Bool.false_eq_true, if_false]
  cases EdmPrimitive.ofName? d.name <;> rfl

theorem referenceType_classIn_of_some {q : EdmPrimitive} (h : d.kind = .enum → d.flags = false)
    (hq : EdmPrimitive.ofName? d.name = some q) :
    (d.classIn javaTarget).referenceType = javaPrimitiveType q := by
  rw [referenceType_classIn javaTarget h, hq]
  rfl

theorem referenceType_classIn_of_none (h : d.kind = .enum → d.flags = false)
    (hnone : EdmPrimitive.ofName? d.name = none) :
    (d.classIn javaTarget).referenceType = d.className := by
  rw [referenceType_classIn javaTarget h, hnone]

theorem className_of_some {q : EdmPrimitive} (hq : EdmPrimitive.ofName? d.name = some q) :
    d.className = upperFirst q.name := by
  rw [TypeDefinition.className, EdmPrimitive.name_of_ofName? hq]

theorem referenceType_classIn_eq_iff (h : d.kind = .enum → d.flags = false) :
    (d.classIn javaTarget).referenceType = (d.classIn javaTarget).className ↔
      EdmPrimitive.ofName? d.name = none := by
  show (d.classIn javaTarget).referenceType = d.className ↔ _
  cases hq : EdmPrimitive.ofName? d.name with
  | none => simp [referenceType_classIn_of_none h hq]
  | some q =>
    rw [referenceType_classIn_of_some h hq, className_of_some hq]
    simp [javaPrimitiveType_ne_upperFirst q]

/-! ## Members -/

/-- What a type name becomes in a member, for Java. -/
def qualifyForJava (typeName : String) : String :=
  if javaReserved.isReserved typeName then javaModelNamespace ++ "." ++ typeName else typeName

/-- A primitive and a class of its name are written differently in a member as well. -/
theorem qualifyForJava_javaPrimitiveType_ne (q : EdmPrimitive) :
    qualifyForJava (javaPrimitiveType q) ≠ qualifyForJava (upperFirst q.name) := by
  have hall : ∀ q ∈ EdmPrimitive.all,
      qualifyForJava (javaPrimitiveType q) ≠ qualifyForJava (upperFirst q.name) := by
    decide +kernel
  exact hall q q.mem_all

/-- A class name is the type of a primitive in one case only. -/
theorem qualifyForJava_className_iff :
    (∃ q, qualifyForJava d.className = javaPrimitiveType q) ↔ d.className = "Integer" := by
  constructor
  · rintro ⟨q, hq⟩
    unfold qualifyForJava at hq
    by_cases hr : javaReserved.isReserved d.className = true
    · rw [if_pos hr] at hq
      rw [isReserved_of_javaPrimitiveType hq] at hr
      cases hr
    · rw [if_neg hr] at hq
      have hupper : upperFirst d.className = d.className := upperFirst_upperFirst _
      rw [hq] at hr hupper
      rw [hq]
      exact javaPrimitiveType_eq_integer hupper (by simpa using hr)
  · intro h
    refine ⟨.int32, ?_⟩
    rw [h]
    decide +kernel

variable {p : PropertyDescriptor}

theorem typeName_memberIn_java (h : p.projectedType = d.descriptor) :
    (p.memberIn javaTarget).typeName = qualifyForJava (d.classIn javaTarget).referenceType :=
  typeName_memberIn javaTarget h

theorem typeName_memberIn_eq_iff (h : p.projectedType = d.descriptor)
    (hflags : d.kind = .enum → d.flags = false) :
    (p.memberIn javaTarget).typeName = qualifyForJava d.className ↔
      EdmPrimitive.ofName? d.name = none := by
  rw [typeName_memberIn_java h]
  cases hq : EdmPrimitive.ofName? d.name with
  | none => simp [referenceType_classIn_of_none hflags hq]
  | some q =>
    rw [referenceType_classIn_of_some hflags hq, className_of_some hq]
    simp [qualifyForJava_javaPrimitiveType_ne q]

/-! ## From a manifest to its mapping -/

/-- **When a declared type is referred to by its class.**  In the mapping of a manifest for Java,
the reference type of a type whose values do not combine is the name of its class exactly if no
primitive has the name of the type; otherwise it is the type of that primitive.  The members that
have the type are typed with the name of the class, qualified if that is reserved, in the same
cases; and then a member is typed like a primitive only if the class is named `Integer`. -/
theorem referenceType_eq_className_iff {m : Manifest} {s : Source} {model : Model}
    (h : m.resolveIn s = .ok model) (T : TypeDefinition) (hT : T ∈ model.types)
    (hflags : T.kind = .enum → T.flags = false) :
    ∃ classT, (ModelMapping.build model).class? T.name = some classT ∧
      (classT.referenceType = classT.className ↔ EdmPrimitive.ofName? T.name = none) ∧
      (∀ q, EdmPrimitive.ofName? T.name = some q → classT.referenceType = javaPrimitiveType q) ∧
      ∀ S ∈ model.types, ∀ p ∈ S.properties,
        p.projectedType.isPrimitive = false → p.projectedType.name = T.name →
        ∃ classS member,
          (ModelMapping.build model).class? S.name = some classS ∧
          (classS.members.filter fun x => x.property = p.name) = [member] ∧
          (member.typeName = qualifyForJava classT.className ↔
            EdmPrimitive.ofName? T.name = none) ∧
          (EdmPrimitive.ofName? T.name = none →
            ((∃ q, member.typeName = javaPrimitiveType q) ↔ classT.className = "Integer")) := by
  have hdesc := Manifest.describes_of_resolve (Manifest.resolveIn_eq_ok.1 h)
  refine ⟨T.classIn javaTarget, class?_buildWith javaTarget hdesc.nodup_names hT,
    referenceType_classIn_eq_iff hflags, fun q hq => referenceType_classIn_of_some hflags hq, ?_⟩
  intro S hS p hp hdomain hname
  obtain ⟨reference, hdenotes⟩ := hdesc.denotes hS hp p.projectedType_cases
  have hprojected : p.projectedType = T.descriptor :=
    hdesc.eq_descriptor hdenotes hdomain hT hname
  refine ⟨S.classIn javaTarget, p.memberIn javaTarget,
    class?_buildWith javaTarget hdesc.nodup_names hS,
    filter_members javaTarget (hdesc.nodup_properties hS) hp,
    typeName_memberIn_eq_iff hprojected hflags, ?_⟩
  intro hnone
  rw [typeName_memberIn_java hprojected, referenceType_classIn_of_none hflags hnone]
  exact qualifyForJava_className_iff

/-- A shop with a type of its own for durations, and one for lengths. -/
def durationsManifest : Manifest where
  ns := "Shop"
  types := ⟨[
    ("Duration", ⟨.complex, false, .empty⟩),
    ("length", ⟨.complex, false, .empty⟩),
    ("item", ⟨.complex, false, ⟨[
      ("warranty", .type "Shop.Duration"), ("size", .type "Shop.length")], by decide⟩⟩)], by decide⟩

def durationsItem : TypeDefinition where
  name := "item"
  ns := "Shop"
  kind := .complex
  flags := false
  properties := [
    ⟨"warranty", "item", ⟨"Duration", .domain, false, false, some "Shop"⟩, none⟩,
    ⟨"size", "item", ⟨"length", .domain, false, false, some "Shop"⟩, none⟩]

def durationsModel : Model where
  ns := "Shop"
  types := [
    ⟨"Duration", "Shop", .complex, false, []⟩, ⟨"length", "Shop", .complex, false, []⟩,
    durationsItem]

/-- The class `Duration` is not referred to, the class `Length` is. -/
theorem referenceType_eq_className_durations :
    durationsManifest.resolveIn ⟨"", "durations.toml"⟩ = .ok durationsModel ∧
    (∃ c, (ModelMapping.build durationsModel).class? "Duration" = some c ∧
      c.referenceType ≠ c.className ∧ c.referenceType = javaPrimitiveType .duration) ∧
    ∃ c, (ModelMapping.build durationsModel).class? "length" = some c ∧
      c.referenceType = c.className ∧
      ∃ item member, (ModelMapping.build durationsModel).class? "item" = some item ∧
        (item.members.filter fun x => x.property = "size") = [member] ∧
        member.typeName = qualifyForJava c.className := by
  have hresolve : durationsManifest.resolveIn ⟨"", "durations.toml"⟩ = .ok durationsModel := rfl
  have hlength : EdmPrimitive.ofName? "length" = none := by decide
  refine ⟨hresolve, ?_, ?_⟩
  · obtain ⟨c, hc, hiff, hsome, -⟩ := referenceType_eq_className_iff hresolve
      ⟨"Duration", "Shop", .complex, false, []⟩ (by simp [durationsModel]) (by simp)
    refine ⟨c, hc, ?_, hsome .duration (by decide)⟩
    rw [ne_eq, hiff]
    decide
  · obtain ⟨c, hc, hiff, -, hmembers⟩ := referenceType_eq_className_iff hresolve
      ⟨"length", "Shop", .complex, false, []⟩ (by simp [durationsModel]) (by simp)
    obtain ⟨item, member, hitem, hmember, hnamed, -⟩ := hmembers durationsItem
      (by simp [durationsModel])
      ⟨"size", "item", ⟨"length", .domain, false, false, some "Shop"⟩, none⟩
      (by simp [durationsItem]) rfl rfl
    exact ⟨c, hc, hiff.2 hlength, item, member, hitem, hmember, hnamed.2 hlength⟩

/-- Not every class is what other classes refer to. -/
theorem referenceType_not_always_className :
    ¬ ∀ (m : Manifest) (s : Source) (model : Model), m.resolveIn s = .ok model →
      ∀ T ∈ model.types, (T.kind = .enum → T.flags = false) →
      ∀ c, (ModelMapping.build model).class? T.name = some c → c.referenceType = c.className := by
  intro hall
  have hduration := hall durationsManifest ⟨"", "durations.toml"⟩ durationsModel rfl
    ⟨"Duration", "Shop", .complex, false, []⟩ (by simp [durationsModel]) (by simp) _ rfl
  revert hduration
  decide +kernel

end EdmMapping
