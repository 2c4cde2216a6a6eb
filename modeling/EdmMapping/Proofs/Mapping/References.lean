import EdmMapping.Proofs.Mapping.Classes

/-!
# References and declarations agree

A reference is turned into a descriptor when a manifest is resolved, and a declaration into one when
its class is built.  Both are the same descriptor, so what refers to a declared type — the type of a
member, and the imports of its class — names the class that is generated for it.

* `typeName_memberIn` — the type of a member is the reference type of the class of its type,
  qualified if that is a reserved word;
* `mem_neededClasses` — the member needs that class, in the package of the lowercased namespace;
* `references_agree` — both for every property of a model that a manifest is resolved to.
-/

set_option autoImplicit false

namespace EdmMapping

namespace TypeDefinition

/-! ## The descriptor of a declared type -/

@[simp] theorem isPrimitive_descriptor (d : TypeDefinition) : d.descriptor.isPrimitive = false := by
  unfold descriptor
  cases d.kind <;> rfl

@[simp] theorem name_descriptor (d : TypeDefinition) : d.descriptor.name = d.name := by
  unfold descriptor
  cases d.kind <;> rfl

@[simp] theorem ns_descriptor (d : TypeDefinition) : d.descriptor.ns = some d.ns := by
  unfold descriptor
  cases d.kind <;> rfl

theorem isFlags_descriptor (d : TypeDefinition) :
    d.descriptor.isFlags = (decide (d.kind = .enum) && d.flags) := by
  unfold descriptor
  cases d.kind <;> rfl

theorem qualifiedName_descriptor {d : TypeDefinition} (h : d.ns ≠ "") :
    d.descriptor.qualifiedName = d.ns ++ "." ++ d.name := by
  simp [TypeDescriptor.qualifiedName, h]

end TypeDefinition

/-! ## Members of a declared type -/

variable {p : PropertyDescriptor} {d : TypeDefinition}

theorem typeName_memberIn (t : Target) (h : p.projectedType = d.descriptor) :
    (p.memberIn t).typeName =
      if t.mapper.reserved.isReserved (d.classIn t).referenceType then
        t.mapper.qualifyReserved (d.classIn t).referenceType
      else (d.classIn t).referenceType := by
  simp [PropertyDescriptor.memberIn, TypeMapper.resolvePropertyType, h, TypeDefinition.classIn]

theorem mem_neededClasses (h : p.projectedType = d.descriptor) (hns : d.ns ≠ "")
    (hname : IsName d.name) : (Unicode.lowercaseText d.ns, d.className) ∈ p.neededClasses := by
  have hsplit : splitQualified (d.ns ++ "." ++ d.name) = some (d.ns, d.name) :=
    splitQualified_eq_some_iff.2 ⟨rfl, hname.dot_notMem⟩
  unfold PropertyDescriptor.neededClasses
  rw [h, TypeDefinition.qualifiedName_descriptor hns, hsplit]
  simp [TypeDefinition.className]

theorem enumSet_mem_neededClasses (h : p.projectedType = d.descriptor) (hkind : d.kind = .enum)
    (hflags : d.flags = true) : ("java.util", "EnumSet") ∈ p.neededClasses := by
  unfold PropertyDescriptor.neededClasses
  rw [h, TypeDefinition.isFlags_descriptor]
  simp [hkind, hflags]

theorem importLine_mem_imports (t : Target) (hp : p ∈ d.properties) {package className : String}
    (h : (package, className) ∈ p.neededClasses) :
    ImportCollector.importLine package className ∈ (d.classIn t).imports :=
  (ImportCollector.mem_lines_iff _).2
    ⟨package, className, (ImportCollector.hasClass_collect _).2 ⟨p, hp, h⟩, rfl⟩

/-- Where the names of properties stand once, each finds its member. -/
theorem filter_members (t : Target) (h : (d.properties.map (·.name)).Nodup)
    (hp : p ∈ d.properties) :
    ((d.classIn t).members.filter fun x => x.property = p.name) = [p.memberIn t] := by
  have hkeys : ((d.classIn t).members.map (·.property)) = d.properties.map (·.name) := by
    unfold TypeDefinition.classIn
    rw [List.map_map]
    rfl
  have hmem : p.memberIn t ∈ (d.classIn t).members := List.mem_map_of_mem hp
  exact filter_key_eq_singleton (f := fun x : MemberMapping => x.property) (hkeys ▸ h) hmem

/-! ## Agreement -/

/-- **References and declarations agree**, from a manifest to its mapping, for every type mapper and
every table of reserved words.  A descriptor of a property that is not primitive is the descriptor
of the one declared type of its name.  A property whose projected type is the declared type `T`
becomes a member typed with the reference type of the class of `T`, qualified exactly if that is a
reserved word, in a class that imports the class of `T`, and `EnumSet` if the values of `T`
combine. -/
theorem references_agree {m : Manifest} {s : Source} {model : Model}
    (h : m.resolveIn s = .ok model) (t : Target) (S : TypeDefinition) (hS : S ∈ model.types)
    (p : PropertyDescriptor) (hp : p ∈ S.properties) :
    (∀ ty, ty = p.declaredType ∨ p.projection = some ty → ty.isPrimitive = false →
      ∃ T, (model.types.filter fun d => d.name = ty.name) = [T] ∧ ty = T.descriptor) ∧
    ∀ T ∈ model.types, p.projectedType.isPrimitive = false → p.projectedType.name = T.name →
      ∃ classS classT member,
        (ModelMapping.buildWith t model).class? S.name = some classS ∧
        (ModelMapping.buildWith t model).class? T.name = some classT ∧
        (classS.members.filter fun x => x.property = p.name) = [member] ∧
        member.typeName =
          (if t.mapper.reserved.isReserved classT.referenceType then
            t.mapper.qualifyReserved classT.referenceType
          else classT.referenceType) ∧
        "import " ++ Unicode.lowercaseText model.ns ++ "." ++ classT.className ++ ";"
          ∈ classS.imports ∧
        (T.kind = .enum → T.flags = true → "import java.util.EnumSet;" ∈ classS.imports) := by
  have hdesc := Manifest.describes_of_resolve (Manifest.resolveIn_eq_ok.1 h)
  have hwf := Manifest.isWellFormed_of_resolveIn h
  refine ⟨?_, ?_⟩
  · intro ty hty hdomain
    obtain ⟨reference, hdenotes⟩ := hdesc.denotes hS hp hty
    obtain ⟨T, hfilter, -, hT⟩ := hdesc.declared_unique hdenotes hdomain
    exact ⟨T, hfilter, hT⟩
  · intro T hT hdomain hname
    obtain ⟨reference, hdenotes⟩ := hdesc.denotes hS hp p.projectedType_cases
    have hprojected := hdesc.eq_descriptor hdenotes hdomain hT hname
    have hns : T.ns = model.ns := hdesc.ns_eq hT
    have hne : T.ns ≠ "" := by
      rw [hns, hdesc.ns]
      exact hwf.isNamespace.ne_empty
    have hisName : IsName T.name := hdesc.isName hwf hT
    refine ⟨S.classIn t, T.classIn t, p.memberIn t, class?_buildWith t hdesc.nodup_names hS,
      class?_buildWith t hdesc.nodup_names hT, filter_members t (hdesc.nodup_properties hS) hp,
      typeName_memberIn t hprojected, ?_, ?_⟩
    · rw [← hns]
      exact importLine_mem_imports t hp (mem_neededClasses hprojected hne hisName)
    · intro hkind hflags
      exact importLine_mem_imports t hp (enumSet_mem_neededClasses hprojected hkind hflags)

/-- A shop: an order has a colour, and goes to an address of a type named like a keyword. -/
def shopManifest : Manifest where
  ns := "Shop.Models"
  types := ⟨[
    ("color", ⟨.enum, true, .empty⟩),
    ("default", ⟨.complex, false, .empty⟩),
    ("order", ⟨.entity, false, ⟨[
      ("shade", .type "Shop.Models.color"),
      ("address", .detailed "Edm.String" (some "Shop.Models.default"))], by decide⟩⟩)], by decide⟩

def shopOrder : TypeDefinition where
  name := "order"
  ns := "Shop.Models"
  kind := .entity
  flags := false
  properties := [
    ⟨"shade", "order", ⟨"color", .domain, true, true, some "Shop.Models"⟩, none⟩,
    ⟨"address", "order", .primitive "String",
      some ⟨"default", .domain, false, false, "Shop.Models"⟩⟩]

def shopModel : Model where
  ns := "Shop.Models"
  types := [
    ⟨"color", "Shop.Models", .enum, true, []⟩, ⟨"default", "Shop.Models", .complex, false, []⟩,
    shopOrder]

/-- The address of an order is typed with the qualified name of a class that the order imports. -/
theorem references_agree_shop :
    shopManifest.resolveIn ⟨"", "shop.toml"⟩ = .ok shopModel ∧
    ∃ p ∈ shopOrder.properties, p.projectedType.name = "default" ∧
      ∃ classS classT member,
        (ModelMapping.buildWith javaTarget shopModel).class? "order" = some classS ∧
        (ModelMapping.buildWith javaTarget shopModel).class? "default" = some classT ∧
        (classS.members.filter fun x => x.property = p.name) = [member] ∧
        member.typeName =
          (if javaReserved.isReserved classT.referenceType then
            javaMapper.qualifyReserved classT.referenceType
          else classT.referenceType) ∧
        "import " ++ Unicode.lowercaseText "Shop.Models" ++ "." ++ classT.className ++ ";"
          ∈ classS.imports := by
  have hresolve : shopManifest.resolveIn ⟨"", "shop.toml"⟩ = .ok shopModel := rfl
  have horder : shopOrder ∈ shopModel.types := by simp [shopModel]
  let address : PropertyDescriptor := ⟨"address", "order", .primitive "String",
    some ⟨"default", .domain, false, false, "Shop.Models"⟩⟩
  have haddress : address ∈ shopOrder.properties := by simp [shopOrder, address]
  obtain ⟨-, hclasses⟩ := references_agree hresolve javaTarget shopOrder horder address haddress
  obtain ⟨classS, classT, member, h1, h2, h3, h4, h5, -⟩ :=
    hclasses ⟨"default", "Shop.Models", .complex, false, []⟩ (by simp [shopModel]) rfl rfl
  exact ⟨hresolve, address, haddress, rfl, classS, classT, member, h1, h2, h3, h4, h5⟩

end EdmMapping
