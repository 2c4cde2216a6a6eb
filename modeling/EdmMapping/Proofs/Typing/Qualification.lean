import EdmMapping.Proofs.Mapping.ReferenceTypes
import EdmMapping.Proofs.Naming.Settled

/-!
# Qualified type names

A property of a type of the model is typed with the qualified name of the type if the name is
reserved.  The dot keeps the qualified name apart from the reserved words.  Whether a type is a
scalar is told from its resolved name, and for a property from the qualified one, so the two answers
could differ for every name that is reserved; they do for a single one.

* `isReserved_qualifyForJava` — what is qualified when needed is never reserved;
* `eq_of_isSimple_of_isReserved` — the scalars among the reserved words;
* `resolveTypeName_java_cases` — the three ways in which a type is resolved;
* `resolveTypeName_eq_short_iff` — the types that are resolved to the scalar `Short`;
* `qualification_moves_short_only` — properties are never typed with a reserved name of the model,
  and the types for which qualifying changes the classification.
-/

set_option autoImplicit false

namespace EdmMapping

/-! ## Qualified names -/

theorem isReserved_qualified (name : String) :
    javaReserved.isReserved (javaModelNamespace ++ "." ++ name) = false := by
  rw [← Bool.not_eq_true]
  intro hreserved
  have hclean := javaReserved_admissible.isClean_of_isReserved hreserved
  apply hclean.2
  simp

theorem isReserved_qualifyForJava (typeName : String) :
    javaReserved.isReserved (qualifyForJava typeName) = false := by
  unfold qualifyForJava
  split
  · exact isReserved_qualified typeName
  · rename_i hfree
    simpa using hfree

theorem isSimpleName_java_iff {typeName : String} :
    javaMapper.isSimpleName typeName = true ↔ typeName ∈ javaSimpleTypeNames := by
  simp [javaMapper]

/-- The scalars of the models' namespace do not end in a reserved word. -/
theorem isSimpleName_qualified {typeName : String} (h : javaReserved.isReserved typeName = true) :
    javaMapper.isSimpleName (javaModelNamespace ++ "." ++ typeName) = false := by
  have hall : ∀ simple ∈ javaSimpleTypeNames, javaReserved.isReserved (String.ofList
      (simple.toList.drop (javaModelNamespace ++ ".").toList.length)) = false := by
    decide +kernel
  rw [← Bool.not_eq_true]
  intro hsimple
  have hfree := hall _ (isSimpleName_java_iff.1 hsimple)
  rw [← eq_drop_of_qualified rfl, h] at hfree
  cases hfree

/-! ## Reserved scalars -/

/-- The scalars among the reserved words, in the spelling of the list of scalars. -/
theorem eq_of_isSimple_of_isReserved {typeName : String}
    (hsimple : javaMapper.isSimpleName typeName = true)
    (hreserved : javaReserved.isReserved typeName = true) :
    typeName = "long" ∨ typeName = "Short" := by
  have hall : ∀ simple ∈ javaSimpleTypeNames, javaReserved.isReserved simple = true →
      simple = "long" ∨ simple = "Short" := by
    decide +kernel
  exact hall typeName (isSimpleName_java_iff.1 hsimple) hreserved

/-- No mapped primitive becomes a reserved scalar. -/
theorem javaPrimitiveType_ne_reserved_scalar (q : EdmPrimitive) :
    javaPrimitiveType q ≠ "long" ∧ javaPrimitiveType q ≠ "Short" ∧
      upperFirst q.name ≠ "Short" := by
  have hall : ∀ q ∈ EdmPrimitive.all, javaPrimitiveType q ≠ "long" ∧
      javaPrimitiveType q ≠ "Short" ∧ upperFirst q.name ≠ "Short" := by
    decide +kernel
  exact hall q q.mem_all

/-! ## Resolved names -/

variable {ty : TypeDescriptor}

/-- A type is resolved as a flags enumeration, as a primitive, or as the class of its name. -/
theorem resolveTypeName_java_cases (ty : TypeDescriptor) :
    (ty.isFlags = true ∧
      javaMapper.resolveTypeName ty = "EnumSet<" ++ upperFirst ty.name ++ ">") ∨
    (ty.isFlags = false ∧ ∃ q, EdmPrimitive.ofName? ty.name = some q ∧
      javaMapper.resolveTypeName ty = javaPrimitiveType q) ∨
    (ty.isFlags = false ∧ EdmPrimitive.ofName? ty.name = none ∧
      javaMapper.resolveTypeName ty = upperFirst ty.name) := by
  unfold TypeMapper.resolveTypeName
  cases hflags : ty.isFlags with
  | true => exact .inl ⟨rfl, rfl⟩
  | false =>
    cases hq : EdmPrimitive.ofName? ty.name with
    | some q => exact .inr (.inl ⟨rfl, q, rfl, rfl⟩)
    | none => exact .inr (.inr ⟨rfl, rfl, rfl⟩)

theorem enumSet_ne_of_head {name typeName : String} (h : typeName.toList.head? ≠ some 'E') :
    "EnumSet<" ++ name ++ ">" ≠ typeName := by
  intro heq
  apply h
  rw [← heq]
  simp

/-- Nothing is resolved to the other reserved scalar: names are capitalised. -/
theorem resolveTypeName_ne_long (ty : TypeDescriptor) :
    javaMapper.resolveTypeName ty ≠ "long" := by
  rcases resolveTypeName_java_cases ty with ⟨-, hset⟩ | ⟨-, q, -, hprimitive⟩ | ⟨-, -, hclass⟩
  · rw [hset]
    exact enumSet_ne_of_head (by decide)
  · rw [hprimitive]
    exact (javaPrimitiveType_ne_reserved_scalar q).1
  · rw [hclass]
    intro hlong
    have hcapital : upperFirst (upperFirst ty.name) = upperFirst ty.name :=
      upperFirst_upperFirst ty.name
    rw [hlong] at hcapital
    revert hcapital
    decide +kernel

theorem resolveTypeName_eq_short_iff :
    javaMapper.resolveTypeName ty = "Short" ↔
      ty.isFlags = false ∧ upperFirst ty.name = "Short" := by
  rcases resolveTypeName_java_cases ty with ⟨hflags, hset⟩ | ⟨hflags, q, hq, hprimitive⟩ |
    ⟨hflags, -, hclass⟩
  · rw [hset, hflags]
    constructor
    · intro h
      exact absurd h (enumSet_ne_of_head (by decide))
    · rintro ⟨h, -⟩
      cases h
  · obtain ⟨-, hshort, hname⟩ := javaPrimitiveType_ne_reserved_scalar q
    rw [hprimitive, ← EdmPrimitive.name_of_ofName? hq]
    constructor
    · intro h
      exact absurd h hshort
    · rintro ⟨-, h⟩
      exact absurd h hname
  · rw [hclass, hflags]
    simp

/-! ## Properties -/

variable {p : PropertyDescriptor}

theorem resolvePropertyType_of_primitive (h : p.projectedType.isPrimitive = true) :
    javaMapper.resolvePropertyType p = javaMapper.resolveTypeName p.projectedType := by
  simp [TypeMapper.resolvePropertyType, h]

theorem resolvePropertyType_of_domain (h : p.projectedType.isPrimitive = false) :
    javaMapper.resolvePropertyType p =
      qualifyForJava (javaMapper.resolveTypeName p.projectedType) := by
  unfold TypeMapper.resolvePropertyType
  simp only [h, Bool.not_false, Bool.true_and]
  rfl

/-- The classification changes exactly where a scalar is qualified. -/
theorem isSimpleName_qualifyForJava_ne_iff {typeName : String} :
    javaMapper.isSimpleName (qualifyForJava typeName) ≠ javaMapper.isSimpleName typeName ↔
      javaMapper.isSimpleName typeName = true ∧ javaReserved.isReserved typeName = true := by
  unfold qualifyForJava
  by_cases hreserved : javaReserved.isReserved typeName = true
  · rw [if_pos hreserved, isSimpleName_qualified hreserved]
    simp [hreserved]
  · rw [if_neg hreserved]
    simp [hreserved]

theorem isSimpleProperty_ne_isSimple_iff :
    javaMapper.isSimpleProperty p ≠ javaMapper.isSimple p.projectedType ↔
      p.projectedType.isPrimitive = false ∧ p.projectedType.isFlags = false ∧
        upperFirst p.projectedType.name = "Short" := by
  unfold TypeMapper.isSimpleProperty TypeMapper.isSimple
  cases hprimitive : p.projectedType.isPrimitive with
  | true =>
    rw [resolvePropertyType_of_primitive hprimitive]
    simp
  | false =>
    rw [resolvePropertyType_of_domain hprimitive, isSimpleName_qualifyForJava_ne_iff,
      ← resolveTypeName_eq_short_iff]
    constructor
    · rintro ⟨hsimple, hreserved⟩
      refine ⟨rfl, ?_⟩
      rcases eq_of_isSimple_of_isReserved hsimple hreserved with hlong | hshort
      · exact absurd hlong (resolveTypeName_ne_long _)
      · exact hshort
    · rintro ⟨-, hshort⟩
      rw [hshort]
      decide +kernel

/-- **What qualifying does to the types of properties**, for Java.  A property whose type belongs to
the model is never typed with a reserved word.  It is told from its type, scalar or not, exactly if
the type belongs to the model, is no flags enumeration and has the class `Short`: then the type is
a scalar, and the property is none. -/
theorem qualification_moves_short_only (p : PropertyDescriptor) :
    (p.projectedType.isPrimitive = false →
      javaReserved.isReserved (javaMapper.resolvePropertyType p) = false) ∧
    (javaMapper.isSimpleProperty p ≠ javaMapper.isSimple p.projectedType ↔
      p.projectedType.isPrimitive = false ∧ p.projectedType.isFlags = false ∧
        upperFirst p.projectedType.name = "Short") ∧
    (javaMapper.isSimpleProperty p ≠ javaMapper.isSimple p.projectedType →
      javaMapper.isSimple p.projectedType = true ∧ javaMapper.isSimpleProperty p = false) := by
  refine ⟨?_, isSimpleProperty_ne_isSimple_iff, ?_⟩
  · intro hdomain
    rw [resolvePropertyType_of_domain hdomain]
    exact isReserved_qualifyForJava _
  · intro hne
    obtain ⟨-, hflags, hname⟩ := isSimpleProperty_ne_isSimple_iff.1 hne
    have hsimple : javaMapper.isSimple p.projectedType = true := by
      unfold TypeMapper.isSimple
      rw [resolveTypeName_eq_short_iff.2 ⟨hflags, hname⟩]
      decide
    refine ⟨hsimple, ?_⟩
    rw [hsimple] at hne
    simpa using hne

/-- A property of a type that is spelled with a long s, whose capital is that of `s`. -/
def longSProperty : PropertyDescriptor where
  name := "size"
  declaringTypeName := "item"
  declaredType := TypeDescriptor.domain "ſhort"
  projection := none

/-- The type is the scalar `Short`, and the property has its qualified name and is no scalar. -/
theorem qualification_moves_short_only_long_s :
    longSProperty.projectedType.isPrimitive = false ∧
    javaReserved.isReserved (javaMapper.resolvePropertyType longSProperty) = false ∧
    javaMapper.isSimple longSProperty.projectedType = true ∧
    javaMapper.isSimpleProperty longSProperty = false := by
  have hdomain : longSProperty.projectedType.isPrimitive = false := rfl
  obtain ⟨hfree, hiff, hmoved⟩ := qualification_moves_short_only longSProperty
  have hne := hiff.2 ⟨hdomain, rfl, by decide +kernel⟩
  exact ⟨hdomain, hfree hdomain, hmoved hne⟩

end EdmMapping
