/-!
# Descriptors

What a model says about the types that its properties and parameters refer to.

* `TypeDescriptor` — a reference to a type, with what a mapping has to know about it;
* `PropertyDescriptor` — a named member, with an optional type that replaces the declared one;
* `ParameterDescriptor` — a named parameter of a function or an action.
-/

set_option autoImplicit false

namespace EdmMapping

/-- Where a type is defined: in `Edm`, or by the model itself. -/
inductive NamespaceKind where
  | primitive
  | domain
  deriving DecidableEq, Repr

structure TypeDescriptor where
  name : String
  namespaceKind : NamespaceKind
  isEnum : Bool
  isFlagsEnum : Bool
  /-- The declaring namespace, if one is attached. -/
  ns : Option String
  deriving DecidableEq, Repr

namespace TypeDescriptor

def primitive (name : String) : TypeDescriptor :=
  ⟨name, .primitive, false, false, none⟩

/-- A type of the model that is no enumeration. -/
def domain (name : String) : TypeDescriptor :=
  ⟨name, .domain, false, false, none⟩

/-- An enumeration of the model, whose values combine if `flags` is set. -/
def enumeration (name : String) (flags : Bool) : TypeDescriptor :=
  ⟨name, .domain, true, flags, none⟩

def inNamespace (ty : TypeDescriptor) (ns : String) : TypeDescriptor :=
  { ty with ns := some ns }

def isPrimitive (ty : TypeDescriptor) : Bool :=
  ty.namespaceKind = .primitive

/-- Whether values of the type combine as a bitmask. -/
def isFlags (ty : TypeDescriptor) : Bool :=
  ty.isEnum && ty.isFlagsEnum

/-- The name after its namespace and a dot; the bare name without a namespace, or with an empty
one. -/
def qualifiedName (ty : TypeDescriptor) : String :=
  match ty.ns with
  | some ns => if ns.isEmpty then ty.name else ns ++ "." ++ ty.name
  | none => ty.name

end TypeDescriptor

/-- A named member of a declared type. -/
structure PropertyDescriptor where
  name : String
  declaringTypeName : String
  declaredType : TypeDescriptor
  /-- The type to emit in place of the declared one. -/
  projection : Option TypeDescriptor
  deriving DecidableEq, Repr

/-- The type that is emitted for the property. -/
def PropertyDescriptor.projectedType (p : PropertyDescriptor) : TypeDescriptor :=
  p.projection.getD p.declaredType

structure ParameterDescriptor where
  name : String
  type : TypeDescriptor
  deriving DecidableEq, Repr

end EdmMapping
