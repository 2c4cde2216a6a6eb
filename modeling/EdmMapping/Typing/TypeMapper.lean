import EdmMapping.Edm.Descriptor
import EdmMapping.Edm.Primitive
import EdmMapping.Naming.ReservedWords
import EdmMapping.Text.Capital

/-!
# Type mappers

How the types of a model are written in a target language.  A `TypeMapper` holds what differs
between languages; the order in which its parts are asked is the same for all:

* `resolveTypeName` — flags enumerations, then the table of primitives, then the capitalised name;
* `resolvePropertyType` — the same for a property, with a reserved type name qualified;
* `isSimple`, `isSimpleParameter`, `isSimpleProperty` — whether the resolved type is a scalar.
-/

set_option autoImplicit false

namespace EdmMapping

/-- The decisions that a target language takes about types. -/
structure TypeMapper where
  language : String
  /-- The words that a generated type name must not be. -/
  reserved : ReservedWords
  mapPrimitive : EdmPrimitive → String
  /-- The type that holds any combination of the members of an enumeration. -/
  mapFlagsEnum : String → String
  /-- Whether a resolved type is a scalar. -/
  isSimpleName : String → Bool
  /-- A type name that is a reserved word, qualified so that it is none. -/
  qualifyReserved : String → String

namespace TypeMapper

/-- The type that the descriptor stands for.  A name in the table of primitives counts as that
primitive, whatever its namespace. -/
def resolveTypeName (m : TypeMapper) (ty : TypeDescriptor) : String :=
  if ty.isFlags then m.mapFlagsEnum (upperFirst ty.name)
  else
    match EdmPrimitive.ofName? ty.name with
    | some p => m.mapPrimitive p
    | none => upperFirst ty.name

def resolveParameterType (m : TypeMapper) (p : ParameterDescriptor) : String :=
  m.resolveTypeName p.type

/-- The type of a property: its projected type, qualified if that is a reserved word which does not
come from `Edm`. -/
def resolvePropertyType (m : TypeMapper) (p : PropertyDescriptor) : String :=
  let ty := p.projectedType
  let typeName := m.resolveTypeName ty
  if !ty.isPrimitive && m.reserved.isReserved typeName then m.qualifyReserved typeName
  else typeName

def isSimple (m : TypeMapper) (ty : TypeDescriptor) : Bool :=
  m.isSimpleName (m.resolveTypeName ty)

def isSimpleParameter (m : TypeMapper) (p : ParameterDescriptor) : Bool :=
  m.isSimpleName (m.resolveParameterType p)

def isSimpleProperty (m : TypeMapper) (p : PropertyDescriptor) : Bool :=
  m.isSimpleName (m.resolvePropertyType p)

/-- Whether values of the type are objects, which may be absent and have to be copied in depth. -/
def isComplex (m : TypeMapper) (ty : TypeDescriptor) : Bool :=
  !m.isSimple ty

end TypeMapper

end EdmMapping
