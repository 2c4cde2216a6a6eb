import EdmMapping.Edm.Descriptor
import EdmMapping.Text.Capital

/-!
# Models

A model is a namespace and the types declared in it, each with its properties in order.

* `TypeDefinition.descriptor` — how other types refer to a declared type;
* `TypeDefinition.className` — the name of the class generated for it;
* `Model.findType?`, `Model.properties` — a declared type by name, and all properties in order.
-/

set_option autoImplicit false

namespace EdmMapping

/-- What a declared type is. -/
inductive TypeKind where
  | entity
  | complex
  | enum
  deriving DecidableEq, Repr

/-- The word for the kind in a model description. -/
def TypeKind.name : TypeKind → String
  | .entity => "entity"
  | .complex => "complex"
  | .enum => "enum"

def TypeKind.ofName? (word : String) : Option TypeKind :=
  [entity, complex, enum].find? fun kind => kind.name = word

/-- A declared type with its properties. -/
structure TypeDefinition where
  name : String
  ns : String
  kind : TypeKind
  /-- Whether values combine as a bitmask; it has a meaning for enumerations only. -/
  flags : Bool
  properties : List PropertyDescriptor
  deriving DecidableEq, Repr

namespace TypeDefinition

/-- The descriptor by which other types refer to this one. -/
def descriptor (d : TypeDefinition) : TypeDescriptor :=
  match d.kind with
  | .enum => (TypeDescriptor.enumeration d.name d.flags).inNamespace d.ns
  | .entity | .complex => (TypeDescriptor.domain d.name).inNamespace d.ns

def className (d : TypeDefinition) : String :=
  upperFirst d.name

end TypeDefinition

/-- The types declared in one namespace. -/
structure Model where
  ns : String
  types : List TypeDefinition
  deriving DecidableEq, Repr

namespace Model

def findType? (m : Model) (name : String) : Option TypeDefinition :=
  m.types.find? fun d => d.name = name

/-- The properties of all declared types, in order. -/
def properties (m : Model) : List PropertyDescriptor :=
  m.types.flatMap (·.properties)

def countKind (m : Model) (kind : TypeKind) : Nat :=
  m.types.countP fun d => d.kind = kind

end Model

end EdmMapping
