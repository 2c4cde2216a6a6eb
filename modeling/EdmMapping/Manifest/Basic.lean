import EdmMapping.Edm.Model
import EdmMapping.OrderedMap

/-!
# Manifests

A model description as its author wrote it: a namespace and declared types, whose properties refer
to other types by name.

* `PropertySpec.reference`, `PropertySpec.projectionRef` — the references of a property;
* `Manifest.hasType`, `Manifest.propertyCount` — whether a type is declared, and the number of all
  properties.
-/

set_option autoImplicit false

namespace EdmMapping

/-- What a property is declared as. -/
inductive PropertySpec where
  /-- A reference to its type. -/
  | type (reference : String)
  /-- A reference to its type, and perhaps one to the type to emit in its place. -/
  | detailed (reference : String) (projection : Option String)
  deriving DecidableEq, Repr

namespace PropertySpec

def reference : PropertySpec → String
  | .type reference => reference
  | .detailed reference _ => reference

/-- The reference to the type to emit, if there is one. -/
def projectionRef : PropertySpec → Option String
  | .type _ => none
  | .detailed _ projection => projection

end PropertySpec

/-- The declaration of a type. -/
structure TypeSpec where
  kind : TypeKind
  flags : Bool
  properties : OrderedMap PropertySpec

/-- A model description. -/
structure Manifest where
  ns : String
  types : OrderedMap TypeSpec

namespace Manifest

/-- Whether a type of that name is declared. -/
def hasType (m : Manifest) (name : String) : Bool := m.types.contains name

/-- The number of properties of all types. -/
def propertyCount (m : Manifest) : Nat :=
  m.types.values.foldl (fun count spec => count + spec.properties.size) 0

end Manifest

end EdmMapping
