import EdmMapping.Edm.Descriptor
import EdmMapping.Text.Dotted
import EdmMapping.Unicode.CaseMapping

/-!
# Import paths

The package of a generated class is the namespace of its type in lowercase.

* `lowercasedImportPath` — a qualified name with everything before its last dot in lowercase;
* `PropertyDescriptor.importPath` — the path of the type that is emitted for a property.
-/

set_option autoImplicit false

namespace EdmMapping

inductive ImportError where
  | unqualified (name : String)
  deriving DecidableEq, Repr

/-- The sentence that tells the reader of a name without import path. -/
def ImportError.message : ImportError → String
  | .unqualified name => "cannot derive an import path from unqualified type name '" ++ name ++ "'"

/-- The qualified name with its namespace in lowercase. -/
def lowercasedImportPath (qualifiedName : String) : Except ImportError String :=
  match splitQualified qualifiedName with
  | some (ns, name) => .ok (Unicode.lowercaseText ns ++ "." ++ name)
  | none => .error (.unqualified qualifiedName)

/-- The import path of the type that is emitted for the property. -/
def PropertyDescriptor.importPath (p : PropertyDescriptor) : Except ImportError String :=
  lowercasedImportPath p.projectedType.qualifiedName

end EdmMapping
