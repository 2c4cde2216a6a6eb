import EdmMapping.Typing.TypeMapper

/-!
# Java types

The type mapper for Java: its types for the primitives, `EnumSet` for flags enumerations, the types
that count as scalars, and the namespace that reserved type names are qualified with.

`javaIsSimplePrimitive_eq` says that the classification of primitives agrees with the list of
scalar types.
-/

set_option autoImplicit false

namespace EdmMapping

def javaModelNamespace : String := "com.microsoft.graph.models.extensions"

/-- The type of a calendar date without a time. -/
def javaDateOnly : String := "com.microsoft.graph.models.extensions.DateOnly"

/-- The type of a time without a date. -/
def javaTimeOfDay : String := "com.microsoft.graph.models.extensions.TimeOfDay"

def javaSimpleTypeNames : List String :=
  ["Integer", "java.util.UUID", "java.util.Calendar", "byte[]", "String", "long", "Byte[]", "Short",
    javaDateOnly]

def javaPrimitiveType : EdmPrimitive → String
  | .int16 | .int32 => "Integer"
  | .int64 => "Long"
  | .guid => "java.util.UUID"
  | .dateTimeOffset => "java.util.Calendar"
  | .date => javaDateOnly
  | .timeOfDay => javaTimeOfDay
  | .duration => "javax.xml.datatype.Duration"
  | .json => "com.google.gson.JsonElement"
  | .binary => "byte[]"
  | .single => "float"

def javaIsSimplePrimitive : EdmPrimitive → Bool
  | .int16 | .int32 | .guid | .dateTimeOffset | .date | .binary => true
  | .int64 | .timeOfDay | .duration | .json | .single => false

def javaMapper : TypeMapper where
  language := "java"
  reserved := javaReserved
  mapPrimitive := javaPrimitiveType
  mapFlagsEnum name := "EnumSet<" ++ name ++ ">"
  isSimpleName name := javaSimpleTypeNames.contains name
  qualifyReserved name := javaModelNamespace ++ "." ++ name

theorem javaIsSimplePrimitive_eq (p : EdmPrimitive) :
    javaIsSimplePrimitive p = javaMapper.isSimpleName (javaMapper.mapPrimitive p) := by
  cases p <;> decide

end EdmMapping
