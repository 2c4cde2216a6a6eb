import EdmMapping.Diagnostics
import EdmMapping.Edm.Model

/-!
# Mappings

What a model looks like in a target language: a class for every declared type, with its imports and
a member for every property, and the notes made on the way.

* `MemberMapping.summary`, `ClassMapping.heading` — one line for a member and for a class;
* `ClassMapping.text`, `ModelMapping.text` — the mapping as a text;
* `ModelMapping.class?`, `ModelMapping.renameCount` — a class by name, and the number of members
  that do not keep their name.
-/

set_option autoImplicit false

namespace EdmMapping

/-- The member that a property becomes. -/
structure MemberMapping where
  property : String
  identifier : String
  typeName : String
  simple : Bool
  /-- The import path of a type of the model. -/
  importPath : Option String
  deriving DecidableEq, Repr

/-- The class that a declared type becomes. -/
structure ClassMapping where
  schemaName : String
  className : String
  kind : TypeKind
  /-- The type by which other classes refer to this one. -/
  referenceType : String
  imports : List String
  members : List MemberMapping
  deriving DecidableEq, Repr

/-- The classes of a model and the notes made while mapping it. -/
structure ModelMapping where
  language : String
  classes : List ClassMapping
  diagnostics : Diagnostics
  deriving DecidableEq, Repr

def line (text : String) : String := text ++ "\n"

/-- A text on a line of its own, two blanks to the right. -/
def indentedLine (text : String) : String := "  " ++ line text

namespace MemberMapping

def isRenamed (m : MemberMapping) : Bool := m.identifier ≠ m.property

/-- The member in one line: identifier, type, and what is special about them. -/
def summary (m : MemberMapping) : String :=
  m.identifier ++ ": " ++ m.typeName
    ++ (if m.simple then " [simple]" else "")
    ++ (if m.isRenamed then " (was " ++ m.property ++ ")" else "")

end MemberMapping

namespace ClassMapping

/-- The class in one line: name, kind, and the type that refers to it if that is another. -/
def heading (c : ClassMapping) : String :=
  c.className ++ " (" ++ c.kind.name ++ ")"
    ++ (if c.referenceType ≠ c.className then " as " ++ c.referenceType else "")

/-- The class as a text: its heading, its imports and its members, one on a line. -/
def text (c : ClassMapping) : String :=
  line c.heading ++ String.join (c.imports.map indentedLine)
    ++ String.join (c.members.map fun m => indentedLine m.summary)

end ClassMapping

namespace ModelMapping

/-- The first class of the type with that name in the model. -/
def class? (m : ModelMapping) (schemaName : String) : Option ClassMapping :=
  m.classes.find? fun c => c.schemaName = schemaName

/-- The number of members whose identifier differs from the name of their property. -/
def renameCount (m : ModelMapping) : Nat :=
  (m.classes.flatMap (·.members)).countP (·.isRenamed)

/-- The mapping with only the classes of that name; the notes stay. -/
def restrictTo (m : ModelMapping) (schemaName : String) : ModelMapping :=
  { m with classes := m.classes.filter fun c => c.schemaName = schemaName }

/-- The classes as a text, with an empty line between two of them. -/
def classesText : List ClassMapping → String
  | [] => ""
  | [c] => c.text
  | c :: rest => c.text ++ line "" ++ classesText rest

/-- The mapping as a text: the classes, and after an empty line the notes, if there are any. -/
def text (m : ModelMapping) : String :=
  classesText m.classes
    ++ (if m.diagnostics.isEmpty then ""
      else line "" ++ String.join (m.diagnostics.items.map fun d => line d.text))

end ModelMapping

end EdmMapping
