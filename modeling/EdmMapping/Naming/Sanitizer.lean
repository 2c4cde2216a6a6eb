import EdmMapping.Edm.Descriptor
import EdmMapping.Naming.Rename
import EdmMapping.Naming.ReservedWords
import EdmMapping.Text.Capital

/-!
# Sanitized identifiers

Model names become legal identifiers.  The first rule that applies decides:

1. a reserved word is escaped;
2. a property named like its class takes the ending `Property` if its type has that name too, and
   is otherwise named after its type, to which the rules are applied anew;
3. the characters `@` and `.` are removed; a name that is a reserved word without them is escaped.

* `sanitizeInto` — the rules, telling renames to a sink;
* `sanitize` — the same with the renames as part of the result;
* `sanitizePropertyInto` — a property under its own name, in the company of its class and type.
-/

set_option autoImplicit false

namespace EdmMapping

/-- The class that a property is declared on and the type that it has. -/
structure Owner where
  name : String
  propertyTypeName : String
  deriving DecidableEq, Repr

namespace Owner

def ofProperty (p : PropertyDescriptor) : Owner :=
  ⟨p.declaringTypeName, p.projectedType.name⟩

def className (owner : Owner) : String := upperFirst owner.name

/-- The name of the class generated for the property's type. -/
def typeName (owner : Owner) : String := upperFirst owner.propertyTypeName

end Owner

/-- Whether the character is removed from identifiers. -/
def isStripped (c : Char) : Bool := c = '@' || c = '.'

/-- The name without the characters that are removed. -/
def strip (name : String) : String :=
  String.ofList (name.toList.filter fun c => !isStripped c)

/-- The ending that tells a property from its class and its type. -/
def propertySuffix : String := "Property"

/-- How often a property may be named after its type. -/
def maxRenames : Nat := 4

section Rules

variable {σ : Type} [RenameSink σ]

def escapeInto (table : ReservedWords) (word : String) (sink : σ) : String × σ :=
  let renamed := table.escape word
  (renamed, RenameSink.record sink ⟨word, renamed, .reservedWord⟩)

/-- Gives a property that shares its name with its class and its type an ending of its own. -/
def suffixInto (raw : String) (sink : σ) : String × σ :=
  let renamed := strip raw ++ propertySuffix
  (renamed, RenameSink.record sink ⟨raw, renamed, .selfNamedProperty⟩)

/-- Removes what no identifier holds, and escapes what is a reserved word only then. -/
def stripInto (table : ReservedWords) (raw : String) (sink : σ) : String × σ :=
  let stripped := strip raw
  if stripped ≠ raw ∧ table.isReserved stripped then escapeInto table stripped sink
  else (stripped, sink)

/-- The rules, with a bound on how often a property may be named after its type; beyond the bound
the class is not looked at. -/
def sanitizeWithin (table : ReservedWords) (owner : Option Owner) :
    Nat → String → σ → String × σ
  | 0, raw, sink =>
    if table.isReserved raw then escapeInto table raw sink else stripInto table raw sink
  | renames + 1, raw, sink =>
    if table.isReserved raw then escapeInto table raw sink
    else
      match owner with
      | none => stripInto table raw sink
      | some o =>
        if upperFirst raw = o.className then
          if o.typeName = o.className then suffixInto raw sink
          else sanitizeWithin table owner renames o.typeName sink
        else stripInto table raw sink

/-- The identifier for a name, with its renames told to the sink. -/
def sanitizeInto (table : ReservedWords) (raw : String) (owner : Option Owner) (sink : σ) :
    String × σ :=
  sanitizeWithin table owner maxRenames raw sink

/-- The identifier for a property, with its renames told to the sink. -/
def sanitizePropertyInto (table : ReservedWords) (p : PropertyDescriptor) (sink : σ) :
    String × σ :=
  sanitizeInto table p.name (some (Owner.ofProperty p)) sink

end Rules

/-- An identifier and the renames that led to it. -/
structure Sanitized where
  name : String
  events : List RenameEvent
  deriving DecidableEq, Repr

def sanitize (table : ReservedWords) (raw : String) (owner : Option Owner) : Sanitized :=
  let (name, events) := sanitizeInto table raw owner ([] : List RenameEvent)
  ⟨name, events⟩

def sanitizeProperty (table : ReservedWords) (p : PropertyDescriptor) : Sanitized :=
  sanitize table p.name (some (Owner.ofProperty p))

/-- The name of the field that holds a property. -/
def memberName (p : PropertyDescriptor) : String := lowerFirst p.name

@[simp] theorem toList_strip (name : String) :
    (strip name).toList = name.toList.filter fun c => !isStripped c := by
  simp [strip]

@[simp] theorem strip_strip (name : String) : strip (strip name) = strip name := by
  rw [← String.toList_inj]
  simp [List.filter_filter]

/-- Without a class the bound on renames has no say. -/
theorem sanitizeWithin_none {σ : Type} [RenameSink σ] (table : ReservedWords) (renames : Nat)
    (raw : String) (sink : σ) :
    sanitizeWithin table none renames raw sink =
      if table.isReserved raw then escapeInto table raw sink else stripInto table raw sink := by
  cases renames <;> rfl

end EdmMapping
