import EdmMapping.Imports.Collector
import EdmMapping.Mapping.Basic
import EdmMapping.Naming.Sanitizer
import EdmMapping.Typing.JavaTypes

/-!
# Building a mapping

The types of a model are taken in order, and the properties of each type in order.  Every property
adds a member and the imports that it needs to the class under construction, and its notes to the
notes on the model.

* `ClassDraft.addProperty` — one property;
* `mapType` — one type;
* `ModelMapping.buildWith` — a model, for any type mapper and any table of reserved words;
* `ModelMapping.build` — a model, for Java.
-/

set_option autoImplicit false

namespace EdmMapping

/-- What a mapping depends on beside the model. -/
structure Target where
  mapper : TypeMapper
  /-- The words that identifiers are kept apart from. -/
  reserved : ReservedWords

def javaTarget : Target := ⟨javaMapper, javaReserved⟩

/-- A class under construction, and the notes so far. -/
structure ClassDraft where
  imports : ImportCollector
  members : List MemberMapping
  diagnostics : Diagnostics

def propertyLocation (d : TypeDefinition) (p : PropertyDescriptor) : String :=
  d.name ++ "." ++ p.name

/-- The note that nothing is left of an identifier. -/
def emptyIdentifier : Diagnostic :=
  ⟨.warning, "sanitize", "identifier is empty after sanitizing", none⟩

/-- The note that the type of a property cannot be imported. -/
def missingImport (e : ImportError) : Diagnostic :=
  ⟨.error, "imports", e.message, none⟩

/-- Adds the member and the imports of a property of `d`, and the notes on it. -/
def ClassDraft.addProperty (t : Target) (d : TypeDefinition) (draft : ClassDraft)
    (p : PropertyDescriptor) : ClassDraft :=
  let note (notes : Diagnostics) (n : Diagnostic) : Diagnostics :=
    notes.push (n.locatedAt (propertyLocation d p))
  let sanitized := sanitizeProperty t.reserved p
  let notes := (sanitized.events.map Diagnostic.ofRename).foldl note draft.diagnostics
  let notes := if sanitized.name.isEmpty then note notes emptyIdentifier else notes
  let (imports, outcome) := draft.imports.addProperty p
  let (path, notes) :=
    match outcome with
    | .ok path => (path, notes)
    | .error e => (none, note notes (missingImport e))
  { imports := imports
    members := draft.members ++ [{
      property := p.name
      identifier := sanitized.name
      typeName := t.mapper.resolvePropertyType p
      simple := t.mapper.isSimpleProperty p
      importPath := path }]
    diagnostics := notes }

/-- The class of a declared type, and the notes on it after the notes so far. -/
def mapType (t : Target) (notes : Diagnostics) (d : TypeDefinition) : ClassMapping × Diagnostics :=
  let draft := d.properties.foldl (ClassDraft.addProperty t d) ⟨.empty, [], notes⟩
  ({ schemaName := d.name
     className := d.className
     kind := d.kind
     referenceType := t.mapper.resolveTypeName d.descriptor
     imports := draft.imports.lines
     members := draft.members }, draft.diagnostics)

namespace ModelMapping

def addType (t : Target) (m : ModelMapping) (d : TypeDefinition) : ModelMapping :=
  let (c, notes) := mapType t m.diagnostics d
  { m with classes := m.classes ++ [c], diagnostics := notes }

def buildWith (t : Target) (model : Model) : ModelMapping :=
  model.types.foldl (addType t) ⟨t.mapper.language, [], .empty⟩

def build (model : Model) : ModelMapping := buildWith javaTarget model

end ModelMapping

end EdmMapping
