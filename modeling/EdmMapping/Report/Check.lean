import EdmMapping.Mapping.Build
import EdmMapping.ModelFile
import EdmMapping.Report.Basic

/-!
# The report on a model file

What is noticed while a model is mapped to Java, by severity, and a summary if nothing is wrong.

* `CheckReport` — the figures and the messages of the report;
* `CheckReport.ofModelFile` — the report on a model file;
* `CheckReport.calls` — the report as output calls.
-/

set_option autoImplicit false

namespace EdmMapping

/-- How many types of each kind a model declares. -/
structure KindCounts where
  entities : Nat
  complexes : Nat
  enums : Nat
  deriving DecidableEq, Repr

namespace KindCounts

def ofModel (m : Model) : KindCounts :=
  ⟨m.countKind .entity, m.countKind .complex, m.countKind .enum⟩

def total (k : KindCounts) : Nat := k.entities + k.complexes + k.enums

def text (k : KindCounts) : String :=
  toString k.total ++ " (" ++ toString k.entities ++ " entity, " ++ toString k.complexes
    ++ " complex, " ++ toString k.enums ++ " enum)"

end KindCounts

/-- The figures and the messages on a model file. -/
structure CheckReport where
  path : String
  ns : String
  kinds : KindCounts
  properties : Nat
  /-- The number of members that do not keep their name. -/
  renamed : Nat
  errors : List String
  warnings : List String
  infos : List String
  deriving DecidableEq, Repr

/-- The message of a note, with its place on a second line. -/
def Diagnostic.placedMessage (d : Diagnostic) : String :=
  match d.location with
  | some location => d.message ++ "\n  --> " ++ location
  | none => d.message

namespace CheckReport

def ofModelFile (f : ModelFile) : CheckReport :=
  let mapping := ModelMapping.build f.model
  let messages (severity : Severity) : List String :=
    mapping.diagnostics.messages severity Diagnostic.placedMessage
  { path := f.path
    ns := f.model.ns
    kinds := .ofModel f.model
    properties := f.model.properties.length
    renamed := mapping.renameCount
    errors := messages .error
    warnings := messages .warning
    infos := messages .info }

def isValid (r : CheckReport) : Bool := r.errors.isEmpty

def summaryCalls (r : CheckReport) : List OutputCall :=
  [.preformatted ("✓ " ++ r.path ++ " is valid"),
    .newline,
    .keyValue "Namespace" r.ns,
    .keyValue "Types" r.kinds.text,
    .keyValue "Properties" (toString r.properties),
    .keyValue "Renamed" (toString r.renamed)]

/-- The report as output calls: errors, warnings, infos, and the figures if nothing is wrong. -/
def calls (r : CheckReport) : List OutputCall :=
  r.errors.map (fun error => .preformatted ("error: " ++ error))
    ++ r.warnings.map .warning
    ++ r.infos.map .info
    ++ (if r.isValid then r.summaryCalls else [])

end CheckReport

end EdmMapping
