import EdmMapping.Mapping.Basic
import EdmMapping.Report.Basic

/-!
# The report on a mapping

A section for every class, with its imports and its members, and the notes at the end.

* `MapReport` — the texts of the report;
* `MapReport.ofMapping` — the report on a mapping;
* `MapReport.calls` — the report as output calls.
-/

set_option autoImplicit false

namespace EdmMapping

structure ClassSection where
  heading : String
  imports : List String
  members : List String
  deriving DecidableEq, Repr

structure MapReport where
  language : String
  classes : List ClassSection
  notes : List String
  deriving DecidableEq, Repr

def ClassSection.ofClass (c : ClassMapping) : ClassSection :=
  ⟨c.heading, c.imports, c.members.map MemberMapping.summary⟩

/-- The calls of a class: an empty line, its heading, and its lines as a list. -/
def ClassSection.calls (s : ClassSection) : List OutputCall :=
  [.newline, .heading s.heading] ++ s.imports.map .listItem ++ s.members.map .listItem

namespace MapReport

def ofMapping (m : ModelMapping) : MapReport where
  language := m.language
  classes := m.classes.map ClassSection.ofClass
  notes := m.diagnostics.items.map Diagnostic.text

def calls (r : MapReport) : List OutputCall :=
  .title ("Mapping (" ++ r.language ++ ")") ::
    (r.classes.flatMap ClassSection.calls
      ++ (if r.notes.isEmpty then [] else .newline :: r.notes.map .preformatted))

end MapReport

end EdmMapping
