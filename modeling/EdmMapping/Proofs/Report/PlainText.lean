import EdmMapping.Proofs.Mapping.Notes
import EdmMapping.Report.Mapping

/-!
# A mapping as a text and as a report

A mapping is written in two ways: as a text of its own, with an empty line between two classes, and
as the calls of a report, with an empty line before every class.  Without the title and the line
after it, the calls read like the text.

* `OutputCall.plain?`, `plainText?` — what calls read like, if they are those of a mapping;
* `MapReport.plainText?` — a report read without its title;
* `plainText?_append`, `plainText?_map`, `plainText?_flatMap` — calls are read one after the other;
* `classesText_cons` — the separators of the text stand before all classes but the first;
* `renderings_agree_iff` — a mapping reads like its report unless it has notes and no class;
* `renderings_agree` — no model has a mapping with notes and no class.
-/

set_option autoImplicit false

namespace EdmMapping

/-! ## Plain text -/

/-- What a call reads like: headings, notes and empty lines are lines, items are lines two blanks to
the right.  The other calls are not used between the parts of a mapping. -/
def OutputCall.plain? : OutputCall → Option String
  | .heading name => some (name ++ "\n")
  | .preformatted text => some (text ++ "\n")
  | .listItem text => some ("  " ++ text ++ "\n")
  | .newline => some "\n"
  | .title _ | .keyValue _ _ | .warning _ | .info _ => none

/-- What calls read like, one after the other. -/
def plainText? : List OutputCall → Option String
  | [] => some ""
  | call :: calls => do
    let first ← call.plain?
    let rest ← plainText? calls
    return first ++ rest

/-- The calls after a leading title and the empty line directly after it. -/
def afterTitle? : List OutputCall → Option (List OutputCall)
  | .title _ :: .newline :: calls => some calls
  | .title _ :: calls => some calls
  | _ => none

/-- What a report reads like without its title. -/
def MapReport.plainText? (r : MapReport) : Option String :=
  (afterTitle? r.calls).bind EdmMapping.plainText?

theorem plainText?_cons {call : OutputCall} {calls : List OutputCall} {first rest : String}
    (hfirst : call.plain? = some first) (hrest : plainText? calls = some rest) :
    plainText? (call :: calls) = some (first ++ rest) := by
  rw [plainText?, hfirst, hrest]
  rfl

theorem plainText?_append {a b : List OutputCall} {s t : String} (ha : plainText? a = some s)
    (hb : plainText? b = some t) : plainText? (a ++ b) = some (s ++ t) := by
  induction a generalizing s with
  | nil =>
    rw [plainText?, Option.some.injEq] at ha
    rw [List.nil_append, hb, ← ha, String.empty_append]
  | cons call calls ih =>
    simp only [plainText?, Option.bind_eq_bind, Option.bind_eq_some_iff] at ha
    obtain ⟨first, hfirst, rest, hrest, hs⟩ := ha
    cases hs
    rw [List.cons_append, String.append_assoc]
    exact plainText?_cons hfirst (ih hrest)

/-- Texts that become calls of one form. -/
theorem plainText?_map {α : Type} {call : α → OutputCall} {read : α → String}
    (h : ∀ a, (call a).plain? = some (read a)) (l : List α) :
    plainText? (l.map call) = some (String.join (l.map read)) := by
  induction l with
  | nil => rfl
  | cons a l ih =>
    rw [List.map_cons, List.map_cons, String.join_cons]
    exact plainText?_cons (h a) ih

/-- Parts that become several calls each. -/
theorem plainText?_flatMap {α : Type} {calls : α → List OutputCall} {read : α → String}
    (h : ∀ a, plainText? (calls a) = some (read a)) (l : List α) :
    plainText? (l.flatMap calls) = some (String.join (l.map read)) := by
  induction l with
  | nil => rfl
  | cons a l ih =>
    rw [List.flatMap_cons, List.map_cons, String.join_cons]
    exact plainText?_append (h a) ih

/-! ## Classes -/

/-- The calls for a class after the empty line before it. -/
def ClassMapping.calls (c : ClassMapping) : List OutputCall :=
  .heading c.heading :: (c.imports.map .listItem ++
    (c.members.map MemberMapping.summary).map .listItem)

theorem plainText?_calls (c : ClassMapping) : plainText? c.calls = some c.text := by
  have himports : plainText? (c.imports.map .listItem) =
      some (String.join (c.imports.map indentedLine)) :=
    plainText?_map (fun text => by rw [indentedLine, line, ← String.append_assoc]; rfl) c.imports
  have hmembers : plainText? ((c.members.map MemberMapping.summary).map .listItem) =
      some (String.join (c.members.map fun m => indentedLine m.summary)) := by
    rw [List.map_map]
    exact plainText?_map
      (fun m => by rw [indentedLine, line, ← String.append_assoc]; rfl) c.members
  rw [ClassMapping.text, String.append_assoc]
  exact plainText?_cons rfl (plainText?_append himports hmembers)

theorem calls_ofClass (c : ClassMapping) :
    (ClassSection.ofClass c).calls = .newline :: c.calls := by
  simp [ClassSection.calls, ClassSection.ofClass, ClassMapping.calls]

theorem plainText?_ofClass (c : ClassMapping) :
    plainText? (ClassSection.ofClass c).calls = some ("\n" ++ c.text) := by
  rw [calls_ofClass]
  exact plainText?_cons rfl (plainText?_calls c)

/-- All classes but the first come after an empty line. -/
theorem classesText_cons (c : ClassMapping) (cs : List ClassMapping) :
    ModelMapping.classesText (c :: cs) =
      c.text ++ String.join (cs.map fun d => "\n" ++ d.text) := by
  induction cs generalizing c with
  | nil =>
    rw [ModelMapping.classesText, List.map_nil, String.join_nil, String.append_empty]
  | cons d cs ih =>
    have hempty : line "" = "\n" := rfl
    rw [ModelMapping.classesText, ih d, hempty, List.map_cons, String.join_cons,
      String.append_assoc, String.append_assoc]
    exact fun h => by cases h

/-! ## Notes -/

/-- The notes of a mapping as a text, if there are any. -/
def notesText (notes : List Diagnostic) : String :=
  if notes.isEmpty then "" else "\n" ++ String.join (notes.map fun n => n.text ++ "\n")

theorem text_eq_append_notesText (m : ModelMapping) :
    m.text = ModelMapping.classesText m.classes ++ notesText m.diagnostics.items := rfl

theorem plainText?_notes (notes : List Diagnostic) :
    plainText? ((notes.map Diagnostic.text).map .preformatted) =
      some (String.join (notes.map fun n => n.text ++ "\n")) := by
  rw [List.map_map]
  exact plainText?_map (fun _ => rfl) notes

theorem plainText?_noteCalls (notes : List Diagnostic) :
    plainText? (if (notes.map Diagnostic.text).isEmpty then []
      else .newline :: (notes.map Diagnostic.text).map .preformatted) = some (notesText notes) := by
  unfold notesText
  rw [List.isEmpty_map]
  split
  · rfl
  · exact plainText?_cons rfl (plainText?_notes notes)

/-! ## Mappings -/

/-- A mapping with a class: the empty line before it is left out with the title. -/
theorem plainText?_of_cons {m : ModelMapping} {c : ClassMapping} {cs : List ClassMapping}
    (h : m.classes = c :: cs) : (MapReport.ofMapping m).plainText? = some m.text := by
  have hcalls : afterTitle? (MapReport.ofMapping m).calls =
      some (c.calls ++ ((cs.map ClassSection.ofClass).flatMap ClassSection.calls ++
        if (m.diagnostics.items.map Diagnostic.text).isEmpty then []
        else .newline :: (m.diagnostics.items.map Diagnostic.text).map .preformatted)) := by
    simp only [MapReport.calls, MapReport.ofMapping, h, List.map_cons, List.flatMap_cons,
      calls_ofClass, List.cons_append, List.append_assoc, afterTitle?]
  have hclasses : plainText? ((cs.map ClassSection.ofClass).flatMap ClassSection.calls) =
      some (String.join (cs.map fun d => "\n" ++ d.text)) := by
    rw [List.flatMap_map]
    exact plainText?_flatMap plainText?_ofClass cs
  unfold MapReport.plainText?
  rw [hcalls, Option.bind_some, text_eq_append_notesText, h, classesText_cons, String.append_assoc]
  exact plainText?_append (plainText?_calls c)
    (plainText?_append hclasses (plainText?_noteCalls m.diagnostics.items))

/-- Without a class, the empty line before the notes is left out. -/
theorem plainText?_of_nil {m : ModelMapping} (h : m.classes = []) :
    (MapReport.ofMapping m).plainText? =
      some (String.join (m.diagnostics.items.map fun n => n.text ++ "\n")) := by
  have hcalls : afterTitle? (MapReport.ofMapping m).calls =
      some ((m.diagnostics.items.map Diagnostic.text).map .preformatted) := by
    simp only [MapReport.calls, MapReport.ofMapping, h, List.map_nil, List.flatMap_nil,
      List.nil_append]
    cases m.diagnostics.items <;> rfl
  unfold MapReport.plainText?
  rw [hcalls]
  exact plainText?_notes m.diagnostics.items

theorem ne_newline_append (text : String) : text ≠ "\n" ++ text := by
  intro h
  have hlength := congrArg String.length h
  rw [String.length_append] at hlength
  have hone : "\n".length = 1 := rfl
  omega

/-- **When the report on a mapping reads like its text**: if it has a class, or nothing to note. -/
theorem renderings_agree_iff (m : ModelMapping) :
    (MapReport.ofMapping m).plainText? = some m.text ↔
      m.classes ≠ [] ∨ m.diagnostics.isEmpty = true := by
  cases hclasses : m.classes with
  | cons c cs => simp [plainText?_of_cons hclasses]
  | nil =>
    rw [plainText?_of_nil hclasses, text_eq_append_notesText, hclasses, Option.some.injEq]
    unfold Diagnostics.isEmpty
    cases hitems : m.diagnostics.items with
    | nil => simp [notesText, ModelMapping.classesText]
    | cons n notes =>
      have hnotes : notesText (n :: notes) =
          "\n" ++ String.join ((n :: notes).map fun n => n.text ++ "\n") := rfl
      rw [hnotes, ModelMapping.classesText, String.empty_append]
      simp [ne_newline_append]

/-- **The text of a mapping and the report on it agree**, for every model, type mapper and table of
reserved words: the calls of the report, without the title and the empty line after it, read exactly
like the text.  More is true: it depends on the mapping alone, and fails only for notes without a
class, which no model leads to. -/
theorem renderings_agree :
    (∀ (t : Target) (model : Model),
      (MapReport.ofMapping (ModelMapping.buildWith t model)).plainText? =
        some (ModelMapping.buildWith t model).text) ∧
    ∀ m : ModelMapping, (MapReport.ofMapping m).plainText? = some m.text ↔
      m.classes ≠ [] ∨ m.diagnostics.isEmpty = true := by
  refine ⟨?_, renderings_agree_iff⟩
  intro t model
  rw [renderings_agree_iff]
  cases htypes : model.types with
  | nil =>
    right
    unfold Diagnostics.isEmpty
    rw [diagnostics_buildWith, htypes]
    rfl
  | cons d ds =>
    left
    rw [classes_buildWith, htypes]
    simp

end EdmMapping
