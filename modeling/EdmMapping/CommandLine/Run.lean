import EdmMapping.CommandLine.Command
import EdmMapping.Json.Pretty
import EdmMapping.Mapping.Json
import EdmMapping.Report.Check
import EdmMapping.Report.Mapping

/-!
# Running a command

What a command shows, and how it ends.

* `Outcome` — the ways in which a run ends, with their exit codes;
* `Command.run` — a command, given the content of the file that it reads;
* `run` — the words on the command line, given the files.

The scripts by which shells complete words are a parameter of both.
-/

set_option autoImplicit false

namespace EdmMapping.CommandLine

/-- Why a command that is understood is not carried out. -/
inductive Refusal where
  /-- The model has no type of that name. -/
  | undeclaredType (name model : String)
  /-- The class of a property is given without its type, or the other way round. -/
  | incompleteOwner
  deriving DecidableEq, Repr

def Refusal.message : Refusal → String
  | undeclaredType name model => "type '" ++ name ++ "' is not declared in " ++ model
  | incompleteOwner => "--owner and --property-type must be given together"

/-- How a run ends. -/
inductive Outcome where
  | done (shown : Transcript)
  /-- The model file can be loaded, but its mapping has errors, which are shown. -/
  | rejected (shown : Transcript)
  /-- The model file cannot be loaded. -/
  | unloadable (e : ManifestError)
  | refused (r : Refusal)
  | misused (e : UsageError)
  deriving DecidableEq, Repr

namespace Outcome

def exitCode : Outcome → Nat
  | done _ => 0
  | rejected _ | unloadable _ | refused _ => 1
  | misused _ => 2

/-- What the user is told of an error with code and help. -/
def errorText (message : String) (code help : Option String) : String :=
  let codeLine := (code.map fun code => code ++ "\n").getD ""
  let helpLine := (help.map fun help => "help: " ++ help ++ "\n").getD ""
  codeLine ++ "error: " ++ message ++ "\n" ++ helpLine

def transcript : Outcome → Transcript
  | done shown | rejected shown => shown
  | unloadable e => ⟨"", errorText e.message e.code? e.help?⟩
  | refused r => ⟨"", errorText r.message none none⟩
  | misused e => ⟨"", errorText e.message none none⟩

end Outcome

def runCheck (f : ModelFile) : Outcome :=
  let report := CheckReport.ofModelFile f
  let shown := showOnTerminal report.calls
  if report.isValid then .done shown else .rejected shown

def showMapping (json : Bool) (m : ModelMapping) : Transcript :=
  if json then .printed m.toJson.pretty else showOnTerminal (MapReport.ofMapping m).calls

/-- Shows the mapping of a model file, or of one of its types with the notes on all of them. -/
def runMap (f : ModelFile) (typeName : Option String) (json : Bool) : Outcome :=
  let mapping := ModelMapping.build f.model
  match typeName with
  | none => .done (showMapping json mapping)
  | some name =>
    match mapping.class? name with
    | none => .refused (.undeclaredType name f.path)
    | some _ => .done (showMapping json (mapping.restrictTo name))

def showSanitized (name : String) (owner : Option Owner) : Transcript :=
  let sanitized := sanitize javaReserved name owner
  showOnTerminal
    (.preformatted sanitized.name :: sanitized.events.map fun e => .info e.message)

/-- Shows the identifier for a name, in the company of a class and a type if both are given. -/
def runSanitize (name : String) (owner propertyType : Option String) : Outcome :=
  match owner, propertyType with
  | none, none => .done (showSanitized name none)
  | some owner, some type => .done (showSanitized name (some ⟨owner, type⟩))
  | _, _ => .refused .incompleteOwner

/-- The reserved words as output calls: one a line, or as a list with a heading. -/
def reservedCalls (table : ReservedWords) (plain : Bool) : List OutputCall :=
  if plain then table.sorted.map .preformatted
  else
    [.keyValue "Rename prefix" table.renamePrefix, .newline,
      .heading ("Reserved words (" ++ toString table.size ++ ")")]
      ++ table.sorted.map .listItem

def versionText : String := "edmgen 0.3.0"

def helpText : String :=
  "Inspect Java type and identifier mappings for EDM models\n\n"
    ++ "Usage: edmgen <COMMAND>\n\n"
    ++ "Commands: " ++ String.intercalate ", " Command.names

/-- Runs a command, given the content of the file that it reads, and the scripts for the shells,
which come from a generator outside of this library. -/
def Command.run (content : Option ByteArray) (command : Command)
    (script : Shell → String := fun _ => "") : Outcome :=
  match command with
  | check model =>
    match ModelFile.ofFile model content with
    | .ok f => runCheck f
    | .error e => .unloadable e
  | map model typeName json =>
    match ModelFile.ofFile model content with
    | .ok f => runMap f typeName json
    | .error e => .unloadable e
  | sanitize name owner propertyType => runSanitize name owner propertyType
  | reserved plain => .done (showOnTerminal (reservedCalls javaReserved plain))
  | completions shell => .done ⟨script shell, ""⟩

/-- The outcome when no command is run. -/
def Halt.outcome : Halt → Outcome
  | usage e => .misused e
  | help => .done (.printed helpText)
  | version => .done (.printed versionText)

/-- Runs what the words ask for; `files` gives the content of the file at a path, and `script` the
script for a shell. -/
def run (files : String → Option ByteArray) (words : List String)
    (script : Shell → String := fun _ => "") : Outcome :=
  match Command.parse words with
  | .error halt => halt.outcome
  | .ok command => command.run (command.modelPath?.bind files) script

end EdmMapping.CommandLine
