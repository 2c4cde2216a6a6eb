import EdmMapping.CommandLine.Arguments

/-!
# Commands

What the program can be asked to do.

* `Command` — the commands with their settings;
* `Command.parse` — the command that the words on the command line ask for;
* `Command.modelPath?` — the file that a command reads.
-/

set_option autoImplicit false

namespace EdmMapping.CommandLine

/-- A shell that can complete the words of a command line. -/
inductive Shell where
  | bash
  | elvish
  | fish
  | powershell
  | zsh
  deriving DecidableEq, Repr

namespace Shell

def name : Shell → String
  | bash => "bash"
  | elvish => "elvish"
  | fish => "fish"
  | powershell => "powershell"
  | zsh => "zsh"

def ofName? (name : String) : Option Shell :=
  [bash, elvish, fish, powershell, zsh].find? fun shell => shell.name = name

end Shell

inductive Command where
  /-- Check a model file and sum it up. -/
  | check (model : String)
  /-- Show the mapping of a model file, perhaps of one type only, as a report or as JSON. -/
  | map (model : String) (typeName : Option String) (json : Bool)
  | sanitize (name : String) (owner propertyType : Option String)
  | reserved (plain : Bool)
  /-- Write the script by which a shell completes the words of the program. -/
  | completions (shell : Shell)
  deriving DecidableEq, Repr

namespace Command

def names : List String := ["check", "map", "sanitize", "reserved", "completions"]

def modelOption : OptionSpec := ⟨"model", some 'm', .path⟩

/-- The model file that is read if none is named. -/
def defaultModel : String := "model.toml"

/-- The model file of a command. -/
def modelOf (a : Arguments) : String := (a.values.lookup "model").getD defaultModel

def parseCheck (words : List String) : Except Halt Command := do
  let a ← scan [modelOption, helpOption] 0 words
  return check (modelOf a)

def parseMap (words : List String) : Except Halt Command := do
  let a ← scan [modelOption, ⟨"type", some 't', .value⟩, ⟨"json", none, .flag⟩, helpOption] 0 words
  return map (modelOf a) (a.values.lookup "type") (a.isGiven "json")

def parseSanitize (words : List String) : Except Halt Command := do
  let a ← scan [⟨"owner", none, .value⟩, ⟨"property-type", none, .value⟩, helpOption] 1 words
  match a.positionals.head? with
  | none => .error (.usage (.missingArgument "name"))
  | some name =>
    if a.isGiven "owner" && !a.isGiven "property-type" then
      .error (.usage (.missingCompanion "owner" "property-type"))
    else return sanitize name (a.values.lookup "owner") (a.values.lookup "property-type")

def parseReserved (words : List String) : Except Halt Command := do
  let a ← scan [⟨"plain", none, .flag⟩, helpOption] 0 words
  return reserved (a.isGiven "plain")

def parseCompletions (words : List String) : Except Halt Command := do
  let a ← scan [helpOption] 1 words
  match a.positionals.head? with
  | none => .error (.usage (.missingArgument "shell"))
  | some name =>
    match Shell.ofName? name with
    | none => .error (.usage (.invalidValue "shell" name))
    | some shell => return completions shell

/-- The words after `help`: nothing, or the name of a command. -/
def parseHelp : List String → Halt
  | [] => .help
  | [name] => if names.contains name then .help else .usage (.unknownCommand name)
  | _ :: word :: _ => .usage (.unexpectedArgument word)

/-- The words before a command, which are options only. -/
def parseOptions (words : List String) : Halt :=
  match scan [⟨"version", some 'V', .halt .version⟩, helpOption] 0 words with
  | .ok _ => .usage .missingCommand
  | .error reason => reason

def parse : List String → Except Halt Command
  | "check" :: words => parseCheck words
  | "map" :: words => parseMap words
  | "sanitize" :: words => parseSanitize words
  | "reserved" :: words => parseReserved words
  | "completions" :: words => parseCompletions words
  | "help" :: words => .error (parseHelp words)
  | words => .error (parseOptions words)

def modelPath? : Command → Option String
  | check model | map model _ _ => some model
  | _ => none

end Command

end EdmMapping.CommandLine
