/-!
# Command-line arguments

The words after the name of a command: options with and without a value, and positional arguments.

* `OptionSpec` — an option that a command knows;
* `Arguments` — the options and positional arguments that were given;
* `scan` — the arguments of a command, from left to right; the first fault ends the scan.

An option's value stands in the next word, or in the same one: after an equals sign, and with a
short name also directly.  The word `--` ends the options.
-/

set_option autoImplicit false

namespace EdmMapping.CommandLine

/-- Why the words on the command line are not understood. -/
inductive UsageError where
  | missingCommand
  | unknownCommand (word : String)
  | unknownOption (word : String)
  | repeatedOption (name : String)
  | missingValue (name : String)
  /-- An option that takes no value is given one. -/
  | unexpectedValue (name : String)
  | invalidValue (name value : String)
  | unexpectedArgument (word : String)
  | missingArgument (name : String)
  /-- An option is given without another one that it needs. -/
  | missingCompanion (name companion : String)
  deriving DecidableEq, Repr

def UsageError.message : UsageError → String
  | missingCommand => "a command is required"
  | unknownCommand word => "unrecognized command '" ++ word ++ "'"
  | unknownOption word => "unexpected option '" ++ word ++ "'"
  | repeatedOption name => "option '--" ++ name ++ "' is given more than once"
  | missingValue name => "option '--" ++ name ++ "' needs a value"
  | unexpectedValue name => "option '--" ++ name ++ "' takes no value"
  | invalidValue name value => "invalid value '" ++ value ++ "' for '" ++ name ++ "'"
  | unexpectedArgument word => "unexpected argument '" ++ word ++ "'"
  | missingArgument name => "argument '" ++ name ++ "' is required"
  | missingCompanion name companion =>
    "option '--" ++ name ++ "' needs option '--" ++ companion ++ "'"

inductive Halt where
  | usage (e : UsageError)
  | help
  | version
  deriving DecidableEq, Repr

/-- What an option stands for. -/
inductive OptionKind where
  | flag
  | value
  /-- An option with the path of a file, which is not empty. -/
  | path
  /-- An option that ends the scan. -/
  | halt (reason : Halt)
  deriving DecidableEq, Repr

/-- An option that a command knows. -/
structure OptionSpec where
  long : String
  short : Option Char
  kind : OptionKind
  deriving DecidableEq, Repr

def helpOption : OptionSpec := ⟨"help", some 'h', .halt .help⟩

/-- The options and the positional arguments of a command. -/
structure Arguments where
  flags : List String
  values : List (String × String)
  positionals : List String
  deriving DecidableEq, Repr

namespace Arguments

def empty : Arguments := ⟨[], [], []⟩

def isGiven (a : Arguments) (name : String) : Bool :=
  a.flags.contains name || (a.values.lookup name).isSome

def setFlag (a : Arguments) (spec : OptionSpec) : Except Halt Arguments :=
  match spec.kind with
  | .halt reason => .error reason
  | _ =>
    if a.isGiven spec.long then .error (.usage (.repeatedOption spec.long))
    else .ok { a with flags := a.flags ++ [spec.long] }

def setValue (a : Arguments) (spec : OptionSpec) (value : String) : Except Halt Arguments :=
  if a.isGiven spec.long then .error (.usage (.repeatedOption spec.long))
  else if spec.kind = .path && value.isEmpty then .error (.usage (.missingValue spec.long))
  else .ok { a with values := a.values ++ [(spec.long, value)] }

/-- Adds a positional argument, of which the command takes at most `most`. -/
def addPositional (a : Arguments) (most : Nat) (word : String) : Except Halt Arguments :=
  if a.positionals.length < most then .ok { a with positionals := a.positionals ++ [word] }
  else .error (.usage (.unexpectedArgument word))

end Arguments

def OptionSpec.takesValue (spec : OptionSpec) : Bool :=
  spec.kind = .value || spec.kind = .path

/-- What a word says about options. -/
inductive Word where
  | endOfOptions
  /-- A long name, perhaps with a value after an equals sign. -/
  | long (name : String) (value : Option String)
  /-- Short names, of which the last may be followed by its value. -/
  | short (names : List Char)
  | plain (text : String)
  deriving DecidableEq, Repr

/-- What a word says about options.  A hyphen alone is a plain word. -/
def Word.ofString (text : String) : Word :=
  match text.toList with
  | ['-', '-'] => .endOfOptions
  | '-' :: '-' :: rest =>
    let name := String.ofList (rest.takeWhile (· ≠ '='))
    match rest.dropWhile (· ≠ '=') with
    | [] => .long name none
    | _ :: value => .long name (some (String.ofList value))
  | '-' :: c :: rest => .short (c :: rest)
  | _ => .plain text

/-- The value that stands behind a short name in the same word. -/
def attachedValue? : List Char → Option String
  | [] => none
  | '=' :: value => some (String.ofList value)
  | value => some (String.ofList value)

/-- Takes the short names of a word; an option whose value is still to come is returned with
them. -/
def takeShort (specs : List OptionSpec) :
    List Char → Arguments → Except Halt (Arguments × Option OptionSpec)
  | [], a => .ok (a, none)
  | c :: rest, a =>
    match specs.find? fun spec => spec.short = some c with
    | none => .error (.usage (.unknownOption (String.ofList ['-', c])))
    | some spec =>
      if spec.takesValue then
        match attachedValue? rest with
        | some value => (a.setValue spec value).map fun a => (a, none)
        | none => .ok (a, some spec)
      else
        match a.setFlag spec with
        | .ok a => takeShort specs rest a
        | .error e => .error e

/-- Takes the long name of a word; an option whose value is still to come is returned with it. -/
def takeLong (specs : List OptionSpec) (name : String) (value : Option String) (a : Arguments) :
    Except Halt (Arguments × Option OptionSpec) :=
  match specs.find? fun spec => spec.long = name with
  | none => .error (.usage (.unknownOption ("--" ++ name)))
  | some spec =>
    match spec.takesValue, value with
    | true, some value => (a.setValue spec value).map fun a => (a, none)
    | true, none => .ok (a, some spec)
    | false, some _ => .error (.usage (.unexpectedValue spec.long))
    | false, none => (a.setFlag spec).map fun a => (a, none)

/-- Takes words, of which the first is the value of the option `pending`, if there is one.  `ended`
says that the options have ended. -/
def scanFrom (specs : List OptionSpec) (most : Nat) (ended : Bool) (pending : Option OptionSpec)
    (a : Arguments) : List String → Except Halt Arguments
  | [] =>
    match pending with
    | some spec => .error (.usage (.missingValue spec.long))
    | none => .ok a
  | text :: rest =>
    if ended then do
      scanFrom specs most true none (← a.addPositional most text) rest
    else
      match pending, Word.ofString text with
      | some spec, .plain value => do
        scanFrom specs most false none (← a.setValue spec value) rest
      | some spec, _ => .error (.usage (.missingValue spec.long))
      | none, .endOfOptions => scanFrom specs most true none a rest
      | none, .long name value => do
        let (a, pending) ← takeLong specs name value a
        scanFrom specs most false pending a rest
      | none, .short names => do
        let (a, pending) ← takeShort specs names a
        scanFrom specs most false pending a rest
      | none, .plain word => do
        scanFrom specs most false none (← a.addPositional most word) rest

/-- The arguments of a command that knows the options and takes at most `most` positional
arguments. -/
def scan (specs : List OptionSpec) (most : Nat) (words : List String) : Except Halt Arguments :=
  scanFrom specs most false none .empty words

end EdmMapping.CommandLine
