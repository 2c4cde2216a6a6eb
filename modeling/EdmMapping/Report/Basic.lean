/-!
# Reports

A report says what is to be shown, not how: it is a sequence of output calls.

* `OutputCall` — the calls;
* `Transcript`, `showOnTerminal` — the two streams of a terminal, and what the calls write there.
-/

set_option autoImplicit false

namespace EdmMapping

/-- One thing to be shown. -/
inductive OutputCall where
  | title (text : String)
  | heading (name : String)
  | keyValue (key value : String)
  | listItem (text : String)
  | warning (text : String)
  | info (text : String)
  | preformatted (text : String)
  | newline
  deriving DecidableEq, Repr

/-- What was written to the output and to the error stream. -/
structure Transcript where
  output : String
  errors : String
  deriving DecidableEq, Repr

namespace Transcript

def empty : Transcript := ⟨"", ""⟩

def append (a b : Transcript) : Transcript :=
  ⟨a.output ++ b.output, a.errors ++ b.errors⟩

instance : Append Transcript := ⟨append⟩

def printed (text : String) : Transcript := ⟨text ++ "\n", ""⟩

def noted (text : String) : Transcript := ⟨"", text ++ "\n"⟩

end Transcript

/-- What a call writes to a terminal: warnings and infos go to the error stream, a title is
underlined. -/
def OutputCall.onTerminal : OutputCall → Transcript
  | .title text =>
    .printed text ++ .printed (String.ofList (List.replicate text.length '='))
  | .heading name => .printed (name ++ ":")
  | .keyValue key value => .printed (key ++ ": " ++ value)
  | .listItem text => .printed ("  - " ++ text)
  | .warning text => .noted ("warning: " ++ text)
  | .info text => .noted ("info: " ++ text)
  | .preformatted text => .printed text
  | .newline => .printed ""

/-- What the calls write to a terminal. -/
def showOnTerminal (calls : List OutputCall) : Transcript :=
  calls.foldl (fun shown call => shown ++ call.onTerminal) .empty

end EdmMapping
