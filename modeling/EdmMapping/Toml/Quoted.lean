import EdmMapping.Toml.Number
import EdmMapping.Toml.Reader

/-!
# TOML strings

Four kinds of quoted text: basic strings with escapes, literal strings without, and both over
several lines.

* `escape?` — what an escape stands for, and how many characters it takes;
* `basicBody?`, `literalBody?`, `basicLines?`, `literalLines?` — the text up to the closing quotes,
  and the characters after them;
* `Reader.quoted`, `Reader.quotedLines` — a string on one line, and any string.
-/

set_option autoImplicit false

namespace EdmMapping.Toml

/-- The character of that many hexadecimal digits, and the number of characters read. -/
def hexEscape? (count : Nat) (cs : List Char) : Option (Char × Nat) :=
  let digits := cs.take count
  let code := ofDigits 16 digits
  if digits.length = count && digits.all isHexDigit && code.isValidChar then
    some (Char.ofNat code, count + 1)
  else none

/-- What stands for an escape after its backslash, and the number of characters that it takes. -/
def escape? : List Char → Option (Char × Nat)
  | 'b' :: _ => some ('\x08', 1)
  | 't' :: _ => some ('\t', 1)
  | 'n' :: _ => some ('\n', 1)
  | 'f' :: _ => some ('\x0c', 1)
  | 'r' :: _ => some ('\r', 1)
  | 'e' :: _ => some ('\x1b', 1)
  | '"' :: _ => some ('"', 1)
  | '\\' :: _ => some ('\\', 1)
  | 'x' :: rest => hexEscape? 2 rest
  | 'u' :: rest => hexEscape? 4 rest
  | 'U' :: rest => hexEscape? 8 rest
  | _ => none

/-- Skips the blanks and ends of lines after a backslash at the end of a line. -/
def skipBreak : List Char → List Char
  | ' ' :: rest | '\t' :: rest | '\n' :: rest | '\r' :: '\n' :: rest => skipBreak rest
  | cs => cs

theorem length_skipBreak_le (cs : List Char) : (skipBreak cs).length ≤ cs.length := by
  fun_induction skipBreak cs <;> grind

/-- Whether only blanks stand before the end of the line. -/
def breaksLine (cs : List Char) : Bool :=
  match cs.dropWhile isBlank with
  | '\n' :: _ | '\r' :: '\n' :: _ => true
  | _ => false

/-- A text and the characters after it. -/
abbrev Quoted : Type := List Char × List Char

/-- Puts characters before the text. -/
def Quoted.prepend (cs : List Char) (q : Quoted) : Quoted := (cs ++ q.1, q.2)

/-- Reads a basic string after its opening quote. -/
def basicBody? : List Char → Option Quoted
  | [] => none
  | '"' :: rest => some ([], rest)
  | '\\' :: rest =>
    match escape? rest with
    | some (c, count) => (basicBody? (rest.drop count)).map (·.prepend [c])
    | none => none
  | c :: rest => if isTextChar c then (basicBody? rest).map (·.prepend [c]) else none
termination_by cs => cs.length
decreasing_by all_goals (simp only [List.length_cons, List.length_drop]; omega)

/-- Reads a literal string after its opening quote. -/
def literalBody? : List Char → Option Quoted
  | [] => none
  | '\'' :: rest => some ([], rest)
  | c :: rest => if isTextChar c then (literalBody? rest).map (·.prepend [c]) else none

/-- The quotes before the closing ones, of which there may be two, and what follows. -/
def closingQuotes (quote : Char) : List Char → Quoted
  | c :: d :: rest =>
    if c = quote then (if d = quote then ([c, d], rest) else ([c], d :: rest))
    else ([], c :: d :: rest)
  | [c] => if c = quote then ([c], []) else ([], [c])
  | [] => ([], [])

/-- Reads a basic string over several lines, after its opening quotes. -/
def basicLines? : List Char → Option Quoted
  | [] => none
  | '"' :: '"' :: '"' :: rest => some (closingQuotes '"' rest)
  | '\\' :: rest =>
    if breaksLine rest then basicLines? (skipBreak rest)
    else
      match escape? rest with
      | some (c, count) => (basicLines? (rest.drop count)).map (·.prepend [c])
      | none => none
  | '\r' :: '\n' :: rest => (basicLines? rest).map (·.prepend ['\r', '\n'])
  | '\n' :: rest => (basicLines? rest).map (·.prepend ['\n'])
  | c :: rest => if isTextChar c then (basicLines? rest).map (·.prepend [c]) else none
termination_by cs => cs.length
decreasing_by
  all_goals
    have := length_skipBreak_le rest
    simp only [List.length_cons, List.length_drop]
    omega

/-- Reads a literal string over several lines, after its opening quotes. -/
def literalLines? : List Char → Option Quoted
  | [] => none
  | '\'' :: '\'' :: '\'' :: rest => some (closingQuotes '\'' rest)
  | '\r' :: '\n' :: rest => (literalLines? rest).map (·.prepend ['\r', '\n'])
  | '\n' :: rest => (literalLines? rest).map (·.prepend ['\n'])
  | c :: rest => if isTextChar c then (literalLines? rest).map (·.prepend [c]) else none

/-- The characters without an end of line at their front. -/
def dropFirstBreak : List Char → List Char
  | '\n' :: rest | '\r' :: '\n' :: rest => rest
  | cs => cs

namespace Reader

/-- Takes a text and leaves the characters after it. -/
def ofQuoted : Option Quoted → Reader String
  | some (text, rest) => do
    set rest
    return String.ofList text
  | none => failure

def quoted : Reader String := do
  match ← get with
  | '"' :: rest => ofQuoted (basicBody? rest)
  | '\'' :: rest => ofQuoted (literalBody? rest)
  | _ => failure

def quotedLines : Reader String := do
  match ← get with
  | '"' :: '"' :: '"' :: rest => ofQuoted (basicLines? (dropFirstBreak rest))
  | '\'' :: '\'' :: '\'' :: rest => ofQuoted (literalLines? (dropFirstBreak rest))
  | _ => quoted

end Reader

end EdmMapping.Toml
