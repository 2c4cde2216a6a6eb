import EdmMapping.Toml.Quoted
import EdmMapping.Toml.Table

/-!
# TOML documents

A document is read line by line: headers in brackets, assignments, comments and empty lines.

* `Reader.dottedKey` — simple keys with dots between them;
* `Reader.value` — a value, whose arrays and inline tables are nested to a given depth at most;
* `Reader.document` — the statements of a document;
* `parse?` — the entries of the document that a text is.
-/

set_option autoImplicit false

namespace EdmMapping.Toml

/-- How deep arrays and inline tables may be nested. -/
def maxDepth : Nat := 80

/-- How many simple keys a dotted key may have. -/
def maxKeyParts : Nat := 80

/-- Whether the character may stand in a key without quotes. -/
def isBareKeyChar (c : Char) : Bool := c.isAlphanum || c = '_' || c = '-'

/-- Whether the character ends a word without quotes, wherever it stands. -/
def endsWord (c : Char) : Bool :=
  c = '\n' || c = '\r' || c = ',' || c = '=' || c = '#'
    || c = '[' || c = ']' || c = '\x7b' || c = '\x7d'

/-- Whether a word goes on after blanks: what follows them neither ends it nor opens quotes. -/
def continuesWord (cs : List Char) : Bool :=
  match cs.dropWhile isBlank with
  | c :: _ => !endsWord c && c ≠ '"' && c ≠ '\''
  | [] => false

/-- The word without quotes at the front of the characters.  Blanks belong to it if it goes on after
them, as between a date and a time. -/
def leadingWord : List Char → List Char
  | [] => []
  | c :: rest =>
    if endsWord c || (isBlank c && !continuesWord rest) then [] else c :: leadingWord rest

namespace Reader

/-- Reads a key without dots. -/
def simpleKey : Reader String := do
  match ← peek with
  | some '"' | some '\'' => quoted
  | _ =>
    let cs ← takeWhile isBareKeyChar
    guard (cs ≠ [])
    return String.ofList cs

/-- Reads simple keys with dots, and perhaps blanks, between them.  The argument bounds their
number. -/
def keyParts : Nat → Reader (List String)
  | 0 => failure
  | bound + 1 => do
    let first ← simpleKey
    blanks
    if ← tryChar '.' then
      blanks
      return first :: (← keyParts bound)
    return [first]

def dottedKey : Reader (List String × String) := do
  let parts ← keyParts maxKeyParts
  match parts.getLast? with
  | some key => return (parts.dropLast, key)
  | none => failure

def word : Reader (List Char) := do
  let cs ← get
  let word := leadingWord cs
  set (cs.drop word.length)
  return word

/-- Reads an assignment.  The first argument skips what may stand around the equals sign. -/
def assignment (skip : Reader Unit) (value : Reader Value) : Reader Assignment := do
  let (path, key) ← dottedKey
  skip
  char '='
  skip
  return ⟨path, key, ← value⟩

/-- Reads a value that holds no others. -/
def plainValue : Reader Value := do
  match ← peek with
  | some '"' | some '\'' => return .string (← quotedLines)
  | _ => return (← scalar? (← word))

/-- Reads a value; the argument is the number of levels that are left.  Between the braces of an
inline table, lines may end around an equals sign. -/
def value : Nat → Reader Value
  | 0 => plainValue
  | depth + 1 => do
    match ← peek with
    | some '[' =>
      char '['
      return .array (← itemsTo (value depth) ']')
    | some '\x7b' =>
      char '\x7b'
      let assignments ← itemsTo (assignment gaps (value depth)) '\x7d'
      return .table (← assembleInline assignments)
    | _ => plainValue

def header : Reader (HeaderKind × List String × String) := do
  char '['
  let isElement ← tryChar '['
  blanks
  let (path, key) ← dottedKey
  blanks
  char ']'
  if isElement then
    char ']'
    return (.element, path, key)
  return (.table, path, key)

/-- Takes the rest of a line that holds nothing more. -/
def restOfLine : Reader Unit := do
  blanks
  comment
  lineEnd

/-- Reads assignments up to a header or the end of the text.  The argument bounds the number of
lines. -/
def assignments : Nat → Reader (List Assignment)
  | 0 => return []
  | bound + 1 => do
    blanks
    match ← peek with
    | none | some '[' => return []
    | some '#' | some '\n' | some '\r' =>
      restOfLine
      assignments bound
    | some _ =>
      let first ← assignment blanks (value maxDepth)
      restOfLine
      return first :: (← assignments bound)

/-- Reads a header with the assignments below it. -/
def headedSection (lines : Nat) : Reader Section := do
  let (kind, path, key) ← header
  restOfLine
  return ⟨kind, path, key, ← assignments lines⟩

/-- Reads sections up to the end of the text.  The argument bounds their number. -/
def sections (lines : Nat) : Nat → Reader (List Section)
  | 0 => failure
  | bound + 1 => do
    match ← peek with
    | none => return []
    | some _ =>
      let first ← headedSection lines
      return first :: (← sections lines bound)

/-- Reads a document; it has not more lines than characters, and one. -/
def document : Reader (List (String × Value)) := do
  let lines := (← get).length + 1
  let top ← assignments lines
  let sections ← sections lines lines
  return (← assemble top sections)

end Reader

/-- The characters without a byte order mark at their front. -/
def dropByteOrderMark : List Char → List Char
  | '\ufeff' :: rest => rest
  | cs => cs

/-- The entries of the document that the text is, if it is one. -/
def parse? (text : String) : Option (List (String × Value)) :=
  (Reader.document.run (dropByteOrderMark text.toList)).map Prod.fst

end EdmMapping.Toml
