/-!
# Reading TOML characters

A `Reader` takes what it needs from the front of the characters that are left, or fails.

* `peek`, `char`, `tryChar`, `takeWhile` — the building blocks;
* `items`, `itemsTo` — items up to a closing character, with commas between them;
* `blanks`, `lineEnd`, `comment`, `gaps` — what stands between the parts of a document.
-/

set_option autoImplicit false

namespace EdmMapping.Toml

/-- A reader of the characters that are left. -/
abbrev Reader (α : Type) : Type := StateT (List Char) Option α

def isBlank (c : Char) : Bool := c = ' ' || c = '\t'

/-- Whether the character may stand in a comment or between quotes: no control character, but a tab
is allowed. -/
def isTextChar (c : Char) : Bool := c = '\t' || (32 ≤ c.toNat && c.toNat ≠ 127)

/-- Skips a comment, without the end of its line. -/
def skipComment : List Char → List Char
  | '#' :: rest => rest.dropWhile isTextChar
  | cs => cs

mutual

def skipGaps : List Char → List Char
  | ' ' :: rest | '\t' :: rest | '\n' :: rest | '\r' :: '\n' :: rest => skipGaps rest
  | '#' :: rest => skipCommentLine rest
  | cs => cs

/-- Skips the rest of a comment and what follows its line. -/
def skipCommentLine : List Char → List Char
  | '\n' :: rest | '\r' :: '\n' :: rest => skipGaps rest
  | c :: rest => if isTextChar c then skipCommentLine rest else c :: rest
  | [] => []

end

namespace Reader

def peek : Reader (Option Char) := return (← get).head?

/-- Takes the next character, which is the given one. -/
def char (c : Char) : Reader Unit := do
  match ← get with
  | d :: rest => if c = d then set rest else failure
  | [] => failure

/-- Takes the next character if it is the given one. -/
def tryChar (c : Char) : Reader Bool := do
  match ← get with
  | d :: rest => if c = d then set rest; return true else return false
  | [] => return false

/-- Takes characters as long as the test holds. -/
def takeWhile (test : Char → Bool) : Reader (List Char) := do
  let cs ← get
  set (cs.dropWhile test)
  return cs.takeWhile test

def blanks : Reader Unit := modify fun cs => cs.dropWhile isBlank

def comment : Reader Unit := modify skipComment

def gaps : Reader Unit := modify skipGaps

/-- Takes the end of a line, or finds the end of the text. -/
def lineEnd : Reader Unit := do
  match ← get with
  | [] => return ()
  | '\n' :: rest | '\r' :: '\n' :: rest => set rest
  | _ => failure

/-- Reads items up to the closing character: a comma stands between two of them, and may follow the
last.  The first argument bounds their number. -/
def items {α : Type} (item : Reader α) (close : Char) : Nat → Reader (List α)
  | 0 => failure
  | bound + 1 => do
    gaps
    if ← tryChar close then return []
    let first ← item
    gaps
    if ← tryChar ',' then return first :: (← items item close bound)
    char close
    return [first]

/-- Reads items up to the closing character; there are not more of them than characters. -/
def itemsTo {α : Type} (item : Reader α) (close : Char) : Reader (List α) := do
  items item close ((← get).length + 1)

end Reader

end EdmMapping.Toml
