import EdmMapping.Json.Basic

/-!
# JSON on several lines

Every item and every field stands on a line of its own, two blanks deeper than the brackets around
it; empty arrays and objects stay on their line.

* `Json.quote` — a string with what has to be escaped: quotes, backslashes and control characters;
* `Json.pretty` — a value on its lines.
-/

set_option autoImplicit false

namespace EdmMapping.Json

/-- The lowercase hexadecimal digit of a number below sixteen. -/
def hexDigit (n : Nat) : Char :=
  if n < 10 then Char.ofNat (48 + n) else Char.ofNat (87 + n)

/-- A character as it stands in a JSON string. -/
def escapeChar (c : Char) : List Char :=
  if c = '"' then ['\\', '"']
  else if c = '\\' then ['\\', '\\']
  else if c = '\n' then ['\\', 'n']
  else if c = '\r' then ['\\', 'r']
  else if c = '\t' then ['\\', 't']
  else if c = '\x08' then ['\\', 'b']
  else if c = '\x0c' then ['\\', 'f']
  else if c.toNat < 32 then
    ['\\', 'u', '0', '0', hexDigit (c.toNat / 16), hexDigit (c.toNat % 16)]
  else [c]

def quote (text : String) : String :=
  "\"" ++ String.ofList (text.toList.flatMap escapeChar) ++ "\""

/-- The blanks before a line at the given depth. -/
def margin (depth : Nat) : String :=
  String.ofList (List.replicate (2 * depth) ' ')

mutual

/-- A value whose brackets stand at the given depth. -/
def prettyAt (depth : Nat) : Json → String
  | .null => "null"
  | .bool true => "true"
  | .bool false => "false"
  | .number literal => literal
  | .string text => quote text
  | .array [] => "[]"
  | .array (item :: rest) =>
    "[\n" ++ prettyItems (depth + 1) (item :: rest) ++ "\n" ++ margin depth ++ "]"
  | .object [] => "\x7b\x7d"
  | .object (field :: rest) =>
    "\x7b\n" ++ prettyFields (depth + 1) (field :: rest) ++ "\n" ++ margin depth ++ "\x7d"

/-- The items of an array, one on a line. -/
def prettyItems (depth : Nat) : List Json → String
  | [] => ""
  | [item] => margin depth ++ prettyAt depth item
  | item :: rest => margin depth ++ prettyAt depth item ++ ",\n" ++ prettyItems depth rest

/-- The fields of an object, one on a line. -/
def prettyFields (depth : Nat) : List (String × Json) → String
  | [] => ""
  | [(name, value)] => margin depth ++ quote name ++ ": " ++ prettyAt depth value
  | (name, value) :: rest =>
    margin depth ++ quote name ++ ": " ++ prettyAt depth value ++ ",\n" ++ prettyFields depth rest

end

def pretty (value : Json) : String := prettyAt 0 value

end EdmMapping.Json
