import EdmMapping.Toml.Value

/-!
# TOML scalars without quotes

Booleans, numbers, dates and times are written as a word without quotes.  `scalar?` reads a word
that is one of them.

* `groupedDigits?` — digits with single underscores between them;
* `integer?` — decimal integers without leading zeros, and `0x`, `0o`, `0b` integers without sign;
* `isMalformedInteger` — integers with missing or wrong digits, which nothing may read;
* `float?` — a decimal integer with a fraction, an exponent or both, `inf` and `nan`.
-/

set_option autoImplicit false

namespace EdmMapping.Toml

/-- The digits of a number, without the underscores that group them; an underscore stands between
two digits. -/
def groupedDigits? (isDigit : Char → Bool) : List Char → Option (List Char)
  | [] => none
  | [c] => if isDigit c then some [c] else none
  | c :: '_' :: rest => if isDigit c then (groupedDigits? isDigit rest).map (c :: ·) else none
  | c :: rest => if isDigit c then (groupedDigits? isDigit rest).map (c :: ·) else none

/-- The value of a digit, letters counting from ten. -/
def digitValue (c : Char) : Nat :=
  if c.isDigit then c.toNat - '0'.toNat
  else if c.isLower then c.toNat - 'a'.toNat + 10
  else c.toNat - 'A'.toNat + 10

/-- The number written by digits, the most significant first. -/
def ofDigits (base : Nat) (digits : List Char) : Nat :=
  digits.foldl (fun n c => base * n + digitValue c) 0

def isHexDigit (c : Char) : Bool :=
  c.isDigit || ('a' ≤ c && c ≤ 'f') || ('A' ≤ c && c ≤ 'F')

def isOctalDigit (c : Char) : Bool := '0' ≤ c && c ≤ '7'

def isBinaryDigit (c : Char) : Bool := c = '0' || c = '1'

/-- Whether there is a minus sign, and what follows the sign. -/
def splitSign : List Char → Bool × List Char
  | '-' :: rest => (true, rest)
  | '+' :: rest => (false, rest)
  | cs => (false, cs)

/-- The digits of a decimal integer without sign; a zero is no first digit of several. -/
def wholeDigits? (cs : List Char) : Option (List Char) :=
  match groupedDigits? Char.isDigit cs with
  | some ('0' :: _ :: _) => none
  | digits => digits

def integer? : List Char → Option Int
  | '0' :: 'x' :: rest => (groupedDigits? isHexDigit rest).map fun ds => ofDigits 16 ds
  | '0' :: 'o' :: rest => (groupedDigits? isOctalDigit rest).map fun ds => ofDigits 8 ds
  | '0' :: 'b' :: rest => (groupedDigits? isBinaryDigit rest).map fun ds => ofDigits 2 ds
  | cs => do
    let (negative, unsigned) := splitSign cs
    let n := ofDigits 10 (← wholeDigits? unsigned)
    return if negative then -n else n

def startsExponent (c : Char) : Bool := c = 'e' || c = 'E'

/-- Whether every underscore stands between two hexadecimal digits. -/
def hasGroupedDigits : List Char → Bool
  | [] => true
  | '_' :: _ => false
  | [_] => true
  | c :: '_' :: d :: rest => isHexDigit c && isHexDigit d && hasGroupedDigits (d :: rest)
  | [_, '_'] => false
  | _ :: d :: rest => hasGroupedDigits (d :: rest)

/-- Whether the word counts as an integer although it has no value.  Such a word is a mark of a base
without digits, or starts with the digits of a decimal integer and an underscore, has well placed
underscores, and holds neither a space nor a character of a fraction or an exponent. -/
def isMalformedInteger : List Char → Bool
  | ['0', 'x'] | ['0', 'o'] | ['0', 'b'] => true
  | cs =>
    let unsigned := (splitSign cs).2
    unsigned.head?.any (fun c => c.isDigit && c ≠ '0')
      && (unsigned.dropWhile Char.isDigit).head? = some '_'
      && hasGroupedDigits unsigned
      && !unsigned.any fun c => c = ' ' || c = '.' || startsExponent c

/-- Reads the digits of an exponent, which may start with zeros. -/
def exponent? (cs : List Char) : Option Int := do
  let (negative, unsigned) := splitSign cs
  let n := ofDigits 10 (← groupedDigits? Char.isDigit unsigned)
  return if negative then -n else n

/-- Reads a number that has a fraction, an exponent, or both. -/
def float? (cs : List Char) : Option FloatValue := do
  let (negative, unsigned) := splitSign cs
  if unsigned = ['i', 'n', 'f'] then return .infinity negative
  if unsigned = ['n', 'a', 'n'] then return .notANumber
  let significand := unsigned.takeWhile fun c => !startsExponent c
  let exponent ←
    match unsigned.dropWhile fun c => !startsExponent c with
    | [] => pure none
    | _ :: digits => (exponent? digits).map some
  let whole ← wholeDigits? (significand.takeWhile (· ≠ '.'))
  match significand.dropWhile (· ≠ '.'), exponent with
  | [], none => none
  | [], some e => return .decimal negative (ofDigits 10 whole) e
  | _ :: digits, e => do
    let fraction ← groupedDigits? Char.isDigit digits
    return .decimal negative (ofDigits 10 (whole ++ fraction)) (e.getD 0 - fraction.length)

def scalar? (word : List Char) : Option Value :=
  if word = ['t', 'r', 'u', 'e'] then some (.boolean true)
  else if word = ['f', 'a', 'l', 's', 'e'] then some (.boolean false)
  else
    (integer? word).map .integer
      <|> (if isMalformedInteger word then some .malformedInteger else none)
      <|> (float? word).map .float
      <|> (DateTime.ofChars? word).map .dateTime

end EdmMapping.Toml
