/-!
# TOML dates and times

A date, a time, or both with an optional offset from universal time.

* `Date.ofChars?`, `Time.ofChars?`, `Offset.ofChars?` — the parts, with their limits: days per
  month, leap years, the second 60;
* `DateTime.ofChars?` — the whole;
* `DateTime.text` — its normal spelling.
-/

set_option autoImplicit false

namespace EdmMapping.Toml

/-- The number written by decimal digits, if there are as many as given and nothing else. -/
def fixedDigits? (count : Nat) (cs : List Char) : Option Nat :=
  if cs.length = count && cs.all Char.isDigit then
    some (cs.foldl (fun n c => 10 * n + (c.toNat - '0'.toNat)) 0)
  else none

/-- The number as decimal digits, filled up with zeros in front. -/
def padded (width n : Nat) : String :=
  let digits := Nat.toDigits 10 n
  String.ofList (List.replicate (width - digits.length) '0' ++ digits)

structure Date where
  year : Nat
  month : Nat
  day : Nat
  deriving DecidableEq, Repr

namespace Date

def isLeapYear (year : Nat) : Bool :=
  year % 4 = 0 && (year % 100 ≠ 0 || year % 400 = 0)

def daysInMonth (year month : Nat) : Nat :=
  if month = 2 then (if isLeapYear year then 29 else 28)
  else if month = 4 || month = 6 || month = 9 || month = 11 then 30
  else 31

/-- Reads `YYYY-MM-DD`. -/
def ofChars? : List Char → Option Date
  | [y₁, y₂, y₃, y₄, '-', m₁, m₂, '-', d₁, d₂] => do
    let year ← fixedDigits? 4 [y₁, y₂, y₃, y₄]
    let month ← fixedDigits? 2 [m₁, m₂]
    let day ← fixedDigits? 2 [d₁, d₂]
    guard (1 ≤ month ∧ month ≤ 12)
    guard (1 ≤ day ∧ day ≤ daysInMonth year month)
    return ⟨year, month, day⟩
  | _ => none

def text (d : Date) : String :=
  padded 4 d.year ++ "-" ++ padded 2 d.month ++ "-" ++ padded 2 d.day

end Date

structure Time where
  hour : Nat
  minute : Nat
  second : Nat
  nanosecond : Nat
  deriving DecidableEq, Repr

namespace Time

/-- The nanoseconds of a fraction; digits after the ninth are dropped. -/
def nanoseconds (digits : List Char) : Nat :=
  let nine := (digits ++ List.replicate 9 '0').take 9
  nine.foldl (fun n c => 10 * n + (c.toNat - '0'.toNat)) 0

/-- Reads what follows the minutes: nothing, `:SS`, or `:SS` with a fraction. -/
def secondsOfChars? : List Char → Option (Nat × Nat)
  | [] => some (0, 0)
  | ':' :: s₁ :: s₂ :: fraction => do
    let second ← fixedDigits? 2 [s₁, s₂]
    guard (second ≤ 60)
    match fraction with
    | [] => return (second, 0)
    | '.' :: digits =>
      guard (digits ≠ [] ∧ digits.all Char.isDigit)
      return (second, nanoseconds digits)
    | _ => none
  | _ => none

/-- Reads an hour of a day and its minute, written `HH`, a colon and `MM`. -/
def hourAndMinute? (h₁ h₂ m₁ m₂ : Char) : Option (Nat × Nat) := do
  let hour ← fixedDigits? 2 [h₁, h₂]
  let minute ← fixedDigits? 2 [m₁, m₂]
  guard (hour ≤ 23 ∧ minute ≤ 59)
  return (hour, minute)

/-- Reads `HH:MM`, `HH:MM:SS` or `HH:MM:SS` with a fraction. -/
def ofChars? : List Char → Option Time
  | h₁ :: h₂ :: ':' :: m₁ :: m₂ :: rest => do
    let (hour, minute) ← hourAndMinute? h₁ h₂ m₁ m₂
    let (second, nanosecond) ← secondsOfChars? rest
    return ⟨hour, minute, second, nanosecond⟩
  | _ => none

/-- A fraction with its point and without the zeros at its end; none is written for zero. -/
def fractionText (nanosecond : Nat) : String :=
  if nanosecond = 0 then ""
  else
    let digits := ((padded 9 nanosecond).toList.reverse.dropWhile (· = '0')).reverse
    "." ++ String.ofList digits

/-- The time as `HH:MM:SS`, with a fraction if there is one. -/
def text (t : Time) : String :=
  padded 2 t.hour ++ ":" ++ padded 2 t.minute ++ ":" ++ padded 2 t.second
    ++ fractionText t.nanosecond

end Time

/-- A distance from universal time. -/
inductive Offset where
  | universal
  | minutes (count : Int)
  deriving DecidableEq, Repr

namespace Offset

/-- Reads `Z`, `+HH:MM` or `-HH:MM`; the distance is less than a day. -/
def ofChars? : List Char → Option Offset
  | ['Z'] | ['z'] => some universal
  | [sign, h₁, h₂, ':', m₁, m₂] => do
    let (hours, mins) ← Time.hourAndMinute? h₁ h₂ m₁ m₂
    let total := hours * 60 + mins
    if sign = '+' then return minutes total
    else if sign = '-' then return minutes (-total)
    else none
  | _ => none

/-- The distance with its sign; none is written with a plus sign. -/
def text : Offset → String
  | universal => "Z"
  | minutes count =>
    let total := count.natAbs
    (if count < 0 then "-" else "+") ++ padded 2 (total / 60) ++ ":" ++ padded 2 (total % 60)

end Offset

/-- A point in time, or a part of one. -/
inductive DateTime where
  | date (d : Date)
  | time (t : Time)
  | dateTime (d : Date) (t : Time) (offset : Option Offset)
  deriving DecidableEq, Repr

namespace DateTime

def startsOffset (c : Char) : Bool := c = 'Z' || c = 'z' || c = '+' || c = '-'

def separates (c : Char) : Bool := c = 'T' || c = 't' || c = ' '

/-- Reads a date, a time, or a date and a time with an optional offset. -/
def ofChars? (cs : List Char) : Option DateTime :=
  match Date.ofChars? (cs.take 10) with
  | none => (Time.ofChars? cs).map time
  | some d =>
    match cs.drop 10 with
    | [] => some (date d)
    | c :: rest => do
      guard (separates c)
      let t ← Time.ofChars? (rest.takeWhile fun c => !startsOffset c)
      match rest.dropWhile fun c => !startsOffset c with
      | [] => return dateTime d t none
      | offset => return dateTime d t (some (← Offset.ofChars? offset))

def text : DateTime → String
  | date d => d.text
  | time t => t.text
  | dateTime d t offset =>
    d.text ++ "T" ++ t.text
      ++ (match offset with
        | some o => o.text
        | none => "")

end DateTime

end EdmMapping.Toml
