import EdmMapping.Decimal.DoubleRange
import EdmMapping.Toml.DateTime

/-!
# TOML values

* `Value` — the values of a document; a table keeps its entries in order;
* `Value.isStorable` — whether all numbers in a value are well formed and fit the usual machine
  numbers;
* `Value.entries?` — the entries of a value that can be read as a table.
-/

set_option autoImplicit false

namespace EdmMapping.Toml

/-- A number with a fraction or an exponent. -/
inductive FloatValue where
  /-- The number `mantissa * 10 ^ exponent`, with a minus sign if `negative`. -/
  | decimal (negative : Bool) (mantissa : Nat) (exponent : Int)
  | infinity (negative : Bool)
  | notANumber
  deriving DecidableEq, Repr

inductive Value where
  | string (text : String)
  | integer (n : Int)
  /-- An integer that lacks digits or holds characters that are none.  It may stand where nobody
  reads it. -/
  | malformedInteger
  | float (f : FloatValue)
  | boolean (b : Bool)
  | dateTime (d : DateTime)
  | array (items : List Value)
  | table (entries : List (String × Value))

/-- Whether a number that is written with digits stays finite. -/
def FloatValue.isStorable : FloatValue → Bool
  | .decimal _ mantissa exponent => Decimal.fitsDouble mantissa exponent
  | .infinity _ | .notANumber => true

/-- Whether the number fits 64 bits, with or without a sign. -/
def integerIsStorable (n : Int) : Bool :=
  -(Int.pow 2 63) ≤ n && n < Int.pow 2 64

namespace Value

mutual

/-- Whether every number in the value is well formed and fits the machine's numbers. -/
def isStorable : Value → Bool
  | string _ | boolean _ | dateTime _ => true
  | malformedInteger => false
  | integer n => integerIsStorable n
  | float f => f.isStorable
  | array items => itemsAreStorable items
  | table entries => entriesAreStorable entries

/-- Whether every number in the items fits. -/
def itemsAreStorable : List Value → Bool
  | [] => true
  | item :: rest => item.isStorable && itemsAreStorable rest

/-- Whether every number in the entries fits. -/
def entriesAreStorable : List (String × Value) → Bool
  | [] => true
  | (_, value) :: rest => value.isStorable && entriesAreStorable rest

end

/-- The key under which a date or a time gives its text when it is read as a table. -/
def dateTimeKey : String := "$__toml_private_datetime"

/-- The entries of a table.  A date or a time counts as a table with its text as only entry. -/
def entries? : Value → Option (List (String × Value))
  | table entries => some entries
  | dateTime d => some [(dateTimeKey, string d.text)]
  | _ => none

def string? : Value → Option String
  | string text => some text
  | _ => none

def boolean? : Value → Option Bool
  | boolean b => some b
  | _ => none

end Value

end EdmMapping.Toml
