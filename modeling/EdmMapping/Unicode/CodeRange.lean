/-!
# Runs of code points

The shapes that the tables of character properties are written in.

* `CodeRange` — all code points between two ends: the members of a property;
* `CaseRun` — evenly spaced code points that a case mapping moves by one and the same distance;
* `CaseExpansion` — one character that a case mapping turns into several.
-/

set_option autoImplicit false

namespace EdmMapping.Unicode

/-- The code points from `first` to `last`, both included. -/
structure CodeRange where
  first : Nat
  last : Nat
  deriving DecidableEq, Repr

def CodeRange.contains (r : CodeRange) (c : Char) : Bool :=
  r.first ≤ c.toNat && c.toNat ≤ r.last

/-- The code points `first, first + step, …, last`, which go to `target, target + step, …`. -/
structure CaseRun where
  first : Nat
  last : Nat
  step : Nat
  target : Nat
  deriving DecidableEq, Repr

def CaseRun.contains (r : CaseRun) (c : Char) : Bool :=
  r.first ≤ c.toNat && c.toNat ≤ r.last && (c.toNat - r.first) % r.step == 0

/-- Where the run sends a character that it contains. -/
def CaseRun.image (r : CaseRun) (c : Char) : Char :=
  Char.ofNat (r.target + (c.toNat - r.first))

/-- A character that a case mapping turns into the characters of `image`. -/
structure CaseExpansion where
  source : Char
  image : List Char
  deriving DecidableEq, Repr

end EdmMapping.Unicode
