/-!
# The range of doubles

Which decimals are near a finite double.  The greatest finite double is `2 ^ 1024 - 2 ^ 971`; what
is less than half a unit above it rounds down to it, everything else rounds to infinity.
-/

set_option autoImplicit false

namespace EdmMapping.Decimal

/-- The least magnitude that rounds to infinity. -/
def overflowThreshold : Nat := Nat.pow 2 1024 - Nat.pow 2 970

def digitCount (n : Nat) : Nat := (Nat.toDigits 10 n).length

/-- Whether `mantissa * 10 ^ exponent` rounds to a finite double.  A number of `d` digits lies
below `10 ^ d` and not below `10 ^ (d - 1)`, which decides all but the exponents near the limit. -/
def fitsDouble (mantissa : Nat) (exponent : Int) : Bool :=
  if mantissa = 0 then true
  else if exponent + digitCount mantissa ≤ 308 then true
  else if exponent + digitCount mantissa > 310 then false
  else
    match exponent with
    | .ofNat e => mantissa * Nat.pow 10 e < overflowThreshold
    | .negSucc e => mantissa < overflowThreshold * Nat.pow 10 (e + 1)

end EdmMapping.Decimal
