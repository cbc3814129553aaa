/-!
# Binary floating-point numbers

A `Binary64` is a number of the 64-bit binary format, with its value laid open: a finite one is its sign times
`mantissa * 2 ^ exponent`.  `ofBits` reads the format, `toInt?` gives the whole number that a finite one is.
-/

namespace FullText.Decimal

/-- A binary floating-point number; a finite one stands for `± mantissa * 2 ^ exponent`. -/
inductive Binary64 where
  | nan
  | infinite (negative : Bool)
  | finite (negative : Bool) (mantissa : Nat) (exponent : Int)
  deriving DecidableEq, Repr, Inhabited

namespace Binary64

/-- The exponent of the smallest positive number. -/
def minExponent : Int := -1074

/-- Reads the 64-bit format: a sign bit, eleven bits of exponent, fifty-two of fraction. -/
def ofBits (bits : Nat) : Binary64 :=
  let negative := bits / Nat.pow 2 63 % 2 == 1
  let field : Nat := bits / Nat.pow 2 52 % Nat.pow 2 11
  let fraction : Nat := bits % Nat.pow 2 52
  if field = 2047 then if fraction = 0 then .infinite negative else .nan
  else if field = 0 then .finite negative fraction minExponent
  else .finite negative (Nat.pow 2 52 + fraction) (minExponent + field - 1)

/-- The whole number that a finite number is, if it is one. -/
def toInt? : Binary64 → Option Int
  | .finite negative mantissa exponent =>
    let magnitude :=
      if 0 ≤ exponent then some (mantissa * Nat.pow 2 exponent.toNat)
      else if mantissa % Nat.pow 2 (-exponent).toNat = 0 then some (mantissa / Nat.pow 2 (-exponent).toNat)
      else none
    magnitude.map fun n => if negative then -(n : Int) else n
  | _ => none

def isFinite : Binary64 → Bool
  | .finite .. => true
  | _ => false

end Binary64

end FullText.Decimal
