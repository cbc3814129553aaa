import FullText.Decimal.Binary64

/-!
# Shortest decimal text

The shortest decimal of a floating-point number is the one with the fewest digits that reads back as that number, and
among those the nearest.  A number `m * 2 ^ e` is read back from every decimal in an interval around it: up to half the
gap to its neighbours, the ends included when `m` is even.  For one digit, two digits, … `shortest` looks at the two
points of that decimal grid that enclose the number and takes the first that lies in the interval.

`display` writes it: positionally from 0.0001 up to 10 ^ 16, with an exponent of at least two digits outside, and
always with a fractional part in the positional form.
-/

namespace FullText.Decimal

/-- A positive number and the interval of what reads back as it, over a common denominator. -/
structure Reading where
  low : Nat
  value : Nat
  high : Nat
  denominator : Nat
  closed : Bool

/-- The interval of `mantissa * 2 ^ exponent`.  The gap below a power of two is half the gap above it. -/
def Reading.of (mantissa : Nat) (exponent : Int) : Reading :=
  let low := if mantissa = Nat.pow 2 52 ∧ exponent ≠ Binary64.minExponent then 4 * mantissa - 1 else 4 * mantissa - 2
  let scale := Nat.pow 2 (exponent - 2).toNat
  { low := low * scale, value := 4 * mantissa * scale, high := (4 * mantissa + 2) * scale,
    denominator := Nat.pow 2 (2 - exponent).toNat, closed := mantissa % 2 == 0 }

/-- The number `d * 10 ^ p` over the denominator of a reading: a numerator, and a further factor of that denominator. -/
def Reading.scaled (r : Reading) (d : Nat) (p : Int) : Nat × Nat :=
  (d * r.denominator * Nat.pow 10 p.toNat, Nat.pow 10 (-p).toNat)

/-- Whether `d * 10 ^ p` reads back as the number. -/
def Reading.holds (r : Reading) (d : Nat) (p : Int) : Bool :=
  let (n, k) := r.scaled d p
  if r.closed then decide (r.low * k ≤ n) && decide (n ≤ r.high * k)
  else decide (r.low * k < n) && decide (n < r.high * k)

/-- The grid point `d * 10 ^ p` just at or below the number. -/
def Reading.below (r : Reading) (p : Int) : Nat :=
  r.value * Nat.pow 10 (-p).toNat / (r.denominator * Nat.pow 10 p.toNat)

/-- Whether `d * 10 ^ p` is at least as near as `(d + 1) * 10 ^ p`; of two equally near the even one is taken. -/
def Reading.prefersBelow (r : Reading) (d : Nat) (p : Int) : Bool :=
  let (a, k) := r.scaled d p
  let (b, _) := r.scaled (d + 1) p
  let toBelow := r.value * k - a
  let toAbove := b - r.value * k
  toBelow < toAbove || (toBelow == toAbove && d % 2 == 0)

/-- The grid point with step `10 ^ p` that reads back as the number, the nearer of two. -/
def Reading.onGrid? (r : Reading) (p : Int) : Option Nat :=
  let d := r.below p
  match r.holds d p, r.holds (d + 1) p with
  | true, true => some (if r.prefersBelow d p then d else d + 1)
  | true, false => some d
  | false, true => some (d + 1)
  | false, false => none

/-- Searches the grids from a coarse step down, at most `fuel` of them. -/
def Reading.search (r : Reading) : Nat → Int → Nat × Int
  | 0, p => (r.below p, p)
  | fuel + 1, p =>
    match r.onGrid? p with
    | some d => (d, p)
    | none => r.search fuel (p - 1)

/-- The shortest decimal `d * 10 ^ p` of `mantissa * 2 ^ exponent`, for a positive mantissa. -/
def shortest (mantissa : Nat) (exponent : Int) : Nat × Int :=
  (Reading.of mantissa exponent).search 700 310

/-- The decimal digits of a number, without the zeros at the end, and how many those were. -/
def significantDigits (n : Nat) : List Char × Nat :=
  let digits := Nat.toDigits 10 n
  let kept := (digits.reverse.dropWhile (· == '0')).reverse
  (kept, digits.length - kept.length)

/-- Writes digits that stand `point` places after the decimal point's left end. -/
def positional (digits : List Char) (point : Int) : List Char :=
  if point ≤ 0 then '0' :: '.' :: List.replicate (-point).toNat '0' ++ digits
  else if digits.length ≤ point.toNat then digits ++ List.replicate (point.toNat - digits.length) '0' ++ ['.', '0']
  else digits.take point.toNat ++ '.' :: digits.drop point.toNat

/-- Writes digits with one before the point and an exponent of at least two digits. -/
def scientific (digits : List Char) (point : Int) : List Char :=
  let exponent := point - 1
  let mantissa :=
    match digits with
    | d :: rest => if rest.isEmpty then [d] else d :: '.' :: rest
    | [] => []
  let size := Nat.toDigits 10 exponent.natAbs
  mantissa ++ ['e', if exponent < 0 then '-' else '+'] ++ (if size.length < 2 then '0' :: size else size)

/-- The text of a floating-point number. -/
def display : Binary64 → String
  | .nan => "nan"
  | .infinite negative => if negative then "-inf" else "inf"
  | .finite negative mantissa exponent =>
    let body :=
      if mantissa = 0 then ['0', '.', '0']
      else
        let (d, p) := shortest mantissa exponent
        let (digits, zeros) := significantDigits d
        let point := digits.length + zeros + p
        if -4 < point ∧ point ≤ 16 then positional digits point else scientific digits point
    String.ofList (if negative then '-' :: body else body)

end FullText.Decimal
