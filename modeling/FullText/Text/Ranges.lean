/-!
# Tables of code points

A class of characters is an ascending list of ranges of code points (`covers`); a one-to-one case mapping is a list of
runs that each shift every code point, or every second one, by one amount (`applyRuns`).
-/

namespace FullText.Text

/-- Whether one of the ascending, inclusive ranges holds the code point. -/
def covers : List (Nat × Nat) → Nat → Bool
  | [], _ => false
  | (low, high) :: rest, n => if n < low then false else if n ≤ high then true else covers rest n

/-- Code points `first`, `first + step`, … up to `last`, each moved by `shift`. -/
structure CaseRun where
  first : Nat
  last : Nat
  step : Nat
  shift : Int

/-- Moves a code point by the run that holds it; code points of no run stay. -/
def applyRuns : List CaseRun → Nat → Nat
  | [], n => n
  | r :: rest, n =>
    if r.first ≤ n ∧ n ≤ r.last ∧ (n - r.first) % r.step = 0 then (n + r.shift).toNat else applyRuns rest n

end FullText.Text
