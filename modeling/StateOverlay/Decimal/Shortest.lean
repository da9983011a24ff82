/-
The fewest decimal digits that read back as a binary64 number.

A finite number is a mantissa times a power of two, and the reals that round to it lie between the
midpoints to its two neighbours; the midpoints themselves belong to it if its mantissa is even.  The
search goes from coarse decimal grids to fine ones and stops at the first that has a point in that
interval.  Of two such points it takes the nearer one, and of two equally near ones the even one.

Design notes: only the points next to the number itself need a test, because the interval contains
the number.  All comparisons are between naturals: an interval end and a grid point are brought to a
common denominator.
-/

namespace StateOverlay

/-- The number `digits · 10 ^ exponent`. -/
structure Decimal where
  digits : Nat
  exponent : Int
deriving DecidableEq

namespace Decimal

/-- The same number with no zero at the end of its digits. -/
def dropZeros (digits : Nat) (exponent : Int) : Decimal :=
  if 0 < digits ∧ digits % 10 = 0 then dropZeros (digits / 10) (exponent + 1)
  else { digits, exponent }
termination_by digits

/-- The number `mantissa · 2 ^ exponent` of a binary64 format. -/
structure Binary where
  mantissa : Nat
  exponent : Int
  /-- Whether the next smaller number is only half as far away as the next larger one. -/
  lowestOfBinade : Bool

/-- The size of the finite number that 64 bits stand for. -/
def Binary.ofBits (bits : UInt64) : Binary :=
  let fraction := bits.toNat % Nat.pow 2 52
  let biased : Nat := bits.toNat / Nat.pow 2 52 % Nat.pow 2 11
  if biased = 0 then { mantissa := fraction, exponent := -1074, lowestOfBinade := false }
  else
    { mantissa := fraction + Nat.pow 2 52
      exponent := biased - 1075
      lowestOfBinade := fraction == 0 && decide (1 < biased) }

/-- The positive and the negative part of an exponent of `base`, as factors. -/
def factors (base : Nat) (exponent : Int) : Nat × Nat :=
  (base.pow exponent.toNat, base.pow (-exponent).toNat)

/-- The point of the grid of multiples of `10 ^ grid` that stands for a number, if one does. -/
def onGrid? (number : Binary) (grid : Int) : Option Nat :=
  -- quarters of the number's last bit, because a midpoint may lie a quarter below it
  let (up, down) := factors 2 (number.exponent - 2)
  let (coarse, fine) := factors 10 grid
  let numerator := up * fine
  let denominator := down * coarse
  let middle := 4 * number.mantissa * numerator
  let low := (4 * number.mantissa - if number.lowestOfBinade then 1 else 2) * numerator
  let high := (4 * number.mantissa + 2) * numerator
  let stands := fun (point : Nat) =>
    if number.mantissa % 2 = 0 then low ≤ point * denominator ∧ point * denominator ≤ high
    else low < point * denominator ∧ point * denominator < high
  let below := middle / denominator
  let above := below + 1
  let gapBelow := middle - below * denominator
  let gapAbove := above * denominator - middle
  if stands below ∧ stands above then
    some (if gapBelow < gapAbove ∨ gapBelow = gapAbove ∧ below % 2 = 0 then below else above)
  else if stands below then some below
  else if stands above then some above
  else none

/-- The exponent of ten of a number's first digit. -/
def leadingExponent (number : Binary) : Int :=
  let (up, down) := factors 2 number.exponent
  let scaled := number.mantissa * up * Nat.pow 10 330 / down
  (Nat.toDigits 10 scaled).length - 331

/-- The shortest decimal that reads back as a number. -/
def shortest (number : Binary) : Decimal :=
  if number.mantissa = 0 then { digits := 0, exponent := 0 }
  else
    let leading := leadingExponent number
    let found := (List.range 17).findSome? fun (extra : Nat) =>
      (onGrid? number (leading - extra)).map fun point => dropZeros point (leading - extra)
    found.getD { digits := 0, exponent := 0 }

end Decimal

end StateOverlay
