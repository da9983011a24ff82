/-
How a decimal number is laid out as text.

A layout says between which powers of ten a number is written with a point in its place; outside of
them it is written with an exponent.
-/
import StateOverlay.Decimal.Shortest
import StateOverlay.Text.Basic

namespace StateOverlay.Decimal

/-- The decisions of a number format. -/
structure Layout where
  /-- Numbers below this power of ten are written with the point in its place. -/
  pointBelow : Int
  /-- So are numbers from this power of ten on, if they are below one. -/
  pointFrom : Int
  /-- Whether an exponent that is not negative has a plus sign. -/
  plusSign : Bool

/-- An exponent as text. -/
def exponentText (exponent : Int) : Text :=
  (if exponent < 0 then ['-'] else []) ++ Text.ofNat exponent.natAbs

/-- The text of a decimal. -/
def render (layout : Layout) (negative : Bool) (number : Decimal) : Text :=
  let digits := Text.ofNat number.digits
  let point := digits.length + number.exponent
  let body : Text :=
    if number.digits = 0 then "0.0".toList
    else if 0 ≤ number.exponent ∧ point ≤ layout.pointBelow then
      digits ++ List.replicate number.exponent.toNat '0' ++ ".0".toList
    else if 0 < point ∧ point ≤ layout.pointBelow then
      digits.take point.toNat ++ ['.'] ++ digits.drop point.toNat
    else if layout.pointFrom < point ∧ point ≤ 0 then
      "0.".toList ++ List.replicate (-point).toNat '0' ++ digits
    else
      let behind := digits.drop 1
      digits.take 1 ++ (if behind.isEmpty then [] else '.' :: behind) ++ ['e'] ++
        (if layout.plusSign ∧ 0 < point then ['+'] else []) ++ exponentText (point - 1)
  (if negative then ['-'] else []) ++ body

end StateOverlay.Decimal
