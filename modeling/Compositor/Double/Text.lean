import Compositor.Double.Basic

/-! # The shortest text of a double

A double is written with the fewest digits that read back to it, always in
positional notation: no exponent, and no point in a whole number.

A decimal reads back to a double if it lies in the interval of the values that
round to it: from halfway to the place below to halfway to the place above, with
the two ends exactly when the place is even.  `shortest` walks the decimal grids
from coarse to fine and takes the first one that has a point in the interval.  A
point of the grid lies in it only if one of the two points around the double
does, so two tests per grid are enough.  The grid `10 ^ (-1074)` holds every
double, which ends the walk.
-/

namespace Compositor

/-- The number `digits * 10 ^ exponent`. -/
structure Decimal where
  digits : Nat
  exponent : Int
deriving DecidableEq

namespace Decimal

/-- The value as a fraction of natural numbers. -/
def fraction (d : Decimal) : Nat × Nat :=
  if 0 ≤ d.exponent then (d.digits * Nat.pow 10 d.exponent.toNat, 1)
  else (d.digits, Nat.pow 10 (-d.exponent).toNat)

/-- Positional notation: digits, with a point only before a fractional part. -/
def layout (d : Decimal) : List Char :=
  let digits := Nat.toDigits 10 d.digits
  if 0 ≤ d.exponent then digits ++ List.replicate d.exponent.toNat '0'
  else
    let places := (-d.exponent).toNat
    let padded := List.replicate (places + 1 - digits.length) '0' ++ digits
    padded.take (padded.length - places) ++ '.' :: padded.drop (padded.length - places)

end Decimal

namespace Double

/-- Twice the lower end of the interval of values that round to a place, in
    units. -/
def lowerEnd (place : Nat) : Nat := units (place - 1) + units place

/-- Twice the upper end of the interval of values that round to a place, in
    units. -/
def upperEnd (place : Nat) : Nat := units place + units (place + 1)

/-- The decimal lies among the values that round to the place. -/
def readsBack (place : Nat) (d : Decimal) : Bool :=
  let num := d.fraction.1 * Nat.pow 2 (unitBits + 1)
  let den := d.fraction.2
  -- Both ends belong to the interval exactly if ties go to this place.
  if place % 2 = 0 then
    decide (lowerEnd place * den ≤ num) && decide (num ≤ upperEnd place * den)
  else
    decide (lowerEnd place * den < num) && decide (num < upperEnd place * den)

/-- The last point of the decimal grid `10 ^ exponent` that is not above the
    value at a place. -/
def gridBelow (place : Nat) (exponent : Int) : Nat :=
  if 0 ≤ exponent then units place / (Nat.pow 2 unitBits * Nat.pow 10 exponent.toNat)
  else units place * Nat.pow 10 (-exponent).toNat / Nat.pow 2 unitBits

/-- The value at a place is nearer to the grid point `d` than to the next one; in
    the middle the next one is taken. -/
def nearerBelow (place : Nat) (d : Decimal) : Bool :=
  let middle : Decimal := ⟨2 * d.digits + 1, d.exponent⟩
  decide (2 * units place * middle.fraction.2 < middle.fraction.1 * Nat.pow 2 unitBits)

/-- The point of the decimal grid that reads back to the place, the nearer one
    if two do. -/
def onGrid (place : Nat) (exponent : Int) : Option Decimal :=
  let below : Decimal := ⟨gridBelow place exponent, exponent⟩
  let above : Decimal := ⟨gridBelow place exponent + 1, exponent⟩
  match readsBack place below, readsBack place above with
  | true, true => some (if nearerBelow place below then below else above)
  | true, false => some below
  | false, true => some above
  | false, false => none

/-- Walks the grids downwards from `10 ^ exponent`, at most `steps` of them, and
    ends with the exact value. -/
def coarsest (place : Nat) (exponent : Int) : Nat → Decimal
  | 0 => ⟨units place * Nat.pow 5 unitBits, -(unitBits : Int)⟩
  | steps + 1 =>
    match onGrid place exponent with
    | some d => d
    | none => coarsest place (exponent - 1) steps

/-- The decimal with the fewest digits that reads back to a positive place.  The
    first grid tried lies above the whole interval. -/
def shortest (place : Nat) : Decimal :=
  let start := (Nat.toDigits 10 (upperEnd place / Nat.pow 2 (unitBits + 1))).length
  coarsest place start (start + unitBits)

/-- The text of the absolute value. -/
def magnitudeText (x : Double) : List Char :=
  if x.isInfinite then "inf".toList
  else if x.isZero then ['0']
  else (shortest x.place).layout

/-- The text of a double. -/
def text (x : Double) : String :=
  if x.isNaN then "NaN"
  else String.ofList (if x.negative then '-' :: x.magnitudeText else x.magnitudeText)

end Double

end Compositor
