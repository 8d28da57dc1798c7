import Compositor.Datum.Basic
import Compositor.Text.Hex

/-! # The value of a JSON number

A number without fraction and exponent is an integer as long as it fits sixty-four
bits.  Every other number is real, and there are two ways from its digits to a
double:

* `nearest` rounds once, to the nearest double;
* `stepwise` gathers as many digits as fit a significand of sixty-four bits and
  scales it by a power of ten.  The significand, the power and the product are
  each rounded, so the result may be a neighbour of the nearest double.

A real number that comes out past the greatest double is unreadable.
-/

namespace Compositor.Json

/-! ## Gathering digits -/

/-- Significands lie below this number. -/
def significandLimit : Nat := Nat.pow 2 64

/-- Appends digits to a significand as long as it stays below the limit.  The
    answer is the significand and the digits that are left over. -/
def gather (significand : Nat) : List Char → Nat × List Char
  | [] => (significand, [])
  | c :: cs =>
    let next := significand * 10 + Text.decimalValue [c]
    if next < significandLimit then gather next cs else (significand, c :: cs)

/-- The digits that a significand takes in.  Whole digits that are left over still
    count as places, and fraction digits that are left over are dropped. -/
def gathered (whole fraction : List Char) (exponent : Int) : Decimal :=
  let (first, wholeLeft) := gather 0 whole
  let (digits, left) := gather first fraction
  ⟨digits, exponent + wholeLeft.length - (fraction.length - left.length : Nat)⟩

theorem gather_lt {significand : Nat} (h : significand < significandLimit) (cs : List Char) :
    (gather significand cs).1 < significandLimit := by
  fun_induction gather significand cs with
  | case1 => exact h
  | case2 _ _ _ _ hn ih => exact ih hn
  | case3 => exact h

theorem gather_length_le (significand : Nat) (cs : List Char) :
    (gather significand cs).2.length ≤ cs.length := by
  fun_induction gather significand cs with
  | case1 => simp
  | case2 _ _ _ _ _ ih => simp only [List.length_cons]; omega
  | case3 => simp

/-! ## Scaling -/

/-- The exponent of the greatest power of ten that is a finite double. -/
def greatestPower : Nat := 308

/-- The double nearest to a power of ten. -/
def powerOfTen (n : Nat) : Double := .ofDecimal false 1 n

/-- A significand times a power of ten.  A power that is no double is divided by in
    two steps; below those, nothing is left of a significand of sixty-four bits. -/
def scaled (d : Decimal) : Double :=
  let x := Double.ofNat d.digits
  let size := d.exponent.natAbs
  if 0 ≤ d.exponent then
    if size ≤ greatestPower then x * powerOfTen size
    else if x.isZero then x
    else .infinity false
  else if size ≤ greatestPower then x / powerOfTen size
  else if size ≤ 2 * greatestPower then
    x / powerOfTen greatestPower / powerOfTen (size - greatestPower)
  else .zero false

/-! ## Numbers -/

/-- How the digits of a real number become a double. -/
inductive Rounding where
  /-- To the nearest double. -/
  | nearest
  /-- By way of a significand of sixty-four bits. -/
  | stepwise
deriving DecidableEq

/-- The double of a number with the given digits before and after the point and
    the given exponent. -/
def Rounding.real (negative : Bool) (whole fraction : List Char) (exponent : Int) :
    Rounding → Double
  | nearest =>
    .ofDecimal negative (Text.decimalValue (whole ++ fraction)) (exponent - fraction.length)
  | stepwise => { scaled (gathered whole fraction exponent) with negative }

/-- The value of a real number. -/
def realDatum (r : Rounding) (negative : Bool) (whole fraction : List Char) (exponent : Int) :
    Datum :=
  let x := r.real negative whole fraction exponent
  if x.isFinite then .real x else .unreadable

/-- The value of a number without fraction and exponent.  What does not fit
    sixty-four bits is a real number, and so is negative zero. -/
def wholeDatum (r : Rounding) (negative : Bool) (whole : List Char) : Datum :=
  let n := Text.decimalValue whole
  if negative then
    if n = 0 ∨ Nat.pow 2 63 < n then realDatum r true whole [] 0 else .integer (-(n : Int))
  else if n < Nat.pow 2 64 then .integer n
  else realDatum r false whole [] 0

/-- The value of a number with the given digits before and after the point and the
    exponent, if it has one. -/
def numberDatum (r : Rounding) (negative : Bool) (whole fraction : List Char) :
    Option Int → Datum
  | some e => realDatum r negative whole fraction e
  | none =>
    if fraction.isEmpty then wholeDatum r negative whole
    else realDatum r negative whole fraction 0

end Compositor.Json
