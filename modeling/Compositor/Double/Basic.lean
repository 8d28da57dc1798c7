/-! # Double-precision numbers

Every time, length and factor of a scene is a double-precision number.  A
`Double` is a sign and a *place*: the position of the absolute value in the
ascending list of all non-negative doubles.  Zero has place `0`, infinity has
place `infinityPlace`, and what lies beyond infinity is not a number.

The places make the structure of the numbers plain.  Comparing two doubles is
comparing two integers, the neighbour of a double is the next place, and
rounding a rational looks at two consecutive places only:

* `units`: the absolute value at a place, counted in the least positive double;
* `placeBelow`: the greatest place whose value is at most a given count;
* `ofRat`: the nearest double, of two equally near ones the one at the even
  place.  Places past the greatest finite double round to infinity by the same
  rule;
* `add`, `sub`, `mul`, `div`: the exact rational result, rounded once.
-/

namespace Compositor

/-- A double-precision number: its sign and the place of its absolute value. -/
structure Double where
  negative : Bool
  place : Nat
  place_lt : place < Nat.pow 2 63
deriving DecidableEq

namespace Double

/-! ## Places -/

/-- The place of infinity, one past the greatest finite double. -/
def infinityPlace : Nat := 2047 * Nat.pow 2 52

/-- `2 ^ unitBits` of the least positive doubles make one. -/
def unitBits : Nat := 1074

/-- The absolute value at a place, in multiples of the least positive double.
    Places come in runs of `2 ^ 52` with equal distances: the first two runs are
    spaced by one unit and each later run by twice the distance of the run before. -/
def units (place : Nat) : Nat :=
  if place / Nat.pow 2 52 = 0 then place
  else (Nat.pow 2 52 + place % Nat.pow 2 52) * Nat.pow 2 (place / Nat.pow 2 52 - 1)

/-- The greatest place whose value is at most `count` units. -/
def placeBelow (count : Nat) : Nat :=
  let shift := count.log2 - 52
  count / Nat.pow 2 shift + shift * Nat.pow 2 52

/-- The place nearest to `num / den` units; of two equally near places the even
    one. -/
def nearestPlace (num den : Nat) : Nat :=
  let below := placeBelow (num / den)
  let middle := (units below + units (below + 1)) * den
  -- Both sides count halves of a `den`-th of a unit.
  if 2 * num < middle then below
  else if middle < 2 * num then below + 1
  else if below % 2 = 0 then below else below + 1

/-- The double at a place, where places past infinity are cut to infinity. -/
def atPlace (negative : Bool) (place : Nat) : Double where
  negative := negative
  place := min place infinityPlace
  place_lt := Nat.lt_of_le_of_lt (Nat.min_le_right _ _) (by decide)

/-! ## Special values and classes -/

/-- Zero with the given sign. -/
def zero (negative : Bool) : Double := atPlace negative 0

/-- Infinity with the given sign. -/
def infinity (negative : Bool) : Double := atPlace negative infinityPlace

/-- The value of an operation that has no numeric result. -/
def nan : Double where
  negative := false
  place := infinityPlace + Nat.pow 2 51
  place_lt := by decide

instance : Inhabited Double := ⟨zero false⟩

/-- Neither a finite number nor an infinity. -/
def isNaN (x : Double) : Bool := decide (infinityPlace < x.place)

/-- One of the two infinities. -/
def isInfinite (x : Double) : Bool := x.place == infinityPlace

/-- A finite number. -/
def isFinite (x : Double) : Bool := decide (x.place < infinityPlace)

/-- Zero of either sign. -/
def isZero (x : Double) : Bool := x.place == 0

/-- The interchange encoding: the sign bit above the 63 bits of the place. -/
def ofBits (bits : UInt64) : Double where
  negative := decide (Nat.pow 2 63 ≤ bits.toNat)
  place := bits.toNat % Nat.pow 2 63
  place_lt := Nat.mod_lt _ (by decide)

/-! ## Order

There are two orders.  The numeric one takes the two zeros as equal and leaves
out what is not a number; the total one separates the zeros and puts what is not
a number outside the infinities, by sign.
-/

/-- The signed place: the numeric order on comparable numbers. -/
def key (x : Double) : Int := if x.negative then -(x.place : Int) else x.place

/-- The key of the total order, in which negative zero is below zero. -/
def totalKey (x : Double) : Int := if x.negative then -(x.place : Int) - 1 else x.place

/-- Numeric equality: the zeros are equal, and what is not a number equals
    nothing. -/
def same (x y : Double) : Bool := !x.isNaN && !y.isNaN && x.key == y.key

/-- Numeric strict order. -/
def less (x y : Double) : Bool := !x.isNaN && !y.isNaN && decide (x.key < y.key)

/-- Numeric order. -/
def lessEq (x y : Double) : Bool := !x.isNaN && !y.isNaN && decide (x.key ≤ y.key)

/-- The total order. -/
def totalLe (x y : Double) : Bool := decide (x.totalKey ≤ y.totalKey)

/-- The smaller number; what is not a number is passed over. -/
def min (x y : Double) : Double :=
  if x.isNaN then y else if y.isNaN then x else if y.less x then y else x

/-- The greater number; what is not a number is passed over. -/
def max (x y : Double) : Double :=
  if x.isNaN then y else if y.isNaN then x else if x.less y then y else x

/-! ## Exact values and rounding -/

/-- The exact value of a finite double. -/
def toRat (x : Double) : Rat :=
  let size := mkRat (units x.place) (Nat.pow 2 unitBits)
  if x.negative then -size else size

/-- The double nearest to an exact value, of two equally near ones the one at the
    even place.  The sign of an exact zero is given. -/
def ofRat (zeroNegative : Bool) (q : Rat) : Double :=
  if q.num = 0 then zero zeroNegative
  else atPlace (decide (q.num < 0)) (nearestPlace (q.num.natAbs * Nat.pow 2 unitBits) q.den)

/-- The double nearest to a natural number. -/
def ofNat (n : Nat) : Double := atPlace false (nearestPlace (n * Nat.pow 2 unitBits) 1)

/-- The double nearest to an integer. -/
def ofInt (i : Int) : Double := ofRat false i

instance (n : Nat) : OfNat Double n := ⟨ofNat n⟩

/-- The double nearest to `digits * 10 ^ exponent`.  The guards only spare the
    computation of powers that are far outside the range. -/
def ofDecimal (negative : Bool) (digits : Nat) (exponent : Int) : Double :=
  let length : Int := (Nat.toDigits 10 digits).length
  if digits = 0 then zero negative
  else if 400 < length + exponent then infinity negative
  else if length + exponent < -400 then zero negative
  else if 0 ≤ exponent then
    atPlace negative (nearestPlace (digits * Nat.pow 10 exponent.toNat * Nat.pow 2 unitBits) 1)
  else
    atPlace negative (nearestPlace (digits * Nat.pow 2 unitBits) (Nat.pow 10 (-exponent).toNat))

/-! ## Arithmetic -/

/-- The number of opposite sign. -/
def neg (x : Double) : Double := { x with negative := !x.negative }

/-- The sum.  An exact zero is negative only if both operands are. -/
def add (x y : Double) : Double :=
  if x.isNaN || y.isNaN then nan
  else if x.isInfinite then
    -- Infinities of opposite sign have no sum.
    if y.isInfinite && x.negative != y.negative then nan else x
  else if y.isInfinite then y
  else ofRat (x.negative && y.negative) (x.toRat + y.toRat)

/-- The difference. -/
def sub (x y : Double) : Double := add x (neg y)

/-- The product. -/
def mul (x y : Double) : Double :=
  let negative := x.negative != y.negative
  if x.isNaN || y.isNaN then nan
  else if x.isInfinite || y.isInfinite then
    if x.isZero || y.isZero then nan else infinity negative
  else ofRat negative (x.toRat * y.toRat)

/-- The quotient. -/
def div (x y : Double) : Double :=
  let negative := x.negative != y.negative
  if x.isNaN || y.isNaN then nan
  else if x.isInfinite then
    if y.isInfinite then nan else infinity negative
  else if y.isInfinite then zero negative
  else if y.isZero then
    -- A zero divisor keeps its sign in the infinite quotient.
    if x.isZero then nan else infinity negative
  else ofRat negative (x.toRat / y.toRat)

instance : Neg Double := ⟨neg⟩
instance : Add Double := ⟨add⟩
instance : Sub Double := ⟨sub⟩
instance : Mul Double := ⟨mul⟩
instance : Div Double := ⟨div⟩

/-- `x` to the power `n` by repeated squaring, one rounding per product: the
    result collects the squares that stand at the set bits of `n`, lowest
    first. -/
def powFrom (result x : Double) (n : Nat) : Double :=
  let result := if n % 2 = 1 then result * x else result
  if n / 2 = 0 then result else powFrom result (x * x) (n / 2)
termination_by n
decreasing_by omega

/-- `x` to the power `n` by repeated squaring. -/
def pow (x : Double) (n : Nat) : Double := powFrom 1 x n

/-! ## Integers near a double -/

/-- The integer part of the absolute value. -/
def wholePart (x : Double) : Nat := units x.place / Nat.pow 2 unitBits

/-- The integer part, cut to the range from zero to `limit`; zero for what is not
    a number. -/
def toNatUpTo (limit : Nat) (x : Double) : Nat :=
  if x.isNaN || x.negative then 0
  else if x.isInfinite then limit
  else Nat.min x.wholePart limit

/-- The nearest integer, a half going away from zero.  The sign is kept, also on
    a zero. -/
def round (x : Double) : Double :=
  if x.isFinite then
    -- Half of one is added before the fraction is cut off.
    { ofNat ((units x.place + Nat.pow 2 (unitBits - 1)) / Nat.pow 2 unitBits) with
      negative := x.negative }
  else x

end Double

end Compositor
