import Mathlib.Data.Nat.Cast.Order.Field
import Mathlib.Tactic.NormNum
import Compositor.Proofs.Double.Places

/-! # Powers with a whole exponent

A power is computed by repeated squaring, and each product is rounded.  So the powers of a number
are not exact, and whether they grow with the exponent is not plain.

* `Near`: a number is a value but for the roundings of so many products, or too great for a
  double.  A power by `n` has `n` roundings at most (`Near.pow`), and if the base is away from one
  by more than a few places then it outgrows them.
* For a base that is one but for a few places the powers are exact but for the last place: each
  product adds up the places (`IsBehindOne.pow`).
-/

namespace Compositor.Double

/-- The place of one. -/
def onePlace : Nat := 1023 * 2 ^ 52

/-- The distance from one to the next place is `2 ^ oneShift` units. -/
def oneShift : Nat := unitBits - 52

variable {x y : Double}

theorem units_onePlace_add {offset : Nat} (small : offset ≤ 2 ^ 52) :
    units (onePlace + offset) = (2 ^ 52 + offset) * 2 ^ oneShift := by
  have run : onePlace + offset = (2 ^ 52 + offset) + oneShift * 2 ^ 52 := by
    rw [onePlace, oneShift, unitBits]
    omega
  rw [run]
  exact units_add (by omega) (by omega) oneShift

theorem two_pow_unitBits : 2 ^ unitBits = 2 ^ 52 * 2 ^ oneShift := by
  have bits : unitBits = 52 + oneShift := rfl
  rw [bits, Nat.pow_add]

theorem units_onePlace : units onePlace = 2 ^ unitBits := by
  have first := units_onePlace_add (Nat.zero_le (2 ^ 52))
  rwa [Nat.add_zero, Nat.add_zero, ← two_pow_unitBits] at first

/-- From the second run on, the next place is away by no more than one in `2 ^ 52`. -/
theorem units_succ_le {place : Nat} (normal : 2 ^ 52 ≤ place) :
    units (place + 1) * 2 ^ 52 ≤ units place * (2 ^ 52 + 1) := by
  obtain ⟨digits, shift, low, high, rfl⟩ : ∃ digits shift,
      2 ^ 52 ≤ digits ∧ digits < 2 ^ 53 ∧ digits + shift * 2 ^ 52 = place :=
    ⟨place % 2 ^ 52 + 2 ^ 52, place / 2 ^ 52 - 1, by omega, by omega, by omega⟩
  rw [Nat.add_right_comm, units_add low high.le, units_add (by omega) high]
  calc (digits + 1) * 2 ^ shift * 2 ^ 52
      = ((digits + 1) * 2 ^ 52) * 2 ^ shift := Nat.mul_right_comm ..
    _ ≤ (digits * (2 ^ 52 + 1)) * 2 ^ shift := Nat.mul_le_mul_right _ (by omega)
    _ = digits * 2 ^ shift * (2 ^ 52 + 1) := Nat.mul_right_comm ..

/-! ## Values from one on -/

theorem valueAt_onePlace : valueAt onePlace = 1 := by
  rw [valueAt, units_onePlace, Nat.cast_pow, Nat.cast_ofNat, div_self two_pow_unitBits_pos.ne']

theorem valueAt_succ_le {place : Nat} (normal : 2 ^ 52 ≤ place) :
    valueAt (place + 1) ≤ valueAt place * (1 + 1 / 2 ^ 52) := by
  have gap : (units (place + 1) : Rat) * 2 ^ 52 ≤ units place * (2 ^ 52 + 1) := by
    exact_mod_cast units_succ_le normal
  rw [valueAt, valueAt, div_mul_eq_mul_div, div_le_div_iff_of_pos_right two_pow_unitBits_pos]
  linarith only [gap]

/-- The values that round to a place lie halfway to its neighbours at the most. -/
theorem RoundsTo.halfway {q : Rat} {place : Nat} (nonneg : 0 ≤ q)
    (rounds : RoundsTo (q.num.natAbs * 2 ^ unitBits) q.den place) :
    valueAt (place - 1) + valueAt place ≤ 2 * q ∧
      2 * q ≤ valueAt place + valueAt (place + 1) := by
  have den : (0 : Rat) < q.den := by exact_mod_cast q.den_pos
  have size : (q.num.natAbs : Rat) = q * q.den := by
    rw [Rat.mul_den_eq_num, Nat.cast_natAbs, abs_of_nonneg (Rat.num_nonneg.mpr nonneg)]
  have scaled : ((2 * (q.num.natAbs * 2 ^ unitBits) : Nat) : Rat) =
      2 * q * 2 ^ unitBits * q.den := by
    push_cast [size]
    ring
  constructor
  · have lower : ((units (place - 1) + units place : Nat) : Rat) * q.den ≤
        (2 * (q.num.natAbs * 2 ^ unitBits) : Nat) := by exact_mod_cast rounds.lower
    rw [scaled] at lower
    rw [valueAt, valueAt, ← add_div, div_le_iff₀ two_pow_unitBits_pos, ← Nat.cast_add]
    exact le_of_mul_le_mul_right lower den
  · have upper : ((2 * (q.num.natAbs * 2 ^ unitBits) : Nat) : Rat) ≤
        ((units place + units (place + 1) : Nat) : Rat) * q.den := by exact_mod_cast rounds.upper
    rw [scaled] at upper
    rw [valueAt, valueAt, ← add_div, le_div_iff₀ two_pow_unitBits_pos, ← Nat.cast_add]
    exact le_of_mul_le_mul_right upper den

/-- Where a value of at least one is rounded to. -/
theorem exists_ofRat_eq_atPlace {q : Rat} (one_le : 1 ≤ q) :
    ∃ place, onePlace ≤ place ∧ (∀ negative, ofRat negative q = atPlace false place) ∧
      valueAt (place - 1) + valueAt place ≤ 2 * q ∧
      2 * q ≤ valueAt place + valueAt (place + 1) := by
  have nonneg : 0 ≤ q := zero_le_one.trans one_le
  have positive : 0 < q.num := Rat.num_pos.mpr (one_pos.trans_le one_le)
  have above : q.den ≤ q.num.natAbs := by
    have product := (Rat.le_iff 1 q).mp one_le
    rw [Rat.num_one, Rat.den_one, one_mul, Nat.cast_one, mul_one] at product
    omega
  have rounds := roundsTo_nearestPlace (q.num.natAbs * 2 ^ unitBits) q.den_pos
  refine ⟨nearestPlace (q.num.natAbs * 2 ^ unitBits) q.den, ?_, ?_, rounds.halfway nonneg⟩
  · calc onePlace = nearestPlace (units onePlace) 1 := (nearestPlace_units onePlace).symm
      _ ≤ _ := nearestPlace_le_nearestPlace one_pos q.den_pos ?_
    rw [units_onePlace, Nat.mul_comm, Nat.mul_one]
    exact Nat.mul_le_mul_right _ above
  · intro negative
    rw [ofRat, if_neg positive.ne', decide_eq_false positive.not_gt, Nat.pow_eq]

/-- A value that is nearer to a place than halfway to its neighbours. -/
theorem ofRat_eq_atPlace {q : Rat} {place : Nat} (one_le : 1 ≤ q)
    (lower : valueAt (place - 1) + valueAt place < 2 * q)
    (upper : 2 * q < valueAt place + valueAt (place + 1)) :
    ofRat false q = atPlace false place := by
  obtain ⟨place', -, rounded, lower', upper'⟩ := exists_ofRat_eq_atPlace one_le
  rw [rounded]
  congr 1
  rcases Nat.lt_trichotomy place' place with below | same | above
  · have first : valueAt place' ≤ valueAt (place - 1) := valueAt_le_iff.mpr (by omega)
    have second : valueAt (place' + 1) ≤ valueAt place := valueAt_le_iff.mpr below
    linarith
  · exact same
  · have first : valueAt place ≤ valueAt (place' - 1) := valueAt_le_iff.mpr (by omega)
    have second : valueAt (place + 1) ≤ valueAt place' := valueAt_le_iff.mpr above
    linarith

/-! ## Products of rounded numbers -/

/-- The most by which rounding changes what is at least one, as a factor. -/
def slack : Rat := 1 + 1 / 2 ^ 53

theorem one_le_slack : 1 ≤ slack := by
  rw [slack]
  norm_num

theorem slack_pos : 0 < slack := one_pos.trans_le one_le_slack

/-- What is at least one, rounded: changed by `slack` at the most, or cut to infinity. -/
theorem ofRat_slack {q : Rat} (one_le : 1 ≤ q) (negative : Bool) :
    (ofRat negative q).negative = false ∧ onePlace ≤ (ofRat negative q).place ∧
      valueAt (ofRat negative q).place ≤ q * slack ∧
      ((ofRat negative q).place < infinityPlace →
        q ≤ valueAt (ofRat negative q).place * slack) := by
  obtain ⟨place, above, rounded, lower, upper⟩ := exists_ofRat_eq_atPlace one_le
  have infinite : onePlace ≤ infinityPlace := by decide
  have normal : 2 ^ 52 ≤ place - 1 := by
    rw [onePlace] at above
    omega
  have before := valueAt_succ_le normal
  have after := valueAt_succ_le (normal.trans (Nat.sub_le place 1))
  rw [Nat.sub_add_cancel (by omega)] at before
  have order : valueAt (place - 1) ≤ valueAt place := valueAt_le_iff.mpr (Nat.sub_le place 1)
  rw [rounded negative]
  refine ⟨rfl, le_min above infinite, ?_, ?_⟩
  · calc valueAt (Nat.min place infinityPlace) ≤ valueAt place :=
        valueAt_le_iff.mpr (Nat.min_le_left _ _)
      _ ≤ q * slack := by
        rw [slack]
        linarith only [before, lower, order]
  · intro finite
    have uncut : Nat.min place infinityPlace = place :=
      Nat.min_eq_left ((min_lt_iff.mp finite).resolve_right (lt_irrefl _)).le
    show q ≤ valueAt (Nat.min place infinityPlace) * slack
    rw [uncut, slack]
    linarith only [after, upper]

/-- A whole number grows by one in `2 ^ 53` at most when it is rounded. -/
theorem wholePart_ofNat_le (n : Nat) : (ofNat n).wholePart ≤ n + n / 2 ^ 53 := by
  rcases Nat.eq_zero_or_pos n with rfl | positive
  · exact (wholePart_ofNat (Nat.zero_le _)).le
  · obtain ⟨-, -, upper, -⟩ := ofRat_slack (q := n) (by exact_mod_cast positive) false
    rw [← ofNat_eq_ofRat positive] at upper
    have whole : ((ofNat n).wholePart : Rat) ≤ valueAt (ofNat n).place := by
      rw [wholePart_eq, valueAt]
      exact_mod_cast Nat.cast_div_le
    have scaled : ((ofNat n).wholePart : Rat) * 2 ^ 53 ≤ n * 2 ^ 53 + n := by
      rw [slack] at upper
      linarith only [whole, upper]
    have counted : (ofNat n).wholePart * 2 ^ 53 ≤ n * 2 ^ 53 + n := by exact_mod_cast scaled
    omega

/-- A number that is a value of at least one, but for so many roundings, or is infinite and the
    value is too great. -/
structure Near (x : Double) (value : Rat) (roundings : Nat) : Prop where
  positive : x.negative = false
  one_le : onePlace ≤ x.place
  number : x.place ≤ infinityPlace
  upper : valueAt x.place ≤ value * slack ^ roundings
  lower : x.place < infinityPlace → value ≤ valueAt x.place * slack ^ roundings

namespace Near

variable {v w : Rat} {m n : Nat}

theorem exact (positive : x.negative = false) (one_le : onePlace ≤ x.place)
    (number : x.place ≤ infinityPlace) : Near x (valueAt x.place) 0 where
  positive := positive
  one_le := one_le
  number := number
  upper := by simp
  lower := by simp

theorem one_le_valueAt (near : Near x v m) : 1 ≤ valueAt x.place :=
  valueAt_onePlace ▸ valueAt_le_iff.mpr near.one_le

theorem value_pos (near : Near x v m) : 0 < v := by
  have upper := near.one_le_valueAt.trans near.upper
  by_contra negative
  have := mul_nonpos_of_nonpos_of_nonneg (not_lt.mp negative) (pow_pos slack_pos m).le
  linarith

theorem isNaN (near : Near x v m) : x.isNaN = false :=
  decide_eq_false (Nat.not_lt.mpr near.number)

theorem isZero (near : Near x v m) : x.isZero = false := by
  have := near.one_le
  refine beq_eq_false_iff_ne.mpr ?_
  rw [onePlace] at this
  omega

theorem infinity (great : valueAt infinityPlace ≤ v * slack ^ n) :
    Near (Double.infinity false) v n := by
  have place : (Double.infinity false).place = infinityPlace := Nat.min_self _
  refine ⟨rfl, ?_, place.le, place ▸ great, fun finite => ?_⟩
  · rw [place]
    decide
  · rw [place] at finite
    exact absurd finite (lt_irrefl _)

/-- Rounding once more. -/
theorem round {q : Rat} (one_le : 1 ≤ q) (upper : q ≤ v * slack ^ n) (lower : v ≤ q * slack ^ n) :
    Near (ofRat false q) v (n + 1) := by
  obtain ⟨positive, above, most, least⟩ := ofRat_slack one_le false
  refine ⟨positive, above, Nat.not_lt.mp (of_decide_eq_false (isNaN_ofRat _ _)), ?_, ?_⟩
  · calc valueAt (ofRat false q).place
        ≤ q * slack := most
      _ ≤ v * slack ^ n * slack := mul_le_mul_of_nonneg_right upper slack_pos.le
      _ = v * slack ^ (n + 1) := by rw [pow_succ, mul_assoc]
  · intro finite
    calc v ≤ q * slack ^ n := lower
      _ ≤ valueAt (ofRat false q).place * slack * slack ^ n :=
          mul_le_mul_of_nonneg_right (least finite) (pow_pos slack_pos n).le
      _ = valueAt (ofRat false q).place * slack ^ (n + 1) := by
          rw [pow_succ, mul_assoc, mul_comm slack]

theorem valueAt_mul_le (near : Near x v m) (near' : Near y w n) :
    valueAt x.place * valueAt y.place ≤ v * w * slack ^ (m + n) := by
  calc valueAt x.place * valueAt y.place
      ≤ (v * slack ^ m) * (w * slack ^ n) :=
        mul_le_mul near.upper near'.upper (valueAt_nonneg _)
          (mul_nonneg near.value_pos.le (pow_pos slack_pos m).le)
    _ = v * w * slack ^ (m + n) := by rw [pow_add]; ring

theorem le_valueAt_mul (near : Near x v m) (near' : Near y w n) (finite : x.place < infinityPlace)
    (finite' : y.place < infinityPlace) :
    v * w ≤ valueAt x.place * valueAt y.place * slack ^ (m + n) := by
  calc v * w
      ≤ (valueAt x.place * slack ^ m) * (valueAt y.place * slack ^ n) :=
        mul_le_mul (near.lower finite) (near'.lower finite') near'.value_pos.le
          (near.value_pos.le.trans (near.lower finite))
    _ = valueAt x.place * valueAt y.place * slack ^ (m + n) := by rw [pow_add]; ring

/-- The roundings of a product are those of its factors and one more. -/
theorem mul (near : Near x v m) (near' : Near y w n) : Near (x * y) (v * w) (m + n + 1) := by
  have one_le := near.one_le_valueAt
  have one_le' := near'.one_le_valueAt
  have product := near.valueAt_mul_le near'
  by_cases infinite : (x.isInfinite || y.isInfinite) = true
  · have same : x * y = Double.infinity false := by
      rw [mul_of_isInfinite near.positive near'.positive near.isNaN near'.isNaN infinite,
        near.isZero, near'.isZero]
      rfl
    have great : valueAt infinityPlace ≤ valueAt x.place * valueAt y.place := by
      rcases Bool.or_eq_true_iff.mp infinite with infinite | infinite
      · rw [← eq_of_beq infinite]
        exact le_mul_of_one_le_right (valueAt_nonneg _) one_le'
      · rw [← eq_of_beq infinite]
        exact le_mul_of_one_le_left (valueAt_nonneg _) one_le
    rw [same]
    apply infinity
    calc valueAt infinityPlace
        ≤ v * w * slack ^ (m + n) := great.trans product
      _ ≤ v * w * slack ^ (m + n + 1) :=
          mul_le_mul_of_nonneg_left (pow_le_pow_right₀ one_le_slack (Nat.le_succ _))
            (mul_pos near.value_pos near'.value_pos).le
  · rw [Bool.or_eq_true, not_or] at infinite
    have finite : x.place < infinityPlace :=
      near.number.lt_of_ne fun place => infinite.1 (beq_iff_eq.mpr place)
    have finite' : y.place < infinityPlace :=
      near'.number.lt_of_ne fun place => infinite.2 (beq_iff_eq.mpr place)
    rw [mul_of_isFinite near.positive near'.positive (decide_eq_true finite)
      (decide_eq_true finite')]
    exact round (one_le_mul_of_one_le_of_one_le one_le one_le') product
      (near.le_valueAt_mul near' finite finite')

end Near

/-! ## Repeated squaring -/

theorem place_one : (1 : Double).place = onePlace := by decide +kernel

/-- The loop that computes a power.  What holds of the result so far and of the square at hand, with
    the exponents that they stand for, holds of the power if products keep it. -/
theorem powFrom_induction {R S : Nat → Double → Prop} {limit : Nat}
    (collect : ∀ {i j r s}, R i r → S j s → i + j ≤ limit → R (i + j) (r * s))
    (square : ∀ {j s}, S j s → j + j ≤ limit → S (j + j) (s * s)) {i j : Nat} {r s : Double}
    (first : R i r) (base : S j s) (n : Nat) (small : i + j * n ≤ limit) :
    R (i + j * n) (powFrom r s n) := by
  induction n using Nat.strongRecOn generalizing i j r s with
  | _ n ih =>
    have halves : i + j * n = i + j * (n % 2) + (j + j) * (n / 2) := by
      conv => lhs; rw [← Nat.mod_add_div n 2]
      ring
    rw [halves] at small
    have collected : R (i + j * (n % 2)) (if n % 2 = 1 then r * s else r) := by
      split
      · next odd =>
        rw [odd, Nat.mul_one] at small ⊢
        exact collect first base (by omega)
      · next even => rwa [Nat.mod_two_ne_one.mp even, Nat.mul_zero, Nat.add_zero]
    rw [powFrom, halves]
    by_cases last : n / 2 = 0
    · rw [if_pos last, last, Nat.mul_zero, Nat.add_zero]
      exact collected
    · have again : j + j ≤ limit := by
        have once := Nat.le_mul_of_pos_right (j + j) (Nat.pos_of_ne_zero last)
        omega
      rw [if_neg last]
      exact ih (n / 2) (by omega) collected (square base again) small

/-- A power by `n` has `n` roundings at the most. -/
theorem Near.pow {v : Rat} (near : Near x v 0) (n : Nat) : Near (x.pow n) (v ^ n) n := by
  have one : Near 1 (v ^ 0) 0 := by
    have exact := Near.exact (x := 1) rfl place_one.ge (by decide +kernel)
    rwa [place_one, valueAt_onePlace, ← pow_zero v] at exact
  have whole := powFrom_induction (R := fun i r => Near r (v ^ i) i)
    (S := fun j s => ∃ k, j = k + 1 ∧ Near s (v ^ j) k) ?_ ?_ one ⟨0, rfl, by rwa [pow_one]⟩ n
    le_rfl
  · rwa [Nat.zero_add, Nat.one_mul] at whole
  · rintro i _ r s near ⟨k, rfl, near'⟩ -
    rw [pow_add]
    exact near.mul near'
  · rintro _ s ⟨k, rfl, near⟩ -
    refine ⟨k + k + 1, by omega, ?_⟩
    rw [pow_add]
    exact near.mul near

/-! ## Bases close to one -/

/-- A number so many places behind one. -/
structure IsBehindOne (x : Double) (offset : Nat) : Prop where
  positive : x.negative = false
  place : x.place = onePlace + offset

theorem valueAt_onePlace_add {offset : Nat} (small : offset ≤ 2 ^ 52) :
    valueAt (onePlace + offset) = 1 + offset / 2 ^ 52 := by
  have shift : ((2 : Rat) ^ oneShift) ≠ 0 := by positivity
  have bits : (2 : Rat) ^ unitBits = 2 ^ 52 * 2 ^ oneShift := by exact_mod_cast two_pow_unitBits
  rw [valueAt, units_onePlace_add small, bits, Nat.cast_mul, Nat.cast_pow, Nat.cast_ofNat,
    mul_div_mul_right _ _ shift, Nat.cast_add, Nat.cast_pow, Nat.cast_ofNat, add_div,
    div_self (by positivity)]

namespace IsBehindOne

variable {a b k n : Nat}

theorem place_lt (behind : IsBehindOne x a) (small : a ≤ 2 ^ 25) : x.place < infinityPlace := by
  rw [behind.place, onePlace, infinityPlace, Nat.pow_eq]
  omega

/-- Of the product of two numbers close to one, what goes beyond the sum of their offsets is less
    than half of the distance to the next place. -/
theorem mul (behind : IsBehindOne x a) (behind' : IsBehindOne y b) (small : a + b ≤ 2 ^ 25) :
    IsBehindOne (x * y) (a + b) := by
  have product : valueAt x.place * valueAt y.place =
      1 + (a + b : Nat) / 2 ^ 52 + (a * b : Nat) / 2 ^ 104 := by
    rw [behind.place, behind'.place, valueAt_onePlace_add (by omega),
      valueAt_onePlace_add (by omega)]
    push_cast
    ring
  have rest : ((a * b : Nat) : Rat) / 2 ^ 104 ≤ 1 / 2 ^ 54 := by
    have bound : a * b ≤ 2 ^ 25 * 2 ^ 25 := Nat.mul_le_mul (by omega) (by omega)
    have cast : ((a * b : Nat) : Rat) ≤ 2 ^ 25 * 2 ^ 25 := by exact_mod_cast bound
    rw [div_le_div_iff₀ (by positivity) (by positivity)]
    linarith only [cast]
  have nonneg : (0 : Rat) ≤ (a * b : Nat) / 2 ^ 104 := by positivity
  have finite := decide_eq_true (behind.place_lt (by omega))
  have finite' := decide_eq_true (behind'.place_lt (by omega))
  rw [mul_of_isFinite behind.positive behind'.positive finite finite', product]
  generalize ((a * b : Nat) : Rat) / 2 ^ 104 = r at rest nonneg
  have value := valueAt_onePlace_add (show a + b ≤ 2 ^ 52 by omega)
  have next : valueAt (onePlace + (a + b) + 1) = valueAt (onePlace + (a + b)) + 1 / 2 ^ 52 := by
    rw [Nat.add_assoc, valueAt_onePlace_add (by omega), value, Nat.cast_add_one, add_div, add_assoc]
  have before : valueAt (onePlace + (a + b) - 1) < valueAt (onePlace + (a + b)) :=
    valueAt_lt_iff.mpr (Nat.sub_one_lt (by rw [onePlace]; omega))
  have one_le : 1 ≤ valueAt (onePlace + (a + b)) :=
    valueAt_onePlace ▸ valueAt_le_iff.mpr (Nat.le_add_right _ _)
  have rounded : ofRat false (valueAt (onePlace + (a + b)) + r) =
      atPlace false (onePlace + (a + b)) :=
    ofRat_eq_atPlace (by linarith) (by linarith) (by linarith)
  have inRange : onePlace + (a + b) ≤ infinityPlace := by
    rw [onePlace, infinityPlace, Nat.pow_eq]
    omega
  rw [← value, rounded]
  exact ⟨rfl, Nat.min_eq_left inRange⟩

/-- The powers of a number close to one are as many times as far from it. -/
theorem pow (behind : IsBehindOne x k) (small : k * n ≤ 2 ^ 25) :
    IsBehindOne (x.pow n) (k * n) := by
  have one : IsBehindOne 1 0 := ⟨rfl, place_one⟩
  have whole := powFrom_induction (R := fun i r => IsBehindOne r i)
    (S := fun j s => IsBehindOne s j) (fun first second => first.mul second)
    (fun square => square.mul square) one behind n (by omega)
  rwa [Nat.zero_add] at whole

end IsBehindOne

/-! ## Powers grow -/

theorem one_le_of_not_less (number : x.isNaN = false) (notBelow : x.less 1 = false) :
    x.negative = false ∧ onePlace ≤ x.place := by
  have one : (1 : Double).key = onePlace := by decide +kernel
  have finite : (1 : Double).isFinite = true := by decide +kernel
  have order := key_le_of_not_less number finite notBelow
  have positive : 0 < onePlace := by decide
  rw [one, key] at order
  cases sign : x.negative with
  | true =>
    rw [if_pos sign] at order
    omega
  | false =>
    rw [if_neg (by simp [sign])] at order
    exact ⟨rfl, Int.ofNat_le.mp order⟩

/-- A number that is further behind one than all roundings take. -/
theorem slack_pow_le {offset n : Nat} (far : 64 < offset) (small : n ≤ 127) :
    slack ^ n ≤ valueAt (onePlace + offset) := by
  have bound : slack ^ 127 ≤ 1 + 65 / 2 ^ 52 := by
    rw [slack]
    norm_num
  calc slack ^ n ≤ slack ^ 127 := pow_le_pow_right₀ one_le_slack small
    _ ≤ valueAt (onePlace + 65) := by
      rw [valueAt_onePlace_add (by norm_num)]
      exact_mod_cast bound
    _ ≤ valueAt (onePlace + offset) := valueAt_le_iff.mpr (by omega)

theorem pow_place_le_succ {n : Nat} (finite : x.isFinite = true) (notBelow : x.less 1 = false)
    (small : n < 64) : (x.pow n).place ≤ (x.pow (n + 1)).place := by
  obtain ⟨positive, above⟩ := one_le_of_not_less (isNaN_of_isFinite finite) notBelow
  obtain ⟨offset, place⟩ := Nat.exists_eq_add_of_le above
  by_cases close : offset ≤ 64
  · -- Close to one the offsets of the powers are multiples.
    have behind : IsBehindOne x offset := ⟨positive, place⟩
    have bound : offset * (n + 1) ≤ 64 * 64 := Nat.mul_le_mul close small
    have bound' : offset * n ≤ offset * (n + 1) := Nat.mul_le_mul_left _ (Nat.le_succ n)
    rw [(behind.pow (show offset * n ≤ 2 ^ 25 by omega)).place,
      (behind.pow (show offset * (n + 1) ≤ 2 ^ 25 by omega)).place]
    exact Nat.add_le_add_left bound' _
  · -- Further away one more factor outgrows the roundings of both powers.
    have near := Near.exact positive above (of_decide_eq_true finite).le
    have lower := near.pow n
    have upper := near.pow (n + 1)
    by_cases cut : (x.pow (n + 1)).place < infinityPlace
    · have base : slack ^ (n + (n + 1)) ≤ valueAt x.place := by
        rw [place]
        exact slack_pow_le (by omega) (by omega)
      have value := near.value_pos
      have scaled : valueAt (x.pow n).place * slack ^ (n + 1) ≤
          valueAt (x.pow (n + 1)).place * slack ^ (n + 1) := by
        calc valueAt (x.pow n).place * slack ^ (n + 1)
            ≤ valueAt x.place ^ n * slack ^ n * slack ^ (n + 1) :=
              mul_le_mul_of_nonneg_right lower.upper (pow_pos slack_pos _).le
          _ = valueAt x.place ^ n * slack ^ (n + (n + 1)) := by rw [mul_assoc, ← pow_add]
          _ ≤ valueAt x.place ^ n * valueAt x.place :=
              mul_le_mul_of_nonneg_left base (pow_pos value n).le
          _ = valueAt x.place ^ (n + 1) := (pow_succ _ _).symm
          _ ≤ _ := upper.lower cut
      exact valueAt_le_iff.mp (le_of_mul_le_mul_right scaled (pow_pos slack_pos _))
    · exact lower.number.trans (Nat.not_lt.mp cut)

/-- The powers of a finite number of at least one do not fall, roundings or not. -/
theorem pow_place_le {m n : Nat} (finite : x.isFinite = true) (notBelow : x.less 1 = false)
    (order : m ≤ n) (small : n ≤ 64) : (x.pow m).place ≤ (x.pow n).place := by
  induction n, order using Nat.le_induction with
  | base => exact le_rfl
  | succ n _ ih =>
    exact (ih (by omega)).trans (pow_place_le_succ finite notBelow (by omega))

end Compositor.Double
