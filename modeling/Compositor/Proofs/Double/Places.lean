import Compositor.Proofs.Double.Arithmetic

/-! # Operations on places

Numbers without a sign are ordered by their places, and what is not a number stands behind
infinity.  Products, the smaller of two numbers and the integer part keep that order.
-/

namespace Compositor.Double

variable {x y z : Double}

/-- The value at a place, also past the greatest finite double. -/
def valueAt (place : Nat) : Rat := units place / 2 ^ unitBits

theorem two_pow_unitBits_pos : (0 : Rat) < 2 ^ unitBits := by positivity

theorem valueAt_le_iff {p q : Nat} : valueAt p ≤ valueAt q ↔ p ≤ q := by
  rw [valueAt, valueAt, div_le_div_iff_of_pos_right two_pow_unitBits_pos, Nat.cast_le,
    units_strictMono.le_iff_le]

theorem valueAt_lt_iff {p q : Nat} : valueAt p < valueAt q ↔ p < q := by
  rw [← not_le, valueAt_le_iff, not_le]

theorem valueAt_nonneg (place : Nat) : 0 ≤ valueAt place :=
  div_nonneg (Nat.cast_nonneg _) two_pow_unitBits_pos.le

theorem toRat_eq_valueAt (positive : x.negative = false) : x.toRat = valueAt x.place := by
  rw [toRat_eq, count, positive, valueAt]
  simp

theorem key_of_positive (positive : x.negative = false) : x.key = x.place := by
  rw [key, positive]
  rfl

theorem isNaN_eq_false_iff : x.isNaN = false ↔ x.place ≤ infinityPlace := by
  rw [isNaN, decide_eq_false_iff_not, Nat.not_lt]

/-! ## Products -/

theorem mul_of_isFinite (positive : x.negative = false) (positive' : y.negative = false)
    (finite : x.isFinite = true) (finite' : y.isFinite = true) :
    x * y = ofRat false (valueAt x.place * valueAt y.place) := by
  show Double.mul x y = _
  simp only [Double.mul, isNaN_of_isFinite finite, isNaN_of_isFinite finite',
    isInfinite_of_isFinite finite, isInfinite_of_isFinite finite', positive, positive',
    toRat_eq_valueAt positive, toRat_eq_valueAt positive', Bool.or_self, Bool.false_eq_true,
    if_false, bne_self_eq_false]

theorem mul_of_isInfinite (positive : x.negative = false) (positive' : y.negative = false)
    (number : x.isNaN = false) (number' : y.isNaN = false)
    (infinite : (x.isInfinite || y.isInfinite) = true) :
    x * y = if x.isZero || y.isZero then nan else infinity false := by
  show Double.mul x y = _
  simp only [Double.mul, number, number', infinite, positive, positive', Bool.or_self,
    Bool.false_eq_true, if_false, if_true, bne_self_eq_false]

theorem isFinite_or_isInfinite (number : x.isNaN = false) :
    x.isFinite = true ∨ x.isInfinite = true := by
  rw [isNaN_eq_false_iff] at number
  rw [isFinite, decide_eq_true_eq, isInfinite, beq_iff_eq]
  exact number.lt_or_eq

theorem negative_ofRat {q : Rat} (nonneg : 0 ≤ q) : (ofRat false q).negative = false := by
  rw [ofRat]
  split
  · rfl
  · exact decide_eq_false (not_lt.mpr (Rat.num_nonneg.mpr nonneg))

theorem negative_mul (positive : x.negative = false) (positive' : y.negative = false) :
    (x * y).negative = false := by
  show (Double.mul x y).negative = false
  simp only [Double.mul, positive, positive', toRat_eq_valueAt positive,
    toRat_eq_valueAt positive', bne_self_eq_false]
  split
  · rfl
  · split
    · split <;> rfl
    · exact negative_ofRat (mul_nonneg (valueAt_nonneg _) (valueAt_nonneg _))

/-- The greater factor gives the greater product, if what is not a number is taken as greater than
    all numbers. -/
theorem place_mul_le_place_mul (positive : x.negative = false) (number : x.isNaN = false)
    (positive' : y.negative = false) (filled : y.isZero = false) (positive'' : z.negative = false)
    (number' : z.isNaN = false) (order : y.place ≤ z.place) : (x * y).place ≤ (x * z).place := by
  have number'' : y.isNaN = false :=
    isNaN_eq_false_iff.mpr (order.trans (isNaN_eq_false_iff.mp number'))
  have filled' : z.isZero = false := by
    have := beq_eq_false_iff_ne.mp filled
    exact beq_eq_false_iff_ne.mpr (by omega)
  by_cases infinite : (x.isInfinite || z.isInfinite) = true
  · rw [mul_of_isInfinite positive positive'' number number' infinite, filled']
    by_cases infinite' : (x.isInfinite || y.isInfinite) = true
    · rw [mul_of_isInfinite positive positive' number number'' infinite', filled]
    · rw [Bool.or_eq_true, not_or] at infinite'
      have finite := (isFinite_or_isInfinite number).resolve_right infinite'.1
      have finite' := (isFinite_or_isInfinite number'').resolve_right infinite'.2
      rw [mul_of_isFinite positive positive' finite finite']
      refine (isNaN_eq_false_iff.mp (isNaN_ofRat _ _)).trans ?_
      split <;> decide
  · rw [Bool.or_eq_true, not_or] at infinite
    have finite := (isFinite_or_isInfinite number).resolve_right infinite.1
    have finite' := (isFinite_or_isInfinite number').resolve_right infinite.2
    have finite'' : y.isFinite = true := decide_eq_true (order.trans_lt (of_decide_eq_true finite'))
    rw [mul_of_isFinite positive positive' finite finite'',
      mul_of_isFinite positive positive'' finite finite']
    exact place_ofRat_le_place_ofRat (mul_nonneg (valueAt_nonneg _) (valueAt_nonneg _))
      (mul_le_mul_of_nonneg_left (valueAt_le_iff.mpr order) (valueAt_nonneg _))

/-! ## Cutting -/

/-- What is not a number is passed over, as if it were greater than all numbers. -/
theorem place_min (positive : x.negative = false) (positive' : y.negative = false)
    (number : y.isNaN = false) :
    (x.min y).negative = false ∧ (x.min y).place = Nat.min x.place y.place := by
  have inside := isNaN_eq_false_iff.mp number
  rw [Double.min, number]
  by_cases numeral : x.isNaN = true
  · rw [if_pos numeral]
    have := of_decide_eq_true numeral
    exact ⟨positive', (Nat.min_eq_right (by omega)).symm⟩
  · rw [if_neg numeral, if_neg (by simp), less, number, Bool.eq_false_iff.mpr numeral,
      key_of_positive positive, key_of_positive positive']
    by_cases below : y.place < x.place
    · rw [if_pos (by simpa using below)]
      exact ⟨positive', (Nat.min_eq_right below.le).symm⟩
    · rw [if_neg (by simpa using below)]
      exact ⟨positive, (Nat.min_eq_left (Nat.not_lt.mp below)).symm⟩

theorem max_zero (positive : x.negative = false) (number : x.isNaN = false) : x.max 0 = x := by
  have zero : (0 : Double).isNaN = false ∧ (0 : Double).key = 0 := by decide +kernel
  have nonneg : ¬ x.key < 0 := by
    rw [key_of_positive positive]
    omega
  rw [Double.max, number, zero.1, less, zero.2, decide_eq_false nonneg, Bool.and_false]
  rfl

theorem toNatUpTo_le_toNatUpTo (limit : Nat) (positive : y.negative = false)
    (number : y.isNaN = false) (order : x.place ≤ y.place) :
    x.toNatUpTo limit ≤ y.toNatUpTo limit := by
  have inside := isNaN_eq_false_iff.mp number
  rw [toNatUpTo, toNatUpTo, positive, number]
  by_cases infinite : y.isInfinite = true
  · rw [infinite]
    split
    · exact Nat.zero_le _
    · split
      · exact le_rfl
      · exact Nat.min_le_right _ _
  · have finite := of_decide_eq_true ((isFinite_or_isInfinite number).resolve_right infinite)
    have finite' : x.isFinite = true := decide_eq_true (order.trans_lt finite)
    rw [Bool.eq_false_iff.mpr infinite, isInfinite_of_isFinite finite']
    split
    · exact Nat.zero_le _
    · exact min_le_min_right limit
        (Nat.div_le_div_right (units_strictMono.monotone order))

theorem wholePart_eq (x : Double) : x.wholePart = units x.place / 2 ^ unitBits := by
  simp only [wholePart, Nat.pow_eq]

/-- The integer part is not cut by a limit that infinity exceeds. -/
theorem toNatUpTo_le_wholePart {limit : Nat}
    (far : limit ≤ units infinityPlace / 2 ^ unitBits) :
    x.toNatUpTo limit ≤ x.wholePart := by
  rw [toNatUpTo]
  split
  · exact Nat.zero_le _
  · split
    · next infinite =>
      rw [wholePart_eq, eq_of_beq infinite]
      exact far
    · exact Nat.min_le_left _ _

theorem toNatUpTo_of_isZero (limit : Nat) (zero : x.isZero = true) : x.toNatUpTo limit = 0 := by
  have nothing : x.wholePart = 0 := by
    rw [wholePart, place_eq_zero zero, units_zero, Nat.zero_div]
  rw [toNatUpTo, isInfinite_of_isZero zero, nothing]
  split
  · rfl
  · exact Nat.zero_min limit

/-! ## Whole numbers -/

theorem isZero_ofNat_zero : (ofNat 0).isZero = true := by decide +kernel

/-- A whole number of fifty-three bits is a double. -/
theorem exists_units_eq {n : Nat} (small : n ≤ 2 ^ 53) :
    ∃ place, place ≤ infinityPlace ∧ units place = n * 2 ^ unitBits := by
  rcases Nat.eq_zero_or_pos n with rfl | positive
  · exact ⟨0, Nat.zero_le _, by simp⟩
  · obtain ⟨l, bits, low, high⟩ : ∃ l ≤ 52, 2 ^ l ≤ n ∧ n ≤ 2 ^ (l + 1) := by
      by_cases last : n = 2 ^ 53
      · exact ⟨52, le_rfl, by omega, last.le⟩
      · have less : n.log2 < 53 := (Nat.log2_lt positive.ne').mpr (by omega)
        exact ⟨n.log2, by omega, Nat.log2_self_le positive.ne', Nat.lt_log2_self.le⟩
    obtain ⟨rest, exact⟩ := Nat.exists_eq_add_of_le bits
    have lower : 2 ^ 52 ≤ n * 2 ^ rest := by
      rw [exact, Nat.pow_add]
      exact Nat.mul_le_mul_right _ low
    have upper : n * 2 ^ rest ≤ 2 ^ 53 := by
      rw [show 53 = l + 1 + rest by omega, Nat.pow_add]
      exact Nat.mul_le_mul_right _ high
    refine ⟨n * 2 ^ rest + (unitBits - rest) * 2 ^ 52, ?_, ?_⟩
    · rw [unitBits, infinityPlace, Nat.pow_eq]
      omega
    · rw [units_add lower upper, Nat.mul_assoc, ← Nat.pow_add, Nat.add_sub_cancel' ?_]
      rw [unitBits]
      omega

theorem wholePart_ofNat {n : Nat} (small : n ≤ 2 ^ 53) : (ofNat n).wholePart = n := by
  obtain ⟨place, inRange, value⟩ := exists_units_eq small
  have rounded : (ofNat n).place = place := by
    show Nat.min (nearestPlace (n * Nat.pow 2 unitBits) 1) infinityPlace = place
    rw [Nat.pow_eq, ← value, nearestPlace_units]
    exact Nat.min_eq_left inRange
  rw [wholePart_eq, rounded]
  exact Nat.div_eq_of_eq_mul_left (Nat.two_pow_pos unitBits) value

theorem ofNat_eq_ofRat {n : Nat} (positive : 0 < n) : ofNat n = ofRat false n := by
  have some : ((n : Rat)).num ≠ 0 := by
    rw [Rat.num_natCast]
    omega
  rw [ofNat, ofRat, if_neg some, Rat.num_natCast, Rat.den_natCast, Int.natAbs_natCast,
    decide_eq_false (by omega)]

theorem isFinite_ofNat {n : Nat} (small : n ≤ 2 ^ 64) : (ofNat n).isFinite = true := by
  rcases Nat.eq_zero_or_pos n with rfl | positive
  · decide +kernel
  · rw [ofNat_eq_ofRat positive]
    exact isFinite_ofInt (i := n) small

end Compositor.Double
