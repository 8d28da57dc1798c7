import Mathlib.Algebra.Order.Field.Rat
import Mathlib.Tactic.FieldSimp
import Compositor.Proofs.Double.Rounding

/-! # Arithmetic up to the sign of zero

A numeral does not tell the two zeros apart.  Sums, products and comparisons do not tell them
apart either, except by the sign of a zero result; quotients do only where the divisor is zero.
-/

namespace Compositor.Double

/-! ## Numbers that are equal up to the sign of zero -/

def Alike (x y : Double) : Prop := x = y ∨ x.isZero = true ∧ y.isZero = true

variable {x y z x' y' : Double}

theorem place_eq_zero (zero : x.isZero = true) : x.place = 0 := eq_of_beq zero

theorem isNaN_of_isZero (zero : x.isZero = true) : x.isNaN = false := by
  simp [isNaN, place_eq_zero zero]

theorem isInfinite_of_isZero (zero : x.isZero = true) : x.isInfinite = false := by
  rw [isInfinite, place_eq_zero zero]
  rfl

theorem toRat_of_isZero (zero : x.isZero = true) : x.toRat = 0 := by
  simp [toRat, place_eq_zero zero]

theorem zero_facts (zero : x.isZero = true) :
    x.isNaN = false ∧ x.isInfinite = false ∧ x.toRat = 0 :=
  ⟨isNaN_of_isZero zero, isInfinite_of_isZero zero, toRat_of_isZero zero⟩

theorem key_of_isZero (zero : x.isZero = true) : x.key = 0 := by
  simp [key, place_eq_zero zero]

@[simp] theorem isZero_neg (x : Double) : (neg x).isZero = x.isZero := rfl

theorem alike_ofRat (negative negative' : Bool) (q : Rat) :
    Alike (ofRat negative q) (ofRat negative' q) := by
  by_cases zero : q.num = 0
  · right
    simp only [ofRat, zero, if_true]
    exact ⟨rfl, rfl⟩
  · left
    simp only [ofRat, zero, if_false]

namespace Alike

theorem refl (x : Double) : Alike x x := .inl rfl

theorem symm (alike : Alike x y) : Alike y x := by
  rcases alike with rfl | ⟨zero, zero'⟩
  · exact .inl rfl
  · exact .inr ⟨zero', zero⟩

theorem trans (alike : Alike x y) (alike' : Alike y z) : Alike x z := by
  rcases alike with rfl | ⟨zero, zero'⟩
  · exact alike'
  · rcases alike' with rfl | ⟨-, zero''⟩
    · exact .inr ⟨zero, zero'⟩
    · exact .inr ⟨zero, zero''⟩

theorem key (alike : Alike x y) : x.key = y.key := by
  rcases alike with rfl | ⟨zero, zero'⟩
  · rfl
  · rw [key_of_isZero zero, key_of_isZero zero']

theorem isNaN (alike : Alike x y) : x.isNaN = y.isNaN := by
  rcases alike with rfl | ⟨zero, zero'⟩
  · rfl
  · rw [isNaN_of_isZero zero, isNaN_of_isZero zero']

theorem less (alike : Alike x x') (alike' : Alike y y') : x.less y = x'.less y' := by
  rw [Double.less, Double.less, alike.isNaN, alike'.isNaN, alike.key, alike'.key]

theorem same (alike : Alike x y) (number : x.isNaN = false) : x.same y = true := by
  rw [Double.same, ← alike.isNaN, ← alike.key, number]
  simp

theorem neg (alike : Alike x y) : Alike (-x) (-y) := by
  rcases alike with rfl | zeros
  · exact .refl _
  · exact .inr zeros

/-- Both operands may be exchanged if each of them may be. -/
theorem congr_both (op : Double → Double → Double)
    (left : ∀ {x x'} y, x.isZero = true → x'.isZero = true → Alike (op x y) (op x' y))
    (right : ∀ x {y y'}, y.isZero = true → y'.isZero = true → Alike (op x y) (op x y'))
    (alike : Alike x x') (alike' : Alike y y') : Alike (op x y) (op x' y') := by
  have first : Alike (op x y) (op x' y) := by
    rcases alike with rfl | ⟨zero, zero'⟩
    · exact .refl _
    · exact left y zero zero'
  have second : Alike (op x' y) (op x' y') := by
    rcases alike' with rfl | ⟨zero, zero'⟩
    · exact .refl _
    · exact right x' zero zero'
  exact first.trans second

/-- Special operands are answered before the signs of zeros count. -/
theorem exceptional {p q : Prop} [Decidable p] [Decidable q] (alike : Alike x y) :
    Alike (if p then x' else if q then y' else x) (if p then x' else if q then y' else y) := by
  split
  · exact .refl _
  · split
    · exact .refl _
    · exact alike

theorem add (alike : Alike x x') (alike' : Alike y y') : Alike (x + y) (x' + y') := by
  refine congr_both Double.add ?_ ?_ alike alike'
  · intro x x' y zero zero'
    simp only [Double.add, zero_facts zero, zero_facts zero', Bool.false_or,
      Bool.false_eq_true, if_false]
    exact exceptional (alike_ofRat _ _ _)
  · intro x y y' zero zero'
    simp only [Double.add, zero_facts zero, zero_facts zero', Bool.or_false,
      Bool.false_and, Bool.false_eq_true, if_false]
    exact exceptional (alike_ofRat _ _ _)

theorem sub (alike : Alike x x') (alike' : Alike y y') : Alike (x - y) (x' - y') :=
  alike.add alike'.neg

theorem mul (alike : Alike x x') (alike' : Alike y y') : Alike (x * y) (x' * y') := by
  refine congr_both Double.mul ?_ ?_ alike alike'
  · intro x x' y zero zero'
    simp only [Double.mul, zero_facts zero, zero_facts zero', zero, zero',
      Bool.false_or, Bool.true_or, if_true]
    exact exceptional (alike_ofRat _ _ _)
  · intro x y y' zero zero'
    simp only [Double.mul, zero_facts zero, zero_facts zero', zero, zero',
      Bool.or_false, Bool.or_true, if_true]
    exact exceptional (alike_ofRat _ _ _)

/-- A divisor that is not zero is the same one. -/
theorem div (alike : Alike x x') (alike' : Alike y y') (divisor : y.isZero = false) :
    Alike (x / y) (x' / y') := by
  have same : y = y' := alike'.resolve_right fun zeros => by simp [divisor] at zeros
  subst same
  rcases alike with rfl | ⟨zero, zero'⟩
  · exact .refl _
  · show Alike (Double.div x y) (Double.div x' y)
    simp only [Double.div, zero_facts zero, zero_facts zero', divisor,
      Bool.false_or, Bool.false_eq_true, if_false]
    split
    · exact .refl _
    · split
      · exact .inr ⟨rfl, rfl⟩
      · exact alike_ofRat _ _ _

end Alike

/-! ## Finite numbers -/

/-- How many units a number counts. -/
def count (x : Double) : Int := if x.negative then -(units x.place : Int) else units x.place

theorem toRat_eq (x : Double) : x.toRat = x.count / 2 ^ unitBits := by
  rw [toRat, count, Rat.mkRat_eq_div, Nat.pow_eq]
  split <;> push_cast <;> ring

theorem count_lt_iff : x.count < y.count ↔ x.key < y.key := by
  have up := units_strictMono.lt_iff_lt (a := x.place) (b := y.place)
  have down := units_strictMono.lt_iff_lt (a := y.place) (b := x.place)
  have left := units_strictMono.le_iff_le (a := x.place) (b := 0)
  have right := units_strictMono.le_iff_le (a := y.place) (b := 0)
  rw [units_zero] at left right
  simp only [count, key]
  split <;> split <;> omega

theorem toRat_lt_iff : x.toRat < y.toRat ↔ x.key < y.key := by
  have one : (0 : Rat) < 2 ^ unitBits := by positivity
  rw [toRat_eq, toRat_eq, div_lt_div_iff_of_pos_right one, Int.cast_lt, count_lt_iff]

theorem toRat_le_iff : x.toRat ≤ y.toRat ↔ x.key ≤ y.key := by
  rw [← not_lt, toRat_lt_iff, not_lt]

theorem isFinite_iff : x.isFinite = true ↔ -(infinityPlace : Int) < x.key ∧ x.key < infinityPlace := by
  rw [isFinite, decide_eq_true_eq, key]
  split <;> omega

theorem isNaN_of_isFinite (finite : x.isFinite = true) : x.isNaN = false := by
  have := of_decide_eq_true finite
  exact decide_eq_false (Nat.not_lt.mpr this.le)

theorem isInfinite_of_isFinite (finite : x.isFinite = true) : x.isInfinite = false := by
  have := of_decide_eq_true finite
  exact beq_eq_false_iff_ne.mpr this.ne

/-! ## Comparisons -/

theorem key_lt_of_less (below : x.less y = true) :
    x.isNaN = false ∧ x.key < y.key := by
  simp only [less, Bool.and_eq_true, Bool.not_eq_true', decide_eq_true_eq] at below
  exact ⟨below.1.1, below.2⟩

theorem key_le_of_not_less (number : x.isNaN = false) (finite : y.isFinite = true)
    (notBelow : x.less y = false) : y.key ≤ x.key := by
  simpa [less, number, isNaN_of_isFinite finite] using notBelow

theorem key_eq_of_same (same : x.same y = true) : x.key = y.key := by
  simp only [Double.same, Bool.and_eq_true, beq_iff_eq] at same
  exact same.2

theorem less_of_key_le (above : y.key ≤ x.key) : x.less y = false := by
  simp [less, above]

/-- Finite numbers are compared by their values. -/
theorem less_iff_toRat_lt (finite : x.isFinite = true) (finite' : y.isFinite = true) :
    x.less y = true ↔ x.toRat < y.toRat := by
  rw [toRat_lt_iff, less, isNaN_of_isFinite finite, isNaN_of_isFinite finite']
  exact decide_eq_true_iff

theorem lessEq_iff_toRat_le (finite : x.isFinite = true) (finite' : y.isFinite = true) :
    x.lessEq y = true ↔ x.toRat ≤ y.toRat := by
  rw [toRat_le_iff, lessEq, isNaN_of_isFinite finite, isNaN_of_isFinite finite']
  exact decide_eq_true_iff

/-! ## Operations -/

theorem isFinite_neg (finite : x.isFinite = true) : (neg x).isFinite = true := finite

theorem toRat_neg (x : Double) : (neg x).toRat = -x.toRat := by
  have opposite : (neg x).count = -x.count := by
    cases sign : x.negative <;> simp [count, neg, sign]
  rw [toRat_eq, toRat_eq, opposite, Int.cast_neg, neg_div]

theorem isNaN_atPlace (negative : Bool) (place : Nat) : (atPlace negative place).isNaN = false :=
  decide_eq_false (Nat.not_lt.mpr (Nat.min_le_right _ _))

theorem isNaN_ofRat (negative : Bool) (q : Rat) : (ofRat negative q).isNaN = false := by
  rw [ofRat]
  split
  · exact isNaN_atPlace _ _
  · exact isNaN_atPlace _ _

theorem isNaN_add (finite : x.isFinite = true) (number : y.isNaN = false) :
    (x + y).isNaN = false := by
  show (add x y).isNaN = false
  simp only [add, isNaN_of_isFinite finite, isInfinite_of_isFinite finite, number, Bool.or_self,
    Bool.false_eq_true, if_false]
  split
  · exact number
  · exact isNaN_ofRat _ _

theorem isNaN_mul (finite : x.isFinite = true) (finite' : y.isFinite = true) :
    (x * y).isNaN = false := by
  show (mul x y).isNaN = false
  simp only [mul, isNaN_of_isFinite finite, isInfinite_of_isFinite finite, isNaN_of_isFinite finite',
    isInfinite_of_isFinite finite', Bool.or_self, Bool.false_eq_true, if_false]
  exact isNaN_ofRat _ _

theorem isNaN_div (number : x.isNaN = false) (finite : y.isFinite = true)
    (divisor : y.isZero = false) : (x / y).isNaN = false := by
  show (div x y).isNaN = false
  simp only [div, number, isNaN_of_isFinite finite, isInfinite_of_isFinite finite, divisor,
    Bool.or_self, Bool.false_eq_true, if_false]
  split
  · exact isNaN_atPlace _ _
  · exact isNaN_ofRat _ _

/-! ## Differences -/

theorem sub_of_isFinite (finite : x.isFinite = true) (finite' : y.isFinite = true) :
    ∃ negative, x - y = ofRat negative (x.toRat - y.toRat) := by
  refine ⟨x.negative && (neg y).negative, ?_⟩
  show add x (neg y) = _
  have number := isNaN_of_isFinite (isFinite_neg finite')
  have bounded := isInfinite_of_isFinite (isFinite_neg finite')
  simp only [add, isNaN_of_isFinite finite, isInfinite_of_isFinite finite, number, bounded,
    Bool.or_self, Bool.false_eq_true, if_false, toRat_neg, sub_eq_add_neg]

/-- Numbers of different size are apart by at least one unit. -/
theorem isZero_sub (finite : x.isFinite = true) (finite' : y.isFinite = true)
    (apart : x.key ≠ y.key) : (x - y).isZero = false := by
  obtain ⟨negative, difference⟩ := sub_of_isFinite finite finite'
  generalize exact : x.toRat - y.toRat = q at difference
  have counts : x.count - y.count ≠ 0 := by
    have below := count_lt_iff (x := x) (y := y)
    have above := count_lt_iff (x := y) (y := x)
    omega
  -- The exact difference is a whole number of units, and not none.
  have whole : q.num * 2 ^ unitBits = (x.count - y.count) * q.den := by
    have scaled : q * 2 ^ unitBits = ((x.count - y.count : Int) : Rat) := by
      rw [← exact, toRat_eq, toRat_eq, ← sub_div, div_mul_cancel₀ _ (by positivity), Int.cast_sub]
    have divided : (q.num : Rat) = q * q.den := (Rat.mul_den_eq_num q).symm
    have product : (q.num : Rat) * 2 ^ unitBits = ((x.count - y.count : Int) : Rat) * q.den := by
      rw [divided, ← scaled]
      ring
    exact_mod_cast product
  have nonzero : q.num ≠ 0 := by
    intro zero
    rw [zero, Int.zero_mul] at whole
    exact (mul_ne_zero counts (by exact_mod_cast q.den_nz)) whole.symm
  have unit : q.den ≤ q.num.natAbs * Nat.pow 2 unitBits := by
    have sizes := congrArg Int.natAbs whole
    rw [Int.natAbs_mul, Int.natAbs_mul, Int.natAbs_pow, Int.natAbs_natCast] at sizes
    rw [Nat.pow_eq, show (2 : Nat) = (2 : Int).natAbs from rfl, sizes]
    exact Nat.le_mul_of_pos_left _ (Int.natAbs_pos.mpr counts)
  have positive := nearestPlace_pos q.den_pos unit
  rw [difference, ofRat, if_neg nonzero, isZero, atPlace]
  have inRange : 0 < infinityPlace := by decide
  exact beq_eq_false_iff_ne.mpr (Nat.ne_of_gt (Nat.lt_min.mpr ⟨positive, inRange⟩))

theorem isFinite_atPlace {negative : Bool} {place : Nat} :
    (atPlace negative place).isFinite = true ↔ place < infinityPlace := by
  rw [isFinite, decide_eq_true_eq]
  exact min_lt_iff.trans (or_iff_left (Nat.lt_irrefl _))

/-- Rounding is monotone in the absolute value. -/
theorem place_ofRat_le_place_ofRat {p q : Rat} {negative negative' : Bool} (nonneg : 0 ≤ p)
    (ordered : p ≤ q) : (ofRat negative p).place ≤ (ofRat negative' q).place := by
  by_cases zero : p.num = 0
  · rw [ofRat, if_pos zero]
    exact Nat.zero_le _
  · have positive : 0 < p.num := lt_of_le_of_ne (Rat.num_nonneg.mpr nonneg) (Ne.symm zero)
    have positive' : 0 < q.num := Rat.num_pos.mpr ((Rat.num_pos.mp positive).trans_le ordered)
    rw [ofRat, ofRat, if_neg zero, if_neg positive'.ne']
    refine min_le_min_right _ (nearestPlace_le_nearestPlace p.den_pos q.den_pos ?_)
    have crossed : p.num.natAbs * q.den ≤ q.num.natAbs * p.den := by
      have products := (Rat.le_iff p q).mp ordered
      zify
      rwa [abs_of_pos positive, abs_of_pos positive']
    rw [Nat.mul_right_comm, Nat.mul_right_comm q.num.natAbs]
    exact Nat.mul_le_mul_right _ crossed

theorem isFinite_ofRat_of_le {p q : Rat} {negative negative' : Bool} (nonneg : 0 ≤ p) (ordered : p ≤ q)
    (finite : (ofRat negative q).isFinite = true) : (ofRat negative' p).isFinite = true :=
  decide_eq_true
    ((place_ofRat_le_place_ofRat nonneg ordered).trans_lt (of_decide_eq_true finite))

/-- Whole numbers of sixty-four bits are far from the greatest double. -/
theorem isFinite_ofInt {i : Int} (small : i.natAbs ≤ Nat.pow 2 64) : (ofInt i).isFinite = true := by
  have nothing : 0 < infinityPlace := by decide
  have greatest : nearestPlace (Nat.pow 2 64 * Nat.pow 2 unitBits) 1 < infinityPlace := by
    decide +kernel
  have monotone {m n : Nat} (ordered : m ≤ n) : nearestPlace m 1 ≤ nearestPlace n 1 :=
    nearestPlace_le_nearestPlace one_pos one_pos (Nat.mul_le_mul_right 1 ordered)
  rw [ofInt, ofRat, Rat.num_intCast, Rat.den_intCast]
  split
  · exact isFinite_atPlace.mpr nothing
  · exact isFinite_atPlace.mpr ((monotone (Nat.mul_le_mul_right _ small)).trans_lt greatest)

theorem isFinite_sub_of_between (finite : x.isFinite = true) (finite' : z.isFinite = true)
    (after : x.key ≤ y.key) (before : y.key < z.key) (span : (z - x).isFinite = true) :
    (y - x).isFinite = true := by
  have between : y.isFinite = true := by
    rw [isFinite_iff] at finite finite' ⊢
    omega
  obtain ⟨negative, difference⟩ := sub_of_isFinite finite' finite
  obtain ⟨negative', difference'⟩ := sub_of_isFinite between finite
  rw [difference']
  rw [difference] at span
  refine isFinite_ofRat_of_le ?_ ?_ span
  · exact sub_nonneg.mpr (toRat_le_iff.mpr after)
  · exact sub_le_sub_right (toRat_lt_iff.mpr before).le _

/-! ## Operations with zeros -/

theorem isZero_ofRat_zero (negative : Bool) : (ofRat negative 0).isZero = true := rfl

theorem isZero_sub_self (finite : x.isFinite = true) : (x - x).isZero = true := by
  obtain ⟨negative, difference⟩ := sub_of_isFinite finite finite
  rw [difference, sub_self]
  exact isZero_ofRat_zero negative

theorem isZero_mul (finite : x.isFinite = true) (zero : y.isZero = true) :
    (x * y).isZero = true := by
  show (mul x y).isZero = true
  simp only [mul, isNaN_of_isFinite finite, isInfinite_of_isFinite finite, zero_facts zero,
    Bool.or_self, Bool.false_eq_true, if_false, mul_zero]
  exact isZero_ofRat_zero _

/-- Also if the divisor is infinite. -/
theorem isZero_div (zero : x.isZero = true) (number : y.isNaN = false) (divisor : y.isZero = false) :
    (x / y).isZero = true := by
  show (div x y).isZero = true
  simp only [div, zero_facts zero, number, divisor, Bool.or_self, Bool.false_eq_true, if_false,
    zero_div]
  split
  · rfl
  · exact isZero_ofRat_zero _

/-- A number times its units, counted without rounding. -/
theorem num_toRat (x : Double) : x.toRat.num * 2 ^ unitBits = x.count * x.toRat.den := by
  have product : (x.toRat.num : Rat) * 2 ^ unitBits = (x.count : Rat) * x.toRat.den := by
    rw [← Rat.mul_den_eq_num x.toRat, mul_right_comm]
    nth_rewrite 1 [toRat_eq]
    rw [div_mul_cancel₀ _ (by positivity)]
  exact_mod_cast product

theorem toRat_neg_iff : x.toRat < 0 ↔ x.key < 0 := by
  have below := toRat_lt_iff (x := x) (y := zero false)
  rwa [toRat_of_isZero (x := zero false) rfl, key_of_isZero (x := zero false) rfl] at below

theorem toRat_eq_zero_iff : x.toRat = 0 ↔ x.key = 0 := by
  have above := toRat_lt_iff (x := zero false) (y := x)
  rw [toRat_of_isZero (x := zero false) rfl, key_of_isZero (x := zero false) rfl] at above
  rw [← not_iff_not, ← ne_eq, ne_iff_lt_or_gt, toRat_neg_iff, above]
  omega

/-- The value of a finite number rounds to the number itself, except for the sign of zero. -/
theorem alike_ofRat_toRat (finite : x.isFinite = true) (negative : Bool) :
    Alike (ofRat negative x.toRat) x := by
  by_cases zero : x.isZero = true
  · rw [toRat_of_isZero zero]
    exact .inr ⟨isZero_ofRat_zero negative, zero⟩
  · left
    have some : x.place ≠ 0 := by simpa [isZero] using zero
    have size : x.count.natAbs = units x.place := by
      rw [count]
      split <;> omega
    have rounded : nearestPlace (x.toRat.num.natAbs * Nat.pow 2 unitBits) x.toRat.den = x.place := by
      have sizes := congrArg Int.natAbs (num_toRat x)
      rw [Int.natAbs_mul, Int.natAbs_mul, Int.natAbs_pow, Int.natAbs_natCast, size] at sizes
      rw [Nat.pow_eq, show (2 : Nat) = (2 : Int).natAbs from rfl, sizes]
      have exact := (nearestPlace_eq_iff Nat.one_pos).mp (nearestPlace_units x.place)
      have scaled := exact.scale x.toRat.den_pos
      rw [Nat.one_mul] at scaled
      exact (nearestPlace_eq_iff x.toRat.den_pos).mpr scaled
    have sign : decide (x.toRat.num < 0) = x.negative := by
      have below : x.toRat.num < 0 ↔ x.key < 0 := Rat.num_neg.trans toRat_neg_iff
      rw [key] at below
      cases sign : x.negative with
      | true =>
        rw [if_pos sign] at below
        exact decide_eq_true (by omega)
      | false =>
        rw [if_neg (Bool.eq_false_iff.mp sign)] at below
        exact decide_eq_false (by omega)
    have nonzero : x.toRat.num ≠ 0 := by
      rw [Rat.num_ne_zero, ne_eq, toRat_eq_zero_iff, key]
      split <;> omega
    have cut : Nat.min x.place infinityPlace = x.place := Nat.min_eq_left (of_decide_eq_true finite).le
    rw [ofRat, if_neg nonzero, rounded, sign]
    cases x
    simp only [atPlace, mk.injEq, true_and]
    exact cut

theorem alike_add (finite : x.isFinite = true) (zero : y.isZero = true) : Alike (x + y) x := by
  show Alike (add x y) x
  simp only [add, isNaN_of_isFinite finite, isInfinite_of_isFinite finite, zero_facts zero,
    Bool.or_self, Bool.false_eq_true, if_false, add_zero]
  exact alike_ofRat_toRat finite _

end Compositor.Double
