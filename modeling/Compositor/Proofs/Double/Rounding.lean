import Mathlib.Tactic.Linarith
import Mathlib.Tactic.Ring
import Mathlib.Tactic.Positivity
import Mathlib.Order.Monotone.Basic
import Mathlib.Algebra.Order.Ring.Nat
import Compositor.Double.Text

/-! # Rounding to places

The values that round to a place form an interval.  Its ends lie halfway to the neighbours and
belong to it exactly if the place is even.
-/

namespace Compositor.Double

/-! ## Units -/

theorem units_of_lt {place : Nat} (first : place < 2 ^ 52) : units place = place := by
  rw [units, Nat.pow_eq, Nat.div_eq_of_lt first, if_pos rfl]

/-- The first place of the run that follows may be written as the end of a run. -/
theorem units_add {digits : Nat} (low : 2 ^ 52 ≤ digits) (high : digits ≤ 2 ^ 53) (shift : Nat) :
    units (digits + shift * 2 ^ 52) = digits * 2 ^ shift := by
  simp only [units, Nat.pow_eq]
  by_cases last : digits = 2 ^ 53
  · have run : (digits + shift * 2 ^ 52) / 2 ^ 52 = shift + 2 := by omega
    have offset : (digits + shift * 2 ^ 52) % 2 ^ 52 = 0 := by omega
    rw [run, offset, if_neg (by omega), last, Nat.add_zero, Nat.add_sub_cancel (shift + 1) 1]
    ring
  · have run : (digits + shift * 2 ^ 52) / 2 ^ 52 = shift + 1 := by omega
    have offset : (digits + shift * 2 ^ 52) % 2 ^ 52 = digits - 2 ^ 52 := by omega
    rw [run, offset, if_neg (by omega), Nat.add_sub_cancel' low, Nat.add_sub_cancel]

theorem units_lt_succ (place : Nat) : units place < units (place + 1) := by
  by_cases first : place < 2 ^ 52
  · rw [units_of_lt first]
    by_cases last : place + 1 < 2 ^ 52
    · rw [units_of_lt last]
      omega
    · have next : units (place + 1 + 0 * 2 ^ 52) = (place + 1) * 2 ^ 0 :=
        units_add (by omega) (by omega) 0
      rw [Nat.zero_mul, Nat.pow_zero, Nat.mul_one, Nat.add_zero] at next
      omega
  · obtain ⟨digits, shift, low, high, rfl⟩ : ∃ digits shift,
        2 ^ 52 ≤ digits ∧ digits < 2 ^ 53 ∧ digits + shift * 2 ^ 52 = place :=
      ⟨place % 2 ^ 52 + 2 ^ 52, place / 2 ^ 52 - 1, by omega, by omega, by omega⟩
    rw [Nat.add_right_comm, units_add low high.le, units_add (by omega) high]
    exact Nat.mul_lt_mul_of_pos_right (by omega) (by positivity)

theorem units_strictMono : StrictMono units := strictMono_nat_of_lt_succ units_lt_succ

@[simp] theorem units_zero : units 0 = 0 := rfl

theorem units_pos {place : Nat} (positive : 0 < place) : 0 < units place :=
  units_strictMono positive

theorem units_placeBelow_le (count : Nat) :
    units (placeBelow count) ≤ count ∧ count < units (placeBelow count + 1) := by
  simp only [placeBelow, Nat.pow_eq]
  by_cases small : count.log2 ≤ 52
  · -- Up to `2 ^ 53` units every count is a value.
    have same : units count = count := by
      by_cases first : count < 2 ^ 52
      · exact units_of_lt first
      · have bound : count < 2 ^ 53 :=
          Nat.lt_log2_self.trans_le (Nat.pow_le_pow_right (by decide) (by omega))
        have run : units (count + 0 * 2 ^ 52) = count * 2 ^ 0 := units_add (by omega) bound.le 0
        simpa using run
    have next := units_lt_succ count
    simp only [Nat.sub_eq_zero_of_le small, Nat.pow_zero, Nat.div_one, Nat.zero_mul, Nat.add_zero]
    omega
  · obtain ⟨shift, split⟩ := Nat.exists_eq_add_of_le (Nat.le_of_lt (Nat.not_le.mp small))
    have positive : 0 < 2 ^ shift := by positivity
    have lower : 2 ^ 52 * 2 ^ shift ≤ count := by
      rw [← Nat.pow_add, ← split]
      exact Nat.log2_self_le (by rintro rfl; simp at small)
    have upper : count < 2 ^ 53 * 2 ^ shift := by
      rw [← Nat.pow_add, show 53 + shift = count.log2 + 1 by omega]
      exact Nat.lt_log2_self
    have low : 2 ^ 52 ≤ count / 2 ^ shift := (Nat.le_div_iff_mul_le positive).mpr lower
    have high : count / 2 ^ shift < 2 ^ 53 := (Nat.div_lt_iff_lt_mul positive).mpr upper
    rw [show count.log2 - 52 = shift by omega, units_add low high.le, Nat.add_right_comm,
      units_add (by omega) high]
    exact ⟨Nat.div_mul_le_self _ _, by
      rw [Nat.mul_comm]
      exact Nat.lt_mul_div_succ _ positive⟩

/-! ## Intervals -/

/-- A fraction of units lies in the interval of the values that round to a place.  The ends of
    the interval count halves of a unit. -/
structure RoundsTo (num den place : Nat) : Prop where
  lower : lowerEnd place * den ≤ 2 * num
  upper : 2 * num ≤ upperEnd place * den
  /-- The neighbours of an odd place take the ends. -/
  inner : place % 2 = 1 → lowerEnd place * den < 2 * num ∧ 2 * num < upperEnd place * den

theorem lowerEnd_succ (place : Nat) : lowerEnd (place + 1) = upperEnd place := by
  rw [lowerEnd, upperEnd, Nat.add_sub_cancel]

theorem upperEnd_lt_lowerEnd {p q : Nat} (below : p + 1 < q) : upperEnd p < lowerEnd q := by
  have next : units (p + 1) < units q := units_strictMono below
  have same : units p ≤ units (q - 1) := units_strictMono.monotone (by omega)
  simp only [upperEnd, lowerEnd]
  omega

section Nearest

variable {num den place num' den' place' : Nat}

theorem roundsTo_nearestPlace (num : Nat) (positive : 0 < den) :
    RoundsTo num den (nearestPlace num den) := by
  obtain ⟨low, high⟩ := units_placeBelow_le (num / den)
  simp only [nearestPlace]
  rw [← upperEnd]
  generalize placeBelow (num / den) = p at low high
  have atLeast : units p * den ≤ num := (Nat.le_div_iff_mul_le positive).mp low
  have lessThan : num < units (p + 1) * den := (Nat.div_lt_iff_lt_mul positive).mp high
  have lower : lowerEnd p * den ≤ 2 * num := by
    have before := Nat.mul_le_mul_right den (units_strictMono.monotone (Nat.sub_le p 1))
    rw [lowerEnd, Nat.add_mul]
    omega
  have lowerOdd : p % 2 = 1 → lowerEnd p * den < 2 * num := by
    intro odd
    have before := Nat.mul_lt_mul_of_pos_right (units_strictMono (by omega : p - 1 < p)) positive
    rw [lowerEnd, Nat.add_mul]
    omega
  have upper : 2 * num < upperEnd (p + 1) * den := by
    have after := Nat.mul_lt_mul_of_pos_right (units_lt_succ (p + 1)) positive
    rw [upperEnd, Nat.add_mul]
    omega
  -- The fraction lies between two neighbours, left or right of the middle or on it.
  split
  · next left => exact ⟨lower, left.le, fun odd => ⟨lowerOdd odd, left⟩⟩
  · split
    · next right =>
      rw [← lowerEnd_succ] at right
      exact ⟨right.le, upper.le, fun _ => ⟨right, upper⟩⟩
    · next notLeft notRight =>
      have middle : 2 * num = upperEnd p * den := Nat.le_antisymm (Nat.not_lt.mp notRight)
        (Nat.not_lt.mp notLeft)
      split
      · next even => exact ⟨lower, middle.le, by omega⟩
      · next odd =>
        rw [← lowerEnd_succ] at middle
        exact ⟨middle.ge, upper.le, by omega⟩

/-- Rounding is monotone: an end that two intervals share belongs to the even one of them. -/
theorem RoundsTo.le_of_le (rounds : RoundsTo num den place) (rounds' : RoundsTo num' den' place')
    (ordered : num * den' ≤ num' * den) (positive : 0 < den) (positive' : 0 < den') :
    place ≤ place' := by
  by_contra above
  have above : place' < place := Nat.not_le.mp above
  have area : 0 < den * den' := Nat.mul_pos positive positive'
  have lower : lowerEnd place * (den * den') ≤ 2 * (num * den') := by
    linarith only [Nat.mul_le_mul_right den' rounds.lower]
  have upper : 2 * (num' * den) ≤ upperEnd place' * (den * den') := by
    linarith only [Nat.mul_le_mul_right den rounds'.upper]
  by_cases neighbours : place = place' + 1
  · -- The intervals meet in one point, and one of the two places is odd and does not own it.
    have shared : lowerEnd place = upperEnd place' := neighbours ▸ lowerEnd_succ place'
    rw [shared] at lower
    by_cases odd : place % 2 = 1
    · have strict := Nat.mul_lt_mul_of_pos_right (rounds.inner odd).1 positive'
      rw [shared] at strict
      linarith only [strict, ordered, upper]
    · have strict := Nat.mul_lt_mul_of_pos_right (rounds'.inner (by omega)).2 positive
      linarith only [strict, ordered, lower]
  · have apart := Nat.mul_lt_mul_of_pos_right
      (upperEnd_lt_lowerEnd (by omega : place' + 1 < place)) area
    linarith only [apart, ordered, lower, upper]

theorem RoundsTo.scale (rounds : RoundsTo num den place) {factor : Nat} (positive : 0 < factor) :
    RoundsTo (num * factor) (den * factor) place where
  lower := by
    rw [← Nat.mul_assoc, ← Nat.mul_assoc]
    exact Nat.mul_le_mul_right factor rounds.lower
  upper := by
    rw [← Nat.mul_assoc, ← Nat.mul_assoc]
    exact Nat.mul_le_mul_right factor rounds.upper
  inner := by
    intro odd
    rw [← Nat.mul_assoc, ← Nat.mul_assoc, ← Nat.mul_assoc]
    exact ⟨Nat.mul_lt_mul_of_pos_right (rounds.inner odd).1 positive,
      Nat.mul_lt_mul_of_pos_right (rounds.inner odd).2 positive⟩

theorem nearestPlace_eq_iff (positive : 0 < den) :
    nearestPlace num den = place ↔ RoundsTo num den place := by
  have nearest := roundsTo_nearestPlace num positive
  constructor
  · rintro rfl
    exact nearest
  · intro rounds
    exact Nat.le_antisymm (nearest.le_of_le rounds le_rfl positive positive)
      (rounds.le_of_le nearest le_rfl positive positive)

theorem nearestPlace_le_nearestPlace (positive : 0 < den) (positive' : 0 < den')
    (ordered : num * den' ≤ num' * den) : nearestPlace num den ≤ nearestPlace num' den' :=
  (roundsTo_nearestPlace num positive).le_of_le (roundsTo_nearestPlace num' positive') ordered
    positive positive'

/-- The value at a place rounds to the place. -/
theorem nearestPlace_units (place : Nat) : nearestPlace (units place) 1 = place := by
  have before := units_strictMono.monotone (Nat.sub_le place 1)
  have after := units_lt_succ place
  refine (nearestPlace_eq_iff Nat.one_pos).mpr ⟨?_, ?_, fun odd => ⟨?_, ?_⟩⟩
  · rw [lowerEnd]
    omega
  · rw [upperEnd]
    omega
  · have strictly := units_strictMono (by omega : place - 1 < place)
    rw [lowerEnd]
    omega
  · rw [upperEnd]
    omega

/-- What is at least one unit does not round to zero. -/
theorem nearestPlace_pos (positive : 0 < den) (unit : den ≤ num) : 0 < nearestPlace num den := by
  have one : nearestPlace (units 1) 1 = 1 := nearestPlace_units 1
  have ordered : nearestPlace (units 1) 1 ≤ nearestPlace num den :=
    nearestPlace_le_nearestPlace Nat.one_pos positive (by
      rw [units_of_lt (by decide)]
      omega)
  omega

end Nearest

end Compositor.Double
