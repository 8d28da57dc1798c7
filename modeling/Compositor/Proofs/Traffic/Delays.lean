import Compositor.Proofs.Double.Powers
import Compositor.Settings.Basic

/-! # How long pauses get

A pause is computed with doubles: a power of the multiplier, times the first pause, cut at the
longest one.  Of all this only the place of the product counts (`delayAfter_eq`), and it does not
fall from one attempt to the next.  That holds also where the power overflows, as what is not a
number has a place behind infinity.

Two things are not as the settings have it.  The longest pause is rounded to a double, so that a
pause may be a little longer than it (`RetryPolicy.ceiling`).  And if the first pause is no time at
all, then its product with a power that overflows is not a number, and what is left is the longest
pause.
-/

namespace Compositor

namespace RetryPolicy

variable (p : RetryPolicy) {a b : Nat}

/-- The power of the multiplier after an attempt. -/
def growth (attempt : Nat) : Double := p.multiplier.pow (Nat.min (attempt - 1) exponentLimit)

/-- The longest pause as a double has it. -/
def ceiling : Nat := (Double.ofNat p.maxDelay).toNatUpTo longestTime

/-- The multiplier is such that pauses do not shrink. -/
structure Grows : Prop where
  finite : p.multiplier.isFinite = true
  notBelow : p.multiplier.less 1 = false

theorem grows_of_fault? {s : Settings} (valid : s.fault? = none) : s.fetch.retry.Grows := by
  simp only [Settings.fault?, ite_eq_iff, reduceCtorEq, and_false, false_or, and_true,
    Bool.not_eq_true, Bool.or_eq_false_iff, Bool.not_eq_false'] at valid
  obtain ⟨-, -, -, -, -, finite, notBelow⟩ := valid
  exact ⟨finite, notBelow⟩

namespace Grows

variable {p}

theorem near (grows : p.Grows) (attempt : Nat) :
    ∃ v n, Double.Near (p.growth attempt) v n := by
  obtain ⟨positive, above⟩ :=
    Double.one_le_of_not_less (Double.isNaN_of_isFinite grows.finite) grows.notBelow
  exact ⟨_, _, (Double.Near.exact positive above (of_decide_eq_true grows.finite).le).pow _⟩

theorem place_growth_le (grows : p.Grows) (order : a ≤ b) :
    (p.growth a).place ≤ (p.growth b).place :=
  Double.pow_place_le grows.finite grows.notBelow
    (min_le_min_right exponentLimit (Nat.sub_le_sub_right order 1)) (Nat.min_le_right _ _)

theorem place_grown_le (grows : p.Grows) (order : a ≤ b) :
    (Double.ofNat p.initialDelay * p.growth a).place ≤
      (Double.ofNat p.initialDelay * p.growth b).place := by
  obtain ⟨_, _, near⟩ := grows.near a
  obtain ⟨_, _, near'⟩ := grows.near b
  exact Double.place_mul_le_place_mul rfl (Double.isNaN_atPlace _ _) near.positive near.isZero
    near'.positive near'.isNaN (grows.place_growth_le order)

end Grows

theorem delayAfter_eq (attempt : Nat) :
    p.delayAfter attempt = (((Double.ofNat p.initialDelay * p.growth attempt).min
      (Double.ofNat p.maxDelay)).max 0).toNatUpTo longestTime := rfl

/-- What is turned into a time has the place of the product or that of the longest pause, whichever
    is lower. -/
theorem Grows.exists_delayAfter_eq {p : RetryPolicy} (grows : p.Grows) (attempt : Nat) :
    ∃ x : Double, x.negative = false ∧ x.isNaN = false ∧
      x.place = Nat.min (Double.ofNat p.initialDelay * p.growth attempt).place
        (Double.ofNat p.maxDelay).place ∧
      p.delayAfter attempt = x.toNatUpTo longestTime := by
  obtain ⟨_, _, near⟩ := grows.near attempt
  have positive := Double.negative_mul (x := Double.ofNat p.initialDelay) rfl near.positive
  have longest : (Double.ofNat p.maxDelay).isNaN = false := Double.isNaN_atPlace _ _
  obtain ⟨sign, place⟩ := Double.place_min positive (y := Double.ofNat p.maxDelay) rfl longest
  have number : ((Double.ofNat p.initialDelay * p.growth attempt).min
      (Double.ofNat p.maxDelay)).isNaN = false := by
    rw [Double.isNaN_eq_false_iff, place]
    exact (Nat.min_le_right _ _).trans (Double.isNaN_eq_false_iff.mp longest)
  refine ⟨_, sign, number, place, ?_⟩
  rw [delayAfter_eq, Double.max_zero sign number]

/-! ## The longest pause -/

theorem ceiling_le : p.ceiling ≤ p.maxDelay + p.maxDelay / 2 ^ 53 := by
  have far : longestTime ≤ Double.units Double.infinityPlace / 2 ^ Double.unitBits := by
    decide +kernel
  exact (Double.toNatUpTo_le_wholePart far).trans (Double.wholePart_ofNat_le p.maxDelay)

/-- A longest pause of fifty-three bits is not rounded. -/
theorem ceiling_eq (small : p.maxDelay ≤ 2 ^ 53) : p.ceiling = p.maxDelay := by
  have finite := Double.isInfinite_of_isFinite (Double.isFinite_ofNat (small.trans (by decide)))
  have number : (Double.ofNat p.maxDelay).isNaN = false := Double.isNaN_atPlace _ _
  have sign : (Double.ofNat p.maxDelay).negative = false := rfl
  rw [ceiling, Double.toNatUpTo, number, sign, finite, Double.wholePart_ofNat small]
  exact Nat.min_eq_left (small.trans (by decide))

/-! ## Pauses -/

namespace Grows

variable {p}

theorem delayAfter_le_delayAfter (grows : p.Grows) (order : a ≤ b) :
    p.delayAfter a ≤ p.delayAfter b := by
  obtain ⟨x, -, -, place, delay⟩ := grows.exists_delayAfter_eq a
  obtain ⟨y, positive, number, place', delay'⟩ := grows.exists_delayAfter_eq b
  rw [delay, delay']
  refine Double.toNatUpTo_le_toNatUpTo longestTime positive number ?_
  rw [place, place']
  exact min_le_min_right _ (grows.place_grown_le order)

theorem delayAfter_le_ceiling (grows : p.Grows) (attempt : Nat) :
    p.delayAfter attempt ≤ p.ceiling := by
  obtain ⟨x, -, -, place, delay⟩ := grows.exists_delayAfter_eq attempt
  rw [delay, ceiling]
  refine Double.toNatUpTo_le_toNatUpTo longestTime rfl (Double.isNaN_atPlace _ _) ?_
  rw [place]
  exact Nat.min_le_right _ _

/-- Where the power overflows, no time at all becomes the longest pause: the product is not a
    number, and is passed over. -/
theorem delayAfter_of_isInfinite (grows : p.Grows) (nothing : p.initialDelay = 0) {attempt : Nat}
    (infinite : (p.growth attempt).isInfinite = true) : p.delayAfter attempt = p.ceiling := by
  obtain ⟨_, _, near⟩ := grows.near attempt
  obtain ⟨x, positive, number, place, delay⟩ := grows.exists_delayAfter_eq attempt
  have product : Double.ofNat p.initialDelay * p.growth attempt = Double.nan := by
    have zero := Double.isZero_ofNat_zero
    rw [nothing, Double.mul_of_isInfinite rfl near.positive (Double.isNaN_of_isZero zero)
      near.isNaN (by rw [infinite, Bool.or_true]), zero]
    rfl
  have longest : (Double.ofNat p.maxDelay).isNaN = false := Double.isNaN_atPlace _ _
  have same : x.place = (Double.ofNat p.maxDelay).place := by
    rw [place, product]
    exact Nat.min_eq_right ((Double.isNaN_eq_false_iff.mp longest).trans (by decide))
  rw [delay]
  exact Nat.le_antisymm (Double.toNatUpTo_le_toNatUpTo longestTime rfl longest same.le)
    (Double.toNatUpTo_le_toNatUpTo longestTime positive number same.ge)

/-- Until then it stays no time at all. -/
theorem delayAfter_of_not_isInfinite (grows : p.Grows) (nothing : p.initialDelay = 0)
    {attempt : Nat} (bounded : ¬ (p.growth attempt).isInfinite = true) :
    p.delayAfter attempt = 0 := by
  obtain ⟨_, _, near⟩ := grows.near attempt
  obtain ⟨x, -, -, place, delay⟩ := grows.exists_delayAfter_eq attempt
  have zero := Double.isZero_ofNat_zero
  have finite : (Double.ofNat 0).isFinite = true := by decide +kernel
  have finite' := (Double.isFinite_or_isInfinite near.isNaN).resolve_right bounded
  have product : (Double.ofNat 0 * p.growth attempt).place = 0 := by
    have value : Double.valueAt (Double.ofNat 0).place = 0 := by
      rw [Double.place_eq_zero zero, Double.valueAt, Double.units_zero, Nat.cast_zero, zero_div]
    rw [Double.mul_of_isFinite rfl near.positive finite finite', value, zero_mul]
    exact Double.place_eq_zero (Double.isZero_ofRat_zero false)
  rw [nothing, product] at place
  rw [delay]
  exact Double.toNatUpTo_of_isZero longestTime (beq_iff_eq.mpr (place.trans (Nat.zero_min _)))

end Grows

/-- Pauses do not shrink, and are not longer than the longest one, for all settings without a
    fault.  The longest pause is meant as a double has it: up to `2 ^ 53` milliseconds as it is, and
    beyond that with at most one in `2 ^ 53` more.  If the first pause is no time at all, then no
    pause is any time, unless the power of the multiplier overflows: those pauses are the longest
    ones. -/
theorem delayAfter_bounded {s : Settings} (valid : s.fault? = none) {a b : Nat} (order : a ≤ b) :
    let p := s.fetch.retry
    p.delayAfter a ≤ p.delayAfter b ∧ p.delayAfter b ≤ p.ceiling ∧
      (p.maxDelay ≤ 2 ^ 53 → p.ceiling = p.maxDelay) ∧
      p.ceiling ≤ p.maxDelay + p.maxDelay / 2 ^ 53 ∧
      (p.initialDelay = 0 →
        p.delayAfter b = if (p.growth b).isInfinite then p.ceiling else 0) := by
  intro p
  have grows : p.Grows := grows_of_fault? valid
  refine ⟨grows.delayAfter_le_delayAfter order, grows.delayAfter_le_ceiling b, p.ceiling_eq,
    p.ceiling_le, fun nothing => ?_⟩
  split
  · exact grows.delayAfter_of_isInfinite nothing ‹_›
  · exact grows.delayAfter_of_not_isInfinite nothing ‹_›

/-- Settings with another retry policy. -/
def standardWith (p : RetryPolicy) : Settings :=
  { Settings.standard with fetch := { FetchSettings.standard with retry := p } }

/-- A multiplier whose power overflows after thirty-two attempts. -/
theorem delayAfter_bounded_steep :
    let s := standardWith ⟨100, 20, 60000, Double.ofNat (10 ^ 10)⟩
    s.fault? = none ∧ 2 ≤ 40 ∧ s.fetch.retry.delayAfter 2 ≤ s.fetch.retry.delayAfter 40 ∧
      s.fetch.retry.delayAfter 40 ≤ 60000 := by
  intro s
  have valid : s.fault? = none := by decide +kernel
  obtain ⟨growing, bounded, exact, -, -⟩ := delayAfter_bounded valid (show 2 ≤ 40 by decide)
  rw [exact (by decide)] at bounded
  exact ⟨valid, by decide, growing, bounded⟩

/-- A pause that is longer than the longest one, and a pause where no time at all should pass. -/
theorem delayAfter_bounded_rounded :
    let s := standardWith ⟨3, 500, 2 ^ 53 + 3, 2⟩
    let t := standardWith ⟨100, 0, 30000, Double.ofNat (10 ^ 10)⟩
    (s.fault? = none ∧ s.fetch.retry.maxDelay < s.fetch.retry.delayAfter 64) ∧
      t.fault? = none ∧ t.fetch.retry.initialDelay = 0 ∧ t.fetch.retry.delayAfter 33 = 30000 := by
  decide +kernel

end RetryPolicy

end Compositor
