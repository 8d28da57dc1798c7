import Mathlib.Tactic.NormNum
import Compositor.Proofs.Double.Rounding

/-! # Numerals read back

The text of a finite number is read back as the number itself.  Nothing of this depends on
which of the decimals in the interval of a number is the shortest one.
-/

namespace Compositor

/-! ## Reading decimals -/

namespace Decimal

/-- Reads an unsigned number: digits, and perhaps a point with digits after it. -/
def readFrom (cs : List Char) : Option (Decimal × List Char) :=
  match cs.span Char.isDigit with
  | ([], _) => none
  | (whole, '.' :: cs) =>
    match cs.span Char.isDigit with
    | ([], _) => none
    | (places, cs) => some (⟨Nat.ofDigitChars 10 (whole ++ places) 0, -(places.length : Int)⟩, cs)
  | (whole, cs) => some (⟨Nat.ofDigitChars 10 whole 0, 0⟩, cs)

theorem length_span (p : Char → Bool) (cs : List Char) :
    (cs.span p).1.length + (cs.span p).2.length = cs.length := by
  rw [List.span_eq_takeWhile_dropWhile, ← List.length_append, List.takeWhile_append_dropWhile]

theorem length_readFrom {cs rest : List Char} {d : Decimal} (read : readFrom cs = some (d, rest)) :
    rest.length < cs.length := by
  have length := length_span Char.isDigit cs
  rw [readFrom] at read
  split at read
  · cases read
  · next whole cs' _ scanned =>
    have length' := length_span Char.isDigit cs'
    rw [scanned, List.length_cons] at length
    split at read
    · cases read
    · next scanned' =>
      cases read
      rw [scanned'] at length'
      simp only at length length'
      omega
  · next whole cs' filled _ scanned =>
    cases read
    rw [scanned] at length
    have positive : 0 < whole.length := List.length_pos_iff.mpr filled
    simp only at length
    omega

/-- The double that is meant by a decimal. -/
def value (d : Decimal) : Double := .ofDecimal false d.digits d.exponent

/-- No number goes on here. -/
def Ends (cs : List Char) : Prop := ∀ c ∈ cs.head?, c.isDigit = false ∧ c ≠ '.'

theorem span_append {p : Char → Bool} {front rest : List Char} (all : ∀ c ∈ front, p c = true)
    (stop : ∀ c ∈ rest.head?, p c = false) : (front ++ rest).span p = (front, rest) := by
  have nothing : rest.takeWhile p = [] ∧ rest.dropWhile p = rest := by
    cases rest with
    | nil => exact ⟨rfl, rfl⟩
    | cons c rest => simp [stop c rfl]
  rw [List.span_eq_takeWhile_dropWhile, List.takeWhile_append_of_pos all,
    List.dropWhile_append_of_pos all, nothing.1, nothing.2, List.append_nil]

theorem readFrom_whole {whole rest : List Char} (filled : whole ≠ [])
    (digits : ∀ c ∈ whole, c.isDigit = true) (ends : Ends rest) :
    readFrom (whole ++ rest) = some (⟨Nat.ofDigitChars 10 whole 0, 0⟩, rest) := by
  rw [readFrom, span_append digits fun c mem => (ends c mem).1]
  cases whole with
  | nil => exact absurd rfl filled
  | cons d whole =>
    cases rest with
    | nil => rfl
    | cons c rest =>
      have noPoint : c ≠ '.' := (ends c rfl).2
      split <;> simp_all

theorem readFrom_point {whole places rest : List Char} (filled : whole ≠ []) (filled' : places ≠ [])
    (digits : ∀ c ∈ whole, c.isDigit = true) (digits' : ∀ c ∈ places, c.isDigit = true)
    (ends : Ends rest) :
    readFrom (whole ++ '.' :: (places ++ rest)) =
      some (⟨Nat.ofDigitChars 10 (whole ++ places) 0, -(places.length : Int)⟩, rest) := by
  rw [readFrom, span_append digits (by simp)]
  cases whole with
  | nil => exact absurd rfl filled
  | cons d whole =>
    simp only [span_append digits' fun c mem => (ends c mem).1]

theorem ofDigitChars_replicate_zero (count init : Nat) :
    Nat.ofDigitChars 10 (List.replicate count '0') init = init * 10 ^ count := by
  induction count generalizing init with
  | zero => simp [Nat.ofDigitChars]
  | succ count ih =>
    rw [List.replicate_succ, Nat.ofDigitChars_cons, ih, Nat.pow_succ]
    simp only [Nat.sub_self, Nat.add_zero]
    ring

theorem layout_digits (n count : Nat) :
    ∀ c ∈ List.replicate count '0' ++ Nat.toDigits 10 n, c.isDigit = true := by
  intro c mem
  rcases List.mem_append.mp mem with zero | digit
  · rw [List.eq_of_mem_replicate zero]
    rfl
  · exact Nat.isDigit_of_mem_toDigits (by decide) (by decide) digit

/-- A decimal in positional notation is read as one with the same value. -/
theorem readFrom_layout (d : Decimal) {rest : List Char} (ends : Ends rest) :
    ∃ e : Decimal, readFrom (d.layout ++ rest) = some (e, rest) ∧ e.fraction = d.fraction := by
  have value : ∀ n, Nat.ofDigitChars 10 (Nat.toDigits 10 n) 0 = n := fun n =>
    Nat.ofDigitChars_toDigits (by decide) (by decide)
  by_cases whole : 0 ≤ d.exponent
  · have layout : d.layout =
        Nat.toDigits 10 d.digits ++ List.replicate d.exponent.toNat '0' := by
      rw [Decimal.layout, if_pos whole]
    have digits : ∀ c ∈ d.layout, c.isDigit = true := by
      intro c mem
      rw [layout] at mem
      exact layout_digits d.digits d.exponent.toNat c
        (List.mem_append.mpr (List.mem_append.mp mem).symm)
    refine ⟨_, readFrom_whole ?_ digits ends, ?_⟩
    · simp [layout]
    · rw [layout, Nat.ofDigitChars_append, value, ofDigitChars_replicate_zero]
      simp [fraction, whole]
  · obtain ⟨count, exponent⟩ : ∃ count : Nat, d.exponent = -((count + 1 : Nat) : Int) :=
      ⟨(-d.exponent).toNat - 1, by omega⟩
    -- The zeros in front leave at least one digit before the point.
    generalize padded : List.replicate (count + 1 + 1 - (Nat.toDigits 10 d.digits).length) '0'
      ++ Nat.toDigits 10 d.digits = text
    have layout : d.layout =
        text.take (text.length - (count + 1)) ++ '.' :: text.drop (text.length - (count + 1)) := by
      have places : (-d.exponent).toNat = count + 1 := by omega
      rw [Decimal.layout, if_neg whole]
      simp only [places, padded]
    have long : count + 1 < text.length := by
      rw [← padded, List.length_append, List.length_replicate]
      omega
    have digits : ∀ c ∈ text, c.isDigit = true := padded ▸ layout_digits d.digits _
    have dropped : (text.drop (text.length - (count + 1))).length = count + 1 := by
      rw [List.length_drop]
      omega
    have taken : (text.take (text.length - (count + 1))).length ≠ 0 := by
      rw [List.length_take]
      omega
    have whole : text.take (text.length - (count + 1)) ≠ [] := fun empty => taken (empty ▸ rfl)
    have places : text.drop (text.length - (count + 1)) ≠ [] := fun empty => by simp_all
    have read := readFrom_point whole places (fun c mem => digits c (List.mem_of_mem_take mem))
      (fun c mem => digits c (List.mem_of_mem_drop mem)) ends
    refine ⟨d, ?_, rfl⟩
    rw [layout, List.append_assoc, List.cons_append, read, List.take_append_drop, dropped, ← exponent,
      ← padded, Nat.ofDigitChars_append, ofDigitChars_replicate_zero, Nat.zero_mul, value]

end Decimal

namespace Double

/-! ## The decimals of a place -/

theorem readsBack_iff {place : Nat} {d : Decimal} :
    readsBack place d = true ↔
      RoundsTo (d.fraction.1 * 2 ^ unitBits) d.fraction.2 place := by
  have twice : d.fraction.1 * Nat.pow 2 (unitBits + 1) = 2 * (d.fraction.1 * 2 ^ unitBits) := by
    rw [Nat.pow_eq, Nat.pow_succ]
    ring
  rw [readsBack]
  simp only [twice]
  split
  · next even =>
    simp only [Bool.and_eq_true, decide_eq_true_eq]
    exact ⟨fun ends => ⟨ends.1, ends.2, by omega⟩, fun rounds => ⟨rounds.lower, rounds.upper⟩⟩
  · next odd =>
    simp only [Bool.and_eq_true, decide_eq_true_eq]
    exact ⟨fun ends => ⟨ends.1.le, ends.2.le, fun _ => ends⟩, fun rounds => rounds.inner (by omega)⟩

theorem readsBack_onGrid {place : Nat} {exponent : Int} {d : Decimal}
    (found : onGrid place exponent = some d) : readsBack place d = true := by
  simp only [onGrid] at found
  split at found
  · next below above =>
    split at found <;> cases found
    · exact below
    · exact above
  · next below _ =>
    cases found
    exact below
  · next _ above =>
    cases found
    exact above
  · cases found

theorem readsBack_exact (place : Nat) :
    readsBack place ⟨units place * Nat.pow 5 unitBits, -(unitBits : Int)⟩ = true := by
  have fraction : (⟨units place * Nat.pow 5 unitBits, -(unitBits : Int)⟩ : Decimal).fraction =
      (units place * 5 ^ unitBits, 10 ^ unitBits) := by
    have negative : ¬ (0 : Int) ≤ -(unitBits : Int) := by decide
    rw [Decimal.fraction, if_neg negative, Int.neg_neg, Int.toNat_natCast, Nat.pow_eq, Nat.pow_eq]
  have rounds : RoundsTo (units place) 1 place :=
    (nearestPlace_eq_iff Nat.one_pos).mp (nearestPlace_units place)
  have scaled := rounds.scale (by positivity : 0 < 10 ^ unitBits)
  rw [readsBack_iff, fraction, Nat.mul_assoc, ← Nat.mul_pow, show 5 * 2 = 10 from rfl]
  rwa [Nat.one_mul] at scaled

theorem readsBack_shortest (place : Nat) : readsBack place (shortest place) = true := by
  have walk : ∀ steps exponent, readsBack place (coarsest place exponent steps) = true := by
    intro steps
    induction steps with
    | zero => exact fun exponent => readsBack_exact place
    | succ steps ih =>
      intro exponent
      rw [coarsest]
      split
      · next found => exact readsBack_onGrid found
      · exact ih _
  exact walk _ _

/-! ## Values of decimals -/

theorem units_infinityPlace : units infinityPlace = 2 ^ 1024 * 2 ^ unitBits := by
  have runs : infinityPlace = 2 ^ 52 + 2046 * 2 ^ 52 := by decide
  have exponents : 52 + 2046 = 1024 + unitBits := rfl
  rw [runs, units_add le_rfl (by decide), ← Nat.pow_add, ← Nat.pow_add, exponents]

section Range

variable {num den place : Nat}

/-- What rounds to a finite place is at most two to the power of 1024. -/
theorem RoundsTo.le_range (finite : place < infinityPlace)
    (rounds : RoundsTo (num * 2 ^ unitBits) den place) : num ≤ 2 ^ 1024 * den := by
  have bound : upperEnd place ≤ 2 * units infinityPlace := by
    have here := units_strictMono.monotone finite.le
    have next := units_strictMono.monotone (Nat.succ_le_of_lt finite)
    rw [Nat.succ_eq_add_one] at next
    rw [upperEnd]
    omega
  have upper := rounds.upper.trans (Nat.mul_le_mul_right den bound)
  rw [units_infinityPlace] at upper
  have scale : 0 < 2 ^ unitBits := by positivity
  generalize 2 ^ unitBits = one at upper scale
  generalize 2 ^ 1024 = range at upper ⊢
  refine Nat.le_of_mul_le_mul_right ?_ scale
  linarith only [upper]

/-- What does not round to zero is at least half a unit. -/
theorem RoundsTo.range_le (positive : 0 < place)
    (rounds : RoundsTo (num * 2 ^ unitBits) den place) : den ≤ num * (2 * 2 ^ unitBits) := by
  have unit : 1 ≤ lowerEnd place := by
    have here := units_pos positive
    rw [lowerEnd]
    omega
  have lower := (Nat.mul_le_mul_right den unit).trans rounds.lower
  rwa [Nat.one_mul, Nat.mul_left_comm] at lower

end Range

/-- The powers of ten at the guards of `ofDecimal` lie outside the range of doubles. -/
theorem two_pow_lt_ten_pow {n k : Nat} (small : n < 3 * k) : 2 ^ n < 10 ^ k :=
  calc 2 ^ n < 2 ^ (3 * k) := Nat.pow_lt_pow_right (by decide) small
    _ = 8 ^ k := by rw [Nat.pow_mul]
    _ ≤ 10 ^ k := Nat.pow_le_pow_left (by decide) k

theorem length_toDigits_bounds {n : Nat} (positive : 0 < n) :
    ∃ k, (Nat.toDigits 10 n).length = k + 1 ∧ 10 ^ k ≤ n ∧ n < 10 ^ (k + 1) := by
  have filled : 0 < (Nat.toDigits 10 n).length := Nat.length_toDigits_pos
  obtain ⟨k, length⟩ := Nat.exists_eq_add_of_lt filled
  rw [Nat.zero_add] at length
  refine ⟨k, length, ?_, (Nat.length_toDigits_le_iff (by decide) (by omega)).mp length.le⟩
  cases k with
  | zero => exact positive
  | succ k =>
    by_contra small
    have := (Nat.length_toDigits_le_iff (b := 10) (k := k + 1) (by decide) (by omega)).mpr
      (Nat.not_le.mp small)
    omega

/-- Neither guard of `ofDecimal` holds for a decimal within the range of doubles. -/
theorem value_of_bounds {d : Decimal} (filled : 0 < d.digits)
    (upper : d.fraction.1 ≤ 2 ^ 1024 * d.fraction.2)
    (lower : d.fraction.2 ≤ d.fraction.1 * (2 * 2 ^ unitBits)) :
    d.value = atPlace false (nearestPlace (d.fraction.1 * 2 ^ unitBits) d.fraction.2) := by
  obtain ⟨digits, exponent⟩ := d
  obtain ⟨k, length, low, high⟩ := length_toDigits_bounds filled
  -- The guard gets a name so that its power of ten is never computed.
  obtain ⟨guard, limit⟩ : ∃ guard, guard = 400 := ⟨_, rfl⟩
  have greatest : 2 ^ 1024 < 10 ^ guard := two_pow_lt_ten_pow (by omega)
  have least : 2 * 2 ^ unitBits < 10 ^ guard := by
    have exponent : unitBits + 1 < 3 * guard := by
      rw [unitBits]
      omega
    rw [← Nat.pow_succ']
    exact two_pow_lt_ten_pow exponent
  generalize 2 ^ 1024 = range at upper greatest
  simp only [Decimal.value, ofDecimal, length, Nat.ne_of_gt filled, if_false]
  simp only [Decimal.fraction] at upper lower ⊢
  by_cases whole : 0 ≤ exponent
  · obtain ⟨zeros, rfl⟩ := Int.eq_ofNat_of_zero_le whole
    simp only [whole, if_true, Int.toNat_natCast, Nat.pow_eq, Nat.mul_one] at upper lower ⊢
    have bound : 10 ^ (k + zeros) < 10 ^ guard :=
      calc 10 ^ (k + zeros) = 10 ^ k * 10 ^ zeros := Nat.pow_add ..
        _ ≤ digits * 10 ^ zeros := Nat.mul_le_mul_right _ low
        _ ≤ range := upper
        _ < 10 ^ guard := greatest
    have exponents : k + zeros < guard := (Nat.pow_lt_pow_iff_right (by decide)).mp bound
    rw [if_neg (by omega), if_neg (by omega)]
  · obtain ⟨places, rfl⟩ : ∃ places : Nat, exponent = -(places : Int) :=
      ⟨(-exponent).toNat, by omega⟩
    simp only [whole, if_false, Int.neg_neg, Int.toNat_natCast, Nat.pow_eq] at upper lower ⊢
    have above : 10 ^ k < 10 ^ (guard + places) :=
      calc 10 ^ k ≤ range * 10 ^ places := low.trans upper
        _ < 10 ^ guard * 10 ^ places := Nat.mul_lt_mul_of_pos_right greatest (by positivity)
        _ = 10 ^ (guard + places) := (Nat.pow_add ..).symm
    have below : 10 ^ places < 10 ^ (k + 1 + guard) :=
      calc 10 ^ places ≤ digits * (2 * 2 ^ unitBits) := lower
        _ < 10 ^ (k + 1) * 10 ^ guard := Nat.mul_lt_mul'' high least
        _ = 10 ^ (k + 1 + guard) := (Nat.pow_add ..).symm
    have short : k < guard + places := (Nat.pow_lt_pow_iff_right (by decide)).mp above
    have long : places < k + 1 + guard := (Nat.pow_lt_pow_iff_right (by decide)).mp below
    rw [if_neg (by omega), if_neg (by omega)]

theorem value_eq_of_readsBack {place : Nat} {d : Decimal} (positive : 0 < place)
    (finite : place < infinityPlace) (reads : readsBack place d = true) :
    d.value = atPlace false place := by
  have rounds := readsBack_iff.mp reads
  have lower := rounds.range_le positive
  have den : 0 < d.fraction.2 := by
    rw [Decimal.fraction]
    split
    · exact Nat.one_pos
    · exact Nat.pow_pos (by decide)
  have filled : 0 < d.digits := by
    refine Nat.pos_of_ne_zero fun zero => ?_
    have nothing : d.fraction.1 = 0 := by
      rw [Decimal.fraction, zero]
      split <;> simp
    rw [nothing, Nat.zero_mul] at lower
    omega
  rw [value_of_bounds filled (rounds.le_range finite) lower, (nearestPlace_eq_iff den).mpr rounds]

/-- What is left after a numeral has been read. -/
theorem readFrom_magnitudeText {x : Double} (finite : x.isFinite = true) (filled : x.isZero = false)
    {rest : List Char} (ends : Decimal.Ends rest) :
    ∃ d : Decimal, Decimal.readFrom (x.magnitudeText ++ rest) = some (d, rest) ∧
      d.value = { x with negative := false } := by
  have inRange : x.place < infinityPlace := of_decide_eq_true finite
  have positive : 0 < x.place := Nat.pos_of_ne_zero (by simpa [isZero] using filled)
  have text : x.magnitudeText = (shortest x.place).layout := by
    have bounded : x.isInfinite = false := by simp [isInfinite, inRange.ne]
    rw [magnitudeText, bounded, filled]
    simp
  obtain ⟨d, read, fraction⟩ := Decimal.readFrom_layout (shortest x.place) ends
  have reads : readsBack x.place d = true := by
    rw [readsBack_iff, fraction, ← readsBack_iff]
    exact readsBack_shortest x.place
  refine ⟨d, text ▸ read, ?_⟩
  rw [value_eq_of_readsBack positive inRange reads, atPlace]
  simp [inRange.le]

end Double

end Compositor
