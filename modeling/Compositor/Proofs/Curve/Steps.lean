import Compositor.Proofs.Curve.Sampling

/-! # Samples at keyframes

Points at one time are a step, and a curve is sampled after the step.  The two notions of time that
a curve has do not agree on the zeros: the order that sorts the points has negative zero before
zero, while both are one time when lines are searched.  So it is the last point of the greatest
time in the sorting order that counts, and of several such points the one that came last
(`TextProperty.sample_curve_time`).
-/

namespace Compositor

open Double

/-! ## Orders of doubles -/

namespace Double

variable {x y : Double}

theorem totalKey_le_of_totalLe (ordered : x.totalLe y = true) : x.totalKey ≤ y.totalKey :=
  of_decide_eq_true ordered

theorem key_le_of_totalKey_le (ordered : x.totalKey ≤ y.totalKey) : x.key ≤ y.key := by
  simp only [totalKey, key] at ordered ⊢
  split at ordered <;> split at ordered <;> simp_all
  omega

theorem eq_of_totalKey_eq (equal : x.totalKey = y.totalKey) : x = y := by
  obtain ⟨sign, place, _⟩ := x
  obtain ⟨sign', place', _⟩ := y
  cases sign <;> cases sign' <;> simp [totalKey] at equal ⊢ <;> omega

theorem same_symm (equal : x.same y = true) : y.same x = true := by
  simp only [same, Bool.and_eq_true, beq_iff_eq] at equal ⊢
  exact ⟨equal.1.symm, equal.2.symm⟩

theorem totalLe_refl (x : Double) : x.totalLe x = true := decide_eq_true le_rfl

/-- Finite numbers are sorted by size. -/
theorem less_of_totalLe {t : Double} (finite : y.isFinite = true) (ordered : x.totalLe y = true)
    (below : t.less x = true) : t.less y = true := by
  obtain ⟨number, keys⟩ := key_lt_of_less below
  have above := key_le_of_totalKey_le (totalKey_le_of_totalLe ordered)
  simp [less, number, isNaN_of_isFinite finite, keys.trans_le above]

end Double

instance : LawfulCurveNumber Double where
  sortLe_trans _ _ _ first second :=
    decide_eq_true ((totalKey_le_of_totalLe first).trans (totalKey_le_of_totalLe second))
  sortLe_total x y := by
    have ordered := le_total x.totalKey y.totalKey
    simpa [CurveNumber.sortLe, totalLe] using ordered
  less_congr t x y together := by
    have together : x.same y = true := together
    have keys := key_eq_of_same together
    simp only [same, Bool.and_eq_true, Bool.not_eq_true'] at together
    show t.less x = t.less y
    rw [less, less, keys, together.1.1, together.1.2]

/-- Where a line starts it has the value that it starts from, even if it lasts so long that its
    span overflows. -/
theorem Segment.alike_valueAt_start {s : Segment Double} (start : s.start.isFinite = true)
    (finish : s.finish.isFinite = true) (apart : s.finish.key ≠ s.start.key)
    (source : s.source.isFinite = true) (delta : s.delta.isFinite = true) :
    Alike (s.valueAt s.start) s.source := by
  have number : s.span.isNaN = false := isNaN_add finish (isNaN_of_isFinite (isFinite_neg start))
  have nothing := isZero_mul delta (isZero_sub_self start)
  exact alike_add source (isZero_div nothing number (isZero_sub finish start apart))

namespace Curve

variable {points before after : List (CurvePoint Double)} {a : CurvePoint Double}

/-- Of the points that the time of a point has reached, the last one is at that very time. -/
theorem time_eq_of_reached {lower upper : List (CurvePoint Double)} {z : CurvePoint Double}
    (finite : ∀ p ∈ before ++ a :: after, IsFinitePoint p)
    (earlier : ∀ p ∈ before, p.time.same a.time = true → p.time.totalLe a.time = true)
    (later : ∀ p ∈ after, p.time.same a.time = true → a.time.totalLe p.time = false)
    (ordered : sorted (before ++ a :: after) = (lower ++ [z]) ++ upper) (reached : a ∈ lower ++ [z])
    (early : a.time.less z.time = false) : z.time = a.time := by
  have among : z ∈ before ++ a :: after := mem_sorted.mp (by simp [ordered])
  have finiteA := (finite a (by simp)).1
  have finiteZ := (finite z among).1
  have above : a.time.totalLe z.time = true := by
    have pairs := pairwise_sorted (before ++ a :: after)
    rw [ordered, List.pairwise_append, List.pairwise_append] at pairs
    rcases List.mem_append.mp reached with mem | mem
    · exact pairs.1.2.2 a mem z (by simp)
    · rw [List.mem_singleton.mp mem]
      exact totalLe_refl _
  -- Behind the point and reached by its time, the last one can differ by the sign of zero only.
  have level : z.time.same a.time = true := by
    have keys := le_antisymm (key_le_of_not_less (isNaN_of_isFinite finiteA) finiteZ early)
      (key_le_of_totalKey_le (totalKey_le_of_totalLe above))
    simp [same, isNaN_of_isFinite finiteA, isNaN_of_isFinite finiteZ, keys]
  rcases List.mem_append.mp among with mem | mem
  · have below := earlier z mem level
    exact eq_of_totalKey_eq (le_antisymm (totalKey_le_of_totalLe below)
      (totalKey_le_of_totalLe above))
  · rcases List.mem_cons.mp mem with rfl | mem
    · rfl
    · simp [later z mem level] at above

/-- The point that counts at its time is the last one that the time has reached. -/
theorem exists_sorted_split (finite : ∀ p ∈ before ++ a :: after, IsFinitePoint p)
    (earlier : ∀ p ∈ before, p.time.same a.time = true → p.time.totalLe a.time = true)
    (later : ∀ p ∈ after, p.time.same a.time = true → a.time.totalLe p.time = false) :
    ∃ lower upper, sorted (before ++ a :: after) = lower ++ a :: upper ∧
      (∀ p ∈ lower ++ [a], CurveNumber.less a.time p.time = false) ∧
      ∀ p ∈ upper, CurveNumber.less a.time p.time = true := by
  have upward : (sorted (before ++ a :: after)).Pairwise fun p q =>
      CurveNumber.less a.time p.time = true → CurveNumber.less a.time q.time = true :=
    (pairwise_sorted _).imp_of_mem fun _ memQ ordered =>
      less_of_totalLe (finite _ (mem_sorted.mp memQ)).1 ordered
  obtain ⟨lower, upper, ordered, early, late⟩ :=
    exists_split (fun p : CurvePoint Double => CurveNumber.less a.time p.time) upward
  have itself : CurveNumber.less a.time a.time = false := less_of_key_le le_rfl
  have reached : a ∈ lower := by
    have mem : a ∈ lower ++ upper := ordered ▸ mem_sorted.mpr (by simp)
    refine (List.mem_append.mp mem).resolve_right fun mem => ?_
    simp [late a mem] at itself
  obtain ⟨lower, z, rfl⟩ := (List.eq_nil_or_concat' lower).resolve_left (List.ne_nil_of_mem reached)
  have equal := time_eq_of_reached finite earlier later ordered reached (early z (by simp))
  -- Points at one and the same time keep their order, so that both lists end with the same one.
  have stable : (lower ++ z :: upper).filter (fun p => p.time = a.time) =
      (before ++ a :: after).filter fun p => p.time = a.time := by
    rw [List.append_assoc, List.singleton_append] at ordered
    rw [← ordered]
    refine filter_sorted _ fun p _ q _ here here' => ?_
    rw [of_decide_eq_true here, of_decide_eq_true here']
    exact totalLe_refl _
  have lastSorted : ((lower ++ z :: upper).filter fun p => p.time = a.time).getLast? = some z := by
    refine getLast?_filter (decide_eq_true equal) fun p mem => decide_eq_false fun here => ?_
    have begun := late p mem
    rw [here, itself] at begun
    cases begun
  have lastCame : ((before ++ a :: after).filter fun p => p.time = a.time).getLast? = some a := by
    refine getLast?_filter (decide_eq_true rfl) fun p mem => decide_eq_false fun here => ?_
    have number := isNaN_of_isFinite (finite a (by simp)).1
    have above := later p mem (by simp [here, same, number])
    rw [here, totalLe_refl] at above
    cases above
  obtain rfl : z = a := Option.some.inj ((lastSorted.symm.trans (congrArg _ stable)).trans lastCame)
  exact ⟨lower, upper, by simpa using ordered, early, late⟩

/-- A sample at a point that counts at its time. -/
theorem same_sample_ofPoints (neutral : Double)
    (finite : ∀ p ∈ before ++ a :: after, IsFinitePoint p)
    (steady : ∀ s ∈ (ofPoints neutral (before ++ a :: after)).segments, s.delta.isFinite = true)
    (earlier : ∀ p ∈ before, p.time.same a.time = true → p.time.totalLe a.time = true)
    (later : ∀ p ∈ after, p.time.same a.time = true → a.time.totalLe p.time = false) :
    ((ofPoints neutral (before ++ a :: after)).sample a.time).same a.value = true := by
  obtain ⟨lower, upper, ordered, early, late⟩ := exists_sorted_split finite earlier later
  have here := finite a (by simp)
  have number := isNaN_of_isFinite here.2
  rw [ofPoints, ordered] at steady ⊢
  rcases sample_reached neutral early late with
    ⟨first, level, sample⟩ | sample | ⟨s, mem, b, memB, rfl, sample⟩
  · have equal : a.value.same first.value = true := level a (by simp)
    rw [sample]
    exact same_symm equal
  · rw [sample]
    exact (Alike.refl a.value).same number
  · have there := finite b (mem_sorted.mp (ordered ▸ by simp [memB]))
    have apart : a.time.key < b.time.key := (key_lt_of_less (late b memB)).2
    rw [sample]
    exact same_symm ((Segment.alike_valueAt_start here.1 there.1 apart.ne' here.2
      (steady _ mem)).symm.same number)

end Curve

namespace TextProperty

/-- The lines of a curve change by differences of values. -/
theorem isFinite_delta (p : TextProperty) {keyframes : List Keyframe}
    (differences : ∀ i ∈ keyframes, ∀ j ∈ keyframes, (p.value j - p.value i).isFinite = true) :
    ∀ s ∈ (p.curve keyframes).segments, s.delta.isFinite = true := by
  intro s mem
  obtain ⟨i, memI, j, memJ, rfl⟩ := exists_of_mem_segments mem
  exact differences i memI j memJ

/-- The curve has the value of a keyframe at the time of the keyframe, unless another keyframe
    there is sorted behind it: a later one at the same time, or one at zero behind one at negative
    zero. -/
theorem sample_curve_time (p : TextProperty) (before after : List Keyframe) (k : Keyframe)
    (finite : ∀ j ∈ before ++ k :: after, j.time.isFinite = true ∧ (p.value j).isFinite = true)
    (steady : ∀ s ∈ (p.curve (before ++ k :: after)).segments, s.delta.isFinite = true)
    (earlier : ∀ j ∈ before, j.time.same k.time = true → j.time.totalLe k.time = true)
    (later : ∀ j ∈ after, j.time.same k.time = true → k.time.totalLe j.time = false) :
    ((p.curve (before ++ k :: after)).sample k.time).same (p.value k) = true := by
  rw [curve, List.map_append, List.map_cons] at steady ⊢
  refine Curve.same_sample_ofPoints p.neutral ?_ steady ?_ ?_
  · rw [← List.map_cons (f := fun k => (⟨k.time, p.value k⟩ : CurvePoint Double)), ← List.map_append]
    exact List.forall_mem_map.mpr finite
  · exact List.forall_mem_map.mpr earlier
  · exact List.forall_mem_map.mpr later

/-- Three keyframes at zero, of which the last one counts, since negative zero came before it. -/
theorem sample_curve_time_steps :
    let before : List Keyframe := [⟨2, 30, 0, 1, 1⟩, ⟨0, 10, 0, 1, 1⟩, ⟨-0, 90, 0, 1, 1⟩]
    ((TextProperty.x.curve (before ++ ⟨0, 20, 0, 1, 1⟩ :: [⟨-1, 0, 0, 1, 1⟩])).sample 0).same 20 =
      true := by
  intro before
  exact sample_curve_time .x before [⟨-1, 0, 0, 1, 1⟩] ⟨0, 20, 0, 1, 1⟩ (by decide +kernel)
    (isFinite_delta .x (by decide +kernel)) (by decide +kernel) (by decide +kernel)

/-- The last keyframe at zero does not count if it is at negative zero and another one is not. -/
theorem sample_curve_time_zeros :
    ¬ ∀ (p : TextProperty) (before after : List Keyframe) (k : Keyframe),
      (∀ j ∈ before ++ k :: after, j.time.isFinite = true ∧ (p.value j).isFinite = true) →
      (∀ s ∈ (p.curve (before ++ k :: after)).segments, s.delta.isFinite = true) →
      (∀ j ∈ after, j.time.same k.time = false) →
      ((p.curve (before ++ k :: after)).sample k.time).same (p.value k) = true := by
  intro law
  have wrong := law .x [⟨0, 1, 0, 1, 1⟩] [] ⟨-0, 2, 0, 1, 1⟩ (by decide +kernel)
    (isFinite_delta .x (by decide +kernel)) (by simp)
  have ordered : Curve.sorted [⟨0, 1⟩, ⟨-0, 2⟩] = ([⟨-0, 2⟩, ⟨0, 1⟩] : List (CurvePoint Double)) := by
    have late : CurveNumber.sortLe (0 : Double) (-0) = false := by decide +kernel
    simp [Curve.sorted, List.mergeSort, List.MergeSort.Internal.splitInTwo, late]
  have value : (TextProperty.x.curve [⟨0, 1, 0, 1, 1⟩, ⟨-0, 2, 0, 1, 1⟩]).sample (-0) = 1 := by
    show (Curve.ofSorted 0 (Curve.sorted [⟨0, 1⟩, ⟨-0, 2⟩])).sample (-0) = 1
    rw [ordered]
    decide +kernel
  rw [List.singleton_append, value] at wrong
  revert wrong
  decide +kernel

end TextProperty

end Compositor
