import Compositor.Proofs.Curve.Lines
import Mathlib.Algebra.Order.Field.Rat
import Mathlib.Order.Bounds.Basic
import Mathlib.Tactic.FieldSimp
import Mathlib.Tactic.Linarith
import Mathlib.Tactic.Ring

/-! # Curves with exact numbers

With exact numbers a curve is the interpolation of its points (`Curve.Interpolates`), whatever
order they come in and however many of them are at one time: of those, the first one that came is
where the line before them ends, and the last one is where the line after them starts.

The relation is read off the points as they came.  It knows nothing of sorting, of the lines that
are left out or of the shortcuts to a constant curve.
-/

namespace Compositor

instance : LawfulCurveNumber Rat where
  sortLe_trans _ _ _ first second :=
    decide_eq_true ((of_decide_eq_true first).trans (of_decide_eq_true second))
  sortLe_total x y := by
    have ordered := le_total x y
    simpa [CurveNumber.sortLe] using ordered
  less_congr t x y together := by rw [of_decide_eq_true together]

theorem less_rat {x y : Rat} : CurveNumber.less x y = true ↔ x < y := decide_eq_true_iff

theorem not_less_rat {x y : Rat} : CurveNumber.less x y = false ↔ y ≤ x :=
  decide_eq_false_iff_not.trans not_lt

namespace Curve

/-! ## Interpolation -/

/-- The times at which there are points. -/
def times (points : List (CurvePoint Rat)) : Set Rat := {time | ∃ p ∈ points, p.time = time}

/-- The values at a time, in the order that the points came in. -/
def valuesAt (points : List (CurvePoint Rat)) (time : Rat) : List Rat :=
  (points.filter fun p => p.time = time).map (·.value)

/-- The value at a time of the interpolation of points with at least two times. -/
inductive Follows (points : List (CurvePoint Rat)) (t : Rat) : Rat → Prop where
  | before {a v : Rat} (least : IsLeast (times points) a) (early : t < a)
    (first : (valuesAt points a).head? = some v) : Follows points t v
  | after {z v : Rat} (greatest : IsGreatest (times points) z) (late : z ≤ t)
    (last : (valuesAt points z).getLast? = some v) : Follows points t v
  /-- The point at the time is on the straight line between its neighbours. -/
  | between {a b v w y : Rat} (latest : IsGreatest {time ∈ times points | time ≤ t} a)
    (next : IsLeast {time ∈ times points | t < time} b)
    (last : (valuesAt points a).getLast? = some v) (first : (valuesAt points b).head? = some w)
    (line : (y - v) * (b - a) = (w - v) * (t - a)) : Follows points t y

/-- The value at a time of the interpolation of points, or the neutral value if there are none. -/
inductive Interpolates (neutral : Rat) (points : List (CurvePoint Rat)) (t : Rat) : Rat → Prop where
  | nothing (empty : points = []) : Interpolates neutral points t neutral
  | together {a v : Rat} (only : ∀ p ∈ points, p.time = a)
    (last : (valuesAt points a).getLast? = some v) : Interpolates neutral points t v
  | apart {p q : CurvePoint Rat} {y : Rat} (left : p ∈ points) (right : q ∈ points)
    (differ : p.time ≠ q.time) (follows : Follows points t y) : Interpolates neutral points t y

variable {neutral t y y' : Rat} {a b first last : CurvePoint Rat}
  {points lower upper rest : List (CurvePoint Rat)}

theorem mem_times (mem : a ∈ points) : a.time ∈ times points := ⟨a, mem, rfl⟩

/-- A reached time and a time to come keep the cases of an interpolation apart. -/
theorem Follows.unique (follows : Follows points t y) (follows' : Follows points t y') : y = y' := by
  -- Of two different cases, one has a time reached that is still to come in the other.
  cases follows with
  | before least early first =>
    cases follows' with
    | before least' _ first' =>
      rw [least.unique least', first'] at first
      exact (Option.some.inj first).symm
    | after greatest late => exact absurd (late.trans_lt early) (not_lt_of_ge (least.2 greatest.1))
    | between latest => exact absurd (latest.1.2.trans_lt early) (not_lt_of_ge (least.2 latest.1.1))
  | after greatest late last =>
    cases follows' with
    | before least early => exact absurd (late.trans_lt early) (not_lt_of_ge (least.2 greatest.1))
    | after greatest' _ last' =>
      rw [greatest.unique greatest', last'] at last
      exact (Option.some.inj last).symm
    | between _ next =>
      exact absurd (late.trans_lt next.1.2) (not_lt_of_ge (greatest.2 next.1.1))
  | between latest next last first line =>
    cases follows' with
    | before least early =>
      exact absurd (latest.1.2.trans_lt early) (not_lt_of_ge (least.2 latest.1.1))
    | after greatest late =>
      exact absurd (late.trans_lt next.1.2) (not_lt_of_ge (greatest.2 next.1.1))
    | between latest' next' last' first' line' =>
      obtain rfl := latest.unique latest'
      obtain rfl := next.unique next'
      obtain rfl := Option.some.inj (last.symm.trans last')
      obtain rfl := Option.some.inj (first.symm.trans first')
      have span := sub_pos.mpr (latest.1.2.trans_lt next.1.2)
      have equal := mul_right_cancel₀ span.ne' (line.trans line'.symm)
      linarith

theorem Interpolates.unique (value : Interpolates neutral points t y)
    (value' : Interpolates neutral points t y') : y = y' := by
  cases value with
  | nothing empty =>
    subst empty
    cases value' with
    | nothing => rfl
    | together _ last => cases last
    | apart left => cases left
  | together only last =>
    cases value' with
    | nothing empty =>
      subst empty
      cases last
    | together only' last' =>
      obtain ⟨p, mem⟩ : ∃ p, p ∈ points := by
        refine List.exists_mem_of_ne_nil points ?_
        rintro rfl
        cases last
      rw [← only p mem, only' p mem, last'] at last
      exact (Option.some.inj last).symm
    | apart left right differ => exact absurd ((only _ left).trans (only _ right).symm) differ
  | apart left right differ follows =>
    cases value' with
    | nothing empty =>
      subst empty
      cases left
    | together only => exact absurd ((only _ left).trans (only _ right).symm) differ
    | apart _ _ _ follows' => exact follows.unique follows'

/-! ## Neighbours among the sorted points -/

theorem time_le_of_sorted (ordered : sorted points = lower ++ a :: upper) :
    (∀ p ∈ lower, p.time ≤ a.time) ∧ ∀ p ∈ upper, a.time ≤ p.time := by
  have pairwise := pairwise_sorted points
  rw [ordered, List.pairwise_append, List.pairwise_cons] at pairwise
  exact ⟨fun p mem => of_decide_eq_true (pairwise.2.2 p mem a (by simp)),
    fun p mem => of_decide_eq_true (pairwise.2.1.1 p mem)⟩

theorem mem_of_sorted (ordered : sorted points = lower ++ a :: upper) : a ∈ points :=
  mem_sorted.mp (ordered ▸ List.mem_append_right _ (by simp))

theorem valuesAt_sorted (points : List (CurvePoint Rat)) (time : Rat) :
    valuesAt (sorted points) time = valuesAt points time := by
  have stable : (sorted points).filter (fun p => p.time = time) =
      points.filter fun p => p.time = time := by
    refine filter_sorted _ fun a _ b _ here here' => ?_
    have level := (of_decide_eq_true here).trans (of_decide_eq_true here').symm
    exact decide_eq_true level.le
  exact congrArg (List.map (·.value)) stable

theorem getLast?_valuesAt (ordered : sorted points = lower ++ a :: upper)
    (after : ∀ p ∈ upper, p.time ≠ a.time) :
    (valuesAt points a.time).getLast? = some a.value := by
  have last : ((lower ++ a :: upper).filter fun p => p.time = a.time).getLast? = some a :=
    getLast?_filter (by simp) (by simpa using after)
  rw [← valuesAt_sorted, valuesAt, ordered, List.getLast?_map, last, Option.map_some]

theorem head?_valuesAt (ordered : sorted points = lower ++ a :: upper)
    (before : ∀ p ∈ lower, p.time ≠ a.time) :
    (valuesAt points a.time).head? = some a.value := by
  have none : lower.filter (fun p => p.time = a.time) = [] :=
    List.filter_eq_nil_iff.mpr fun p mem => by simpa using before p mem
  rw [← valuesAt_sorted, valuesAt, ordered, List.filter_append, List.filter_cons, none]
  simp

/-- The first point to come is at the least of the times to come. -/
theorem isLeast_of_sorted (ordered : sorted points = lower ++ a :: upper)
    (early : ∀ p ∈ lower, p.time ≤ t) (late : t < a.time) :
    IsLeast {time ∈ times points | t < time} a.time := by
  refine ⟨⟨mem_times (mem_of_sorted ordered), late⟩, ?_⟩
  rintro _ ⟨⟨p, mem, rfl⟩, later⟩
  have among : p ∈ lower ++ a :: upper := ordered ▸ mem_sorted.mpr mem
  rcases List.mem_append.mp among with low | high
  · exact absurd later (not_lt_of_ge (early p low))
  · rcases List.mem_cons.mp high with rfl | high
    · exact le_rfl
    · exact (time_le_of_sorted ordered).2 p high

theorem isGreatest_of_sorted (ordered : sorted points = lower ++ a :: upper)
    (early : a.time ≤ t) (late : ∀ p ∈ upper, t < p.time) :
    IsGreatest {time ∈ times points | time ≤ t} a.time := by
  refine ⟨⟨mem_times (mem_of_sorted ordered), early⟩, ?_⟩
  rintro _ ⟨⟨p, mem, rfl⟩, reached⟩
  have among : p ∈ lower ++ a :: upper := ordered ▸ mem_sorted.mpr mem
  rcases List.mem_append.mp among with low | high
  · exact (time_le_of_sorted ordered).1 p low
  · rcases List.mem_cons.mp high with rfl | high
    · exact le_rfl
    · exact absurd reached (not_le_of_gt (late p high))

/-! ## Samples -/

theorem span_ne_zero {s : Segment Rat} (mem : s ∈ segmentsOf points) : s.span ≠ 0 := by
  obtain ⟨a, -, b, -, apart, rfl⟩ := mem_segmentsOf mem
  exact sub_ne_zero.mpr (Ne.symm (of_decide_eq_false apart))

theorem valueAt_level {s : Segment Rat} (level : s.source = s.target) (t : Rat) :
    s.valueAt t = s.source := by
  have flat : s.delta = 0 := sub_eq_zero.mpr level.symm
  rw [Segment.valueAt, flat, zero_mul, zero_div, add_zero]

/-- The shortcut to a constant curve does not change the value, since lines between equal values
    are level. -/
theorem sample_ofSorted (lines : segmentsOf points ≠ []) (begins : points.head? = some first)
    (ends : points.getLast? = some last) (neutral t : Rat) :
    (ofSorted neutral points).sample t =
      if t < first.time then first.value
      else ((segmentsOf points).find? fun s => CurveNumber.less t s.finish).elim last.value
        (·.valueAt t) := by
  have begun : first ∈ points := List.mem_of_head? begins
  have ended : last ∈ points := List.mem_of_getLast? ends
  rcases ofSorted_cases neutral begins ends with
    ⟨none, -⟩ | ⟨level, curve⟩ | ⟨-, curve⟩
  · exact absurd none lines
  · have equal : ∀ p ∈ points, p.value = first.value := fun p mem => of_decide_eq_true (level p mem)
    rw [curve, sample]
    split
    · rfl
    · cases found : (segmentsOf points).find? fun s => CurveNumber.less t s.finish with
      | none => exact (equal last ended).symm
      | some s =>
        obtain ⟨a, memA, b, memB, -, rfl⟩ := mem_segmentsOf (List.mem_of_find?_eq_some found)
        have level : a.value = b.value := (equal a memA).trans (equal b memB).symm
        exact ((valueAt_level (s := ⟨a.time, b.time, a.value, b.value⟩) level t).trans
          (equal a memA)).symm
  · obtain ⟨rest, rfl⟩ := List.head?_eq_some_iff.mp begins
    rw [curve, sample_pieces lines]
    simp only [less_rat]

/-- There is a line as soon as there are two times. -/
theorem time_eq_of_segmentsOf (none : segmentsOf (first :: rest) = []) (mem : a ∈ first :: rest) :
    a.time = first.time := by
  induction rest generalizing first with
  | nil => rw [List.mem_singleton.mp mem]
  | cons next rest ih =>
    rw [segmentsOf] at none
    split at none
    · next together =>
      have joint : first.time = next.time := of_decide_eq_true together
      rcases List.mem_cons.mp mem with rfl | mem
      · rfl
      · exact (ih none mem).trans joint.symm
    · cases none

theorem line_valueAt {a b : CurvePoint Rat} (apart : a.time < b.time) (t : Rat) :
    ((Segment.mk a.time b.time a.value b.value).valueAt t - a.value) * (b.time - a.time) =
      (b.value - a.value) * (t - a.time) := by
  have span : b.time - a.time ≠ 0 := (sub_pos.mpr apart).ne'
  rw [Segment.valueAt, Segment.delta, Segment.span]
  field_simp
  ring

theorem follows_before (ordered : sorted points = first :: rest) (here : t < first.time) :
    Follows points t first.value := by
  have ordered : sorted points = [] ++ first :: rest := ordered
  have least := isLeast_of_sorted ordered (by simp) here
  refine .before ⟨least.1.1, ?_⟩ here (head?_valuesAt ordered (by simp))
  rintro _ ⟨p, mem, rfl⟩
  have among := mem_sorted.mpr mem
  rw [ordered, List.nil_append] at among
  rcases List.mem_cons.mp among with rfl | among
  · exact le_rfl
  · exact (time_le_of_sorted ordered).2 p among

theorem follows_after (ordered : sorted points = lower ++ [a]) (here : a.time ≤ t) :
    Follows points t a.value := by
  have greatest := isGreatest_of_sorted ordered here (by simp)
  refine .after ⟨greatest.1.1, ?_⟩ here (getLast?_valuesAt ordered (by simp))
  rintro _ ⟨p, mem, rfl⟩
  have among : p ∈ lower ++ [a] := ordered ▸ mem_sorted.mpr mem
  rcases List.mem_append.mp among with among | among
  · exact (time_le_of_sorted ordered).1 p among
  · rw [List.mem_singleton.mp among]

theorem follows_between (ordered : sorted points = lower ++ a :: b :: upper) (reached : a.time ≤ t)
    (toCome : t < b.time) :
    Follows points t ((Segment.mk a.time b.time a.value b.value).valueAt t) := by
  have ordered' : sorted points = (lower ++ [a]) ++ b :: upper := by simpa using ordered
  have early : ∀ p ∈ lower ++ [a], p.time ≤ t := by
    intro p mem
    rcases List.mem_append.mp mem with mem | mem
    · exact ((time_le_of_sorted ordered).1 p mem).trans reached
    · rwa [List.mem_singleton.mp mem]
  have late : ∀ p ∈ b :: upper, t < p.time := by
    intro p mem
    rcases List.mem_cons.mp mem with rfl | mem
    · exact toCome
    · exact toCome.trans_le ((time_le_of_sorted ordered').2 p mem)
  exact .between (isGreatest_of_sorted ordered reached late)
    (isLeast_of_sorted ordered' early toCome)
    (getLast?_valuesAt ordered fun p mem => (reached.trans_lt (late p mem)).ne')
    (head?_valuesAt ordered' fun p mem => ((early p mem).trans_lt toCome).ne)
    (line_valueAt (reached.trans_lt toCome) t)

/-- A curve through points at different times follows them. -/
theorem follows_sample (left : a ∈ points) (right : b ∈ points) (differ : a.time ≠ b.time)
    (neutral t : Rat) : Follows points t ((ofPoints neutral points).sample t) := by
  have upward : (sorted points).Pairwise fun a b =>
      CurveNumber.less t a.time = true → CurveNumber.less t b.time = true :=
    (pairwise_sorted points).imp fun ordered begun =>
      less_rat.mpr ((less_rat.mp begun).trans_le (of_decide_eq_true ordered))
  -- Sorted points are reached one after the other.
  obtain ⟨lower, upper, ordered, early, late⟩ :=
    exists_split (fun p : CurvePoint Rat => CurveNumber.less t p.time) upward
  have filled : sorted points ≠ [] := List.ne_nil_of_mem (mem_sorted.mpr left)
  obtain ⟨first, rest, all⟩ := List.exists_cons_of_ne_nil filled
  have lines : segmentsOf (sorted points) ≠ [] := by
    intro none
    rw [all] at none
    have left' := time_eq_of_segmentsOf none (all ▸ mem_sorted.mpr left)
    have right' := time_eq_of_segmentsOf none (all ▸ mem_sorted.mpr right)
    exact differ (left'.trans right'.symm)
  have begins : (sorted points).head? = some first := by
    rw [all]
    rfl
  have value := sample_ofSorted lines begins (List.getLast?_eq_some_getLast filled) neutral t
  rw [ofPoints, value]
  -- The time lies before all points, behind all of them or between two neighbours.
  rcases List.eq_nil_or_concat' lower with rfl | ⟨lower, a, rfl⟩
  · have begins : upper = first :: rest := ordered.symm.trans all
    have here : t < first.time := less_rat.mp (late first (by simp [begins]))
    rw [if_pos here]
    exact follows_before all here
  · have begun : ¬ t < first.time := by
      have head := congrArg List.head? (ordered.symm.trans all)
      rw [List.head?_append_of_ne_nil _ (by simp)] at head
      exact not_lt_of_ge (not_less_rat.mp (early first (List.mem_of_head? head)))
    have reached : a.time ≤ t := not_less_rat.mp (early a (by simp))
    rw [if_neg begun]
    cases upper with
    | nil =>
      rw [List.append_nil] at ordered
      simp only [ordered, find?_segmentsOf_eq_none early, Option.elim, List.getLast_concat]
      exact follows_after ordered reached
    | cons b upper =>
      rw [List.append_assoc, List.singleton_append] at ordered
      have toCome := late b (by simp)
      simp only [ordered, find?_segmentsOf_between early toCome, Option.elim]
      exact follows_between ordered reached (less_rat.mp toCome)

theorem interpolates_sample (neutral : Rat) (points : List (CurvePoint Rat)) (t : Rat) :
    Interpolates neutral points t ((ofPoints neutral points).sample t) := by
  cases all : sorted points with
  | nil =>
    have empty : points = [] := List.eq_nil_iff_forall_not_mem.mpr fun p mem => by
      have among := mem_sorted.mpr mem
      rw [all] at among
      cases among
    rw [ofPoints, all]
    exact .nothing empty
  | cons first rest =>
    by_cases level : ∀ p ∈ points, p.time = first.time
    · have none : segmentsOf (first :: rest) = [] := by
        refine List.eq_nil_iff_forall_not_mem.mpr fun s mem => ?_
        obtain ⟨a, memA, b, memB, apart, -⟩ := mem_segmentsOf mem
        have together := (level a (mem_sorted.mp (all ▸ memA))).trans
          (level b (mem_sorted.mp (all ▸ memB))).symm
        exact of_decide_eq_false apart together
      have ends := (List.dropLast_append_getLast (List.cons_ne_nil first rest)).symm
      have last := getLast?_valuesAt (all.trans ends) (by simp)
      rw [level _ (mem_of_sorted (all.trans ends))] at last
      rw [ofPoints, all, ofSorted, none]
      exact .together level last
    · obtain ⟨p, mem, differ⟩ := by simpa only [not_forall] using level
      have begins : first ∈ points := mem_sorted.mp (all ▸ List.mem_cons_self)
      exact .apart mem begins differ (follows_sample mem begins differ neutral t)

/-! ## Ranges -/

theorem exists_mem_of_valuesAt {time v : Rat} (mem : v ∈ valuesAt points time) :
    ∃ p ∈ points, p.value = v := by
  obtain ⟨p, memP, value⟩ := List.mem_map.mp mem
  exact ⟨p, List.mem_of_mem_filter memP, value⟩

/-- What lies on a line between two times lies between the two values. -/
theorem mem_Icc_of_line {a b v w t y low high : Rat} (line : (y - v) * (b - a) = (w - v) * (t - a))
    (early : a ≤ t) (late : t < b) (left : v ∈ Set.Icc low high) (right : w ∈ Set.Icc low high) :
    y ∈ Set.Icc low high := by
  have span : 0 < b - a := by linarith
  have sofar : 0 ≤ t - a := by linarith
  have left' : 0 ≤ b - t := by linarith
  -- The value is the mean of the two values, weighted with the times to the other one.
  have mean : y * (b - a) = v * (b - t) + w * (t - a) := by linarith
  have atLeast : low * (b - a) ≤ y * (b - a) := by nlinarith [left.1, right.1]
  have atMost : y * (b - a) ≤ high * (b - a) := by nlinarith [left.2, right.2]
  exact ⟨le_of_mul_le_mul_right atLeast span, le_of_mul_le_mul_right atMost span⟩

theorem Interpolates.mem_Icc {low high : Rat} (value : Interpolates neutral points t y)
    (filled : points ≠ []) (range : ∀ p ∈ points, p.value ∈ Set.Icc low high) :
    y ∈ Set.Icc low high := by
  have inRange : ∀ {time v}, v ∈ valuesAt points time → v ∈ Set.Icc low high := by
    intro time v mem
    obtain ⟨p, memP, rfl⟩ := exists_mem_of_valuesAt mem
    exact range p memP
  cases value with
  | nothing empty => exact absurd empty filled
  | together _ last => exact inRange (List.mem_of_getLast? last)
  | apart _ _ _ follows =>
    cases follows with
    | before _ _ first => exact inRange (List.mem_of_head? first)
    | after _ _ last => exact inRange (List.mem_of_getLast? last)
    | between latest next last first line =>
      exact mem_Icc_of_line line latest.1.2 next.1.2 (inRange (List.mem_of_getLast? last))
        (inRange (List.mem_of_head? first))

end Curve

/-! ## Curves of properties -/

namespace TextProperty

/-- The property's curve through keyframes with exact times and values, which are given as points
    in the order of the keyframes. -/
def exactCurve (p : TextProperty) (points : List (CurvePoint Rat)) : Curve Rat :=
  .ofPoints p.neutral.toRat points

/-- With exact numbers a property's curve has the values of the interpolation of its points and no
    others.  No line lasts no time, so that nothing is divided by zero, and no value lies outside
    the range of the points. -/
theorem sample_exactCurve (p : TextProperty) (points : List (CurvePoint Rat)) (t : Rat) :
    (∀ y, (p.exactCurve points).sample t = y ↔
        Curve.Interpolates p.neutral.toRat points t y) ∧
      (∀ s ∈ (p.exactCurve points).segments, s.span ≠ 0) ∧
      ∀ low high, points ≠ [] → (∀ q ∈ points, q.value ∈ Set.Icc low high) →
        (p.exactCurve points).sample t ∈ Set.Icc low high := by
  have value := Curve.interpolates_sample p.neutral.toRat points t
  refine ⟨fun y => ⟨?_, value.unique⟩, fun s mem => ?_, fun low high => value.mem_Icc⟩
  · rintro rfl
    exact value
  · exact Curve.span_ne_zero (Curve.mem_segments_ofPoints mem)

/-- Of three points at one time the last one is where the line after them starts. -/
theorem sample_exactCurve_steps :
    let points : List (CurvePoint Rat) := [⟨2, 30⟩, ⟨1, 10⟩, ⟨0, 0⟩, ⟨1, 90⟩, ⟨1, 20⟩]
    (TextProperty.x.exactCurve points).sample (3 / 2) = 25 := by
  intro points
  have left : (⟨1, 20⟩ : CurvePoint Rat) ∈ points := by simp [points]
  have right : (⟨2, 30⟩ : CurvePoint Rat) ∈ points := by simp [points]
  have reached : ∀ p ∈ points, p.time ≤ 3 / 2 → p.time ≤ 1 := by decide +kernel
  have toCome : ∀ p ∈ points, 3 / 2 < p.time → 2 ≤ p.time := by decide +kernel
  refine ((sample_exactCurve .x points _).1 25).mpr (.apart left right (by decide) ?_)
  refine .between (a := 1) (b := 2) (v := 20) (w := 30) ⟨⟨⟨_, left, rfl⟩, by decide +kernel⟩, ?_⟩
    ⟨⟨⟨_, right, rfl⟩, by decide +kernel⟩, ?_⟩ (by decide +kernel) (by decide +kernel)
    (by decide +kernel)
  · rintro _ ⟨⟨p, mem, rfl⟩, early⟩
    exact reached p mem early
  · rintro _ ⟨⟨p, mem, rfl⟩, late⟩
    exact toCome p mem late

end TextProperty

end Compositor
