import Compositor.Curve.Basic
import Mathlib.Data.List.Basic

/-! # The line that a curve follows

Points are sorted stably, and a curve has a line wherever two neighbours are not at one time.
A time cuts the sorted points in two, those that it has reached and those that are to come.  The
line from the last point of the one part to the first point of the other is the line that is
followed (`Curve.find?_segmentsOf_between`): the lines before it have ended by then.

Nothing here depends on what the numbers are.
-/

namespace Compositor

/-- The two orders and the equality of the numbers fit together. -/
class LawfulCurveNumber (α : Type) [CurveNumber α] : Prop where
  sortLe_trans : ∀ x y z : α, CurveNumber.sortLe x y = true → CurveNumber.sortLe y z = true →
    CurveNumber.sortLe x z = true
  sortLe_total : ∀ x y : α, (CurveNumber.sortLe x y || CurveNumber.sortLe y x) = true
  less_congr : ∀ t x y : α, CurveNumber.same x y = true →
    CurveNumber.less t x = CurveNumber.less t y

namespace Curve

variable {α : Type} [CurveNumber α] {t : α} {a b first : CurvePoint α}
  {points lower upper rest : List (CurvePoint α)}

/-! ## Sorted points -/

theorem mem_sorted : a ∈ sorted points ↔ a ∈ points := List.mem_mergeSort

section Sorted

variable [LawfulCurveNumber α]

theorem pairwise_sorted (points : List (CurvePoint α)) :
    (sorted points).Pairwise fun a b => CurveNumber.sortLe a.time b.time = true :=
  List.pairwise_mergeSort (fun a b c => LawfulCurveNumber.sortLe_trans a.time b.time c.time)
    (fun a b => LawfulCurveNumber.sortLe_total a.time b.time) points

/-- Points that the sorting order does not tell apart keep the order that they came in. -/
theorem filter_sorted (keep : CurvePoint α → Bool)
    (together : ∀ a ∈ points, ∀ b ∈ points, keep a = true → keep b = true →
      CurveNumber.sortLe a.time b.time = true) :
    (sorted points).filter keep = points.filter keep := by
  have level : (points.filter keep).Pairwise fun a b => CurveNumber.sortLe a.time b.time = true := by
    refine List.pairwise_of_forall_mem_list fun a memA b memB => ?_
    obtain ⟨memA, keepA⟩ := List.mem_filter.mp memA
    obtain ⟨memB, keepB⟩ := List.mem_filter.mp memB
    exact together a memA b memB keepA keepB
  -- The points that are kept are in order as they came, so the stable sort leaves them in order.
  have kept : (points.filter keep).Sublist (sorted points) :=
    List.sublist_mergeSort (fun a b c => LawfulCurveNumber.sortLe_trans a.time b.time c.time)
      (fun a b => LawfulCurveNumber.sortLe_total a.time b.time) level List.filter_sublist
  have among : (points.filter keep).Sublist ((sorted points).filter keep) := by
    simpa using kept.filter keep
  have same : (points.filter keep).length = ((sorted points).filter keep).length :=
    ((List.mergeSort_perm points _).filter keep).length_eq.symm
  exact (among.eq_of_length same).symm

end Sorted

theorem getLast?_filter {β : Type} {keep : β → Bool} {a : β} {before after : List β}
    (kept : keep a = true) (dropped : ∀ b ∈ after, keep b = false) :
    ((before ++ a :: after).filter keep).getLast? = some a := by
  have none : after.filter keep = [] :=
    List.filter_eq_nil_iff.mpr fun b mem => by simp [dropped b mem]
  rw [List.filter_append, List.filter_cons_of_pos kept, none, List.getLast?_concat]

/-- What once holds along a list and holds from then on begins somewhere. -/
theorem exists_split {β : Type} (late : β → Bool) {l : List β}
    (upward : l.Pairwise fun a b => late a = true → late b = true) :
    ∃ lower upper, l = lower ++ upper ∧ (∀ a ∈ lower, late a = false) ∧
      ∀ a ∈ upper, late a = true := by
  induction l with
  | nil => exact ⟨[], [], rfl, by simp, by simp⟩
  | cons a l ih =>
    obtain ⟨here, upward⟩ := List.pairwise_cons.mp upward
    cases begun : late a with
    | true => exact ⟨[], a :: l, rfl, by simp, by simpa [begun] using fun b mem => here b mem begun⟩
    | false =>
      obtain ⟨lower, upper, rfl, early, after⟩ := ih upward
      exact ⟨a :: lower, upper, rfl, by simpa [begun] using early, after⟩

/-! ## Lines between sorted points -/

theorem mem_segmentsOf {s : Segment α} (mem : s ∈ segmentsOf points) :
    ∃ a ∈ points, ∃ b ∈ points,
      CurveNumber.same a.time b.time = false ∧ s = ⟨a.time, b.time, a.value, b.value⟩ := by
  induction points with
  | nil => cases mem
  | cons a rest ih =>
    cases rest with
    | nil => cases mem
    | cons b rest =>
      rw [segmentsOf] at mem
      by_cases new : CurveNumber.same a.time b.time = false ∧
          s = ⟨a.time, b.time, a.value, b.value⟩
      · exact ⟨a, by simp, b, by simp, new⟩
      · have later : s ∈ segmentsOf (b :: rest) := by
          split at mem
          · exact mem
          · next apart =>
            exact (List.mem_cons.mp mem).resolve_left fun same =>
              new ⟨Bool.eq_false_iff.mpr apart, same⟩
        obtain ⟨c, memC, d, memD, found⟩ := ih later
        exact ⟨c, List.mem_cons_of_mem a memC, d, List.mem_cons_of_mem a memD, found⟩

theorem segmentsOf_append (lower : List (CurvePoint α)) (a : CurvePoint α)
    (upper : List (CurvePoint α)) :
    segmentsOf (lower ++ a :: upper) = segmentsOf (lower ++ [a]) ++ segmentsOf (a :: upper) := by
  induction lower with
  | nil => rfl
  | cons p lower ih =>
    cases lower with
    | nil =>
      simp only [List.cons_append, List.nil_append, segmentsOf]
      split <;> rfl
    | cons q lower =>
      simp only [List.cons_append, segmentsOf] at ih ⊢
      rw [ih]
      split <;> rfl

/-- The curve through sorted points: either of the two shortcuts, or all lines. -/
theorem ofSorted_cases (neutral : α) (begins : points.head? = some first)
    (ends : points.getLast? = some last) :
    (segmentsOf points = [] ∧ ofSorted neutral points = constant last.value) ∨
      ((∀ p ∈ points, CurveNumber.same p.value first.value = true) ∧
        ofSorted neutral points = constant first.value) ∨
      (segmentsOf points ≠ [] ∧
        ofSorted neutral points = pieces first.value (segmentsOf points) last.value) := by
  cases points with
  | nil => cases begins
  | cons first rest =>
    cases begins
    obtain rfl : (first :: rest).getLast (List.cons_ne_nil _ _) = last := by
      rwa [List.getLast?_eq_some_getLast (List.cons_ne_nil _ _), Option.some.injEq] at ends
    rw [ofSorted]
    split
    · next none => exact .inl ⟨List.isEmpty_iff.mp none, rfl⟩
    · next lines =>
      split
      · next level => exact .inr (.inl ⟨List.all_eq_true.mp level, rfl⟩)
      · exact .inr (.inr ⟨fun none => lines (List.isEmpty_iff.mpr none), rfl⟩)

def segments : Curve α → List (Segment α)
  | constant _ => []
  | pieces _ segments _ => segments

theorem mem_segments_ofPoints {s : Segment α} {neutral : α}
    (mem : s ∈ (ofPoints neutral points).segments) : s ∈ segmentsOf (sorted points) := by
  rw [ofPoints] at mem
  generalize sorted points = ordered at mem ⊢
  cases ordered with
  | nil => cases mem
  | cons first rest =>
    rcases ofSorted_cases neutral rfl (List.getLast?_eq_some_getLast (List.cons_ne_nil first rest))
      with ⟨-, curve⟩ | ⟨-, curve⟩ | ⟨-, curve⟩
    · rw [curve] at mem
      cases mem
    · rw [curve] at mem
      cases mem
    · rw [curve] at mem
      exact mem

/-- A constant curve has a value that was given to it. -/
theorem eq_value_of_constant {v neutral : α} (curve : ofPoints neutral points = constant v) :
    v = neutral ∨ ∃ p ∈ points, p.value = v := by
  rw [ofPoints] at curve
  cases all : sorted points with
  | nil =>
    rw [all] at curve
    cases curve
    exact .inl rfl
  | cons first rest =>
    have given {p : CurvePoint α} (among : p ∈ first :: rest) : p ∈ points :=
      mem_sorted.mp (all ▸ among)
    rw [all] at curve
    rcases ofSorted_cases neutral rfl (List.getLast?_eq_some_getLast (List.cons_ne_nil first rest))
      with ⟨-, cut⟩ | ⟨-, cut⟩ | ⟨-, whole⟩
    · cases curve.symm.trans cut
      exact .inr ⟨_, given (List.getLast_mem _), rfl⟩
    · cases curve.symm.trans cut
      exact .inr ⟨_, given List.mem_cons_self, rfl⟩
    · cases curve.symm.trans whole

/-- As long as all points have been reached, all lines have ended. -/
theorem find?_segmentsOf_eq_none
    (early : ∀ p ∈ points, CurveNumber.less t p.time = false) :
    (segmentsOf points).find? (fun s => CurveNumber.less t s.finish) = none := by
  refine List.find?_eq_none.mpr fun s mem => ?_
  obtain ⟨-, -, b, memB, -, rfl⟩ := mem_segmentsOf mem
  simp [early b memB]

section Lawful

variable [LawfulCurveNumber α]

theorem find?_segmentsOf_between
    (early : ∀ p ∈ lower ++ [a], CurveNumber.less t p.time = false)
    (late : CurveNumber.less t b.time = true) :
    (segmentsOf (lower ++ a :: b :: upper)).find? (fun s => CurveNumber.less t s.finish) =
      some ⟨a.time, b.time, a.value, b.value⟩ := by
  have apart : CurveNumber.same a.time b.time = false := by
    refine Bool.eq_false_iff.mpr fun together => ?_
    have equal := LawfulCurveNumber.less_congr t _ _ together
    rw [early a (by simp), late] at equal
    cases equal
  rw [segmentsOf_append, List.find?_append, find?_segmentsOf_eq_none early, segmentsOf, apart]
  simp [late]

/-- The first line starts at the time of the first point, although it may be a later one of the
    points at that time from which it starts. -/
theorem less_start {s : Segment α} (begins : s ∈ (segmentsOf (first :: rest)).head?) (t : α) :
    CurveNumber.less t s.start = CurveNumber.less t first.time := by
  induction rest generalizing first with
  | nil => cases begins
  | cons next rest ih =>
    rw [segmentsOf] at begins
    split at begins
    · next together => rw [ih begins, LawfulCurveNumber.less_congr t _ _ together]
    · cases begins
      rfl

/-- A curve with lines, in terms of its points. -/
theorem sample_pieces (lines : segmentsOf (first :: rest) ≠ []) (before after t : α) :
    (pieces before (segmentsOf (first :: rest)) after).sample t =
      if CurveNumber.less t first.time then before
      else ((segmentsOf (first :: rest)).find? fun s => CurveNumber.less t s.finish).elim after
        (·.valueAt t) := by
  have start : ∀ s ∈ (segmentsOf (first :: rest)).head?,
      CurveNumber.less t s.start = CurveNumber.less t first.time := fun s begins =>
    less_start begins t
  generalize segmentsOf (first :: rest) = segments at lines start
  cases segments with
  | nil => exact absurd rfl lines
  | cons s segments =>
    rw [sample, start s rfl]
    split
    · rfl
    · cases (s :: segments).find? fun s => CurveNumber.less t s.finish <;> rfl

/-- A sample at a time that some of the points have reached: of all lines only the one matters
    that starts at the last of these points. -/
theorem sample_reached (neutral : α)
    (early : ∀ p ∈ lower ++ [a], CurveNumber.less t p.time = false)
    (late : ∀ p ∈ upper, CurveNumber.less t p.time = true) :
    (∃ first : CurvePoint α,
        (∀ p ∈ lower ++ a :: upper, CurveNumber.same p.value first.value = true) ∧
        (ofSorted neutral (lower ++ a :: upper)).sample t = first.value) ∨
      (ofSorted neutral (lower ++ a :: upper)).sample t = a.value ∨
      ∃ s ∈ (ofSorted neutral (lower ++ a :: upper)).segments, ∃ b ∈ upper,
        s = ⟨a.time, b.time, a.value, b.value⟩ ∧
        (ofSorted neutral (lower ++ a :: upper)).sample t = s.valueAt t := by
  obtain ⟨first, rest, all⟩ : ∃ first rest, lower ++ a :: upper = first :: rest :=
    List.exists_cons_of_ne_nil (by simp)
  -- The first point has been reached, so that the curve has begun and only the search is left.
  have begun : CurveNumber.less t first.time = false := by
    have head : ((lower ++ [a]) ++ upper).head? = some first := by simp [all]
    rw [List.head?_append_of_ne_nil _ (by simp)] at head
    exact early first (List.mem_of_head? head)
  have search : ∀ after, segmentsOf (lower ++ a :: upper) ≠ [] →
      (pieces first.value (segmentsOf (lower ++ a :: upper)) after).sample t =
        ((segmentsOf (lower ++ a :: upper)).find? fun s => CurveNumber.less t s.finish).elim after
          (·.valueAt t) := by
    rw [all]
    intro after lines
    rw [sample_pieces lines, begun]
    rfl
  cases upper with
  | nil =>
    -- Nothing is to come: either there are no lines, or all of them have ended.
    have ends : (lower ++ [a]).getLast? = some a := List.getLast?_concat
    rcases ofSorted_cases neutral (congrArg List.head? all) ends with
      ⟨-, curve⟩ | ⟨level, curve⟩ | ⟨lines, curve⟩
    · exact .inr (.inl (congrArg (sample · t) curve))
    · exact .inl ⟨first, level, congrArg (sample · t) curve⟩
    · rw [curve, search _ lines, find?_segmentsOf_eq_none early]
      exact .inr (.inl rfl)
  | cons b upper =>
    have found : (segmentsOf (lower ++ a :: b :: upper)).find? (fun s => CurveNumber.less t s.finish) =
        some ⟨a.time, b.time, a.value, b.value⟩ :=
      find?_segmentsOf_between early (late b (by simp))
    have ends := List.getLast?_eq_some_getLast (List.append_ne_nil_of_right_ne_nil lower
      (List.cons_ne_nil a (b :: upper)))
    rcases ofSorted_cases neutral (congrArg List.head? all) ends with
      ⟨none, -⟩ | ⟨level, curve⟩ | ⟨lines, curve⟩
    · rw [none] at found
      cases found
    · exact .inl ⟨first, level, congrArg (sample · t) curve⟩
    · refine .inr (.inr ⟨_, ?_, b, by simp, rfl, ?_⟩)
      · rw [curve]
        exact List.mem_of_find?_eq_some found
      · rw [curve, search _ lines, found]
        rfl

end Lawful

end Curve

/-- The lines of a property's curve run between keyframes. -/
theorem TextProperty.exists_of_mem_segments {p : TextProperty} {keyframes : List Keyframe}
    {s : Segment Double} (mem : s ∈ (p.curve keyframes).segments) :
    ∃ i ∈ keyframes, ∃ j ∈ keyframes, s = ⟨i.time, j.time, p.value i, p.value j⟩ := by
  obtain ⟨a, memA, b, memB, -, rfl⟩ := Curve.mem_segmentsOf (Curve.mem_segments_ofPoints mem)
  obtain ⟨i, memI, rfl⟩ := List.mem_map.mp (Curve.mem_sorted.mp memA)
  obtain ⟨j, memJ, rfl⟩ := List.mem_map.mp (Curve.mem_sorted.mp memB)
  exact ⟨i, memI, j, memJ, rfl⟩

end Compositor
