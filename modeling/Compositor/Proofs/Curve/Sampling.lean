import Compositor.Proofs.Curve.Formulas
import Compositor.Proofs.Curve.Lines
import Mathlib.Data.List.Chain

/-! # Formulas agree with samples

The formula of a curve has the value of the curve.  Over any numbers this is so for the
expression, whose nested conditionals are the search for a line.  Over doubles it is so for the
text as well: what is read from it has the same value as a sample, which is always a number.
-/

namespace Compositor

/-! ## Expressions of curves -/

namespace Curve

section Expressions

variable {α : Type} [CurveNumber α]

/-- The expression of the lines alone, before the last value. -/
def lines (segments : List (Segment α)) (after : α) : Expression α :=
  segments.foldr (fun s rest => .ifLess .variable (.number s.finish) s.expression rest)
    (.number after)

theorem eval_lines (segments : List (Segment α)) (after t : α) :
    (lines segments after).eval t =
      (segments.find? fun s => CurveNumber.less t s.finish).elim after (·.valueAt t) := by
  induction segments with
  | nil => rfl
  | cons s segments ih =>
    rw [List.find?_cons]
    show (if CurveNumber.less t s.finish then _ else (lines segments after).eval t) = _
    cases CurveNumber.less t s.finish with
    | true => rfl
    | false => exact ih

theorem eval_expression (curve : Curve α) (t : α) : curve.expression.eval t = curve.sample t := by
  cases curve with
  | constant value => rfl
  | pieces before segments after =>
    cases segments with
    | nil => rfl
    | cons first rest =>
      show (if CurveNumber.less t first.start then before
        else (lines (first :: rest) after).eval t) = _
      rw [eval_lines, sample]
      cases (first :: rest).find? fun s => CurveNumber.less t s.finish <;> rfl

end Expressions

end Curve

/-! ## Curves of finite numbers -/

open Double

/-- A line between finite points at different times, with finite differences. -/
structure Segment.IsProper (s : Segment Double) : Prop where
  start : s.start.isFinite = true
  finish : s.finish.isFinite = true
  source : s.source.isFinite = true
  delta : s.delta.isFinite = true
  span : s.span.isFinite = true
  apart : s.finish.key ≠ s.start.key

namespace Segment.IsProper

variable {s : Segment Double}

theorem isZero_span (proper : s.IsProper) : s.span.isZero = false :=
  isZero_sub proper.finish proper.start proper.apart

/-- Nothing on a line overflows to what is not a number: the time since its start is at most its
    span. -/
theorem isNaN_valueAt (proper : s.IsProper) {t : Double} (after : s.start.key ≤ t.key)
    (before : t.key < s.finish.key) : (s.valueAt t).isNaN = false := by
  have elapsed := isFinite_sub_of_between proper.start proper.finish after before proper.span
  have product := isNaN_mul proper.delta elapsed
  exact isNaN_add proper.source (isNaN_div product proper.span proper.isZero_span)

theorem expression_isFinite (proper : s.IsProper) : s.expression.IsFinite :=
  ⟨proper.source, ⟨proper.delta, trivial, proper.start⟩, proper.span⟩

theorem expression_dividesByNumbers (proper : s.IsProper) : s.expression.DividesByNumbers :=
  ⟨trivial, ⟨trivial, trivial, trivial⟩, s.span, rfl, proper.isZero_span⟩

end Segment.IsProper

/-- Each line starts when the one before it ends. -/
def Curve.Linked (segments : List (Segment Double)) : Prop :=
  segments.IsChain fun s s' => s.finish.key = s'.start.key

/-- All numbers of the curve are finite, and its lines follow one another. -/
inductive Curve.IsProper : Curve Double → Prop
  | constant {value : Double} (finite : value.isFinite = true) : IsProper (.constant value)
  | pieces {first last : Double} {segments : List (Segment Double)}
      (before : first.isFinite = true) (after : last.isFinite = true)
      (proper : ∀ s ∈ segments, s.IsProper) (linked : Curve.Linked segments) :
      IsProper (.pieces first segments last)

/-- The line that is found has started: it is the first one, or the line before it has ended. -/
theorem Curve.Linked.started {s : Segment Double} {segments : List (Segment Double)} {t : Double}
    (linked : Curve.Linked segments) (proper : ∀ s ∈ segments, s.IsProper)
    (begun : ∀ first ∈ segments.head?, t.less first.start = false)
    (found : segments.find? (fun s => t.less s.finish) = some s) :
    s.start.key ≤ t.key ∧ t.key < s.finish.key := by
  have ends : t.less s.finish = true := by
    simpa using List.find?_some found
  have below := key_lt_of_less ends
  refine ⟨?_, below.2⟩
  induction segments with
  | nil => cases found
  | cons first rest ih =>
    rw [List.find?_cons] at found
    cases ended : t.less first.finish with
    | true =>
      rw [ended] at found
      cases found
      exact key_le_of_not_less below.1 (proper _ (by simp)).start (begun _ rfl)
    | false =>
      rw [ended] at found
      -- The next line starts where this one has ended, so that it has begun as well.
      have behind := key_le_of_not_less below.1 (proper first (by simp)).finish ended
      refine ih linked.tail (fun s mem => proper s (List.mem_cons_of_mem _ mem)) ?_ found
      intro next mem
      have joint : first.finish.key = next.start.key := linked.rel_head? mem
      exact less_of_key_le (joint ▸ behind)

namespace Curve.IsProper

variable {curve : Curve Double}

theorem isNaN_sample (proper : curve.IsProper) (t : Double) : (curve.sample t).isNaN = false := by
  cases proper with
  | constant finite => exact isNaN_of_isFinite finite
  | pieces before after proper linked =>
    rename_i segments
    cases segments with
    | nil => exact isNaN_of_isFinite after
    | cons first rest =>
      rw [sample]
      split
      · exact isNaN_of_isFinite before
      · next begun =>
        split
        · next s found =>
          have unbegun : ∀ s ∈ (first :: rest).head?, t.less s.start = false := by
            rintro _ ⟨rfl⟩
            exact Bool.eq_false_iff.mpr begun
          obtain ⟨after, before⟩ := linked.started proper unbegun found
          exact (proper s (List.mem_of_find?_eq_some found)).isNaN_valueAt after before
        · exact isNaN_of_isFinite after

theorem isFinite_lines {segments : List (Segment Double)} {last : Double}
    (proper : ∀ s ∈ segments, s.IsProper) (after : last.isFinite = true) :
    (lines segments last).IsFinite := by
  induction segments with
  | nil => exact after
  | cons s segments ih =>
    have here := proper s (by simp)
    exact ⟨trivial, here.finish, here.expression_isFinite,
      ih fun s mem => proper s (List.mem_cons_of_mem _ mem)⟩

theorem dividesByNumbers_lines {segments : List (Segment Double)} {last : Double}
    (proper : ∀ s ∈ segments, s.IsProper) : (lines segments last).DividesByNumbers := by
  induction segments with
  | nil => trivial
  | cons s segments ih =>
    exact ⟨trivial, trivial, (proper s (by simp)).expression_dividesByNumbers,
      ih fun s mem => proper s (List.mem_cons_of_mem _ mem)⟩

theorem isFinite_expression (proper : curve.IsProper) : curve.expression.IsFinite := by
  cases proper with
  | constant finite => exact finite
  | pieces before after proper linked =>
    rename_i segments
    cases segments with
    | nil => exact after
    | cons first rest =>
      exact ⟨trivial, (proper first (by simp)).start, before, isFinite_lines proper after⟩

theorem dividesByNumbers_expression (proper : curve.IsProper) :
    curve.expression.DividesByNumbers := by
  cases proper with
  | constant => trivial
  | pieces before after proper linked =>
    rename_i segments
    cases segments with
    | nil => trivial
    | cons first rest => exact ⟨trivial, trivial, trivial, dividesByNumbers_lines proper⟩

end Curve.IsProper

/-! ## Curves through points -/

namespace Curve

/-- The differences that the text of a curve contains are finite. -/
def HasFiniteDifferences : Curve Double → Prop
  | constant _ => True
  | pieces _ segments _ => ∀ s ∈ segments, s.delta.isFinite = true ∧ s.span.isFinite = true

instance : DecidablePred HasFiniteDifferences
  | constant _ => isTrue trivial
  | pieces _ segments _ =>
    inferInstanceAs (Decidable (∀ s ∈ segments, s.delta.isFinite = true ∧ s.span.isFinite = true))

def IsFinitePoint (p : CurvePoint Double) : Prop :=
  p.time.isFinite = true ∧ p.value.isFinite = true

variable {points : List (CurvePoint Double)}

theorem linked_segmentsOf (points : List (CurvePoint Double)) :
    Linked (segmentsOf points) ∧
      ∀ p ∈ points.head?, ∀ s ∈ (segmentsOf points).head?, p.time.key = s.start.key := by
  induction points with
  | nil => exact ⟨List.IsChain.nil, fun _ first => nomatch first⟩
  | cons a rest ih =>
    cases rest with
    | nil => exact ⟨List.IsChain.nil, fun _ _ _ first => nomatch first⟩
    | cons b rest =>
      obtain ⟨linked, starts⟩ := ih
      rw [segmentsOf]
      split
      · next together =>
        have joint : a.time.key = b.time.key := key_eq_of_same together
        refine ⟨linked, ?_⟩
        rintro _ ⟨rfl⟩ s first
        exact joint.trans (starts b rfl s first)
      · refine ⟨List.isChain_cons.mpr ⟨fun s first => starts b rfl s first, linked⟩, ?_⟩
        rintro _ ⟨rfl⟩ _ ⟨rfl⟩
        rfl

theorem isProper_of_mem (finite : ∀ p ∈ points, IsFinitePoint p) {s : Segment Double}
    (mem : s ∈ segmentsOf points) (delta : s.delta.isFinite = true) (span : s.span.isFinite = true) :
    s.IsProper := by
  obtain ⟨a, memA, b, memB, apart, rfl⟩ := mem_segmentsOf mem
  have finiteA := finite a memA
  have finiteB := finite b memB
  have apart : a.time.same b.time = false := apart
  refine ⟨finiteA.1, finiteB.1, finiteA.2, delta, span, ?_⟩
  intro joint
  simp [same, isNaN_of_isFinite finiteA.1, isNaN_of_isFinite finiteB.1, joint] at apart

theorem isProper_ofSorted {neutral : Double} (isFinite_neutral : neutral.isFinite = true)
    (finite : ∀ p ∈ points, IsFinitePoint p)
    (differences : (ofSorted neutral points).HasFiniteDifferences) :
    (ofSorted neutral points).IsProper := by
  cases points with
  | nil => exact .constant isFinite_neutral
  | cons first rest =>
    have last := (finite _ (List.getLast_mem (List.cons_ne_nil first rest))).2
    simp only [ofSorted] at differences ⊢
    split
    · exact .constant last
    · next lines =>
      split
      · exact .constant (finite first (by simp)).2
      · next changes =>
        rw [if_neg lines, if_neg changes] at differences
        refine .pieces (finite first (by simp)).2 last ?_ (linked_segmentsOf _).1
        intro s mem
        exact isProper_of_mem finite mem (differences s mem).1 (differences s mem).2

theorem isProper_ofPoints {neutral : Double} (isFinite_neutral : neutral.isFinite = true)
    (finite : ∀ p ∈ points, IsFinitePoint p)
    (differences : (ofPoints neutral points).HasFiniteDifferences) :
    (ofPoints neutral points).IsProper :=
  isProper_ofSorted isFinite_neutral (fun p mem => finite p (List.mem_mergeSort.mp mem)) differences

end Curve

/-! ## The variable -/

/-- What a curve runs over: the time, or the time since an instant. -/
inductive CurveVariable where
  | time
  | since (instant : Double)

namespace CurveVariable

def name : CurveVariable → String
  | time => "t"
  | since instant => "(t-" ++ instant.numeralText ++ ")"

def value (t : Double) : CurveVariable → Double
  | time => t
  | since instant => t - instant

def IsFinite : CurveVariable → Prop
  | time => True
  | since instant => instant.isFinite = true

def formula : CurveVariable → Formula
  | time => .time
  | since instant => .sub .time instant.formula

variable {var : CurveVariable}

open Formula in
theorem isAtom_name (finite : var.IsFinite) : IsAtom var.name.toList var.formula := by
  have time : IsAtom ['t'] .time := fun _ _ => reads_time
  cases var with
  | time => exact time
  | since instant =>
    have minus : termOperator? '-' = some .sub := rfl
    have difference := time.product.sum.extend (isAtom_numeral finite).product minus
    simpa [name, formula, numeralText] using difference.enclosed

theorem alike_formula (t : Double) : Alike (var.formula.eval t) (var.value t) := by
  cases var with
  | time => exact .refl t
  | since instant => exact (Alike.refl t).sub (instant.alike_formula t)

end CurveVariable

/-! ## Curves through keyframes -/

theorem Curve.IsProper.read_expressionText {curve : Curve Double} (proper : curve.IsProper)
    {var : CurveVariable} (finite : var.IsFinite) (t : Double) :
    ∃ formula, Formula.read? (curve.expressionText var.name).toList = some formula ∧
      (formula.eval t).same (curve.sample (var.value t)) = true := by
  refine ⟨curve.expression.formula var.formula, ?_, ?_⟩
  · rw [expressionText, String.toList_ofList]
    exact Formula.IsSum.read
      (Expression.isAt_render (CurveVariable.isAtom_name finite) proper.isFinite_expression .sum)
  · have alike := Expression.alike_eval proper.dividesByNumbers_expression
      (var.alike_formula t)
    rw [curve.eval_expression] at alike
    exact alike.same (alike.isNaN.trans (proper.isNaN_sample _))

namespace TextProperty

theorem isFinite_neutral (p : TextProperty) : p.neutral.isFinite = true := by
  cases p <;> decide +kernel

theorem hasFiniteDifferences_curve (p : TextProperty) {keyframes : List Keyframe}
    (values : ∀ i ∈ keyframes, ∀ j ∈ keyframes, (p.value j - p.value i).isFinite = true)
    (times : ∀ i ∈ keyframes, ∀ j ∈ keyframes, (j.time - i.time).isFinite = true) :
    (p.curve keyframes).HasFiniteDifferences := by
  have lines : ∀ s ∈ (p.curve keyframes).segments, s.delta.isFinite = true ∧ s.span.isFinite = true := by
    intro s mem
    obtain ⟨i, memI, j, memJ, rfl⟩ := exists_of_mem_segments mem
    exact ⟨values i memI j memJ, times i memI j memJ⟩
  generalize p.curve keyframes = curve at lines ⊢
  cases curve with
  | constant => trivial
  | pieces => exact lines

theorem isProper_curve (p : TextProperty) {keyframes : List Keyframe}
    (finite : ∀ k ∈ keyframes, k.time.isFinite = true ∧ (p.value k).isFinite = true)
    (differences : (p.curve keyframes).HasFiniteDifferences) : (p.curve keyframes).IsProper :=
  Curve.isProper_ofPoints p.isFinite_neutral (List.forall_mem_map.mpr finite) differences

/-- The text of a property's curve is read as a formula that has, at every time, the value of the
    curve there. -/
theorem evaluate_expressionText (p : TextProperty) (keyframes : List Keyframe) (var : CurveVariable)
    (t : Double)
    (finite : ∀ k ∈ keyframes, k.time.isFinite = true ∧ (p.value k).isFinite = true)
    (differences : (p.curve keyframes).HasFiniteDifferences) (instant : var.IsFinite) :
    ∃ formula,
      Formula.read? ((p.curve keyframes).expressionText var.name).toList = some formula ∧
        (formula.eval t).same ((p.curve keyframes).sample (var.value t)) = true :=
  (p.isProper_curve finite differences).read_expressionText instant t

/-- Keyframes that are out of order, with two at one time, a negative time and a negative value. -/
theorem evaluate_expressionText_falling :
    let keyframes : List Keyframe := [⟨2, -10, 0, 1, 1⟩, ⟨-1, 10, 0, 1, 1⟩, ⟨-1, 5, 0, 1, 1⟩]
    let var : CurveVariable := .since (.ofDecimal false 15 (-1))
    ∃ formula,
      Formula.read? ((TextProperty.x.curve keyframes).expressionText var.name).toList = some formula ∧
        (formula.eval 3).same ((TextProperty.x.curve keyframes).sample (var.value 3)) = true := by
  intro keyframes var
  have ordered : Curve.sorted [⟨2, -10⟩, ⟨-1, 10⟩, ⟨-1, 5⟩] =
      ([⟨-1, 10⟩, ⟨-1, 5⟩, ⟨2, -10⟩] : List (CurvePoint Double)) := by
    have late : CurveNumber.sortLe (2 : Double) (-1) = false := by decide +kernel
    have early : CurveNumber.sortLe (-1 : Double) (-1) = true := by decide +kernel
    simp [Curve.sorted, List.mergeSort, List.MergeSort.Internal.splitInTwo, late, early]
  have differences : (TextProperty.x.curve keyframes).HasFiniteDifferences := by
    show (Curve.ofSorted 0 (Curve.sorted [⟨2, -10⟩, ⟨-1, 10⟩, ⟨-1, 5⟩])).HasFiniteDifferences
    rw [ordered]
    decide +kernel
  have instant : (Double.ofDecimal false 15 (-1)).isFinite = true := by decide +kernel
  exact evaluate_expressionText .x keyframes var 3 (by decide +kernel) differences instant

end TextProperty

end Compositor
