import Compositor.Scene.Basic

/-! # Curves through keyframes

A curve says how one property of a text changes over time: it keeps its first
value until the first keyframe, runs in straight lines between keyframes, and
keeps its last value after the last one.

Curves are defined for any kind of number that can do the arithmetic and has the
two orders needed here: one that sorts the keyframes and one that compares
times.  Doubles are the numbers of a scene; exact rationals are the ideal against
which they can be measured.

Keyframes may come in any order.  Of keyframes at one time, the first one is
where the line before them ends and the last one is where the line after them
starts.
-/

namespace Compositor

/-- What a curve needs of its numbers. -/
class CurveNumber (α : Type) extends Add α, Sub α, Mul α, Div α where
  /-- Numeric strict order, which picks the line to follow. -/
  less : α → α → Bool
  /-- Numeric equality, which tells whether two keyframes are at one time. -/
  same : α → α → Bool
  /-- The order that sorts the keyframes. -/
  sortLe : α → α → Bool

instance : CurveNumber Double where
  less := Double.less
  same := Double.same
  sortLe := Double.totalLe

instance : CurveNumber Rat where
  less x y := decide (x < y)
  same x y := decide (x = y)
  sortLe x y := decide (x ≤ y)

/-- A value that is to be reached at a time. -/
structure CurvePoint (α : Type) where
  time : α
  value : α

/-- A straight line between two points. -/
structure Segment (α : Type) where
  start : α
  finish : α
  source : α
  target : α

/-- How a property changes over time. -/
inductive Curve (α : Type) where
  | constant (value : α)
  /-- The value before the first line, the lines in order of time, and the value
      after the last line. -/
  | pieces (before : α) (segments : List (Segment α)) (after : α)

namespace Segment

variable {α : Type} [CurveNumber α]

/-- How much the value changes over the line. -/
def delta (s : Segment α) : α := s.target - s.source

/-- How long the line takes. -/
def span (s : Segment α) : α := s.finish - s.start

/-- The value at a time. -/
def valueAt (s : Segment α) (t : α) : α := s.source + s.delta * (t - s.start) / s.span

end Segment

namespace Curve

variable {α : Type} [CurveNumber α]

/-- The points in order of time; points at one time keep their order. -/
def sorted (points : List (CurvePoint α)) : List (CurvePoint α) :=
  points.mergeSort fun a b => CurveNumber.sortLe a.time b.time

/-- The lines between neighbouring points that are not at one time. -/
def segmentsOf : List (CurvePoint α) → List (Segment α)
  | a :: b :: rest =>
    if CurveNumber.same a.time b.time then segmentsOf (b :: rest)
    else ⟨a.time, b.time, a.value, b.value⟩ :: segmentsOf (b :: rest)
  | _ => []

/-- The curve through sorted points. -/
def ofSorted (neutral : α) : List (CurvePoint α) → Curve α
  | [] => constant neutral
  | first :: rest =>
    let points := first :: rest
    let last := points.getLast (List.cons_ne_nil _ _)
    let segments := segmentsOf points
    -- All points are at one time: the last one counts.
    if segments.isEmpty then constant last.value
    else if points.all fun p => CurveNumber.same p.value first.value then constant first.value
    else pieces first.value segments last.value

/-- The curve through points in any order, or the neutral value if there are
    none. -/
def ofPoints (neutral : α) (points : List (CurvePoint α)) : Curve α :=
  ofSorted neutral (sorted points)

/-- The value at a time: the first line that ends after it, or the values around
    the lines. -/
def sample (curve : Curve α) (t : α) : α :=
  match curve with
  | constant value => value
  | pieces _ [] after => after
  | pieces before (first :: rest) after =>
    if CurveNumber.less t first.start then before
    else
      match (first :: rest).find? fun s => CurveNumber.less t s.finish with
      | some s => s.valueAt t
      | none => after

/-- The curve never changes. -/
def isConstant : Curve α → Bool
  | constant _ => true
  | pieces _ _ _ => false

end Curve

/-! ## Properties of a text -/

/-- A property of a text that may change over time. -/
inductive TextProperty where
  | x
  | y
  | opacity
  | scale
deriving DecidableEq

namespace TextProperty

/-- The value that changes nothing. -/
def neutral : TextProperty → Double
  | x => 0
  | y => 0
  | opacity => 1
  | scale => 1

/-- The property's value in a keyframe. -/
def value : TextProperty → Keyframe → Double
  | x => Keyframe.x
  | y => Keyframe.y
  | opacity => Keyframe.opacity
  | scale => Keyframe.scale

/-- The property's curve through keyframes. -/
def curve (p : TextProperty) (keyframes : List Keyframe) : Curve Double :=
  .ofPoints p.neutral (keyframes.map fun k => ⟨k.time, p.value k⟩)

end TextProperty

end Compositor
