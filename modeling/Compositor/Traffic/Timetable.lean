import Compositor.Traffic.Pool

/-! # Timetables of batches

When it is known how long each item of a batch takes, a pool that serves items in
the order of submission has only one course: an item starts as soon as there is
room, at the latest when the first of the running items ends.
-/

namespace Compositor

/-- An item that takes a known time, which may be none. -/
structure TimedItem (α : Type) where
  duration : Nat
  result : ItemEnd α

/-- The course of one batch: for each item when it starts and when it ends, and
    the most items at once. -/
structure Timetable where
  spans : List (Nat × Nat)
  peak : Nat

namespace Timetable

variable {α : Type}

/-- A running item: its position, when it ends, and how. -/
structure Running (α : Type) where
  index : Nat
  finish : Nat
  result : ItemEnd α

/-- The first end among running items, or the present. -/
def firstEnd (now : Nat) : List (Running α) → Nat
  | [] => now
  | r :: rs => rs.foldl (fun t r => min t r.finish) r.finish

/-- Serves the remaining items of a batch and gives each step of the pool with its
    time.  When all places are taken, time goes on to the first end. -/
def serve (limit batch : Nat) (now : Nat) (running : List (Running α)) (index : Nat) :
    List (TimedItem α) → List (Nat × PoolStep α)
  | [] =>
    let left := running.mergeSort fun r s => decide (r.finish ≤ s.finish)
    left.map fun r => (r.finish, .finish batch r.index r.result)
  | item :: items =>
    let time := if running.length < limit then now else firstEnd now running
    let done := if running.length < limit then [] else running.filter fun r => r.finish == time
    let running := running.filter fun r => done.all fun o => o.index != r.index
    let ends := done.map fun r => (r.finish, .finish batch r.index r.result)
    let start := (time, .start batch index)
    -- An item that takes no time gives its place back before the next one is served.
    if item.duration = 0 then
      ends ++ [start, (time, .finish batch index item.result)]
        ++ serve limit batch time running (index + 1) items
    else
      ends ++ [start]
        ++ serve limit batch time (running ++ [⟨index, time + item.duration, item.result⟩])
          (index + 1) items

/-- The steps of a course, with all that an item does when its task has ended. -/
def allSteps (course : List (Nat × PoolStep α)) : List (PoolStep α) :=
  course.flatMap fun
    | (_, .finish batch item result) => PoolStep.ending batch item result
    | (_, step) => [step]

/-- When an item starts and ends, by the steps with their times. -/
def span (steps : List (Nat × PoolStep α)) (index : Nat) : Nat × Nat :=
  let startTime := steps.findSome? fun
    | (t, .start _ i) => if i = index then some t else none
    | _ => none
  let endTime := steps.findSome? fun
    | (t, .finish _ i _) => if i = index then some t else none
    | _ => none
  (startTime.getD 0, endTime.getD 0)

/-- The most items that run at once in a course of steps. -/
def peakFrom (running : Nat) : List (PoolStep α) → Nat
  | [] => running
  | .start _ _ :: ss => max running (peakFrom (running + 1) ss)
  | .finish _ _ _ :: ss => max running (peakFrom (running - 1) ss)
  | _ :: ss => peakFrom running ss

end Timetable

namespace Pool

variable {α : Type}

/-- Runs a batch of timed items on a pool that runs nothing else: the report, the
    course of the batch, and the pool after it. -/
def runTimed (p : Pool α) (items : List (TimedItem α)) :
    Except BatchError (List α) × Timetable × Pool α :=
  let batch := p.batches.length
  let course := Timetable.serve p.status.maxConcurrent batch 0 [] 0 items
  let p :=
    p.steps
      (.submit items.length :: Timetable.allSteps course ++ PoolStep.joining batch items.length)
  ((p.result? batch).getD (.ok []),
    { spans := (List.range items.length).map (Timetable.span course)
      peak := Timetable.peakFrom 0 (course.map (·.2)) },
    p)

end Pool

end Compositor
