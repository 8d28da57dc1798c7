import Compositor.Assets.Download
import Compositor.Encoder.Backend
import Compositor.Job.Status

/-! # Metrics

What the service counts about its work.  A count goes up by one at a time, so a
`Tally` is the list of all increments.
-/

namespace Compositor

/-- Something that is counted. -/
inductive Metric where
  /-- A job was accepted. -/
  | jobSubmitted
  /-- A job came to an end. -/
  | jobFinished (status : JobStatus)
  /-- A run of the engine came to an end. -/
  | engineRun (backend : Backend) (ok : Bool)
  /-- A backend was probed. -/
  | probe (backend : Backend) (ok : Bool)
  /-- A download was attempted. -/
  | fetchAttempt (outcome : AttemptOutcome)
  /-- A request was answered. -/
  | request (method path : String) (status : Nat)
deriving DecidableEq

/-- Increments. -/
structure Tally where
  /-- All increments, latest first. -/
  increments : List Metric

namespace Tally

/-- Nothing counted. -/
def zero : Tally := ⟨[]⟩

/-- Counts once. -/
def add (t : Tally) (m : Metric) : Tally := ⟨m :: t.increments⟩

/-- How often it was counted. -/
def count (t : Tally) (m : Metric) : Nat := t.increments.count m

end Tally

end Compositor
