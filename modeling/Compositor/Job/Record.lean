import Compositor.Files.Path
import Compositor.Job.Status
import Compositor.Text.Blank

/-! # Jobs

A job is the record of a scene that is to be rendered: how far the work has come
and how it ended.  The record changes by transitions, and each transition is
possible only from some statuses; no transition leads out of a terminal one.
-/

namespace Compositor

/-- An instant, as records write it. -/
structure Timestamp where
  text : String
deriving DecidableEq

/-- A job. -/
structure Job where
  id : String
  title : String
  status : JobStatus
  /-- How far the work has come, up to 100. -/
  progress : Nat
  /-- What there is to say about the job now. -/
  message : String
  created : Timestamp
  /-- When the record last changed. -/
  updated : Timestamp
  /-- The rendered file, once there is one. -/
  output : Option String
  /-- What went wrong, if something did. -/
  error : Option String
deriving DecidableEq

/-- A change of a job. -/
inductive Transition where
  /-- Work begins. -/
  | start
  /-- Work has come so far. -/
  | progress (value : Nat) (message : String)
  | complete (output : String)
  | fail (error : String)
  | cancel (reason : String)
deriving DecidableEq

/-- Why a job was not changed. -/
inductive JobError where
  | notFound (id : String)
  /-- The job's status does not allow the transition. -/
  | invalidTransition (id : String) (source target : JobStatus)
deriving DecidableEq

/-- The error's text. -/
def JobError.message : JobError → String
  | notFound id => "Job not found: " ++ id
  | invalidTransition id source target =>
    "Cannot move job " ++ id ++ " from " ++ source.name ++ " to " ++ target.name

namespace Transition

/-- The status that the transition leads to. -/
def target : Transition → JobStatus
  | start => .processing
  | progress _ _ => .processing
  | complete _ => .completed
  | fail _ => .failed
  | cancel _ => .cancelled

/-- The statuses that the transition starts from. -/
def sources : Transition → List JobStatus
  | start => [.pending]
  | progress _ _ => [.processing]
  | complete _ => [.processing]
  | fail _ => [.pending, .processing]
  | cancel _ => [.pending, .processing]

end Transition

namespace Job

/-- The progress of a job whose work has begun. -/
def startProgress : Nat := 10

/-- The progress that only a completed job exceeds. -/
def progressLimit : Nat := 99

/-- The progress of a completed job. -/
def fullProgress : Nat := 100

/-- A new job. -/
def queued (id title : String) (now : Timestamp) : Job where
  id := id
  title := title
  status := .pending
  progress := 0
  message := "Queued"
  created := now
  updated := now
  output := none
  error := none

/-- What a cancelled job says if no reason is given. -/
def cancelledMessage (reason : String) : String :=
  if Text.allBlank reason then "Cancelled" else reason

/-- The job after a transition, its status and the time of the change apart. -/
def record (job : Job) : Transition → Job
  | .start => { job with progress := startProgress, message := "Processing" }
  | .progress value message =>
    { job with progress := max job.progress (min value progressLimit), message }
  | .complete output =>
    { job with progress := fullProgress, message := "Completed", output := some output }
  | .fail error => { job with message := "Failed: " ++ error, error := some error }
  | .cancel reason => { job with message := cancelledMessage reason }

/-- The job after a transition, if its status allows it. -/
def apply (job : Job) (t : Transition) (now : Timestamp) : Except JobError Job :=
  if job.status ∈ t.sources then .ok { job.record t with status := t.target, updated := now }
  else .error (.invalidTransition job.id job.status t.target)

end Job

end Compositor
