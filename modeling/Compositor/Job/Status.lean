import Compositor.Text.Blank

/-! # Job status

A job waits, is worked on, and comes to one of three ends.
-/

namespace Compositor

/-- Where a job stands. -/
inductive JobStatus where
  | pending
  | processing
  | completed
  | failed
  | cancelled
deriving DecidableEq

namespace JobStatus

/-- Every status. -/
def all : List JobStatus := [pending, processing, completed, failed, cancelled]

/-- The status's name. -/
def name : JobStatus → String
  | pending => "pending"
  | processing => "processing"
  | completed => "completed"
  | failed => "failed"
  | cancelled => "cancelled"

/-- Nothing happens to a job any more. -/
def isTerminal : JobStatus → Bool
  | pending => false
  | processing => false
  | completed => true
  | failed => true
  | cancelled => true

/-- The status of a name, in capital or small letters of the Latin alphabet. -/
def parse? (text : String) : Option JobStatus := all.find? fun s => s.name == Text.lower text

/-- What is said of a text that names no status. -/
def unknownMessage (text : String) : String := "unknown job status: " ++ Text.lower text

end JobStatus

end Compositor
