import Compositor.Datum.Basic
import Compositor.Job.Record

/-! # The data form of jobs

A job has two forms: the full record, and the report that callers are given, which
leaves out what there is not.
-/

namespace Compositor.Job

/-- The members that both forms begin with. -/
def commonMembers (job : Job) : List (String × Datum) :=
  [("id", .text job.id), ("title", .text job.title), ("status", .text job.status.name),
   ("progress", .integer job.progress), ("message", .text job.message)]

/-- When the job was created and last changed. -/
def timeMembers (job : Job) : List (String × Datum) :=
  [("created_at", .text job.created.text), ("updated_at", .text job.updated.text)]

/-- A text that may be absent. -/
def orNull : Option String → Datum
  | none => .null
  | some s => .text s

/-- A member that is left out if its text is absent. -/
def ifPresent (name : String) : Option String → List (String × Datum)
  | none => []
  | some s => [(name, .text s)]

/-- The full record. -/
def toDatum (job : Job) : Datum :=
  .ofMembers
    (job.commonMembers ++ job.timeMembers
      ++ [("output_path", orNull job.output), ("error", orNull job.error)])

/-- The report. -/
def report (job : Job) : Datum :=
  .ofMembers
    (job.commonMembers ++ ifPresent "output" job.output ++ ifPresent "error" job.error
      ++ job.timeMembers)

end Compositor.Job
