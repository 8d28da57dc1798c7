import Compositor.Job.Record
import Std.Data.TreeMap.Basic

/-! # The job store

The store keeps the record of each job under its identifier, and beside the records
the identifiers in the order of their creation.  It is changed in two ways: a job is
created, or a job takes a transition.
-/

namespace Compositor

/-- All jobs. -/
structure JobStore where
  /-- The identifiers of all jobs, oldest first. -/
  ids : List String
  /-- The record of each job. -/
  records : Std.TreeMap String Job

/-- Which jobs are listed. -/
structure JobFilter where
  /-- Only jobs of this status. -/
  status : Option JobStatus
  /-- So many at most. -/
  limit : Nat
  /-- So many of the newest are left out. -/
  offset : Nat
deriving DecidableEq

namespace JobFilter

/-- The filter unless said otherwise. -/
def standard : JobFilter := ⟨none, 100, 0⟩

/-- The filter for all jobs of a status. -/
def ofStatus (status : JobStatus) : JobFilter := { standard with status := some status }

/-- The job's status is wanted. -/
def admits (f : JobFilter) (job : Job) : Bool :=
  match f.status with
  | none => true
  | some status => job.status == status

end JobFilter

namespace JobStore

/-- No jobs. -/
def empty : JobStore := ⟨[], ∅⟩

/-- All records, in no order that means anything. -/
def jobs (s : JobStore) : List Job := s.records.toList.map Prod.snd

/-- The job of an identifier. -/
def get? (s : JobStore) (id : String) : Option Job := s.records[id]?

/-- Creates a job. -/
def create (s : JobStore) (id title : String) (now : Timestamp) : Job × JobStore :=
  let job := Job.queued id title now
  (job, ⟨s.ids ++ [id], s.records.insert id job⟩)

/-- Puts another record under an identifier. -/
def replace (s : JobStore) (id : String) (job : Job) : JobStore :=
  { s with records := s.records.insert id job }

/-- Lets a job take a transition; the value is the changed job.  The store stays as
    it is if that is not possible. -/
def update (s : JobStore) (id : String) (t : Transition) (now : Timestamp) :
    Except JobError Job × JobStore :=
  match s.get? id with
  | none => (.error (.notFound id), s)
  | some job =>
    match job.apply t now with
    | .ok job => (.ok job, s.replace id job)
    | .error e => (.error e, s)

/-- All jobs of the wanted status, newest first. -/
def matching (s : JobStore) (f : JobFilter) : List Job :=
  (s.ids.reverse.filterMap s.get?).filter f.admits

/-- One page of the jobs of the wanted status, newest first. -/
def list (s : JobStore) (f : JobFilter) : List Job := ((s.matching f).drop f.offset).take f.limit

/-- The number of jobs of the wanted status, on whatever page. -/
def count (s : JobStore) (f : JobFilter) : Nat := s.jobs.countP f.admits

end JobStore

end Compositor
