import Compositor.Job.Service

/-! # Calls

A call is all that a caller does at once: a change of the store together with the
errands that follow from it.  Workers act between calls; `Service.settle` lets them
go on until none of them can.
-/

namespace Compositor

/-! ## How far parties can go -/

/-- The most steps that a worker takes from a phase on, errands apart. -/
def Phase.stepsLeft : Phase → Nat
  | start => 12
  | stage => 11
  | staged _ => 10
  | compile _ => 9
  | negotiate _ _ => 8
  | prepare _ _ => 7
  | prepared _ => 6
  | launch _ => 5
  | render _ => 4
  | rendered _ => 3
  | leave _ => 2
  | cleanUp _ => 1
  | complete _ => 1
  | ended _ => 0

/-- The most steps that a party takes: at most two errands follow from a step of its
    worker. -/
def Party.stepsLeft (p : Party) : Nat :=
  p.errands.length + ((p.worker.map fun w => 3 * w.phase.stepsLeft).getD 0)

namespace Service

variable {ω : Type}

/-- A party runs all its errands. -/
def runErrands (s : Service ω) (i : Nat) : Service ω :=
  match s.parties[i]? with
  | none => s
  | some p =>
    { p.errands.foldl run s with parties := s.parties.set i { p with errands := [] } }

/-! ## Calls -/

/-- Submits a scene; the value is its job. -/
def submit (s : Service ω) (id : String) (scene : Scene) : Except ServiceError Job × Service ω :=
  let (result, after) := s.accept id scene
  (result, after.runErrands s.parties.length)

/-- Cancels a job; the value is the job. -/
def cancel (s : Service ω) (id : String) (reason : Option String) :
    Except ServiceError Job × Service ω :=
  let (result, after) := s.revoke id reason
  (result, after.runErrands s.parties.length)

/-! ## Letting workers go on -/

variable (crew : Crew ω)

/-- A party takes at most so many steps. -/
def goOn (i : Nat) : Nat → Service ω → Service ω
  | 0, s => s
  | n + 1, s =>
    match s.go? crew i with
    | some s => goOn i n s
    | none => s

/-- A party goes on until it cannot. -/
def goThrough (s : Service ω) (i : Nat) : Service ω :=
  match s.parties[i]? with
  | some p => s.goOn crew i p.stepsLeft
  | none => s

/-- All parties go on in turn until they cannot. -/
def settle (s : Service ω) : Service ω :=
  (List.range s.parties.length).foldl (fun s i => s.goThrough crew i) s

/-! ## Waiting for a job -/

/-- The record of a job is final. -/
def isOver (s : Service ω) (id : String) : Bool :=
  (s.store.get? id).any fun job => job.status.isTerminal

/-- A party takes at most so many steps, and none but errands once a job is over. -/
def goOnUntilOver (id : String) (i : Nat) : Nat → Service ω → Service ω
  | 0, s => s
  | n + 1, s =>
    if s.isOver id then s.runErrands i
    else
      match s.go? crew i with
      | some s => goOnUntilOver id i n s
      | none => s

/-- The worker of a job goes on until the job is over; it may have more to do then.  Other
    parties go on until they cannot. -/
def goTowards (id : String) (s : Service ω) (i : Nat) : Service ω :=
  match s.parties[i]? with
  | none => s
  | some p =>
    if p.worker.any (fun w => w.id == id) then s.goOnUntilOver crew id i p.stepsLeft
    else s.goThrough crew i

/-- A caller waits until a job is over.  Meanwhile all parties go on in turn. -/
def await (s : Service ω) (id : String) : Service ω :=
  if s.isOver id then s
  else (List.range s.parties.length).foldl (goTowards crew id) s

end Service

end Compositor
