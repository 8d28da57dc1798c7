import Compositor.Job.Crew

/-! # A rehearsal engine

An engine that renders nothing.  It is told beforehand which probes succeed and
what becomes of the next run, and remembers all calls.  A run has a beginning and
an end, and between them it waits as long as runs are held.
-/

namespace Compositor

/-- What the engine was told and what it has seen. -/
structure RehearsalEngine where
  /-- The backends whose probes succeed. -/
  working : Backend → Bool
  /-- The backends that were probed, in order, and whether the probe succeeded. -/
  probes : List (Backend × Bool)
  /-- The arguments of all runs, in order. -/
  runs : List (List String)
  /-- The error of the next run. -/
  nextError : Option EngineError
  /-- The next run breaks down. -/
  nextPanics : Bool
  /-- Runs do not end. -/
  held : Bool
  /-- How many milliseconds a run takes. -/
  delay : Nat

namespace RehearsalEngine

/-- The engine's name. -/
def name : String := "mock"

/-- An engine whose probes all fail and whose runs succeed. -/
def fresh : RehearsalEngine := ⟨fun _ => false, [], [], none, false, false, 0⟩

/-- The backends that were probed, in order. -/
def probed (e : RehearsalEngine) : List Backend := e.probes.map (·.1)

/-- Says whether probes of a backend succeed. -/
def setProbe (e : RehearsalEngine) (b : Backend) (ok : Bool) : RehearsalEngine :=
  { e with working := fun x => if x = b then ok else e.working x }

/-- Probes a backend. -/
def probe (b : Backend) (e : RehearsalEngine) : Except EngineError Unit × RehearsalEngine :=
  let e := { e with probes := e.probes ++ [(b, e.working b)] }
  if e.working b then (.ok (), e) else (.error (.probeFailed b "mock probe failure"), e)

/-- Begins a run. -/
def beginRun (args : List String) (e : RehearsalEngine) : RehearsalEngine :=
  { e with runs := e.runs ++ [args] }

/-- Ends a run, as it was told.  An error that was set stays for the next run if
    this one breaks down. -/
def endRun (e : RehearsalEngine) : WorkEnd EngineError Unit × RehearsalEngine :=
  if e.nextPanics then (.panic "mock engine crashed", { e with nextPanics := false })
  else
    -- An error that was set is used up by one run.
    match e.nextError with
    | some error => (.error error, { e with nextError := none })
    | none => (.done (), e)

end RehearsalEngine

end Compositor
