import Compositor.Datum.Record
import Compositor.Encoder.Backend

/-! # Engine settings

Where the engine is and how it is called.
-/

namespace Compositor

/-- How the engine is called. -/
structure EngineSettings where
  /-- The engine's binary. -/
  path : String
  /-- How many seconds a test encode may take. -/
  probeTimeout : Nat
  /-- How many seconds a render may take. -/
  runTimeout : Nat
  logLevel : String
  /-- Arguments that are added to every call. -/
  extraArgs : List String
  backend : Option Backend
deriving DecidableEq

namespace EngineSettings

/-- The settings unless said otherwise. -/
def standard : EngineSettings where
  path := "ffmpeg"
  probeTimeout := 10
  runTimeout := 3600
  logLevel := "error"
  extraArgs := []
  backend := none

/-- Reads engine settings, where a format may have its own way to name a backend. -/
def read (backend : Reader Backend) : Reader EngineSettings := fun d => do
  let (path, probeTimeout, runTimeout, logLevel, extraArgs, backend, ()) ←
    (Fields.cons (.orElse "ffmpeg_path" Reader.text standard.path) <|
      .cons (.orElse "probe_timeout_secs" Reader.natural64 standard.probeTimeout) <|
      .cons (.orElse "run_timeout_secs" Reader.natural64 standard.runTimeout) <|
      .cons (.orElse "log_level" Reader.text standard.logLevel) <|
      .cons (.orElse "extra_args" (Reader.list Reader.text) []) <|
      .cons (.absentable "backend" backend) .nil).readFront d
  pure { path, probeTimeout, runTimeout, logLevel, extraArgs, backend }

/-- The data form of engine settings. -/
def toDatum (e : EngineSettings) : Datum :=
  .ofMembers <|
    [("ffmpeg_path", .text e.path), ("probe_timeout_secs", .integer e.probeTimeout),
     ("run_timeout_secs", .integer e.runTimeout), ("log_level", .text e.logLevel),
     ("extra_args", .list (e.extraArgs.map .text))]
      ++ (e.backend.map fun b => ("backend", Datum.text b.name)).toList

end EngineSettings

end Compositor
