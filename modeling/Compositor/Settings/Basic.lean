import Compositor.Settings.Engine
import Compositor.Settings.Fetch
import Compositor.Settings.Jobs
import Compositor.Settings.Render
import Compositor.Url.Address

/-! # Settings

All settings of the service.  Every section and every setting may be left out.
Settings that can be read may still make no sense together; `Settings.fault?` says
what is wrong with them.
-/

namespace Compositor

/-- Where the service listens. -/
structure ServerSettings where
  host : Address
  port : Nat
deriving DecidableEq

namespace ServerSettings

/-- The settings unless said otherwise: any address of the machine. -/
def standard : ServerSettings := ⟨.short 0, 8080⟩

/-- An address. -/
def address : Reader Address
  | .text s =>
    match Address.parse? s with
    | some a => .ok a
    | none => .error .wrongShape
  | d => .error d.mismatch

/-- Reads server settings. -/
def read : Reader ServerSettings := fun d => do
  let (host, port, ()) ←
    (Fields.cons (.orElse "host" address standard.host) <|
      .cons (.orElse "port" Reader.natural16 standard.port) .nil).readFront d
  pure { host, port }

/-- The data form of server settings. -/
def toDatum (s : ServerSettings) : Datum :=
  .ofMembers [("host", .text s.host.text), ("port", .integer s.port)]

end ServerSettings

/-- All settings. -/
structure Settings where
  server : ServerSettings
  engine : EngineSettings
  render : RenderSettings
  jobs : JobSettings
  fetch : FetchSettings
deriving DecidableEq

namespace Settings

/-- The settings unless said otherwise. -/
def standard : Settings := ⟨.standard, .standard, .standard, .standard, .standard⟩

/-- Reads settings, where a format may have its own way to name a backend. -/
def read (backend : Reader Backend) : Reader Settings := fun d => do
  let (server, engine, render, jobs, fetch, ()) ←
    (Fields.cons (.orElse "server" ServerSettings.read .standard) <|
      .cons (.orElse "engine" (EngineSettings.read backend) .standard) <|
      .cons (.orElse "render" RenderSettings.read .standard) <|
      .cons (.orElse "jobs" JobSettings.read .standard) <|
      .cons (.orElse "fetch" FetchSettings.read .standard) .nil).readFront d
  pure { server, engine, render, jobs, fetch }

/-- The data form of settings. -/
def toDatum (s : Settings) : Datum :=
  .ofMembers
    [("server", s.server.toDatum), ("engine", s.engine.toDatum), ("render", s.render.toDatum),
     ("jobs", s.jobs.toDatum), ("fetch", s.fetch.toDatum)]

end Settings

/-- Why the service cannot work with its settings. -/
inductive SettingsError where
  /-- There is no settings file. -/
  | fileNotFound (path : String)
  /-- The settings cannot be read. -/
  | unreadable
  /-- A setting that must be positive is zero. -/
  | zero (setting : String)
  /-- Pauses between attempts would shrink. -/
  | shrinkingBackoff
deriving DecidableEq

/-- The error's text.  What exactly cannot be read is not told. -/
def SettingsError.message : SettingsError → String
  | fileNotFound path => "Configuration file not found: " ++ path
  | unreadable => "Configuration cannot be read"
  | zero setting => "Configuration validation failed: " ++ setting ++ " cannot be 0"
  | shrinkingBackoff =>
    "Configuration validation failed: fetch.retry.backoff_multiplier must be at least 1"

/-- The first fault of settings. -/
def Settings.fault? (s : Settings) : Option SettingsError :=
  let multiplier := s.fetch.retry.multiplier
  if s.server.port = 0 then some (.zero "server.port")
  else if s.render.fps = 0 then some (.zero "render.fps")
  else if s.render.maxImageInputs = 0 then some (.zero "render.max_image_inputs")
  else if s.fetch.maxConcurrent = 0 then some (.zero "fetch.max_concurrent")
  else if s.fetch.callsPerMinute = 0 then some (.zero "fetch.calls_per_minute")
  else if !multiplier.isFinite || multiplier.less 1 then some .shrinkingBackoff
  else none

end Compositor
