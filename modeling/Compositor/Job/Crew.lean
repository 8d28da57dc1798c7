import Compositor.Encoder.Error
import Compositor.Metric.Basic
import Compositor.Scene.Basic

/-! # Crews

A crew does the work of jobs: it stages the assets, chooses the encoder, runs the
engine and looks after the directories, and it can say what it has done.  What a
crew does is beyond the service's control, so a `Crew` is any way of doing it, over
states of the world.
-/

namespace Compositor

/-- How a piece of work ended. -/
inductive WorkEnd (ε α : Type) where
  | done (x : α)
  | error (e : ε)
  /-- The work broke off; the text says how. -/
  | panic (message : String)
deriving DecidableEq

/-- Ways to do the work of jobs, over states of the world. -/
structure Crew (ω : Type) where
  /-- Puts the assets of the scene of a job into its working directory. -/
  stage : (id workDir : String) → Scene → ω → WorkEnd AssetError Scene × ω
  /-- Chooses the encoder; a backend may be asked for. -/
  negotiate : Option Backend → ω → WorkEnd Empty EncoderProfile × ω
  /-- Creates a directory, unless it is there already. -/
  createDirectory : String → ω → WorkEnd FileError Unit × ω
  /-- Begins a run of the engine. -/
  begin : List String → ω → ω
  /-- How a run ended; nothing while it goes on. -/
  finish? : List String → ω → Option (WorkEnd EngineError Unit × ω)
  /-- Removes a directory and all that is in it, if it is there. -/
  removeDirectory : String → ω → ω
  /-- The directory is there. -/
  hasDirectory : String → ω → Bool
  /-- What the crew has counted by itself, latest first. -/
  counted : ω → List Metric
  /-- The traffic of the crew, if it gets assets from a network. -/
  traffic? : ω → Option FetchStatus

end Compositor
