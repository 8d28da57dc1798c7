import Compositor.Assets.Staging
import Compositor.Encoder.Negotiation
import Compositor.Job.Crew
import Compositor.Metric.Basic
import Compositor.Rehearsal.Engine
import Compositor.Rehearsal.Stager

/-! # A rehearsal crew

A crew whose engine renders nothing.  Its stager is either one that stages nothing
or the real one, over a network.
-/

namespace Compositor

/-- Who stages the assets. -/
inductive StagerChoice (σ : Type) where
  | rehearsal (stager : RehearsalStager)
  | network (stager : Stager σ)

/-- What a rehearsal crew works with. -/
structure RehearsalWorld (σ : Type) where
  engine : RehearsalEngine
  negotiator : Negotiator
  stager : StagerChoice σ
  files : FileTree

namespace RehearsalWorld

variable {σ : Type}

/-- Probes a backend. -/
def probe (b : Backend) (e : RehearsalEngine) : Bool × RehearsalEngine :=
  let (result, e) := e.probe b
  (result.isOk, e)

/-- The working of a stager: its result, the files and the stager itself. -/
def stageWith (net : Network σ) (id workDir : String) (scene : Scene) (files : FileTree) :
    StagerChoice σ → Except AssetError Scene × FileTree × StagerChoice σ
  | .rehearsal stager =>
    let (result, files, stager) := stager.stage id workDir scene files
    (result, files, .rehearsal stager)
  | .network stager =>
    let (result, stager) := Stager.stage net workDir scene { stager with files }
    (result, stager.files, .network stager)

/-- Stages the assets of a job. -/
def stage (net : Network σ) (id workDir : String) (scene : Scene) (w : RehearsalWorld σ) :
    WorkEnd AssetError Scene × RehearsalWorld σ :=
  let (result, files, stager) := stageWith net id workDir scene w.files w.stager
  let w := { w with files, stager }
  match result with
  | .ok scene => (.done scene, w)
  | .error e => (.error e, w)

/-- Chooses the encoder. -/
def negotiate (pinned : Option Backend) (w : RehearsalWorld σ) :
    WorkEnd Empty EncoderProfile × RehearsalWorld σ :=
  let (profile, negotiator, engine) := w.negotiator.negotiate probe pinned w.engine
  (.done profile, { w with negotiator, engine })

/-- Creates a directory. -/
def createDirectory (path : String) (w : RehearsalWorld σ) :
    WorkEnd FileError Unit × RehearsalWorld σ :=
  match w.files.createDirectories path with
  | .ok files => (.done (), { w with files })
  | .error e => (.error e, w)

/-- Ends a run, unless runs are held. -/
def finish? (w : RehearsalWorld σ) : Option (WorkEnd EngineError Unit × RehearsalWorld σ) :=
  if w.engine.held then none
  else
    let (result, engine) := w.engine.endRun
    some (result, { w with engine })

/-- Removes a directory.  A failure is passed over. -/
def removeDirectory (path : String) (w : RehearsalWorld σ) : RehearsalWorld σ :=
  match w.files.removeDirectory path with
  | .ok files => { w with files }
  | .error _ => w

/-- What the crew has counted by itself, latest first. -/
def counted (w : RehearsalWorld σ) : List Metric :=
  (match w.stager with
    | .rehearsal _ => []
    | .network stager => stager.attempts.map .fetchAttempt)
    ++ w.engine.probes.reverse.map fun p => .probe p.1 p.2

/-- The traffic of the stager, if it gets assets from a network. -/
def traffic? (net : Network σ) (w : RehearsalWorld σ) : Option FetchStatus :=
  match w.stager with
  | .rehearsal _ => none
  | .network stager => some (stager.status net)

/-- The crew. -/
def crew (net : Network σ) : Crew (RehearsalWorld σ) where
  stage := stage net
  negotiate := negotiate
  createDirectory := createDirectory
  begin args w := { w with engine := w.engine.beginRun args }
  finish? _ w := w.finish?
  removeDirectory := removeDirectory
  hasDirectory path w := w.files.isDirectory path
  counted := counted
  traffic? := traffic? net

end RehearsalWorld

end Compositor
