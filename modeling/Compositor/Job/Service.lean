import Compositor.Job.Crew
import Compositor.Job.Store
import Compositor.Metric.Basic
import Compositor.Program.Arguments
import Compositor.Program.Layers
import Compositor.Scene.Validation
import Compositor.Settings.Jobs

/-! # The job service

The service accepts scenes as jobs and has a worker for each.  Callers and workers
are *parties* that act side by side.  A party acts in steps: it changes the store
and then runs the errands that follow from the change, one at a time.  Between two
steps of a party others may take any number of steps.

A worker learns that its job was cancelled when the store refuses its next change;
it is not interrupted.
-/

namespace Compositor

/-! ## Parties -/

/-- What is left to do after a change of the store. -/
inductive Errand where
  | count (m : Metric)
  /-- The observer is told what the job is like now. -/
  | tell (job : Job)
deriving DecidableEq

/-- How the work on a job ended. -/
inductive WorkOutcome where
  /-- The video is in this file. -/
  | finished (output : String)
  /-- The job has come to an end without its worker. -/
  | overtaken
  | failed (message : String)
deriving DecidableEq

/-- A run of the engine that is prepared. -/
structure RunOrder where
  backend : Backend
  args : List String
  output : String
deriving DecidableEq

/-- What a worker does next. -/
inductive Phase where
  /-- Takes the job up. -/
  | start
  /-- Stages the assets. -/
  | stage
  /-- Reports that the assets are staged. -/
  | staged (scene : Scene)
  /-- Compiles the scene. -/
  | compile (scene : Scene)
  /-- Chooses the encoder. -/
  | negotiate (scene : Scene) (program : Program)
  /-- Creates the directory of the video and prepares the run. -/
  | prepare (program : Program) (profile : EncoderProfile)
  /-- Reports that the run begins. -/
  | prepared (order : RunOrder)
  /-- Begins the run. -/
  | launch (order : RunOrder)
  /-- Waits for the end of the run. -/
  | render (order : RunOrder)
  /-- Reports that the run is over. -/
  | rendered (order : RunOrder)
  /-- Leaves the job: cleans up, or reports a failure. -/
  | leave (outcome : WorkOutcome)
  /-- Cleans up after a failure. -/
  | cleanUp (outcome : WorkOutcome)
  /-- Reports success. -/
  | complete (output : String)
  /-- Nothing more. -/
  | ended (outcome : WorkOutcome)
deriving DecidableEq

/-- A worker: its job, the scene that was submitted and what it does next. -/
structure Worker where
  id : String
  scene : Scene
  phase : Phase
deriving DecidableEq

/-- Someone who acts: errands to run first, then work to go on with. -/
structure Party where
  errands : List Errand
  worker : Option Worker
deriving DecidableEq

/-! ## The service -/

/-- How the service renders. -/
structure ServiceSettings where
  render : RenderSettings
  jobs : JobSettings
  /-- The backend to try for scenes that ask for none. -/
  backend : Option Backend

/-- Why a call was refused. -/
inductive ServiceError where
  /-- The scene cannot be rendered; there is no job. -/
  | validation (e : SceneError)
  | job (e : JobError)
deriving DecidableEq

/-- The error's text. -/
def ServiceError.message : ServiceError → String
  | validation e => "Invalid request: " ++ e.message
  | job e => e.message

/-- What the service takes from the machine that it runs on: the time, and a random
    generator for compilers that are given no seed. -/
structure Surroundings where
  now : Timestamp
  entropy : Generator

/-- The state of the service and of the world around it. -/
structure Service (ω : Type) where
  settings : ServiceSettings
  store : JobStore
  tally : Tally
  /-- What the observer was told, latest last. -/
  reports : List Job
  parties : List Party
  around : Surroundings
  world : ω

/-- A step of the service. -/
inductive ServiceStep where
  /-- A scene comes in; its job gets this identifier. -/
  | submit (id : String) (scene : Scene)
  /-- A job is to be cancelled. -/
  | cancel (id : String) (reason : Option String)
  /-- A party goes on. -/
  | go (party : Nat)
  /-- The surroundings change: time passes. -/
  | turn (around : Surroundings)

namespace Service

variable {ω : Type}

/-- A service without jobs. -/
def ofSettings (settings : ServiceSettings) (around : Surroundings) (world : ω) : Service ω :=
  ⟨settings, .empty, .zero, [], [], around, world⟩

/-! ## Changes of the store -/

/-- The errands that follow from a change of a job. -/
def errandsOf (job : Job) : List Errand :=
  if job.status.isTerminal then [.count (.jobFinished job.status), .tell job] else [.tell job]

/-- Lets a job take a transition; the value is the changed job. -/
def change (s : Service ω) (id : String) (t : Transition) : Except JobError Job × Service ω :=
  let (result, store) := s.store.update id t s.around.now
  (result, { s with store })

/-! ## Callers -/

/-- Takes a scene in as a job.  The party that submits becomes the job's worker when
    its errands are done. -/
def accept (s : Service ω) (id : String) (scene : Scene) : Except ServiceError Job × Service ω :=
  match scene.fault? with
  | some e => (.error (.validation e), s)
  | none =>
    let (job, store) := s.store.create id scene.title s.around.now
    let party : Party :=
      { errands := [.count .jobSubmitted, .tell job], worker := some ⟨id, scene, .start⟩ }
    (.ok job, { s with store, parties := s.parties ++ [party] })

/-- Why a job is cancelled if no reason is given. -/
def standardReason : String := "Cancelled by request"

/-- The reason of a cancellation: the one given, unless it is blank. -/
def reasonOf (reason : Option String) : String :=
  (reason.filter fun r => !Text.allBlank r).getD standardReason

/-- Cancels a job. -/
def revoke (s : Service ω) (id : String) (reason : Option String) :
    Except ServiceError Job × Service ω :=
  match s.change id (.cancel (reasonOf reason)) with
  | (.ok job, s) => (.ok job, { s with parties := s.parties ++ [⟨errandsOf job, none⟩] })
  | (.error e, s) => (.error (.job e), s)

/-! ## Errands -/

/-- Runs an errand. -/
def run (s : Service ω) : Errand → Service ω
  | .count m => { s with tally := s.tally.add m }
  | .tell job => { s with reports := s.reports ++ [job] }

/-! ## Workers -/

/-- What a refused change means for the worker. -/
def outcomeOf : JobError → WorkOutcome
  | .invalidTransition _ _ _ => .overtaken
  | .notFound id => .failed (JobError.notFound id).message

/-- What work that broke off means for the worker. -/
def brokenOff (message : String) : Phase := .leave (.failed ("Worker panicked: " ++ message))

/-- A worker's change of its job: the phase that follows if it is made. -/
def report (s : Service ω) (id : String) (t : Transition) (next : Phase) :
    List Errand × Phase × Service ω :=
  match s.change id t with
  | (.ok job, s) => (errandsOf job, next, s)
  | (.error e, s) => ([], .leave (outcomeOf e), s)

/-- The generator of a compiler: that of the seed, if there is one. -/
def generator (s : Service ω) : Generator :=
  match s.settings.render.seed with
  | some seed => .ofSeed (UInt64.ofNat seed)
  | none => s.around.entropy

/-- The program of a staged scene. -/
def program (s : Service ω) (scene : Scene) : Program :=
  (scene.compile s.settings.render s.generator).1

/-- The run of a program. -/
def order (s : Service ω) (id : String) (program : Program) (profile : EncoderProfile) : RunOrder :=
  let output := s.settings.jobs.outputPath id
  { backend := profile.backend, args := program.args profile s.settings.render output, output }

variable (crew : Crew ω)

/-- The working directory is removed. -/
def clear (s : Service ω) (id : String) : Service ω :=
  { s with world := crew.removeDirectory (s.settings.jobs.jobDir id) s.world }

/-- The next step of a worker; nothing while it waits or when it has ended. -/
def work? (s : Service ω) (w : Worker) : Option (List Errand × Phase × Service ω) :=
  match w.phase with
  | .start => some (s.report w.id .start .stage)
  | .stage =>
    let (result, world) := crew.stage w.id (s.settings.jobs.jobDir w.id) w.scene s.world
    let s := { s with world }
    match result with
    | .done scene => some ([], .staged scene, s)
    | .error e => some ([], .leave (.failed ("Asset staging failed: " ++ e.message)), s)
    | .panic message => some ([], brokenOff message, s)
  | .staged scene => some (s.report w.id (.progress 30 "Assets staged") (.compile scene))
  | .compile scene => some ([], .negotiate scene (s.program scene), s)
  | .negotiate scene program =>
    let (result, world) := crew.negotiate (scene.backend.or s.settings.backend) s.world
    let s := { s with world }
    match result with
    | .done profile => some ([], .prepare program profile, s)
    | .panic message => some ([], brokenOff message, s)
  | .prepare program profile =>
    let (result, world) := crew.createDirectory s.settings.jobs.outputDir s.world
    let s := { s with world }
    match result with
    | .done () => some ([], .prepared (s.order w.id program profile), s)
    | .error e => some ([], .leave (.failed ("I/O error: " ++ e.message)), s)
    | .panic message => some ([], brokenOff message, s)
  | .prepared order =>
    some
      (s.report w.id (.progress 50 ("Rendering with " ++ order.backend.name)) (.launch order))
  | .launch order => some ([], .render order, { s with world := crew.begin order.args s.world })
  | .render order =>
    match crew.finish? order.args s.world with
    -- The run goes on, and the worker waits for it.
    | none => none
    | some (result, world) =>
      let s := { s with world }
      match result with
      | .done () => some ([.count (.engineRun order.backend true)], .rendered order, s)
      | .error e =>
        some ([.count (.engineRun order.backend false)], .leave (.failed e.message), s)
      | .panic message => some ([], brokenOff message, s)
  | .rendered order =>
    some
      (s.report w.id (.progress 90 "Render finished") (.leave (.finished order.output)))
  -- A finished job is cleaned up before it is reported, a failed one after it.
  | .leave (.finished output) => some ([], .complete output, s.clear crew w.id)
  | .leave .overtaken => some ([], .ended .overtaken, s.clear crew w.id)
  | .leave (.failed message) =>
    match s.change w.id (.fail message) with
    | (.ok job, s) => some (errandsOf job, .cleanUp (.failed message), s)
    -- A failure that comes after a cancellation is not recorded.
    | (.error _, s) => some ([], .cleanUp (.failed message), s)
  | .cleanUp outcome =>
    some ([], .ended outcome, if s.settings.jobs.retainFailed then s else s.clear crew w.id)
  | .complete output =>
    match s.change w.id (.complete output) with
    | (.ok job, s) => some (errandsOf job, .ended (.finished output), s)
    | (.error _, s) => some ([], .ended (.finished output), s)
  | .ended _ => none

/-! ## Steps -/

/-- The next step of a party: the first errand, or else the worker's next step. -/
def act? (s : Service ω) (p : Party) : Option (Party × Service ω) :=
  match p with
  | ⟨e :: es, worker⟩ => some (⟨es, worker⟩, s.run e)
  | ⟨[], some w⟩ =>
    (s.work? crew w).map fun r => (⟨r.1, some { w with phase := r.2.1 }⟩, r.2.2)
  | ⟨[], none⟩ => none

/-- A party goes on; nothing if it cannot. -/
def go? (s : Service ω) (i : Nat) : Option (Service ω) := do
  let p ← s.parties[i]?
  let (p, s) ← s.act? crew p
  pure { s with parties := s.parties.set i p }

/-- Takes a step, if it is possible.  A job needs an identifier of its own. -/
def step? (s : Service ω) : ServiceStep → Option (Service ω)
  | .submit id scene =>
    if (s.store.get? id).isSome then none else some (s.accept id scene).2
  | .cancel id reason => some (s.revoke id reason).2
  | .go i => s.go? crew i
  | .turn around => some { s with around }

end Service

end Compositor
