import Compositor.Job.Service
import Compositor.Proofs.Job.Store

/-! # The moves of a worker

A worker goes from phase to phase.  In some phases it reports to the store, in others the
crew works for it, and at last it leaves the job.  `Move` lists all that a single step can
do to the phase and to the record of the job, with what happens besides; `Service.work?`
makes such moves and no others, and it changes no other job.
-/

namespace Compositor

/-- The pieces of work that a crew does for a job. -/
inductive Work where
  | staging
  | negotiation
  | directory
  | rendering
deriving DecidableEq

/-- What happens to a job. -/
inductive JobEvent where
  /-- A cancellation with this reason is accepted. -/
  | cancelled (reason : Option String)
  /-- The worker reports to the store, which may refuse it. -/
  | reported (t : Transition)
  /-- A piece of work is over; a failure has a text. -/
  | finished (work : Work) (failure : Option String)
  /-- The run of the engine begins. -/
  | launched
  /-- The working directory is removed. -/
  | cleared
deriving DecidableEq

/-! ## Phases -/

namespace Phase

/-- The phase reports a transition, and another phase follows if the store takes it. -/
inductive Reports : Phase → Transition → Phase → Prop where
  | start : Reports .start .start .stage
  | staged (scene : Scene) :
    Reports (.staged scene) (.progress 30 "Assets staged") (.compile scene)
  | prepared (order : RunOrder) :
    Reports (.prepared order) (.progress 50 ("Rendering with " ++ order.backend.name)) (.launch order)
  | rendered (order : RunOrder) :
    Reports (.rendered order) (.progress 90 "Render finished") (.leave (.finished order.output))

/-- The phase has a piece of work done, and another phase follows if that succeeds. -/
inductive Needs : Phase → Work → Phase → Prop where
  | stage (scene : Scene) : Needs .stage .staging (.staged scene)
  | negotiate (scene : Scene) (program : Program) (profile : EncoderProfile) :
    Needs (.negotiate scene program) .negotiation (.prepare program profile)
  | prepare (program : Program) (profile : EncoderProfile) (order : RunOrder) :
    Needs (.prepare program profile) .directory (.prepared order)
  | render (order : RunOrder) : Needs (.render order) .rendering (.rendered order)

end Phase

/-- A step of a worker: its phase and its job's record before, what happens, and the phase
    and the record after. -/
inductive Move : Phase → Job → List JobEvent → Phase → Job → Prop where
  | report {phase next : Phase} {t : Transition} {now : Timestamp} {job job' : Job}
      (reports : phase.Reports t next) (taken : job.apply t now = .ok job') :
    Move phase job [.reported t] next job'
  | overtaken {phase next : Phase} {t : Transition} {job : Job} (reports : phase.Reports t next)
      (refused : job.status ∉ t.sources) : Move phase job [.reported t] (.leave .overtaken) job
  | succeed {phase next : Phase} {work : Work} {job : Job} (needs : phase.Needs work next) :
    Move phase job [.finished work none] next job
  | fail {phase next : Phase} {work : Work} {job : Job} (needs : phase.Needs work next)
      (text : String) :
    Move phase job [.finished work (some text)] (.leave (.failed text)) job
  | compile (scene : Scene) (program : Program) {job : Job} :
    Move (.compile scene) job [] (.negotiate scene program) job
  | launch (order : RunOrder) {job : Job} : Move (.launch order) job [.launched] (.render order) job
  | clear (output : String) {job : Job} :
    Move (.leave (.finished output)) job [.cleared] (.complete output) job
  | giveUp {job : Job} : Move (.leave .overtaken) job [.cleared] (.ended .overtaken) job
  | recordFailure {text : String} {now : Timestamp} {job job' : Job}
      (taken : job.apply (.fail text) now = .ok job') :
    Move (.leave (.failed text)) job [.reported (.fail text)] (.cleanUp (.failed text)) job'
  | dropFailure {text : String} {job : Job}
      (refused : job.status ∉ (Transition.fail text).sources) :
    Move (.leave (.failed text)) job [.reported (.fail text)] (.cleanUp (.failed text)) job
  | cleanUp (outcome : WorkOutcome) {job : Job} :
    Move (.cleanUp outcome) job [.cleared] (.ended outcome) job
  | retain (outcome : WorkOutcome) {job : Job} : Move (.cleanUp outcome) job [] (.ended outcome) job
  | complete {output : String} {now : Timestamp} {job job' : Job}
      (taken : job.apply (.complete output) now = .ok job') :
    Move (.complete output) job [.reported (.complete output)] (.ended (.finished output)) job'
  | dropCompletion {output : String} {job : Job}
      (refused : job.status ∉ (Transition.complete output).sources) :
    Move (.complete output) job [.reported (.complete output)] (.ended (.finished output)) job

/-! ## Events of a step -/

/-- The text of a failure, if the work failed.  An error is described by a text of its own
    kind. -/
def WorkEnd.failure? {ε α : Type} (describe : ε → String) : WorkEnd ε α → Option String
  | .done _ => none
  | .error e => some (describe e)
  | .panic message => some ("Worker panicked: " ++ message)

variable {ω : Type} (crew : Crew ω)

/-- What happens to the worker's job in the worker's next step. -/
def Worker.events (s : Service ω) (w : Worker) : List JobEvent :=
  match w.phase with
  | .start => [.reported .start]
  | .stage =>
    let result := (crew.stage w.id (s.settings.jobs.jobDir w.id) w.scene s.world).1
    [.finished .staging (result.failure? fun e => "Asset staging failed: " ++ e.message)]
  | .staged _ => [.reported (.progress 30 "Assets staged")]
  | .compile _ => []
  | .negotiate scene _ =>
    let result := (crew.negotiate (scene.backend.or s.settings.backend) s.world).1
    [.finished .negotiation (result.failure? Empty.elim)]
  | .prepare _ _ =>
    let result := (crew.createDirectory s.settings.jobs.outputDir s.world).1
    [.finished .directory (result.failure? fun e => "I/O error: " ++ e.message)]
  | .prepared order => [.reported (.progress 50 ("Rendering with " ++ order.backend.name))]
  | .launch _ => [.launched]
  | .render order =>
    match crew.finish? order.args s.world with
    | none => []
    | some (result, _) => [.finished .rendering (result.failure? EngineError.message)]
  | .rendered _ => [.reported (.progress 90 "Render finished")]
  | .leave (.finished _) => [.cleared]
  | .leave .overtaken => [.cleared]
  | .leave (.failed message) => [.reported (.fail message)]
  | .cleanUp _ => if s.settings.jobs.retainFailed then [] else [.cleared]
  | .complete output => [.reported (.complete output)]
  | .ended _ => []

/-! ## Steps are moves -/

namespace Service

variable {crew} {s s' : Service ω} {w : Worker} {job : Job} {errands : List Errand} {phase : Phase}

/-- Changes and reports leave all but the store as it is. -/
theorem change_rest {id : String} {t : Transition} {result : Except JobError Job}
    (changed : s.change id t = (result, s')) : ∃ store, s' = { s with store := store } := by
  cases changed
  exact ⟨_, rfl⟩

theorem report_rest {id : String} {t : Transition} {next : Phase}
    (reported : s.report id t next = (errands, phase, s')) :
    ∃ store, s' = { s with store := store } := by
  rw [report] at reported
  split at reported <;>
  · rename_i changed
    cases reported
    exact change_rest changed

/-- A change is made, or refused because of the job's status. -/
theorem change_cases {id : String} (found : s.store.get? id = some job) (t : Transition) :
    (∃ job' store, job.apply t s.around.now = .ok job' ∧
      s.change id t = (.ok job', { s with store }) ∧ s.store.Changed id job' store) ∨
    (job.status ∉ t.sources ∧
      s.change id t = (.error (.invalidTransition job.id job.status t.target), s)) := by
  by_cases allowed : job.status ∈ t.sources
  · obtain ⟨job', taken⟩ : ∃ job', job.apply t s.around.now = .ok job' :=
      ⟨_, Job.apply_eq_ok.mpr ⟨allowed, rfl⟩⟩
    obtain ⟨updated, kept⟩ := JobStore.update_of_ok found taken
    exact .inl ⟨job', _, taken, by rw [change, updated], kept⟩
  · exact .inr ⟨allowed, by rw [change, JobStore.update_of_refused found allowed]⟩

theorem report_move {t : Transition} {next : Phase} (found : s.store.get? w.id = some job)
    (reports : w.phase.Reports t next) (reported : s.report w.id t next = (errands, phase, s')) :
    ∃ job', Move w.phase job [.reported t] phase job' ∧ s.store.Changed w.id job' s'.store ∧
      s'.parties = s.parties := by
  rcases change_cases found t with ⟨job', store, taken, changed, kept⟩ | ⟨refused, changed⟩
  · simp only [report, changed, Prod.mk.injEq] at reported
    obtain ⟨-, rfl, rfl⟩ := reported
    exact ⟨job', .report reports taken, kept, rfl⟩
  · simp only [report, changed, Prod.mk.injEq] at reported
    obtain ⟨-, rfl, rfl⟩ := reported
    exact ⟨job, .overtaken reports refused, .refl found, rfl⟩

/-- A step of a worker is a move; of the store it changes the record of the worker's job. -/
theorem work?_move (found : s.store.get? w.id = some job)
    (worked : s.work? crew w = some (errands, phase, s')) :
    ∃ job', Move w.phase job (w.events crew s) phase job' ∧ s.store.Changed w.id job' s'.store ∧
      s'.parties = s.parties := by
  obtain ⟨id, scene, current⟩ := w
  cases current with
  | start => exact report_move found .start (Option.some.inj worked)
  | staged scene => exact report_move found (.staged scene) (Option.some.inj worked)
  | prepared order => exact report_move found (.prepared order) (Option.some.inj worked)
  | rendered order => exact report_move found (.rendered order) (Option.some.inj worked)
  -- Each way in which the crew's work can end is a move of its own.
  | stage =>
    cases crewed : crew.stage id (s.settings.jobs.jobDir id) scene s.world with
    | mk result world =>
      simp only [work?, crewed] at worked
      simp only [Worker.events, crewed]
      cases result with
      | done staged => cases worked; exact ⟨job, .succeed (.stage staged), .refl found, rfl⟩
      | error e => cases worked; exact ⟨job, .fail (.stage scene) _, .refl found, rfl⟩
      | panic message => cases worked; exact ⟨job, .fail (.stage scene) _, .refl found, rfl⟩
  | compile staged => cases worked; exact ⟨job, .compile staged _, .refl found, rfl⟩
  | negotiate staged program =>
    cases crewed : crew.negotiate (staged.backend.or s.settings.backend) s.world with
    | mk result world =>
      simp only [work?, crewed] at worked
      simp only [Worker.events, crewed]
      cases result with
      | done profile =>
        cases worked
        exact ⟨job, .succeed (.negotiate staged program profile), .refl found, rfl⟩
      | error e => cases e
      | panic message =>
        cases worked
        have needs := Phase.Needs.negotiate staged program (.ofBackend .software 0)
        exact ⟨job, .fail needs _, .refl found, rfl⟩
  | prepare program profile =>
    have needs := fun order => Phase.Needs.prepare program profile order
    cases crewed : crew.createDirectory s.settings.jobs.outputDir s.world with
    | mk result world =>
      simp only [work?, crewed] at worked
      simp only [Worker.events, crewed]
      cases result with
      | done made => cases worked; exact ⟨job, .succeed (needs _), .refl found, rfl⟩
      | error e => cases worked; exact ⟨job, .fail (needs ⟨.software, [], ""⟩) _, .refl found, rfl⟩
      | panic message =>
        cases worked
        exact ⟨job, .fail (needs ⟨.software, [], ""⟩) _, .refl found, rfl⟩
  | launch order => cases worked; exact ⟨job, .launch order, .refl found, rfl⟩
  | render order =>
    cases crewed : crew.finish? order.args s.world with
    | none => simp only [work?, crewed] at worked; cases worked
    | some ends =>
      obtain ⟨result, world⟩ := ends
      simp only [work?, crewed] at worked
      simp only [Worker.events, crewed]
      cases result with
      | done ready => cases worked; exact ⟨job, .succeed (.render order), .refl found, rfl⟩
      | error e => cases worked; exact ⟨job, .fail (.render order) _, .refl found, rfl⟩
      | panic message => cases worked; exact ⟨job, .fail (.render order) _, .refl found, rfl⟩
  -- A failure is reported before the worker cleans up, and may come too late.
  | leave outcome =>
    cases outcome with
    | finished output => cases worked; exact ⟨job, .clear output, .refl found, rfl⟩
    | overtaken => cases worked; exact ⟨job, .giveUp, .refl found, rfl⟩
    | failed message =>
      rcases change_cases found (.fail message) with
        ⟨job', store, taken, changed, kept⟩ | ⟨refused, changed⟩
      · simp only [work?, changed] at worked
        cases worked
        exact ⟨job', .recordFailure taken, kept, rfl⟩
      · simp only [work?, changed] at worked
        cases worked
        exact ⟨job, .dropFailure refused, .refl found, rfl⟩
  | cleanUp outcome =>
    simp only [work?] at worked
    simp only [Worker.events]
    split at worked
    · rename_i retained
      cases worked
      rw [if_pos retained]
      exact ⟨job, .retain outcome, .refl found, rfl⟩
    · rename_i removed
      cases worked
      rw [if_neg removed]
      exact ⟨job, .cleanUp outcome, .refl found, rfl⟩
  | complete output =>
    rcases change_cases found (.complete output) with
      ⟨job', store, taken, changed, kept⟩ | ⟨refused, changed⟩
    · simp only [work?, changed] at worked
      cases worked
      exact ⟨job', .complete taken, kept, rfl⟩
    · simp only [work?, changed] at worked
      cases worked
      exact ⟨job, .dropCompletion refused, .refl found, rfl⟩
  | ended outcome => cases worked

end Service

end Compositor
