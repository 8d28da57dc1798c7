import Compositor.Proofs.Job.Ending

/-! # Working directories

A worker removes the working directory of its job when it leaves the job, a finished one before
it reports that and a failed one after; if failed jobs are to keep their directories, it leaves
that of a job whose work failed.  Between the removal and the end of the worker others may act,
but the work for another job does not bring the directory back.  `Service.Tidy` is an invariant
of runs with these assumptions about the crew.
-/

namespace Compositor

variable {ω : Type} {crew : Crew ω} {settings : ServiceSettings}

/-! ## What work does to the world -/

/-- What a step of a worker does to the world. -/
inductive Crew.Acts (crew : Crew ω) (settings : ServiceSettings) (id : String) :
    ω → ω → Prop where
  | rest (world : ω) : Acts crew settings id world world
  | stage (scene : Scene) (world : ω) :
    Acts crew settings id world (crew.stage id (settings.jobs.jobDir id) scene world).2
  | negotiate (backend : Option Backend) (world : ω) :
    Acts crew settings id world (crew.negotiate backend world).2
  | createDirectory (world : ω) :
    Acts crew settings id world (crew.createDirectory settings.jobs.outputDir world).2
  | begin (args : List String) (world : ω) : Acts crew settings id world (crew.begin args world)
  | finish {args : List String} {result : WorkEnd EngineError Unit} {world world' : ω}
      (finished : crew.finish? args world = some (result, world')) : Acts crew settings id world world'
  | clear (world : ω) :
    Acts crew settings id world (crew.removeDirectory (settings.jobs.jobDir id) world)

/-- The work for a job does not bring a directory into being. -/
def Crew.Spares (crew : Crew ω) (settings : ServiceSettings) (id dir : String) : Prop :=
  ∀ world world', crew.Acts settings id world world' → crew.hasDirectory dir world = false →
    crew.hasDirectory dir world' = false

/-- A directory is gone once it is removed. -/
def Crew.Removes (crew : Crew ω) (dir : String) : Prop :=
  ∀ world, crew.hasDirectory dir (crew.removeDirectory dir world) = false

/-- What a phase means for the working directory, which may be there.  A failed job is the only
    one that a worker cleans up after it has reported. -/
def Phase.Tidy (retain : Bool) (present : Bool) : Phase → Prop
  | complete _ | ended (.finished _) | ended .overtaken => present = false
  | ended (.failed _) => retain = false → present = false
  | cleanUp (.finished _) | cleanUp .overtaken => False
  | start | stage | staged _ | compile _ | negotiate _ _ | prepare _ _ | prepared _ | launch _
  | render _ | rendered _ | leave _ | cleanUp (.failed _) => True

theorem Phase.Tidy.mono {retain present present' : Bool} {phase : Phase}
    (tidy : phase.Tidy retain present) (gone : present = false → present' = false) :
    phase.Tidy retain present' := by
  cases phase with
  | complete output => exact gone tidy
  | cleanUp outcome => cases outcome <;> exact tidy
  | ended outcome =>
    cases outcome with
    | finished output | overtaken => exact gone tidy
    | failed text => exact fun removed => gone (tidy removed)
  | _ => trivial

namespace Service

variable {s s' : Service ω} {w : Worker} {errands : List Errand} {phase : Phase} {id : String}

/-- The work for a job acts on the world, and changes no settings. -/
theorem work?_acts (worked : s.work? crew w = some (errands, phase, s')) :
    s'.settings = s.settings ∧ crew.Acts s.settings w.id s.world s'.world := by
  obtain ⟨id, scene, current⟩ := w
  have idle : (∃ store, s' = { s with store := store }) →
      s'.settings = s.settings ∧ crew.Acts s.settings id s.world s'.world := by
    rintro ⟨store, rfl⟩
    exact ⟨rfl, .rest s.world⟩
  cases current with
  | start => exact idle (report_rest (Option.some.inj worked))
  | staged scene => exact idle (report_rest (Option.some.inj worked))
  | prepared order => exact idle (report_rest (Option.some.inj worked))
  | rendered order => exact idle (report_rest (Option.some.inj worked))
  -- However the crew's work ends, it leaves the same world.
  | stage =>
    simp only [work?] at worked
    split at worked <;> (cases worked; exact ⟨rfl, .stage scene s.world⟩)
  | compile scene =>
    cases worked
    exact ⟨rfl, .rest s.world⟩
  | negotiate scene program =>
    simp only [work?] at worked
    split at worked <;> (cases worked; exact ⟨rfl, .negotiate _ s.world⟩)
  | prepare program profile =>
    simp only [work?] at worked
    split at worked <;> (cases worked; exact ⟨rfl, .createDirectory s.world⟩)
  | launch order =>
    cases worked
    exact ⟨rfl, .begin order.args s.world⟩
  | render order =>
    simp only [work?] at worked
    split at worked
    · cases worked
    · rename_i result world finished
      split at worked <;> (cases worked; exact ⟨rfl, .finish finished⟩)
  | leave outcome =>
    cases outcome with
    | finished output | overtaken =>
      cases worked
      exact ⟨rfl, .clear s.world⟩
    | failed message =>
      simp only [work?] at worked
      split at worked <;> (cases worked; exact idle (change_rest ‹_›))
  | cleanUp outcome =>
    simp only [work?] at worked
    cases worked
    split
    · exact ⟨rfl, .rest s.world⟩
    · exact ⟨rfl, .clear s.world⟩
  | complete output =>
    simp only [work?] at worked
    split at worked <;> (cases worked; exact idle (change_rest ‹_›))
  | ended outcome => cases worked

theorem work?_complete {output : String} (worked : s.work? crew w = some (errands, phase, s'))
    (completes : w.phase = .complete output) : s'.world = s.world := by
  simp only [work?, completes] at worked
  split at worked <;>
  · rename_i changed
    obtain ⟨store, rfl⟩ := change_rest changed
    cases worked
    rfl

theorem work?_cleared (worked : s.work? crew w = some (errands, phase, s'))
    (cleared : .cleared ∈ w.events crew s) :
    s'.world = crew.removeDirectory (s.settings.jobs.jobDir w.id) s.world := by
  obtain ⟨id, scene, current⟩ := w
  cases current with
  | leave outcome =>
    cases outcome with
    | finished output | overtaken => cases worked; rfl
    | failed message => simp [Worker.events] at cleared
  | cleanUp outcome =>
    by_cases retained : s.settings.jobs.retainFailed = true
    · simp [Worker.events, retained] at cleared
    · simp only [work?, if_neg retained] at worked
      cases worked
      rfl
  | render order =>
    simp only [Worker.events] at cleared
    split at cleared <;> simp at cleared
  | _ => simp [Worker.events] at cleared

/-! ## Directories in runs -/

/-- A worker's step leaves the directory of its job as its next phase has it. -/
theorem work?_tidy {job : Job} (found : s.store.get? w.id = some job)
    (removes : crew.Removes (s.settings.jobs.jobDir w.id))
    (worked : s.work? crew w = some (errands, phase, s'))
    (tidy : w.phase.Tidy s.settings.jobs.retainFailed
      (crew.hasDirectory (s.settings.jobs.jobDir w.id) s.world)) :
    phase.Tidy s.settings.jobs.retainFailed
      (crew.hasDirectory (s.settings.jobs.jobDir w.id) s'.world) := by
  obtain ⟨job', move, -, -⟩ := work?_move found worked
  have gone : .cleared ∈ w.events crew s →
      crew.hasDirectory (s.settings.jobs.jobDir w.id) s'.world = false := by
    intro cleared
    rw [work?_cleared worked cleared]
    exact removes s.world
  -- Success is reported after the removal, and the report leaves the world alone.
  have still : ∀ output, w.phase = .complete output → s'.world = s.world :=
    fun _ => work?_complete worked
  generalize happened : w.events crew s = new at move gone
  generalize before : w.phase = current at move tidy still
  cases move with
  | report reports taken => cases reports <;> trivial
  | succeed needs => cases needs <;> trivial
  | overtaken reports refused => trivial
  | fail needs text => trivial
  | compile scene program => trivial
  | launch order => trivial
  | recordFailure taken => trivial
  | dropFailure refused => trivial
  | clear output => exact gone (List.mem_singleton.mpr rfl)
  | giveUp => exact gone (List.mem_singleton.mpr rfl)
  | cleanUp outcome =>
    have absent := gone (List.mem_singleton.mpr rfl)
    cases outcome with
    | finished output | overtaken => exact absent
    | failed text => exact fun _ => absent
  | retain outcome =>
    cases outcome with
    | finished output | overtaken => exact tidy.elim
    | failed text =>
      -- Had it not been for the setting, the directory would have been removed.
      intro removed
      rw [Worker.events, before, removed] at happened
      cases happened
  | @complete output _ _ taken =>
    rw [still output rfl]
    exact tidy
  | @dropCompletion output _ refused =>
    rw [still output rfl]
    exact tidy

/-- The directory of a job is as its worker's phase has it, and the work for other jobs spares
    it. -/
structure Tidy (crew : Crew ω) (settings : ServiceSettings) (id : String) (s : Service ω) : Prop where
  settled : s.settings = settings
  spared : ∀ {i v}, s.workerAt? i = some v → v.id ≠ id →
    crew.Spares settings v.id (settings.jobs.jobDir id)
  tidy : ∀ {i w}, s.workerAt? i = some w → w.id = id →
    w.phase.Tidy settings.jobs.retainFailed (crew.hasDirectory (settings.jobs.jobDir id) s.world)

namespace Tidy

variable {steps : List ServiceStep}

theorem ofSettings (settings : ServiceSettings) (around : Surroundings) (world : ω) (id : String) :
    (ofSettings settings around world).Tidy crew settings id where
  settled := rfl
  spared worker := by cases worker
  tidy worker := by cases worker

/-- Parties without a worker may come in, and the store may change. -/
theorem callers (tidy : s.Tidy crew settings id) (same : s'.settings = s.settings)
    (world : s'.world = s.world)
    (workers : ∀ {i w}, s'.workerAt? i = some w → s.workerAt? i = some w) :
    s'.Tidy crew settings id where
  settled := same.trans tidy.settled
  spared := fun worker => tidy.spared (workers worker)
  tidy := by
    intro i w worker own
    rw [world]
    exact tidy.tidy (workers worker) own

theorem submit (tidy : s.Tidy crew settings id) (other : String) (scene : Scene)
    (spares : other ≠ id → crew.Spares settings other (settings.jobs.jobDir id)) :
    (s.accept other scene).2.Tidy crew settings id := by
  rw [accept]
  cases scene.fault? with
  | some e => exact tidy
  | none =>
    constructor
    · exact tidy.settled
    · intro i v worker different
      rcases bind_worker_append worker with old | ⟨-, fresh⟩
      · exact tidy.spared old different
      · cases fresh
        exact spares different
    · intro i w worker own
      rcases bind_worker_append worker with old | ⟨-, fresh⟩
      · exact tidy.tidy old own
      · cases fresh
        trivial

theorem cancel (tidy : s.Tidy crew settings id) (target : String) (reason : Option String) :
    (s.revoke target reason).2.Tidy crew settings id := by
  rw [revoke]
  split
  · rename_i job after changed
    obtain ⟨store, rfl⟩ := change_rest changed
    refine tidy.callers rfl rfl ?_
    intro i w worker
    rcases bind_worker_append worker with old | ⟨-, new⟩
    · exact old
    · cases new
  · rename_i e after changed
    obtain ⟨store, rfl⟩ := change_rest changed
    exact tidy.callers rfl rfl fun worker => worker

theorem go (tidy : s.Tidy crew settings id) {holds : Phase → Job → List JobEvent → Prop}
    {past : String → List JobEvent} (coherent : s.Coherent holds past)
    (removes : crew.Removes (settings.jobs.jobDir id)) {i : Nat} (gone : s.go? crew i = some s') :
    s'.Tidy crew settings id := by
  rcases go?_cases gone with ⟨errand, errands, worker, party, rfl⟩ |
      ⟨v, errands, phase, after, party, worked, rfl⟩
  · obtain ⟨-, -, same, world⟩ := s.run_rest errand
    refine tidy.callers same world ?_
    intro j w worker
    rwa [workerAt?, workerAt?_run party] at worker
  · have acting : s.workerAt? i = some v := by
      rw [workerAt?, party]
      rfl
    obtain ⟨job, found, -⟩ := coherent.tracked acting
    obtain ⟨-, -, -, parties⟩ := work?_move found worked
    obtain ⟨same, acts⟩ := work?_acts worked
    obtain rfl := tidy.settled
    constructor
    · exact same
    · intro j u worker different
      rw [workerAt?, parties] at worker
      rcases bind_worker_set worker with ⟨-, fresh⟩ | ⟨-, old⟩
      · cases fresh
        have spared := tidy.spared acting
        exact spared different
      · exact tidy.spared old different
    · intro j w worker own
      rw [workerAt?, parties] at worker
      rcases bind_worker_set worker with ⟨-, fresh⟩ | ⟨elsewhere, old⟩
      · cases fresh
        subst own
        have next := work?_tidy found removes worked (tidy.tidy acting rfl)
        exact next
      · -- The one who acts works for another job.
        have different : v.id ≠ id := fun equal =>
          elsewhere (coherent.apart acting old (equal.trans own.symm))
        exact (tidy.tidy old own).mono (tidy.spared acting different s.world after.world acts)

theorem step (tidy : s.Tidy crew settings id) {holds : Phase → Job → List JobEvent → Prop}
    {past : String → List JobEvent} (coherent : s.Coherent holds past)
    (removes : crew.Removes (settings.jobs.jobDir id)) {step : ServiceStep}
    (spares : ∀ other scene, step = .submit other scene → other ≠ id →
      crew.Spares settings other (settings.jobs.jobDir id))
    (taken : s.step? crew step = some s') : s'.Tidy crew settings id := by
  cases step with
  | submit other scene =>
    simp only [step?] at taken
    split at taken
    · cases taken
    · cases taken
      exact tidy.submit other scene (spares other scene rfl)
  | cancel target reason =>
    cases taken
    exact tidy.cancel target reason
  | go i => exact tidy.go coherent removes taken
  | turn around =>
    cases taken
    exact tidy.callers rfl rfl fun worker => worker

theorem follow (tidy : s.Tidy crew settings id) {holds : Phase → Job → List JobEvent → Prop}
    {past : String → List JobEvent} (coherent : s.Coherent holds past)
    (invariant : JobInvariant holds) (removes : crew.Removes (settings.jobs.jobDir id))
    (spares : ∀ other scene, .submit other scene ∈ steps → other ≠ id →
      crew.Spares settings other (settings.jobs.jobDir id))
    (run : s.follow? crew steps = some s') : s'.Tidy crew settings id := by
  induction steps generalizing s past with
  | nil =>
    cases run
    exact tidy
  | cons step steps inductionHypothesis =>
    obtain ⟨next, taken, run⟩ := follow?_cons.mp run
    refine inductionHypothesis ?_ (coherent.step invariant taken) ?_ run
    · refine tidy.step coherent removes ?_ taken
      rintro other scene rfl
      exact spares other scene List.mem_cons_self
    · intro other scene mem
      exact spares other scene (List.mem_cons_of_mem _ mem)

end Tidy

/-! ## Directories of ended workers -/

/-- When a worker has ended, in every run and whatever its crew does, the working directory of
    its job is there only if failed jobs keep theirs and a piece of the job's work has failed.
    The job is then on record as failed, unless a cancellation was accepted.  So the directories
    of completed jobs are gone, and those of cancelled jobs none of whose work has failed. -/
theorem follow?_hasDirectory {around : Surroundings} {world : ω} {steps : List ServiceStep}
    (run : (ofSettings settings around world).follow? crew steps = some s) {i : Nat}
    (worker : s.workerAt? i = some w) {outcome : WorkOutcome} (ended : w.phase = .ended outcome)
    (removes : crew.Removes (settings.jobs.jobDir w.id))
    (spares : ∀ other scene, .submit other scene ∈ steps → other ≠ w.id →
      crew.Spares settings other (settings.jobs.jobDir w.id)) :
    let events := (ofSettings settings around world).events crew w.id steps
    ∃ job, s.store.get? w.id = some job ∧
      (crew.hasDirectory (settings.jobs.jobDir w.id) s.world = true →
        settings.jobs.retainFailed = true ∧
        (∃ work text, .finished work (some text) ∈ events) ∧
        (job.status = .failed ∨
          (job.status = .cancelled ∧ ∃ reason, .cancelled reason ∈ events))) := by
  intro events
  have start : (ofSettings settings around world).Tidy crew settings w.id :=
    .ofSettings settings around world w.id
  have tidy := (start.follow (.ofSettings settings around world) Tracked.invariant removes spares run).tidy
    worker rfl
  obtain ⟨job, found, tracked⟩ := follow?_invariant Tracked.invariant run worker
  refine ⟨job, found, ?_⟩
  intro present
  rw [ended, present] at tidy
  rw [ended] at tracked
  cases outcome with
  | finished output | overtaken => cases tidy
  | failed text =>
    obtain ⟨⟨work, failure, noSuccess⟩, -⟩ := tracked.agrees
    have retained : settings.jobs.retainFailed = true := by
      cases retain : settings.jobs.retainFailed with
      | true => rfl
      | false => cases tidy retain
    refine ⟨retained, ⟨work, text, failure⟩, ?_⟩
    rcases tracked.ended_cases with ⟨reason, mem, recorded⟩ | ⟨-, -, successes⟩ | ⟨-, status, -⟩
    · exact .inr ⟨recorded.status, reason, mem⟩
    · exact absurd (successes work) noSuccess
    · exact .inl status

/-- A crew over the directories that are there.  All runs of the engine end in one way. -/
def shelvingCrew (rendered : WorkEnd EngineError Unit) : Crew (List String) where
  stage _ dir scene dirs := (.done scene, dir :: dirs)
  negotiate backend dirs := (.done (.ofBackend (backend.getD .software) 23), dirs)
  createDirectory dir dirs := (.done (), dir :: dirs)
  begin _ dirs := dirs
  finish? _ dirs := some (rendered, dirs)
  removeDirectory dir dirs := dirs.filter (· != dir)
  hasDirectory dir dirs := dirs.contains dir
  counted _ := []
  traffic? _ := none

theorem shelvingCrew_removes (rendered : WorkEnd EngineError Unit) (dir : String) :
    (shelvingCrew rendered).Removes dir := by
  intro dirs
  simp [shelvingCrew]

theorem shelvingCrew_spares (rendered : WorkEnd EngineError Unit) {dir : String}
    (outside : dir ≠ settings.jobs.outputDir) (apart : dir ≠ settings.jobs.jobDir id) :
    (shelvingCrew rendered).Spares settings id dir := by
  intro dirs dirs' acts absent
  cases acts with
  | rest | negotiate backend | begin args => exact absent
  | stage scene => simpa [shelvingCrew, apart] using absent
  | createDirectory => simpa [shelvingCrew, outside] using absent
  | finish finished =>
    cases finished
    exact absent
  | clear =>
    simp only [shelvingCrew, List.contains_eq_mem, List.mem_filter, decide_eq_false_iff_not] at absent ⊢
    exact fun mem => absent mem.1

/-- A job fails while another is at work.  Failed jobs do not keep their directories. -/
theorem follow?_hasDirectory_failed :
    let settings : ServiceSettings := ⟨.standard, .standard, none⟩
    let crew := shelvingCrew (.error (.executionFailed 1 "no space"))
    let steps := [.submit "a" Sample.scene, .submit "b" Sample.scene] ++ List.replicate 15 (.go 0)
      ++ List.replicate 6 (.go 1) ++ List.replicate 4 (.go 0)
    ∃ s, (ofSettings settings noon []).follow? crew steps = some s ∧
      s.workerAt? 0 =
        some ⟨"a", Sample.scene, .ended (.failed "Engine exited with code 1: no space")⟩ ∧
      crew.hasDirectory (settings.jobs.jobDir "a") s.world = false := by
  intro settings crew steps
  have ended : ((ofSettings settings noon []).follow? crew steps).map (fun s => s.workerAt? 0) =
      some (some
        ⟨"a", Sample.scene, .ended (.failed "Engine exited with code 1: no space")⟩) := by
    decide +kernel
  obtain ⟨s, run, worker⟩ := Option.map_eq_some_iff.mp ended
  have spares : ∀ other scene, .submit other scene ∈ steps → other ≠ "a" →
      crew.Spares settings other (settings.jobs.jobDir "a") := by
    intro other scene mem different
    obtain ⟨rfl, -⟩ : other = "b" ∧ scene = Sample.scene := by simpa [steps, different] using mem
    exact shelvingCrew_spares _ (by decide +kernel) (by decide +kernel)
  obtain ⟨job, found, only⟩ :=
    follow?_hasDirectory run worker rfl (shelvingCrew_removes _ _) spares
  refine ⟨s, run, worker, Bool.eq_false_iff.mpr ?_⟩
  intro present
  cases (only present).1

/-- A job is cancelled while its video is rendered, and then the rendering fails.  Failed jobs
    keep their directories, and so does this one, which is on record as cancelled. -/
theorem follow?_hasDirectory_cancelled :
    let settings : ServiceSettings := ⟨.standard, { JobSettings.standard with retainFailed := true }, none⟩
    let crew := shelvingCrew (.error (.executionFailed 1 "no space"))
    let steps := [.submit "a" Sample.scene] ++ List.replicate 13 (.go 0) ++ [.cancel "a" none]
      ++ List.replicate 4 (.go 0)
    ∃ s, (ofSettings settings noon []).follow? crew steps = some s ∧
      (s.workerAt? 0).map Worker.phase =
        some (.ended (.failed "Engine exited with code 1: no space")) ∧
      (s.store.get? "a").map Job.status = some .cancelled ∧
      crew.hasDirectory (settings.jobs.jobDir "a") s.world = true := by
  intro settings crew steps
  have ended : ((ofSettings settings noon []).follow? crew steps).map (fun s =>
      ((s.workerAt? 0).map Worker.phase, (s.store.get? "a").map Job.status,
        crew.hasDirectory (settings.jobs.jobDir "a") s.world)) =
      some (some (.ended (.failed "Engine exited with code 1: no space")), some .cancelled, true) := by
    decide +kernel
  obtain ⟨s, run, parts⟩ := Option.map_eq_some_iff.mp ended
  rw [Prod.mk.injEq, Prod.mk.injEq] at parts
  exact ⟨s, run, parts⟩

end Service

end Compositor
