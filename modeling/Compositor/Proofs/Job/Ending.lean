import Compositor.Proofs.Job.Runs
import Compositor.Rehearsal.Samples

/-! # How jobs end

A cancellation may come between any two steps of a worker, and each piece of work may
succeed, fail or break off.  `Tracked` relates the phase of a worker, the record of its job
and what has happened so far; it is an invariant of jobs, and for a worker that has ended it
says which of the three ends the job has come to.
-/

namespace Compositor

/-! ## Reasons -/

namespace Service

theorem reasonOf_none : reasonOf none = "Cancelled by request" := rfl

theorem reasonOf_some (text : String) :
    reasonOf (some text) = if Text.allBlank text then "Cancelled by request" else text := by
  rw [reasonOf]
  by_cases blank : Text.allBlank text = true
  · simp [Option.filter, blank, standardReason]
  · simp [Option.filter, blank]

theorem allBlank_reasonOf (reason : Option String) : Text.allBlank (reasonOf reason) = false := by
  cases reason with
  | none => decide +kernel
  | some text =>
    rw [reasonOf_some]
    by_cases blank : Text.allBlank text = true
    · rw [if_pos blank]
      decide +kernel
    · rw [if_neg blank]
      simpa using blank

end Service

/-! ## Records and what has happened -/

/-- The record of a job that was cancelled for a reason. -/
structure Job.CancelledFor (job : Job) (reason : Option String) : Prop where
  status : job.status = .cancelled
  message : job.message = Service.reasonOf reason
  output : job.output = none
  error : job.error = none

/-- Why a worker gives up. -/
inductive Trouble where
  | overtaken
  | failed (text : String)

def WorkOutcome.trouble? : WorkOutcome → Option Trouble
  | finished _ => none
  | overtaken => some .overtaken
  | failed text => some (.failed text)

namespace Phase

/-- The record in a phase, as long as the job is not cancelled. -/
def Expects (job : Job) : Phase → Prop
  | start => job.status = .pending ∧ job.output = none ∧ job.error = none
  | ended (.finished _) => job.status = .completed
  | cleanUp (.failed text) | ended (.failed text) =>
    job.status = .failed ∧ job.error = some text ∧ job.message = "Failed: " ++ text
  | cleanUp (.finished _) | leave .overtaken | cleanUp .overtaken | ended .overtaken => False
  | stage | staged _ | compile _ | negotiate _ _ | prepare _ _ | prepared _ | launch _ | render _
  | rendered _ | leave (.finished _) | leave (.failed _) | complete _ =>
    job.status = .processing ∧ job.output = none ∧ job.error = none

/-- Why the worker has given up, if it has. -/
def trouble? : Phase → Option Trouble
  | leave outcome | cleanUp outcome | ended outcome => outcome.trouble?
  | start | stage | staged _ | compile _ | negotiate _ _ | prepare _ _ | prepared _ | launch _
  | render _ | rendered _ | complete _ => none

/-- The work that has succeeded, unless the worker has given up. -/
def done : Phase → List Work
  | start | stage => []
  | staged _ | compile _ | negotiate _ _ => [.staging]
  | prepare _ _ => [.staging, .negotiation]
  | prepared _ | launch _ | render _ => [.staging, .negotiation, .directory]
  | rendered _ | leave _ | cleanUp _ | complete _ | ended _ =>
    [.staging, .negotiation, .directory, .rendering]

/-- The work that is over agrees with the phase. -/
def Agrees (events : List JobEvent) (phase : Phase) : Prop :=
  match phase.trouble? with
  | none =>
    ∀ work failure, .finished work failure ∈ events ↔ failure = none ∧ work ∈ phase.done
  | some .overtaken =>
    (∃ reason, .cancelled reason ∈ events) ∧ ∀ work text, .finished work (some text) ∉ events
  | some (.failed text) =>
    (∃ work, .finished work (some text) ∈ events ∧ .finished work none ∉ events) ∧
      ∀ work other, .finished work (some other) ∈ events → other = text

end Phase

/-- The store has learnt that the run begins, before any cancellation is accepted. -/
def Announced (events : List JobEvent) : Prop :=
  (∃ message, .reported (.progress 50 message) ∈ events) ∧
    ∀ before reason after, events = before ++ .cancelled reason :: after →
      ∃ message, .reported (.progress 50 message) ∈ before

/-- A phase, a record and what has happened belong together. -/
structure Tracked (phase : Phase) (job : Job) (events : List JobEvent) : Prop where
  cancelled : ∀ reason, .cancelled reason ∈ events → job.CancelledFor reason
  uncancelled : (∀ reason, .cancelled reason ∉ events) → phase.Expects job
  agrees : phase.Agrees events
  announced : (∃ order, phase = .launch order) ∨ .launched ∈ events → Announced events

/-! ## Moves keep track -/

variable {phase phase' : Phase} {job job' : Job} {past new : List JobEvent}

namespace Move

theorem cancelled_notMem (move : Move phase job new phase' job') (reason : Option String) :
    .cancelled reason ∉ new := by
  cases move <;> simp

theorem cancelled_mem_append (move : Move phase job new phase' job') {reason : Option String} :
    .cancelled reason ∈ past ++ new ↔ .cancelled reason ∈ past := by
  rw [List.mem_append, or_iff_left (move.cancelled_notMem reason)]

/-- The record of a job that has come to an end stays as it is. -/
theorem eq_of_isTerminal (move : Move phase job new phase' job')
    (terminal : job.status.isTerminal = true) : job' = job := by
  have open' : ∀ {t now}, job.apply t now ≠ .ok job' := by
    intro t now taken
    have open' := Transition.not_isTerminal_of_mem_sources (Job.apply_eq_ok.mp taken).1
    rw [terminal] at open'
    cases open'
  cases move with
  | report reports taken => exact absurd taken open'
  | recordFailure taken => exact absurd taken open'
  | complete taken => exact absurd taken open'
  | _ => rfl

end Move

theorem Tracked.move_cancelled (tracked : Tracked phase job past)
    (move : Move phase job new phase' job') (reason : Option String)
    (mem : .cancelled reason ∈ past ++ new) : job'.CancelledFor reason := by
  have recorded := tracked.cancelled reason (move.cancelled_mem_append.mp mem)
  -- Cancelled jobs have come to an end, so the move leaves the record alone.
  have terminal : job.status.isTerminal = true := by
    rw [recorded.status]
    rfl
  rw [move.eq_of_isTerminal terminal]
  exact recorded

/-- A report that the store refuses means that the job was cancelled. -/
theorem Tracked.exists_cancelled {t : Transition} {next : Phase} (tracked : Tracked phase job past)
    (reports : phase.Reports t next) (refused : job.status ∉ t.sources) :
    ∃ reason, .cancelled reason ∈ past := by
  refine Classical.byContradiction fun none => ?_
  have expected := tracked.uncancelled fun reason mem => none ⟨reason, mem⟩
  cases reports <;> exact refused (by simp [expected.1, Transition.sources])

theorem Tracked.move_uncancelled (tracked : Tracked phase job past)
    (move : Move phase job new phase' job') (none : ∀ reason, .cancelled reason ∉ past ++ new) :
    phase'.Expects job' := by
  have none' : ∀ reason, .cancelled reason ∉ past := fun reason mem =>
    none reason (List.mem_append_left _ mem)
  have expected := tracked.uncancelled none'
  cases move with
  | report reports taken =>
    obtain ⟨-, rfl⟩ := Job.apply_eq_ok.mp taken
    cases reports <;> exact ⟨rfl, expected.2⟩
  | overtaken reports refused =>
    -- Without a cancellation the store refuses no report.
    obtain ⟨reason, mem⟩ := tracked.exists_cancelled reports refused
    exact none' reason mem
  | succeed needs => cases needs <;> exact expected
  | fail needs text => cases needs <;> exact expected
  | compile scene program => exact expected
  | launch order => exact expected
  | clear output => exact expected
  | giveUp => exact expected
  | recordFailure taken =>
    obtain ⟨-, rfl⟩ := Job.apply_eq_ok.mp taken
    exact ⟨rfl, rfl, rfl⟩
  | dropFailure refused => exact absurd (by simp [expected.1, Transition.sources]) refused
  | cleanUp outcome => cases outcome <;> first | exact expected | exact expected.elim
  | retain outcome => cases outcome <;> first | exact expected | exact expected.elim
  | complete taken =>
    obtain ⟨-, rfl⟩ := Job.apply_eq_ok.mp taken
    exact rfl
  | dropCompletion refused => exact absurd (by simp [expected.1, Transition.sources]) refused

theorem Phase.Agrees.append (agrees : phase.Agrees past) (trouble : phase'.trouble? = phase.trouble?)
    (done : phase'.done = phase.done) (noWork : ∀ work failure, .finished work failure ∉ new) :
    phase'.Agrees (past ++ new) := by
  have same : ∀ work failure, .finished work failure ∈ past ++ new ↔ .finished work failure ∈ past := by
    intro work failure
    rw [List.mem_append, or_iff_left (noWork work failure)]
  rw [Agrees] at agrees
  rw [Agrees, trouble, done]
  simp only [same]
  cases gaveUp : phase.trouble? with
  | none =>
    rw [gaveUp] at agrees
    exact agrees
  | some trouble =>
    rw [gaveUp] at agrees
    cases trouble with
    | overtaken =>
      obtain ⟨⟨reason, mem⟩, successes⟩ := agrees
      exact ⟨⟨reason, List.mem_append_left _ mem⟩, successes⟩
    | failed text => exact agrees

/-- Work is done once. -/
theorem Phase.Needs.done {work : Work} (needs : phase.Needs work phase') :
    phase.trouble? = none ∧ phase'.trouble? = none ∧ phase'.done = phase.done ++ [work] ∧
      work ∉ phase.done := by
  cases needs <;> exact ⟨rfl, rfl, rfl, by simp [Phase.done]⟩

theorem Tracked.move_agrees (tracked : Tracked phase job past)
    (move : Move phase job new phase' job') : phase'.Agrees (past ++ new) := by
  have agrees := tracked.agrees
  cases move with
  | report reports taken =>
    cases reports <;> exact agrees.append rfl rfl (by simp)
  | overtaken reports refused =>
    -- No work has failed: the worker was still at it when the report was refused.
    obtain ⟨reason, mem⟩ := tracked.exists_cancelled reports refused
    refine ⟨⟨reason, List.mem_append_left _ mem⟩, ?_⟩
    intro work text finished
    have old : .finished work (some text) ∈ past := by
      simpa using finished
    cases reports <;> cases ((agrees work (some text)).mp old).1
  | succeed needs =>
    obtain ⟨working, working', done, -⟩ := needs.done
    rw [Phase.Agrees, working] at agrees
    rw [Phase.Agrees, working']
    intro work failure
    rw [List.mem_append, agrees, done, List.mem_append, List.mem_singleton, List.mem_singleton,
      JobEvent.finished.injEq]
    constructor
    · rintro (⟨rfl, mem⟩ | ⟨rfl, rfl⟩)
      · exact ⟨rfl, .inl mem⟩
      · exact ⟨rfl, .inr rfl⟩
    · rintro ⟨rfl, mem | rfl⟩
      · exact .inl ⟨rfl, mem⟩
      · exact .inr ⟨rfl, rfl⟩
  | fail needs text =>
    obtain ⟨working, -, -, new⟩ := needs.done
    rw [Phase.Agrees, working] at agrees
    refine ⟨⟨_, List.mem_append_right _ (List.mem_singleton.mpr rfl), ?_⟩, ?_⟩
    · intro mem
      rcases List.mem_append.mp mem with old | fresh
      · exact new ((agrees _ none).mp old).2
      · cases List.mem_singleton.mp fresh
    · intro work other mem
      rcases List.mem_append.mp mem with old | fresh
      · cases ((agrees work (some other)).mp old).1
      · cases List.mem_singleton.mp fresh
        rfl
  | compile scene program => exact agrees.append rfl rfl (by simp)
  | launch order => exact agrees.append rfl rfl (by simp)
  | clear output => exact agrees.append rfl rfl (by simp)
  | giveUp => exact agrees.append rfl rfl (by simp)
  | recordFailure taken => exact agrees.append rfl rfl (by simp)
  | dropFailure refused => exact agrees.append rfl rfl (by simp)
  | cleanUp outcome => exact agrees.append rfl rfl (by simp)
  | retain outcome => exact agrees.append rfl rfl (by simp)
  | complete taken => exact agrees.append rfl rfl (by simp)
  | dropCompletion refused => exact agrees.append rfl rfl (by simp)

/-! ## Announcing the run -/

/-- What was announced stays so. -/
theorem Announced.append (announced : Announced past) (new : List JobEvent) :
    Announced (past ++ new) := by
  obtain ⟨⟨message, mem⟩, first⟩ := announced
  refine ⟨⟨message, List.mem_append_left _ mem⟩, ?_⟩
  intro before reason after split
  rcases List.append_eq_append_iff.mp split with ⟨more, rfl, -⟩ | ⟨more, rfl, rest⟩
  · exact ⟨message, List.mem_append_left _ mem⟩
  · cases more with
    | nil =>
      rw [List.append_nil] at mem
      exact ⟨message, mem⟩
    | cons event more =>
      obtain ⟨rfl, -⟩ := List.cons_eq_cons.mp rest
      exact first before reason more rfl

/-- Only a report that is accepted leads to the run. -/
theorem Move.launch_inv {order : RunOrder} (move : Move phase job new (.launch order) job') :
    job.status = .processing ∧
      new = [.reported (.progress 50 ("Rendering with " ++ order.backend.name))] := by
  cases move with
  | report reports taken =>
    cases reports
    exact ⟨List.mem_singleton.mp (Job.apply_eq_ok.mp taken).1, rfl⟩
  | succeed needs => cases needs

theorem Move.launched_inv (move : Move phase job new phase' job') (mem : .launched ∈ new) :
    ∃ order, phase = .launch order := by
  cases move with
  | launch order => exact ⟨order, rfl⟩
  | _ => simp at mem

theorem Tracked.move_announced (tracked : Tracked phase job past)
    (move : Move phase job new phase' job')
    (launches : (∃ order, phase' = .launch order) ∨ .launched ∈ past ++ new) :
    Announced (past ++ new) := by
  rcases launches with ⟨order, rfl⟩ | mem
  · obtain ⟨status, rfl⟩ := move.launch_inv
    -- The store has taken the report, so the job was not cancelled before.
    have none : ∀ reason, .cancelled reason ∉ past := by
      intro reason mem
      have recorded := (tracked.cancelled reason mem).status
      rw [status] at recorded
      cases recorded
    refine ⟨⟨_, List.mem_append_right _ (List.mem_singleton.mpr rfl)⟩, ?_⟩
    intro before reason after split
    have mem : .cancelled reason ∈ before ++ .cancelled reason :: after :=
      List.mem_append_right before List.mem_cons_self
    rw [← split] at mem
    exact absurd (move.cancelled_mem_append.mp mem) (none reason)
  · rcases List.mem_append.mp mem with old | fresh
    · exact (tracked.announced (.inr old)).append new
    · exact (tracked.announced (.inl (move.launched_inv fresh))).append new

/-! ## Cancellations keep track -/

theorem Phase.Expects.unfinished (expected : phase.Expects job) (active : job.status.isTerminal = false) :
    job.output = none ∧ job.error = none := by
  cases phase with
  | leave outcome => cases outcome <;> first | exact expected.2 | exact expected.elim
  | cleanUp outcome =>
    cases outcome with
    | failed text =>
      rw [expected.1] at active
      cases active
    | finished _ | overtaken => exact expected.elim
  | ended outcome =>
    cases outcome with
    | finished output =>
      rw [show job.status = .completed from expected] at active
      cases active
    | overtaken => exact expected.elim
    | failed text =>
      rw [expected.1] at active
      cases active
  | _ => exact expected.2

theorem Tracked.cancel {reason : Option String} {now : Timestamp} (tracked : Tracked phase job past)
    (taken : job.apply (.cancel (Service.reasonOf reason)) now = .ok job') :
    Tracked phase job' (past ++ [.cancelled reason]) := by
  obtain ⟨allowed, rfl⟩ := Job.apply_eq_ok.mp taken
  have active := Transition.not_isTerminal_of_mem_sources allowed
  -- After one cancellation no other is accepted.
  have first : ∀ reason, .cancelled reason ∉ past := by
    intro reason mem
    rw [(tracked.cancelled reason mem).status] at active
    cases active
  obtain ⟨output, error⟩ := (tracked.uncancelled first).unfinished active
  constructor
  · intro other mem
    rcases List.mem_append.mp mem with old | new
    · exact absurd old (first other)
    · cases List.mem_singleton.mp new
      refine ⟨rfl, ?_, output, error⟩
      simp [Job.record, Job.cancelledMessage, Service.allBlank_reasonOf]
  · intro none
    exact absurd (List.mem_append_right _ (List.mem_singleton.mpr rfl)) (none reason)
  · exact tracked.agrees.append rfl rfl (by simp)
  · intro launches
    have before : (∃ order, phase = .launch order) ∨ .launched ∈ past := by
      simpa using launches
    exact (tracked.announced before).append _

/-- What a phase, a record and the events have to do with each other is an invariant. -/
theorem Tracked.invariant : Service.JobInvariant Tracked where
  queued := by
    intro id title now
    refine ⟨fun reason mem => (by cases mem), fun _ => ⟨rfl, rfl, rfl⟩, ?_, ?_⟩
    · intro work failure
      simp [Phase.done]
    · rintro (⟨order, equal⟩ | mem)
      · cases equal
      · cases mem
  move := fun tracked move =>
    ⟨tracked.move_cancelled move, tracked.move_uncancelled move, tracked.move_agrees move,
      tracked.move_announced move⟩
  cancel := Tracked.cancel

/-! ## The ends of jobs -/

theorem Tracked.ended_cases {outcome : WorkOutcome} (tracked : Tracked (.ended outcome) job past) :
    (∃ reason, .cancelled reason ∈ past ∧ job.CancelledFor reason) ∨
    ((∀ reason, .cancelled reason ∉ past) ∧ job.status = .completed ∧
      ∀ work, .finished work none ∈ past) ∨
    ((∀ reason, .cancelled reason ∉ past) ∧ job.status = .failed ∧
      ∃ work text, .finished work none ∉ past ∧ .finished work (some text) ∈ past ∧
        job.error = some text ∧ job.message = "Failed: " ++ text) := by
  by_cases accepted : ∃ reason, .cancelled reason ∈ past
  · obtain ⟨reason, mem⟩ := accepted
    exact .inl ⟨reason, mem, tracked.cancelled reason mem⟩
  · -- Nobody has interfered, so the outcome of the work is on record.
    have undisturbed : ∀ reason, .cancelled reason ∉ past := fun reason mem => accepted ⟨reason, mem⟩
    have expected := tracked.uncancelled undisturbed
    have agrees := tracked.agrees
    cases outcome with
    | overtaken => exact expected.elim
    | finished output =>
      refine .inr (.inl ⟨undisturbed, expected, ?_⟩)
      intro work
      refine (agrees work none).mpr ⟨rfl, ?_⟩
      cases work <;> simp [Phase.done]
    | failed text =>
      obtain ⟨status, error, message⟩ := expected
      obtain ⟨⟨work, failure, noSuccess⟩, -⟩ := agrees
      exact .inr (.inr ⟨undisturbed, status, work, text, noSuccess, failure, error, message⟩)

namespace Service

variable {ω : Type} {crew : Crew ω}

/-- How a job has ended when its worker has, in every run and whatever its crew does.  The job
    is completed if all work has succeeded and no cancellation was accepted; a cancellation
    that was accepted stays on record, with its reason; otherwise a piece of work has failed,
    and its text is on record.  The engine does not run for a job that was cancelled before
    the run was announced. -/
theorem follow?_ends {settings : ServiceSettings} {around : Surroundings} {world : ω}
    {steps : List ServiceStep} {s : Service ω}
    (run : (ofSettings settings around world).follow? crew steps = some s) {i : Nat}
    {w : Worker} (worker : s.workerAt? i = some w) :
    let events := (ofSettings settings around world).events crew w.id steps
    (∀ outcome, w.phase = .ended outcome → ∃ job, s.store.get? w.id = some job ∧
      job.status.isTerminal = true ∧
      (job.status = .completed ↔
        (∀ work, .finished work none ∈ events) ∧ ∀ reason, .cancelled reason ∉ events) ∧
      (∀ reason, .cancelled reason ∈ events →
        job.status = .cancelled ∧
        job.message = (match reason with
          | some text => if Text.allBlank text then "Cancelled by request" else text
          | none => "Cancelled by request") ∧
        job.output = none ∧ job.error = none) ∧
      (job.status ≠ .completed → (∀ reason, .cancelled reason ∉ events) →
        job.status = .failed ∧ ∃ work text, .finished work (some text) ∈ events ∧
          job.error = some text ∧ job.message = "Failed: " ++ text)) ∧
    (∀ before reason after, events = before ++ .cancelled reason :: after →
      (∀ message, .reported (.progress 50 message) ∉ before) → .launched ∉ events) := by
  intro events
  obtain ⟨job, found, tracked⟩ := follow?_invariant Tracked.invariant run worker
  constructor
  · intro outcome ended
    rw [ended] at tracked
    refine ⟨job, found, ?_⟩
    rcases tracked.ended_cases with ⟨reason, mem, recorded⟩ | ⟨undisturbed, status, successes⟩ |
        ⟨undisturbed, status, work, text, noSuccess, failure, error, message⟩
    · refine ⟨by rw [recorded.status]; rfl, ?_, ?_, fun _ none => absurd mem (none reason)⟩
      · rw [recorded.status]
        constructor
        · intro completed
          cases completed
        · intro success
          exact absurd mem (success.2 reason)
      · intro other mem
        have recorded := tracked.cancelled other mem
        refine ⟨recorded.status, ?_, recorded.output, recorded.error⟩
        rw [recorded.message]
        cases other with
        | none => exact reasonOf_none
        | some text => exact reasonOf_some text
    · refine ⟨by rw [status]; rfl, ⟨fun _ => ⟨successes, undisturbed⟩, fun _ => status⟩, ?_, ?_⟩
      · intro reason mem
        exact absurd mem (undisturbed reason)
      · intro unfinished
        exact absurd status unfinished
    · refine ⟨by rw [status]; rfl, ?_, ?_, fun _ _ => ⟨status, work, text, failure, error, message⟩⟩
      · rw [status]
        constructor
        · intro completed
          cases completed
        · intro success
          exact absurd (success.1 work) noSuccess
      · intro reason mem
        exact absurd mem (undisturbed reason)
  · intro before reason after split unannounced launched
    obtain ⟨message, mem⟩ := (tracked.announced (.inr launched)).2 before reason after split
    exact unannounced message mem

/-- A crew for which everything succeeds at once. -/
def obligingCrew : Crew Unit where
  stage _ _ scene _ := (.done scene, ())
  negotiate backend _ := (.done (.ofBackend (backend.getD .software) 23), ())
  createDirectory _ _ := (.done (), ())
  begin _ _ := ()
  finish? _ _ := some (.done (), ())
  removeDirectory _ _ := ()
  hasDirectory _ _ := false
  counted _ := []
  traffic? _ := none

/-- The surroundings of a service at noon. -/
def noon : Surroundings := ⟨⟨"12:00"⟩, .ofSeed 0⟩

/-- A job is cancelled without a reason while its video is rendered. -/
theorem follow?_ends_cancelled :
    let steps := [.submit "a" Sample.scene] ++ List.replicate 13 (.go 0)
      ++ [.cancel "a" (some " ")] ++ List.replicate 4 (.go 0)
    ∃ s, (ofSettings ⟨.standard, .standard, none⟩ noon ()).follow? obligingCrew steps = some s ∧
      s.workerAt? 0 = some ⟨"a", Sample.scene, .ended .overtaken⟩ ∧
      ∃ job, s.store.get? "a" = some job ∧ job.status = .cancelled ∧
        job.message = "Cancelled by request" := by
  intro steps
  have ended : ((ofSettings ⟨.standard, .standard, none⟩ noon ()).follow? obligingCrew steps).map
      (fun s => s.workerAt? 0) = some (some ⟨"a", Sample.scene, .ended .overtaken⟩) := by
    decide +kernel
  obtain ⟨s, run, worker⟩ := Option.map_eq_some_iff.mp ended
  obtain ⟨job, found, -, -, cancelled, -⟩ := (follow?_ends run worker).1 .overtaken rfl
  have accepted : .cancelled (some " ") ∈
      (ofSettings ⟨.standard, .standard, none⟩ noon ()).events obligingCrew "a" steps := by
    decide +kernel
  obtain ⟨status, message, -⟩ := cancelled (some " ") accepted
  exact ⟨s, run, worker, job, found, status, message⟩

end Service

end Compositor
