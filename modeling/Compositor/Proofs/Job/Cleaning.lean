import Compositor.Proofs.Job.Directories

/-! # Finished jobs are clean

Who looks at a job may do so at any moment, also between the last steps of its worker.  If failed
jobs do not keep their directories, then the directory of a completed job is gone whenever the
record says so, and it stays away: the worker has ended, and an ended worker takes no step.  For
a failed job the same holds as soon as its worker has ended.  Before that it may be one step
behind its record, since a failure is recorded first and cleaned up after.
-/

namespace Compositor

/-! ## Records and phases -/

variable {phase : Phase} {job : Job} {past : List JobEvent}

/-- A record that is not cancelled is the one that the phase expects. -/
theorem Tracked.expects (tracked : Tracked phase job past) (status : job.status ≠ .cancelled) :
    phase.Expects job :=
  tracked.uncancelled fun reason mem => status (tracked.cancelled reason mem).status

/-- A job that is over and was not cancelled is completed, and its worker has ended, or it has
    failed, and its worker cleans up or has ended. -/
theorem Phase.Expects.terminal (expected : phase.Expects job)
    (terminal : job.status.isTerminal = true) :
    (job.status = .completed ∧ ∃ output, phase = .ended (.finished output)) ∨
    (job.status = .failed ∧
      ∃ text, phase = .cleanUp (.failed text) ∨ phase = .ended (.failed text)) := by
  cases phase with
  | ended outcome =>
    cases outcome with
    | finished output => exact .inl ⟨expected, output, rfl⟩
    | overtaken => exact expected.elim
    | failed text => exact .inr ⟨expected.1, text, .inr rfl⟩
  | cleanUp outcome =>
    -- Only a failure is recorded before its cleaning up; any other outcome is recorded after.
    cases outcome with
    | finished _ | overtaken => exact expected.elim
    | failed text => exact .inr ⟨expected.1, text, .inl rfl⟩
  | leave outcome =>
    cases outcome with
    | finished _ | failed _ =>
      rw [expected.1] at terminal
      cases terminal
    | overtaken => exact expected.elim
  | _ =>
    rw [expected.1] at terminal
    cases terminal

namespace Service

variable {ω : Type} {crew : Crew ω} {settings : ServiceSettings} {s s' : Service ω} {i : Nat}
  {w : Worker}

/-! ## Jobs that are over -/

/-- A worker has ended, and the record of its job is final. -/
structure Over (s : Service ω) (i : Nat) (w : Worker) : Prop where
  worker : s.workerAt? i = some w
  ended : ∃ outcome, w.phase = .ended outcome
  final : ∃ job, s.store.get? w.id = some job ∧ job.status.isTerminal = true

theorem workerAt?_lt (worker : s.workerAt? i = some w) : i < s.parties.length := by
  rw [workerAt?] at worker
  obtain ⟨party, place, -⟩ := Option.bind_eq_some_iff.mp worker
  exact (List.getElem?_eq_some_iff.mp place).1

theorem work?_ended {outcome : WorkOutcome} (ended : w.phase = .ended outcome) :
    s.work? crew w = none := by
  rw [work?, ended]

namespace Over

theorem append (closed : s.Over i w) (same : s'.store.get? w.id = s.store.get? w.id) {party : Party}
    (parties : s'.parties = s.parties ++ [party]) : s'.Over i w where
  worker := by
    rw [workerAt?, parties, List.getElem?_append_left (workerAt?_lt closed.worker)]
    exact closed.worker
  ended := closed.ended
  final := by
    rw [same]
    exact closed.final

theorem submit (closed : s.Over i w) {id : String} (new : s.store.get? id = none) (scene : Scene) :
    (s.accept id scene).2.Over i w := by
  rw [accept]
  cases scene.fault? with
  | some e => exact closed
  | none =>
    obtain ⟨job, found, -⟩ := closed.final
    have different : w.id ≠ id := by
      rintro rfl
      cases found.symm.trans new
    exact closed.append (JobStore.get?_create_of_ne different) rfl

/-- A job that is over is not cancelled any more, and the cancellation of another one does not
    touch it. -/
theorem cancel (closed : s.Over i w) (target : String) (reason : Option String) :
    (s.revoke target reason).2.Over i w ∧ s.observe crew w.id (.cancel target reason) = [] := by
  cases found : s.store.get? target with
  | none =>
    have refused : s.revoke target reason = (.error (.job (.notFound target)), s) := by
      rw [revoke, change, JobStore.update_of_absent found]
    rw [observe, refused]
    exact ⟨closed, rfl⟩
  | some job =>
    rcases change_cases found (.cancel (reasonOf reason)) with
      ⟨job', store, taken, changed, kept⟩ | ⟨-, changed⟩
    · have different : target ≠ w.id := by
        rintro rfl
        obtain ⟨final, found', terminal⟩ := closed.final
        cases found.symm.trans found'
        rw [Transition.not_isTerminal_of_mem_sources (Job.apply_eq_ok.mp taken).1] at terminal
        cases terminal
      simp only [observe, revoke, changed, if_neg different, and_true]
      exact closed.append (kept.others w.id different.symm) rfl
    · simp only [observe, revoke, changed]
      exact ⟨closed, trivial⟩

theorem go {holds : Phase → Job → List JobEvent → Prop} {past : String → List JobEvent}
    (closed : s.Over i w) (coherent : s.Coherent holds past) {j : Nat}
    (gone : s.go? crew j = some s') : s'.Over i w ∧ s.observe crew w.id (.go j) = [] := by
  rcases go?_cases gone with ⟨errand, errands, worker, party, rfl⟩ |
      ⟨v, errands, phase, after, party, worked, rfl⟩
  · simp only [observe, party, and_true]
    constructor
    · rw [workerAt?, workerAt?_run party]
      exact closed.worker
    · exact closed.ended
    · simp only [(s.run_rest errand).1]
      exact closed.final
  · have acting : s.workerAt? j = some v := by
      rw [workerAt?, party]
      rfl
    -- The worker that moves is another one, so it has another job: an ended worker cannot move.
    have elsewhere : j ≠ i := by
      rintro rfl
      obtain ⟨outcome, ended⟩ := closed.ended
      cases acting.symm.trans closed.worker
      rw [work?_ended ended] at worked
      cases worked
    have different : v.id ≠ w.id := fun same => elsewhere (coherent.apart acting closed.worker same)
    obtain ⟨job, found, -⟩ := coherent.tracked acting
    obtain ⟨job', -, kept, parties⟩ := work?_move found worked
    simp only [observe, party, if_neg different, and_true]
    constructor
    · rw [workerAt?, parties, List.getElem?_set_ne elsewhere]
      exact closed.worker
    · exact closed.ended
    · simp only [kept.others w.id different.symm]
      exact closed.final

theorem step {holds : Phase → Job → List JobEvent → Prop} {past : String → List JobEvent}
    (closed : s.Over i w) (coherent : s.Coherent holds past) {step : ServiceStep}
    (taken : s.step? crew step = some s') : s'.Over i w ∧ s.observe crew w.id step = [] := by
  cases step with
  | submit id scene =>
    simp only [step?] at taken
    split at taken
    · cases taken
    · rename_i new
      cases taken
      exact ⟨closed.submit (Option.not_isSome_iff_eq_none.mp new) scene, rfl⟩
  | cancel target reason =>
    cases taken
    exact closed.cancel target reason
  | go j => exact closed.go coherent taken
  | turn around =>
    cases taken
    exact ⟨⟨closed.worker, closed.ended, closed.final⟩, rfl⟩

/-- A job that is over stays as it is, whatever steps follow: nothing happens to it, and its
    worker takes none of them. -/
theorem follow {holds : Phase → Job → List JobEvent → Prop} {past : String → List JobEvent}
    (closed : s.Over i w) (coherent : s.Coherent holds past) (invariant : JobInvariant holds)
    {steps : List ServiceStep} (run : s.follow? crew steps = some s') :
    s'.Over i w ∧ s.events crew w.id steps = [] := by
  induction steps generalizing s past with
  | nil =>
    cases run
    exact ⟨closed, rfl⟩
  | cons step steps inductionHypothesis =>
    obtain ⟨next, taken, run⟩ := follow?_cons.mp run
    obtain ⟨closedNext, quiet⟩ := closed.step coherent taken
    obtain ⟨closedLast, quietLater⟩ :=
      inductionHypothesis closedNext (coherent.step invariant taken) run
    simp only [events, taken, quiet, quietLater]
    exact ⟨closedLast, rfl⟩

end Over

/-! ## Clean for good -/

/-- The working directory of a worker's job is gone for good: whatever steps follow, it is not
    there, the worker has taken none of them, and nothing has happened to the job. -/
def GoneForGood (crew : Crew ω) (settings : ServiceSettings) (i : Nat) (w : Worker)
    (s : Service ω) : Prop :=
  ∀ later s', s.follow? crew later = some s' →
    (∀ other scene, .submit other scene ∈ later → other ≠ w.id →
      crew.Spares settings other (settings.jobs.jobDir w.id)) →
    crew.hasDirectory (settings.jobs.jobDir w.id) s'.world = false ∧
      s'.workerAt? i = some w ∧ s.events crew w.id later = []

/-- The directory of a job whose worker has ended is gone for good if the worker leaves no
    directory. -/
theorem Tidy.goneForGood {holds : Phase → Job → List JobEvent → Prop}
    {past : String → List JobEvent} (tidy : s.Tidy crew settings w.id)
    (coherent : s.Coherent holds past) (invariant : JobInvariant holds)
    (removes : crew.Removes (settings.jobs.jobDir w.id)) (closed : s.Over i w)
    (leaves : ∀ present, w.phase.Tidy settings.jobs.retainFailed present → present = false) :
    GoneForGood crew settings i w s := by
  intro later s' run spares
  obtain ⟨closed', quiet⟩ := closed.follow coherent invariant run
  have tidy' := tidy.follow coherent invariant removes spares run
  exact ⟨leaves _ (tidy'.tidy closed'.worker rfl), closed'.worker, quiet⟩

/-- If failed jobs do not keep their directories, the directory of a completed job is gone for
    good from the moment that it is recorded as completed, in every run and whatever its crew
    does.  When a job is recorded as failed, either its directory is gone for good as well, or
    its worker has one step left, and that step removes it. -/
theorem follow?_cleaned {around : Surroundings} {world : ω} {steps : List ServiceStep}
    (removed : settings.jobs.retainFailed = false)
    (run : (ofSettings settings around world).follow? crew steps = some s)
    (worker : s.workerAt? i = some w) (removes : crew.Removes (settings.jobs.jobDir w.id))
    (spares : ∀ other scene, .submit other scene ∈ steps → other ≠ w.id →
      crew.Spares settings other (settings.jobs.jobDir w.id)) :
    ∃ job, s.store.get? w.id = some job ∧
      (job.status = .completed → GoneForGood crew settings i w s) ∧
      (job.status = .failed →
        GoneForGood crew settings i w s ∨
        ∃ outcome, s.work? crew w = some ([], .ended outcome, s.clear crew w.id) ∧
          crew.hasDirectory (settings.jobs.jobDir w.id) (s.clear crew w.id).world = false) := by
  have initial : (ofSettings settings around world).Coherent Tracked fun _ => [] :=
    .ofSettings settings around world
  have tidy := (Tidy.ofSettings settings around world w.id).follow initial Tracked.invariant removes spares run
  have coherent := initial.follow Tracked.invariant run
  obtain ⟨job, found, tracked⟩ := coherent.tracked worker
  refine ⟨job, found, ?_, ?_⟩
  · intro status
    have expected := tracked.expects (by rw [status]; decide)
    have terminal : job.status.isTerminal = true := by rw [status]; rfl
    obtain ⟨-, output, ended⟩ | ⟨failed, -⟩ := expected.terminal terminal
    · refine tidy.goneForGood coherent Tracked.invariant removes
        ⟨worker, ⟨_, ended⟩, job, found, terminal⟩ ?_
      rw [ended]
      exact fun _ absent => absent
    · cases status.symm.trans failed
  · intro status
    have expected := tracked.expects (by rw [status]; decide)
    have terminal : job.status.isTerminal = true := by rw [status]; rfl
    obtain ⟨completed, -⟩ | ⟨-, text, cleans | ended⟩ := expected.terminal terminal
    · cases status.symm.trans completed
    · -- The failure is on record, and the directory is still to be removed.
      right
      have kept : s.settings.jobs.retainFailed = false := tidy.settled ▸ removed
      refine ⟨.failed text, ?_, ?_⟩
      · simp only [work?, cleans, kept, Bool.false_eq_true, if_false]
      · rw [clear, tidy.settled]
        exact removes s.world
    · left
      refine tidy.goneForGood coherent Tracked.invariant removes
        ⟨worker, ⟨_, ended⟩, job, found, terminal⟩ ?_
      rw [ended]
      exact fun _ absent => absent removed

/-- A job is completed while another one is at work, and its directory is gone for good. -/
theorem follow?_cleaned_completed :
    let settings : ServiceSettings := ⟨.standard, .standard, none⟩
    let crew := shelvingCrew (.done ())
    let steps := [.submit "a" Sample.scene, .submit "b" Sample.scene] ++ List.replicate 6 (.go 1)
      ++ List.replicate 19 (.go 0)
    ∃ s w, (ofSettings settings noon []).follow? crew steps = some s ∧ s.workerAt? 0 = some w ∧
      (s.store.get? w.id).map Job.status = some .completed ∧
      GoneForGood crew settings 0 w s := by
  intro settings crew steps
  have reached : ((ofSettings settings noon []).follow? crew steps).map (fun s =>
      (s.workerAt? 0, (s.store.get? "a").map Job.status)) =
      some (some ⟨"a", Sample.scene, .ended (.finished (settings.jobs.outputPath "a"))⟩,
        some .completed) := by
    decide +kernel
  obtain ⟨s, run, parts⟩ := Option.map_eq_some_iff.mp reached
  obtain ⟨worker, completed⟩ := Prod.mk.inj parts
  have spares : ∀ other scene, .submit other scene ∈ steps → other ≠ "a" →
      crew.Spares settings other (settings.jobs.jobDir "a") := by
    intro other scene mem different
    obtain ⟨rfl, -⟩ : other = "b" ∧ scene = Sample.scene := by simpa [steps, different] using mem
    exact shelvingCrew_spares _ (by decide +kernel) (by decide +kernel)
  obtain ⟨job, found, cleaned, -⟩ :=
    follow?_cleaned rfl run worker (shelvingCrew_removes _ _) spares
  refine ⟨s, _, run, worker, completed, cleaned ?_⟩
  rw [found] at completed
  exact Option.some.inj completed

/-- A job fails on its own, and failed jobs do not keep their directories.  It is recorded as
    failed, and its directory is still there. -/
theorem follow?_cleaned_late :
    let settings : ServiceSettings := ⟨.standard, .standard, none⟩
    let crew := shelvingCrew (.error (.executionFailed 1 "no space"))
    settings.jobs.retainFailed = false ∧ crew.Removes (settings.jobs.jobDir "a") ∧
      ∃ s, (ofSettings settings noon []).follow? crew
          ([.submit "a" Sample.scene] ++ List.replicate 16 (.go 0)) = some s ∧
        (s.store.get? "a").map Job.status = some .failed ∧
        crew.hasDirectory (settings.jobs.jobDir "a") s.world = true := by
  intro settings crew
  have reached : ((ofSettings settings noon []).follow? crew
      ([.submit "a" Sample.scene] ++ List.replicate 16 (.go 0))).map (fun s =>
        ((s.store.get? "a").map Job.status, crew.hasDirectory (settings.jobs.jobDir "a") s.world)) =
      some (some .failed, true) := by
    decide +kernel
  obtain ⟨s, run, parts⟩ := Option.map_eq_some_iff.mp reached
  exact ⟨rfl, shelvingCrew_removes _ _, s, run, Prod.mk.inj parts⟩

end Service

end Compositor
