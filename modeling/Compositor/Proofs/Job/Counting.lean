import Mathlib.Algebra.GroupWithZero.Nat
import Compositor.Proofs.Job.Reports

/-! # What is counted of jobs

A job is counted when it is accepted and again when it comes to an end.  The increment is an
errand of whoever made the change, so in between the counters lag behind the store, and others
may change the store and run errands of their own.  `Service.Counts` is what stays true: each
increment that the records in the store call for has been made or is an errand that is left.
-/

namespace Compositor

/-! ## What the records call for -/

/-- Metrics of jobs. -/
def Metric.isOfJob : Metric → Bool
  | jobSubmitted | jobFinished _ => true
  | _ => false

/-- The metric counts the job that has this record. -/
def Metric.counts : Metric → Job → Bool
  | jobSubmitted, _ => true
  | jobFinished status, job => status.isTerminal && job.status == status
  | _, _ => false

/-- The errand is left of a change of the store. -/
def Errand.isOfChange : Errand → Bool
  | tell _ => true
  | count m => m.isOfJob

namespace JobStore

variable {s : JobStore} {m : Metric} {id : String} {job job' : Job}

/-- How often the metric is to be counted for these records. -/
def due (s : JobStore) (m : Metric) : Nat := s.jobs.countP m.counts

theorem due_create (new : s.get? id = none) (title : String) (now : Timestamp) (m : Metric) :
    (s.create id title now).2.due m = s.due m + (m.counts (.queued id title now)).toNat := by
  rw [due, (s.jobs_create id title now).countP_eq, due, jobs_of_none new, List.countP_cons]
  cases m.counts (.queued id title now) <;> rfl

/-- Only the record that is replaced is counted differently. -/
theorem due_replace (found : s.get? id = some job) (m : Metric) :
    (s.replace id job').due m + (m.counts job).toNat = s.due m + (m.counts job').toNat := by
  rw [due, (s.jobs_replace id job').countP_eq, due, (jobs_of_some found).countP_eq, List.countP_cons,
    List.countP_cons]
  cases m.counts job <;> cases m.counts job' <;> simp

end JobStore

namespace Service

variable {ω : Type} {crew : Crew ω} {s s' : Service ω} {w : Worker} {m : Metric} {id : String}
  {job job' : Job} {errands : List Errand} {phase : Phase}

/-- What follows from a change counts the job if its new record is counted and the old one,
    which was not final, was not. -/
theorem count_errandsOf (job' : Job) (ofJob : m.isOfJob = true) (early : job.status.isTerminal = false) :
    (errandsOf job').count (.count m) + (m.counts job).toNat = (m.counts job').toNat := by
  cases m with
  | jobSubmitted =>
    rw [errandsOf]
    split <;> rfl
  | jobFinished status =>
    have uncounted : (Metric.jobFinished status).counts job = false := by
      rw [Metric.counts, Bool.and_eq_false_imp]
      rintro terminal
      rw [beq_eq_false_iff_ne]
      rintro rfl
      rw [early] at terminal
      cases terminal
    rw [uncounted, errandsOf, Metric.counts]
    by_cases same : job'.status = status
    · subst same
      cases terminal : job'.status.isTerminal <;> simp
    · split <;> simp [same, beq_false_of_ne same]
  | _ => cases ofJob

theorem change_due (id : String) (t : Transition) (ofJob : m.isOfJob = true) :
    ((made (s.change id t).1).flatMap errandsOf).count (.count m) + s.store.due m =
      (s.change id t).2.store.due m := by
  cases found : s.store.get? id with
  | none =>
    rw [change, JobStore.update_of_absent found]
    exact Nat.zero_add _
  | some job =>
    by_cases allowed : job.status ∈ t.sources
    · have early := Transition.not_isTerminal_of_mem_sources allowed
      obtain ⟨job', taken⟩ : ∃ job', job.apply t s.around.now = .ok job' :=
        ⟨_, Job.apply_eq_ok.mpr ⟨allowed, rfl⟩⟩
      have errands := count_errandsOf job' ofJob early
      have records : (s.store.replace id job').due m + (m.counts job).toNat =
          s.store.due m + (m.counts job').toNat := JobStore.due_replace found m
      rw [change, (JobStore.update_of_ok found taken).1]
      simp only [made, List.flatMap_singleton]
      omega
    · rw [change, JobStore.update_of_refused found allowed]
      exact Nat.zero_add _

theorem ask_due (s : Service ω) (w : Worker) (ofJob : m.isOfJob = true) :
    ((s.ask w).1.flatMap errandsOf).count (.count m) + s.store.due m =
      (s.ask w).2.store.due m := by
  rw [ask]
  cases w.phase.asks? with
  | none => exact Nat.zero_add _
  | some t => exact change_due _ t ofJob

/-! ## Increments that were made and those that are left -/

/-- How often the metric has yet to be counted. -/
def uncounted (s : Service ω) (m : Metric) : Nat :=
  (s.parties.map fun p => p.errands.count (.count m)).sum

/-- A change was made whose errands are not all done. -/
def halfDone (s : Service ω) : Bool := s.parties.any fun p => p.errands.any Errand.isOfChange

/-- Increments that were made or are left are those that the records call for. -/
def Counts (s : Service ω) : Prop :=
  ∀ m, m.isOfJob = true → s.tally.count m + s.uncounted m = s.store.due m

theorem uncounted_eq_zero (done : s.halfDone = false) (ofJob : m.isOfJob = true) :
    s.uncounted m = 0 := by
  rw [uncounted, List.sum_eq_zero_iff_forall_eq_nat]
  intro n mem
  obtain ⟨p, party, rfl⟩ := List.mem_map.mp mem
  rw [List.count_eq_zero]
  intro left
  have quiet := List.any_eq_false.mp done p party
  exact quiet (List.any_eq_true.mpr ⟨_, left, ofJob⟩)

namespace Counts

theorem ofSettings (settings : ServiceSettings) (around : Surroundings) (world : ω) :
    (ofSettings settings around world).Counts := fun _ _ => rfl

/-- A caller changes the store, and a party comes in that has the errands of the change. -/
theorem call (counts : s.Counts) {party : Party} (tally : s'.tally = s.tally)
    (parties : s'.parties = s.parties ++ [party])
    (due : ∀ m, m.isOfJob = true →
      party.errands.count (.count m) + s.store.due m = s'.store.due m) : s'.Counts := by
  intro m ofJob
  have even := counts m ofJob
  have due := due m ofJob
  have left : s'.uncounted m = s.uncounted m + party.errands.count (.count m) := by
    simp [uncounted, parties]
  rw [tally, left]
  omega

/-- An errand is run. -/
theorem errand (counts : s.Counts) {i : Nat} {e : Errand} {worker : Option Worker}
    (party : s.parties[i]? = some ⟨e :: errands, worker⟩) :
    Counts { s.run e with parties := (s.run e).parties.set i ⟨errands, worker⟩ } := by
  obtain ⟨store, same, -, -⟩ := s.run_rest e
  obtain ⟨before, after, parties, -, set⟩ := exists_split party
  intro m ofJob
  have even := counts m ofJob
  have left : s.uncounted m = ((before ++ ⟨errands, worker⟩ :: after).map
      fun p : Party => p.errands.count (.count m)).sum + if e = .count m then 1 else 0 := by
    simp only [uncounted, parties, List.map_append, List.map_cons, List.sum_append, List.sum_cons,
      List.count_cons, beq_iff_eq]
    omega
  have made : (s.run e).tally.count m = s.tally.count m + if e = .count m then 1 else 0 := by
    cases e with
    | tell job => rfl
    | count x => simp [run, Tally.count, Tally.add, List.count_cons]
  simp only [store, same, set, uncounted, made]
  omega

/-- A worker takes a step. -/
theorem work (counts : s.Counts) {i : Nat} (party : s.parties[i]? = some ⟨[], some w⟩)
    (worked : s.work? crew w = some (errands, phase, s')) :
    Counts { s' with parties := s'.parties.set i ⟨errands, some { w with phase := phase }⟩ } := by
  obtain ⟨following, world, rfl⟩ := work?_errands worked
  obtain ⟨before, after, parties, -, set⟩ := exists_split party
  obtain ⟨store, rest⟩ : ∃ store, (s.ask w).2 = { s with store := store } := by
    rcases s.ask_cases w with ⟨job, store, asked, -⟩ | asked
    · exact ⟨store, by rw [asked]⟩
    · exact ⟨s.store, by rw [asked]⟩
  -- A run of the engine is counted by a metric that is not one of jobs.
  have due : ∀ m, m.isOfJob = true → errands.count (.count m) + s.store.due m = store.due m := by
    intro m ofJob
    have due := s.ask_due w ofJob
    rw [rest] at due
    rcases following with rfl | ⟨asked, backend, ok, rfl⟩
    · exact due
    · rw [asked] at due
      cases m with
      | jobSubmitted | jobFinished _ => exact due
      | _ => cases ofJob
  simp only [rest, set]
  intro m ofJob
  have even := counts m ofJob
  have due := due m ofJob
  simp only [uncounted, parties, List.map_append, List.map_cons, List.sum_append, List.sum_cons,
    List.count_nil] at even ⊢
  omega

theorem step (counts : s.Counts) {step : ServiceStep} (taken : s.step? crew step = some s') :
    s'.Counts := by
  cases step with
  | submit id scene =>
    simp only [step?] at taken
    split at taken
    · cases taken
    · rename_i new
      cases taken
      simp only [accept]
      cases scene.fault? with
      | some e => exact counts
      | none =>
        refine counts.call rfl rfl fun m ofJob => ?_
        rw [JobStore.due_create (Option.not_isSome_iff_eq_none.mp new)]
        cases m with
        | jobSubmitted => exact Nat.add_comm ..
        -- A new job is not at its end.
        | jobFinished status => cases status <;> exact Nat.add_comm ..
        | _ => cases ofJob
  | cancel id reason =>
    cases taken
    simp only [revoke]
    cases changed : s.change id (.cancel (reasonOf reason)) with
    | mk result after =>
      have due := fun m ofJob =>
        change_due (m := m) (s := s) id (.cancel (reasonOf reason)) ofJob
      simp only [changed] at due
      obtain ⟨store, rfl⟩ := change_rest changed
      cases result with
      | ok job =>
        simp only [made, List.flatMap_singleton] at due
        exact counts.call rfl rfl due
      | error e =>
        intro m ofJob
        rw [← due m ofJob]
        exact (counts m ofJob).trans (Nat.zero_add _).symm
  | go i =>
    rcases go?_cases taken with ⟨e, errands, worker, party, rfl⟩ |
        ⟨w, errands, phase, after, party, worked, rfl⟩
    · exact counts.errand party
    · exact counts.work party worked
  | turn around =>
    cases taken
    exact counts

theorem follow (counts : s.Counts) {steps : List ServiceStep}
    (run : s.follow? crew steps = some s') : s'.Counts := by
  induction steps generalizing s with
  | nil =>
    cases run
    exact counts
  | cons step steps inductionHypothesis =>
    obtain ⟨next, taken, run⟩ := follow?_cons.mp run
    exact inductionHypothesis (counts.step taken) run

end Counts

/-! ## Counters of a run -/

/-- In every run, whatever its parties do in whatever order, no job is counted twice; and whenever
    no change is half done, the counters say how many jobs there are and how many have come to
    each end. -/
theorem follow?_counts {settings : ServiceSettings} {around : Surroundings} {world : ω}
    {steps : List ServiceStep} (run : (ofSettings settings around world).follow? crew steps = some s) :
    (s.tally.count .jobSubmitted ≤ s.store.jobs.length ∧
      ∀ status, status.isTerminal = true →
        s.tally.count (.jobFinished status) ≤ s.store.count (.ofStatus status)) ∧
    (s.halfDone = false →
      s.tally.count .jobSubmitted = s.store.jobs.length ∧
      ∀ status, status.isTerminal = true →
        s.tally.count (.jobFinished status) = s.store.count (.ofStatus status)) := by
  have counts := (Counts.ofSettings settings around world).follow run
  have jobs : s.store.due .jobSubmitted = s.store.jobs.length := List.countP_eq_length.mpr fun _ _ => rfl
  have ended : ∀ status, status.isTerminal = true →
      s.store.due (.jobFinished status) = s.store.count (.ofStatus status) := by
    intro status terminal
    refine List.countP_congr fun job _ => ?_
    rw [Metric.counts, terminal, Bool.true_and]
    rfl
  have submitted := counts .jobSubmitted rfl
  have finished := fun status => counts (.jobFinished status) rfl
  refine ⟨⟨?_, fun status terminal => ?_⟩, fun done => ⟨?_, fun status terminal => ?_⟩⟩
  · omega
  · have := ended status terminal
    have := finished status
    omega
  · have := uncounted_eq_zero done (m := .jobSubmitted) rfl
    omega
  · have := ended status terminal
    have := finished status
    have := uncounted_eq_zero done (m := .jobFinished status) rfl
    omega

/-- One of two jobs is cancelled before its worker starts and the other one is completed; a scene
    that cannot be rendered and a cancellation of no job are not counted. -/
theorem follow?_counts_cancelled :
    let steps := [.submit "a" Sample.scene, .submit "b" Sample.scene,
        .submit "c" { Sample.scene with width := 0 }, .cancel "a" none, .cancel "d" none]
      ++ List.replicate 2 (.go 2) ++ List.replicate 4 (.go 0) ++ List.replicate 21 (.go 1)
    ∃ s, (ofSettings ⟨.standard, .standard, none⟩ noon ()).follow? obligingCrew steps = some s ∧
      s.halfDone = false ∧ s.store.jobs.map Job.status = [.cancelled, .completed] ∧
      s.tally.count .jobSubmitted = 2 ∧ s.tally.count (.jobFinished .cancelled) = 1 ∧
      s.tally.count (.jobFinished .completed) = 1 ∧ s.tally.count (.jobFinished .failed) = 0 := by
  intro steps
  have ended : ((ofSettings ⟨.standard, .standard, none⟩ noon ()).follow? obligingCrew steps).map (fun s =>
      (s.halfDone, s.store.jobs.map Job.status)) = some (false, [.cancelled, .completed]) := by
    decide +kernel
  obtain ⟨s, run, parts⟩ := Option.map_eq_some_iff.mp ended
  obtain ⟨done, statuses⟩ := Prod.mk.inj parts
  have counts : ∀ status, s.store.count (.ofStatus status) =
      [JobStatus.cancelled, .completed].countP (· == status) := by
    intro status
    rw [← statuses, List.countP_map]
    rfl
  obtain ⟨submitted, finished⟩ := (follow?_counts run).2 done
  refine ⟨s, run, done, statuses, ?_, ?_, ?_, ?_⟩
  · rw [submitted, ← List.length_map Job.status, statuses]
    rfl
  · rw [finished .cancelled rfl, counts]
    rfl
  · rw [finished .completed rfl, counts]
    rfl
  · rw [finished .failed rfl, counts]
    rfl

end Service

end Compositor
