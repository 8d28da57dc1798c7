import Compositor.Proofs.Job.Moves

/-! # Runs of the service

In a run any party may act next: callers submit and cancel, and workers go on, each with
its errands between its own steps.  What happens to one job in a run is a list of events.

A job is touched only by its own worker and by cancellations.  So a property of a phase, a
record and the events so far holds of every job in every run if it holds of a new job and is
kept by the moves of a worker and by cancellations that are accepted; this is
`Service.follow?_invariant`.
-/

namespace Compositor

namespace Service

variable {ω : Type} (crew : Crew ω)

/-! ## Runs and their events -/

/-- The service after some steps, if they are all possible. -/
def follow? (s : Service ω) : List ServiceStep → Option (Service ω)
  | [] => some s
  | step :: steps =>
    match s.step? crew step with
    | some s => s.follow? steps
    | none => none

/-- What happens to a job in a step. -/
def observe (id : String) (s : Service ω) : ServiceStep → List JobEvent
  | .submit _ _ | .turn _ => []
  | .cancel target reason =>
    match (s.revoke target reason).1 with
    | .ok _ => if target = id then [.cancelled reason] else []
    | .error _ => []
  | .go i =>
    match s.parties[i]? with
    | some ⟨[], some w⟩ => if w.id = id then w.events crew s else []
    | _ => []

/-- What happens to a job in a run. -/
def events (id : String) (s : Service ω) : List ServiceStep → List JobEvent
  | [] => []
  | step :: steps =>
    match s.step? crew step with
    | some next => s.observe crew id step ++ next.events id steps
    | none => []

/-- The worker of a party. -/
def workerAt? (s : Service ω) (i : Nat) : Option Worker := (s.parties[i]?).bind Party.worker

/-! ## Invariants of jobs -/

/-- The property holds of new jobs and is kept by whatever happens to a job. -/
structure JobInvariant (holds : Phase → Job → List JobEvent → Prop) : Prop where
  queued : ∀ id title now, holds .start (.queued id title now) []
  move : ∀ {phase job past new phase' job'}, holds phase job past →
    Move phase job new phase' job' → holds phase' job' (past ++ new)
  cancel : ∀ {phase job past reason now job'}, holds phase job past →
    job.apply (.cancel (reasonOf reason)) now = .ok job' →
      holds phase job' (past ++ [.cancelled reason])

/-- Each job has at most one worker, and the property holds of all jobs with a worker. -/
structure Coherent (holds : Phase → Job → List JobEvent → Prop) (s : Service ω)
    (past : String → List JobEvent) : Prop where
  apart : ∀ {i j v w}, s.workerAt? i = some v → s.workerAt? j = some w → v.id = w.id → i = j
  tracked : ∀ {i w}, s.workerAt? i = some w →
    ∃ job, s.store.get? w.id = some job ∧ holds w.phase job (past w.id)
  quiet : ∀ {id}, s.store.get? id = none → past id = []

variable {crew} {holds : Phase → Job → List JobEvent → Prop} {s s' : Service ω}
  {past : String → List JobEvent}

/-! ## Steps keep invariants -/

theorem follow?_cons {step : ServiceStep} {steps : List ServiceStep} :
    s.follow? crew (step :: steps) = some s' ↔
      ∃ next, s.step? crew step = some next ∧ next.follow? crew steps = some s' := by
  rw [follow?]
  cases s.step? crew step <;> simp

theorem bind_worker_append {parties : List Party} {party : Party} {i : Nat} {w : Worker}
    (worker : ((parties ++ [party])[i]?).bind Party.worker = some w) :
    (parties[i]?).bind Party.worker = some w ∨ (i = parties.length ∧ party.worker = some w) := by
  by_cases old : i < parties.length
  · rw [List.getElem?_append_left old] at worker
    exact .inl worker
  · rw [List.getElem?_append_right (Nat.le_of_not_lt old)] at worker
    cases gap : i - parties.length with
    | zero =>
      rw [gap] at worker
      exact .inr ⟨by omega, worker⟩
    | succ n =>
      rw [gap] at worker
      cases worker

theorem bind_worker_set {parties : List Party} {party : Party} {i j : Nat} {w : Worker}
    (worker : ((parties.set i party)[j]?).bind Party.worker = some w) :
    (i = j ∧ party.worker = some w) ∨ (i ≠ j ∧ (parties[j]?).bind Party.worker = some w) := by
  rw [List.getElem?_set] at worker
  by_cases same : i = j
  · rw [if_pos same] at worker
    split at worker
    · exact .inl ⟨same, worker⟩
    · cases worker
  · rw [if_neg same] at worker
    exact .inr ⟨same, worker⟩

theorem bind_worker_set_same {parties : List Party} {p party : Party} {i : Nat}
    (place : parties[i]? = some p) (same : party.worker = p.worker) (j : Nat) :
    ((parties.set i party)[j]?).bind Party.worker = (parties[j]?).bind Party.worker := by
  rw [List.getElem?_set]
  by_cases equal : i = j
  · subst equal
    have bound := (List.getElem?_eq_some_iff.mp place).1
    rw [if_pos rfl, if_pos bound, place]
    exact same
  · rw [if_neg equal]

/-- A party that goes on runs an errand, or its worker takes a step. -/
theorem go?_cases {i : Nat} (gone : s.go? crew i = some s') :
    (∃ errand errands worker, s.parties[i]? = some ⟨errand :: errands, worker⟩ ∧
      s' = { s.run errand with parties := (s.run errand).parties.set i ⟨errands, worker⟩ }) ∨
    ∃ w errands phase after, s.parties[i]? = some ⟨[], some w⟩ ∧
      s.work? crew w = some (errands, phase, after) ∧
      s' = { after with
        parties := after.parties.set i ⟨errands, some { w with phase := phase }⟩ } := by
  cases party : s.parties[i]? with
  | none =>
    rw [go?, party] at gone
    cases gone
  | some p =>
    obtain ⟨errands, worker⟩ := p
    cases errands with
    | cons errand errands =>
      simp only [go?, party, act?, Option.bind_eq_bind, Option.bind_some, Option.pure_def,
        Option.some.injEq] at gone
      exact .inl ⟨errand, errands, worker, rfl, gone.symm⟩
    | nil =>
      cases worker with
      | none =>
        simp only [go?, party, act?, Option.bind_eq_bind, Option.bind_some, Option.bind_none] at gone
        cases gone
      | some w =>
        cases worked : s.work? crew w with
        | none =>
          simp only [go?, party, act?, worked, Option.map_none, Option.bind_eq_bind,
            Option.bind_some, Option.bind_none] at gone
          cases gone
        | some result =>
          obtain ⟨errands, phase, after⟩ := result
          simp only [go?, party, act?, worked, Option.map_some, Option.bind_eq_bind,
            Option.bind_some, Option.pure_def, Option.some.injEq] at gone
          exact .inr ⟨w, errands, phase, after, rfl, worked, gone.symm⟩

/-- Errands change neither the store nor the parties, and they leave the world alone. -/
theorem run_rest (s : Service ω) (errand : Errand) : (s.run errand).store = s.store ∧
    (s.run errand).parties = s.parties ∧ (s.run errand).settings = s.settings ∧
    (s.run errand).world = s.world := by
  cases errand <;> exact ⟨rfl, rfl, rfl, rfl⟩

/-- The worker of a party that runs an errand stays the same. -/
theorem workerAt?_run {i : Nat} {errand : Errand} {errands : List Errand} {worker : Option Worker}
    (party : s.parties[i]? = some ⟨errand :: errands, worker⟩) (j : Nat) :
    (((s.run errand).parties.set i ⟨errands, worker⟩)[j]?).bind Party.worker = s.workerAt? j := by
  have same : (Party.mk errands worker).worker = worker := rfl
  rw [(s.run_rest errand).2.1]
  exact bind_worker_set_same party same j

namespace Coherent

theorem ofSettings (settings : ServiceSettings) (around : Surroundings) (world : ω) :
    (ofSettings settings around world).Coherent holds fun _ => [] := by
  constructor
  · intro i j v w worker
    cases worker
  · intro i w worker
    cases worker
  · intro id absent
    rfl

theorem submit (coherent : s.Coherent holds past) (invariant : JobInvariant holds) {id : String}
    (new : s.store.get? id = none) (scene : Scene) : (s.accept id scene).2.Coherent holds past := by
  rw [accept]
  cases scene.fault? with
  | some e => exact coherent
  | none =>
    constructor
    · intro i j v w workerI workerJ same
      -- The store does not know the new worker's job, as it knows those of the others.
      have known {k x} (old : s.workerAt? k = some x) : x.id ≠ id := by
        rintro rfl
        obtain ⟨job, found, -⟩ := coherent.tracked old
        cases found.symm.trans new
      rcases bind_worker_append workerI with oldI | ⟨atI, newI⟩ <;>
        rcases bind_worker_append workerJ with oldJ | ⟨atJ, newJ⟩
      · exact coherent.apart oldI oldJ same
      · cases newJ
        exact absurd same (known oldI)
      · cases newI
        exact absurd same.symm (known oldJ)
      · rw [atI, atJ]
    · intro i w worker
      rcases bind_worker_append worker with old | ⟨-, fresh⟩
      · obtain ⟨job, found, held⟩ := coherent.tracked old
        exact ⟨job, JobStore.get?_create_of_some found new, held⟩
      · cases fresh
        refine ⟨_, JobStore.get?_create_self, ?_⟩
        rw [coherent.quiet new]
        exact invariant.queued id scene.title _
    · intro other absent
      rw [JobStore.get?_create] at absent
      split at absent
      · cases absent
      · exact coherent.quiet absent

theorem cancel (coherent : s.Coherent holds past) (invariant : JobInvariant holds)
    (target : String) (reason : Option String) :
    (s.revoke target reason).2.Coherent holds
      fun id => past id ++ s.observe crew id (.cancel target reason) := by
  -- A refused cancellation changes nothing.
  have refusal : ∀ e, s.revoke target reason = (.error e, s) → (s.revoke target reason).2.Coherent
      holds fun id => past id ++ s.observe crew id (.cancel target reason) := by
    intro e refused
    simp only [observe, refused, List.append_nil]
    exact coherent
  cases found : s.store.get? target with
  | none =>
    apply refusal (.job (.notFound target))
    rw [revoke, change, JobStore.update_of_absent found]
  | some job =>
    rcases change_cases found (.cancel (reasonOf reason)) with
      ⟨job', store, taken, changed, kept⟩ | ⟨-, changed⟩
    · simp only [observe, revoke, changed]
      constructor
      · intro i j v w workerI workerJ same
        rcases bind_worker_append workerI with oldI | ⟨-, newI⟩
        · rcases bind_worker_append workerJ with oldJ | ⟨-, newJ⟩
          · exact coherent.apart oldI oldJ same
          · cases newJ
        · cases newI
      · intro i w worker
        rcases bind_worker_append worker with old | ⟨-, new⟩
        -- The worker in question may be that of the cancelled job.
        · obtain ⟨job₀, found₀, held⟩ := coherent.tracked old
          by_cases same : target = w.id
          · subst same
            obtain rfl := Option.some.inj (found.symm.trans found₀)
            rw [if_pos rfl]
            exact ⟨job', kept.found, invariant.cancel held taken⟩
          · rw [if_neg same, List.append_nil]
            exact ⟨job₀, (kept.others _ (Ne.symm same)).trans found₀, held⟩
        · cases new
      · intro other absent
        have different : target ≠ other := by
          rintro rfl
          cases kept.found.symm.trans absent
        rw [if_neg different, List.append_nil]
        exact coherent.quiet ((kept.others other (Ne.symm different)).symm.trans absent)
    · apply refusal (.job (.invalidTransition job.id job.status .cancelled))
      rw [revoke, changed]
      rfl

theorem go (coherent : s.Coherent holds past) (invariant : JobInvariant holds) {i : Nat}
    (gone : s.go? crew i = some s') :
    s'.Coherent holds fun id => past id ++ s.observe crew id (.go i) := by
  rcases go?_cases gone with ⟨errand, errands, worker, party, rfl⟩ |
      ⟨w, errands, phase, after, party, worked, rfl⟩
  · have store := (s.run_rest errand).1
    have workers := workerAt?_run party
    simp only [observe, party, List.append_nil]
    constructor
    · intro j k v w workerJ workerK
      rw [workerAt?, workers] at workerJ workerK
      exact coherent.apart workerJ workerK
    · intro j w workerJ
      rw [workerAt?, workers] at workerJ
      simp only [store]
      exact coherent.tracked workerJ
    · intro id absent
      simp only [store] at absent
      exact coherent.quiet absent
  · have own : s.workerAt? i = some w := by
      rw [workerAt?, party]
      rfl
    obtain ⟨job, found, held⟩ := coherent.tracked own
    obtain ⟨job', move, kept, parties⟩ := work?_move found worked
    simp only [observe, party, parties]
    constructor
    · intro j k v u workerJ workerK same
      -- Workers keep their identifiers, so they are as far apart as before.
      have before : ∀ {l x}, ((s.parties.set i ⟨errands, some { w with phase := phase }⟩)[l]?).bind
          Party.worker = some x → ∃ y, s.workerAt? l = some y ∧ y.id = x.id := by
        intro l x workerL
        rcases bind_worker_set workerL with ⟨rfl, mine⟩ | ⟨-, other⟩
        · cases mine
          exact ⟨w, own, rfl⟩
        · exact ⟨x, other, rfl⟩
      obtain ⟨v', workerJ', equalJ⟩ := before workerJ
      obtain ⟨u', workerK', equalK⟩ := before workerK
      exact coherent.apart workerJ' workerK' (equalJ.trans (same.trans equalK.symm))
    · intro j v workerJ
      rcases bind_worker_set workerJ with ⟨rfl, mine⟩ | ⟨different, other⟩
      · cases mine
        rw [if_pos rfl]
        exact ⟨job', kept.found, invariant.move held move⟩
      · obtain ⟨job₀, found₀, held₀⟩ := coherent.tracked other
        have apart : w.id ≠ v.id := fun same => different (coherent.apart own other same)
        rw [if_neg apart, List.append_nil]
        exact ⟨job₀, (kept.others _ (Ne.symm apart)).trans found₀, held₀⟩
    · intro id absent
      have apart : w.id ≠ id := by
        rintro rfl
        cases kept.found.symm.trans absent
      rw [if_neg apart, List.append_nil]
      exact coherent.quiet ((kept.others id (Ne.symm apart)).symm.trans absent)

/-- Every step keeps an invariant. -/
theorem step (coherent : s.Coherent holds past) (invariant : JobInvariant holds)
    {step : ServiceStep} (taken : s.step? crew step = some s') :
    s'.Coherent holds fun id => past id ++ s.observe crew id step := by
  cases step with
  | submit id scene =>
    simp only [step?] at taken
    split at taken
    · cases taken
    · rename_i new
      cases taken
      simp only [observe, List.append_nil]
      exact coherent.submit invariant (Option.not_isSome_iff_eq_none.mp new) scene
  | cancel target reason =>
    cases taken
    exact coherent.cancel invariant target reason
  | go i => exact coherent.go invariant taken
  | turn around =>
    cases taken
    simp only [observe, List.append_nil]
    exact ⟨coherent.apart, coherent.tracked, coherent.quiet⟩

theorem follow (coherent : s.Coherent holds past) (invariant : JobInvariant holds)
    {steps : List ServiceStep} (run : s.follow? crew steps = some s') :
    s'.Coherent holds fun id => past id ++ s.events crew id steps := by
  induction steps generalizing s past with
  | nil =>
    cases run
    simp only [events, List.append_nil]
    exact coherent
  | cons step steps inductionHypothesis =>
    obtain ⟨next, taken, run⟩ := follow?_cons.mp run
    have later := inductionHypothesis (coherent.step invariant taken) run
    simp only [events, taken, ← List.append_assoc]
    exact later

end Coherent

/-- An invariant holds of every job in every run. -/
theorem follow?_invariant (invariant : JobInvariant holds) {settings : ServiceSettings}
    {around : Surroundings} {world : ω} {steps : List ServiceStep}
    (run : (ofSettings settings around world).follow? crew steps = some s) {i : Nat} {w : Worker}
    (worker : s.workerAt? i = some w) :
    ∃ job, s.store.get? w.id = some job ∧
      holds w.phase job ((ofSettings settings around world).events crew w.id steps) := by
  exact ((Coherent.ofSettings settings around world).follow invariant run).tracked worker

end Service

end Compositor
