import Compositor.Proofs.Job.Store

/-! # Histories of the job store

The store is used through two calls: a job is created, or a job is to take a transition.  A
history is any sequence of such calls with their answers, from one store to a later one.
Identifiers of new jobs are drawn at random, so that none is drawn twice.

The fields of a record are tied to its status, and the status only moves on.  `Job.Fits` is
what ties them; its bounds on the progress of a job in work are what makes a progress of 100
mean that the job is completed.  `Job.Precedes` is what a record may turn into.  Both are
shown for one transition first, then for whole histories.
-/

namespace Compositor

namespace Job

/-! ## Records -/

/-- The fields of a record fit its status. -/
structure Fits (job : Job) : Prop where
  pending : job.status = .pending → job.progress = 0
  processing : job.status = .processing → 10 ≤ job.progress ∧ job.progress ≤ 99
  full : job.progress = 100 ↔ job.status = .completed
  output : job.output.isSome ↔ job.status = .completed
  error : job.error.isSome ↔ job.status = .failed
  cancelled : job.status = .cancelled → Text.allBlank job.message = false

/-- The second record may follow the first one: nothing that is final is taken back. -/
structure Precedes (job later : Job) : Prop where
  id : later.id = job.id
  title : later.title = job.title
  created : later.created = job.created
  progress : job.progress ≤ later.progress
  final : job.status.isTerminal = true → later = job

variable {job job' : Job} {t : Transition} {now : Timestamp}

theorem Precedes.refl (job : Job) : job.Precedes job :=
  ⟨rfl, rfl, rfl, Nat.le_refl _, fun _ => rfl⟩

theorem Precedes.trans {middle last : Job} (first : job.Precedes middle)
    (second : middle.Precedes last) : job.Precedes last where
  id := second.id.trans first.id
  title := second.title.trans first.title
  created := second.created.trans first.created
  progress := Nat.le_trans first.progress second.progress
  final := by
    intro terminal
    have same := first.final terminal
    subst same
    exact second.final terminal

theorem fits_queued (id title : String) (now : Timestamp) : (queued id title now).Fits := by
  constructor <;> simp [queued]

theorem allBlank_cancelledMessage (reason : String) :
    Text.allBlank (cancelledMessage reason) = false := by
  rw [cancelledMessage]
  split
  · decide
  · next filled => exact Bool.eq_false_iff.mpr filled

/-- The progress of a job that is pending or in work is at most 99, whatever was reported. -/
theorem Fits.progress_le (fits : job.Fits) (status : job.status = .pending ∨ job.status = .processing) :
    job.progress ≤ 99 := by
  rcases status with pending | processing
  · rw [fits.pending pending]
    omega
  · exact (fits.processing processing).2

theorem Fits.apply (fits : job.Fits) (taken : job.apply t now = .ok job') : job'.Fits := by
  obtain ⟨allowed, rfl⟩ := apply_eq_ok.mp taken
  have noOutput : job.status ≠ .completed → job.output = none := by
    intro unfinished
    exact Option.not_isSome_iff_eq_none.mp (fun some => unfinished (fits.output.mp some))
  have noError : job.status ≠ .failed → job.error = none := by
    intro sound
    exact Option.not_isSome_iff_eq_none.mp (fun some => sound (fits.error.mp some))
  cases t with
  | start =>
    have pending : job.status = .pending := by simpa [Transition.sources] using allowed
    constructor <;> simp [record, Transition.target, startProgress, noOutput, noError, pending]
  | progress value message =>
    -- Reports are cut to 99, so that 100 is left to the completed job.
    have processing : job.status = .processing := by simpa [Transition.sources] using allowed
    have bounds := fits.processing processing
    constructor <;> simp [record, Transition.target, progressLimit, noOutput, noError, processing] <;>
      omega
  | complete output =>
    have processing : job.status = .processing := by simpa [Transition.sources] using allowed
    constructor <;> simp [record, Transition.target, fullProgress, noError, processing]
  | fail error =>
    have early : job.status = .pending ∨ job.status = .processing := by
      simpa [Transition.sources] using allowed
    have bound := fits.progress_le early
    have unfinished : job.status ≠ .completed := by rcases early with h | h <;> simp [h]
    constructor <;> simp [record, Transition.target, noOutput unfinished]
    omega
  | cancel reason =>
    have early : job.status = .pending ∨ job.status = .processing := by
      simpa [Transition.sources] using allowed
    have bound := fits.progress_le early
    have unfinished : job.status ≠ .completed := by rcases early with h | h <;> simp [h]
    have sound : job.status ≠ .failed := by rcases early with h | h <;> simp [h]
    constructor <;>
      simp [record, Transition.target, noOutput unfinished, noError sound, allBlank_cancelledMessage]
    omega

theorem Fits.precedes (fits : job.Fits) (taken : job.apply t now = .ok job') : job.Precedes job' := by
  obtain ⟨allowed, rfl⟩ := apply_eq_ok.mp taken
  have unfinished := Transition.not_isTerminal_of_mem_sources allowed
  refine ⟨by cases t <;> rfl, by cases t <;> rfl, by cases t <;> rfl, ?_, ?_⟩
  · cases t with
    | start =>
      have pending : job.status = .pending := by simpa [Transition.sources] using allowed
      simp [fits.pending pending]
    | progress value message => exact Nat.le_max_left _ _
    | complete output =>
      have processing : job.status = .processing := by simpa [Transition.sources] using allowed
      have bounds := fits.processing processing
      simp only [record, fullProgress]
      omega
    | fail error => exact Nat.le_refl _
    | cancel reason => exact Nat.le_refl _
  · intro terminal
    rw [unfinished] at terminal
    cases terminal

end Job

/-! ## Calls -/

/-- A call of the store, and when it is made. -/
inductive StoreCall where
  | create (id title : String) (now : Timestamp)
  | update (id : String) (t : Transition) (now : Timestamp)

namespace StoreCall

/-- The identifier of the record that the call names. -/
def id : StoreCall → String
  | create id _ _ => id
  | update id _ _ => id

/-- What is to be created has an identifier of its own. -/
def IsFresh (s : JobStore) : StoreCall → Prop
  | create id _ _ => id ∉ s.ids
  | update _ _ _ => True

/-- The call asks for a transition to a terminal status. -/
def isEnding : StoreCall → Bool
  | create _ _ _ => false
  | update _ t _ => t.target.isTerminal

end StoreCall

namespace JobStore

/-- The answer to a call, and the store after it. -/
def call (s : JobStore) : StoreCall → Except JobError Job × JobStore
  | .create id title now => (.ok (s.create id title now).1, (s.create id title now).2)
  | .update id t now => s.update id t now

/-- All that a call can do. -/
inductive Effect (s : JobStore) : StoreCall → Except JobError Job → JobStore → Prop where
  | created {id title : String} {now : Timestamp} (new : id ∉ s.ids) :
    Effect s (.create id title now) (.ok (.queued id title now)) (s.create id title now).2
  | changed {id : String} {t : Transition} {now : Timestamp} {job job' : Job}
      (found : s.get? id = some job) (taken : job.apply t now = .ok job') :
    Effect s (.update id t now) (.ok job') (s.replace id job')
  | refused {id : String} {t : Transition} {now : Timestamp} (e : JobError) :
    Effect s (.update id t now) (.error e) s

/-- Where the record that an accepted call names comes from: a new job stands behind all
    others, and a job that was there has taken the transition. -/
def Originates (s s' : JobStore) (job : Job) : StoreCall → Prop
  | .create id title now => s.get? id = none ∧ s'.ids = s.ids ++ [id] ∧ job = .queued id title now
  | .update id t now => s'.ids = s.ids ∧ ∃ old, s.get? id = some old ∧ old.apply t now = .ok job ∧
      job.id = old.id ∧ job.title = old.title ∧ job.created = old.created ∧ job.updated = now

variable {s s' : JobStore} {c : StoreCall} {answer : Except JobError Job}

theorem call_effect (fresh : c.IsFresh s) (called : s.call c = (answer, s')) :
    s.Effect c answer s' := by
  cases c with
  | create id title now =>
    simp only [call, create, Prod.mk.injEq] at called
    obtain ⟨rfl, rfl⟩ := called
    exact .created fresh
  | update id t now =>
    simp only [call, update] at called
    split at called
    · cases called
      exact .refused _
    · next job found =>
      split at called
      · next job' taken =>
        cases called
        exact .changed found taken
      · cases called
        exact .refused _

/-- Every record fits its status. -/
def Fits (s : JobStore) : Prop := ∀ {id job}, s.get? id = some job → job.Fits

theorem fits_empty : empty.Fits := fun found => by cases found

namespace Effect

theorem wellFormed (effect : s.Effect c answer s') (wellFormed : s.WellFormed) : s'.WellFormed := by
  cases effect with
  | created new => exact wellFormed.create new _ _
  | changed found taken =>
    exact wellFormed.replace found ((Job.apply_id taken).trans (wellFormed.named found))
  | refused e => exact wellFormed

theorem fits (effect : s.Effect c answer s') (fits : s.Fits) : s'.Fits := by
  intro id job found
  cases effect with
  | created new =>
    rw [get?_create] at found
    split at found
    · cases found
      exact Job.fits_queued _ _ _
    · exact fits found
  | changed foundOld taken =>
    rw [get?_replace] at found
    split at found
    · cases found
      exact (fits foundOld).apply taken
    · exact fits found
  | refused e => exact fits found

theorem precedes (effect : s.Effect c answer s') (wellFormed : s.WellFormed) (fits : s.Fits)
    {id : String} {job : Job} (found : s.get? id = some job) :
    ∃ later, s'.get? id = some later ∧ job.Precedes later := by
  cases effect with
  | created new =>
    exact ⟨job, get?_create_of_some found (wellFormed.get?_eq_none.mpr new), .refl job⟩
  | @changed named t now old job' foundOld taken =>
    have change := replace_changed foundOld (Job.apply_id taken)
    by_cases same : id = named
    · subst same
      have equal : job = old := Option.some.inj (found.symm.trans foundOld)
      subst equal
      exact ⟨job', change.found, (fits found).precedes taken⟩
    · exact ⟨job, (change.others id same).trans found, .refl job⟩
  | refused e => exact ⟨job, found, .refl job⟩

/-- A record that is not named is the same before and after. -/
theorem others (effect : s.Effect c answer s') {id : String} (other : id ≠ c.id) :
    s'.get? id = s.get? id := by
  cases effect with
  | created new => exact get?_create_of_ne other
  | changed found taken => exact get?_replace_of_ne other
  | refused e => rfl

/-- An accepted call leaves its answer under the identifier that it names. -/
theorem named {job : Job} (effect : s.Effect c (.ok job) s') : s'.get? c.id = some job := by
  cases effect with
  | created new => exact get?_create_self
  | changed found taken => exact get?_replace_self

theorem originates {job : Job} (effect : s.Effect c (.ok job) s') (wellFormed : s.WellFormed) :
    s.Originates s' job c := by
  cases effect with
  | created new => exact ⟨wellFormed.get?_eq_none.mpr new, rfl, rfl⟩
  | @changed id t now old _ found taken =>
    refine ⟨rfl, old, found, taken, Job.apply_id taken, ?_⟩
    obtain ⟨-, rfl⟩ := Job.apply_eq_ok.mp taken
    cases t <;> exact ⟨rfl, rfl, rfl⟩

end Effect

/-! ## Histories -/

/-- A call with its answer. -/
structure Exchange where
  call : StoreCall
  answer : Except JobError Job

/-- A transition to a terminal status is accepted for the job. -/
def Exchange.ends (id : String) (x : Exchange) : Bool :=
  x.call.isEnding && x.answer.isOk && x.call.id == id

/-- Some calls, one after the other, lead from one store to another. -/
inductive History : JobStore → List Exchange → JobStore → Prop where
  | nil (s : JobStore) : History s [] s
  | cons {s next s' : JobStore} {c : StoreCall} {answer : Except JobError Job}
      {later : List Exchange} (fresh : c.IsFresh s) (called : s.call c = (answer, next))
      (rest : History next later s') : History s (⟨c, answer⟩ :: later) s'

/-- A job that ends in a call was not at its end before, and is at its end after it. -/
theorem Effect.turns {id : String} (effect : s.Effect c answer s')
    (ends : Exchange.ends id ⟨c, answer⟩ = true) :
    (∃ old, s.get? id = some old ∧ old.status.isTerminal = false) ∧
      ∃ job, s'.get? id = some job ∧ job.status.isTerminal = true := by
  cases effect with
  | created new => cases ends
  | refused e => simp [Exchange.ends, Except.isOk, Except.toBool] at ends
  | @changed named t now old job found taken =>
    have parts : named = id ∧ t.target.isTerminal = true := by
      simpa [Exchange.ends, StoreCall.id, StoreCall.isEnding, Except.isOk, Except.toBool,
        and_comm] using ends
    obtain ⟨rfl, terminal⟩ := parts
    obtain ⟨allowed, equal⟩ := Job.apply_eq_ok.mp taken
    refine ⟨⟨old, found, Transition.not_isTerminal_of_mem_sources allowed⟩, job, get?_replace_self, ?_⟩
    rw [equal]
    exact terminal

namespace History

variable {past : List Exchange}

theorem wellFormed (history : History s past s') (wellFormed : s.WellFormed) : s'.WellFormed := by
  induction history with
  | nil => exact wellFormed
  | cons fresh called _ inductionHypothesis =>
    exact inductionHypothesis ((call_effect fresh called).wellFormed wellFormed)

theorem fits (history : History s past s') (fits : s.Fits) : s'.Fits := by
  induction history with
  | nil => exact fits
  | cons fresh called _ inductionHypothesis =>
    exact inductionHypothesis ((call_effect fresh called).fits fits)

theorem precedes (history : History s past s') (wellFormed : s.WellFormed) (fits : s.Fits)
    {id : String} {job : Job} (found : s.get? id = some job) :
    ∃ later, s'.get? id = some later ∧ job.Precedes later := by
  induction history generalizing job with
  | nil => exact ⟨job, found, .refl job⟩
  | cons fresh called _ inductionHypothesis =>
    have effect := call_effect fresh called
    obtain ⟨middle, foundMiddle, first⟩ := effect.precedes wellFormed fits found
    obtain ⟨last, foundLast, second⟩ :=
      inductionHypothesis (effect.wellFormed wellFormed) (effect.fits fits) foundMiddle
    exact ⟨last, foundLast, first.trans second⟩

/-- Nothing ends a job whose status is terminal. -/
theorem countP_ends_of_isTerminal (history : History s past s') (wellFormed : s.WellFormed)
    (fits : s.Fits) {id : String} {job : Job} (found : s.get? id = some job) (terminal : job.status.isTerminal = true) :
    past.countP (Exchange.ends id) = 0 := by
  induction history with
  | nil => rfl
  | @cons s next _ c answer later fresh called _ inductionHypothesis =>
    have effect := call_effect fresh called
    obtain ⟨after, foundAfter, precedes⟩ := effect.precedes wellFormed fits found
    rw [precedes.final terminal] at foundAfter
    have quiet : ¬ Exchange.ends id ⟨c, answer⟩ = true := by
      intro ends
      obtain ⟨⟨old, foundOld, unfinished⟩, -⟩ := effect.turns ends
      have equal : job = old := Option.some.inj (found.symm.trans foundOld)
      rw [equal, unfinished] at terminal
      cases terminal
    rw [List.countP_cons_of_neg quiet]
    exact inductionHypothesis (effect.wellFormed wellFormed) (effect.fits fits) foundAfter

/-- A job ends once at most. -/
theorem countP_ends_le (history : History s past s') (wellFormed : s.WellFormed) (fits : s.Fits)
    (id : String) : past.countP (Exchange.ends id) ≤ 1 := by
  induction history with
  | nil => exact Nat.zero_le 1
  | @cons s next _ c answer later fresh called rest inductionHypothesis =>
    have effect := call_effect fresh called
    have wellFormedNext := effect.wellFormed wellFormed
    have fitsNext : next.Fits := effect.fits fits
    by_cases ends : Exchange.ends id ⟨c, answer⟩ = true
    · -- The job is at its end now, so nothing that follows ends it.
      obtain ⟨-, job, found, terminal⟩ := effect.turns ends
      have quiet := countP_ends_of_isTerminal rest wellFormedNext fitsNext found terminal
      rw [List.countP_cons_of_pos ends]
      omega
    · rw [List.countP_cons_of_neg ends]
      exact inductionHypothesis wellFormedNext fitsNext

end History

/-- What is true of every store that calls lead to, and of every call that may come next: the
    fields of each record fit its status; a record only moves on, and at a terminal status it
    stays as it is; a job ends at most once; a call that is refused changes nothing; and one
    that is accepted changes nothing but the record that it names, which keeps its title. -/
theorem history_records {past : List Exchange} (reached : History empty past s) :
    (∀ job ∈ s.jobs,
      (job.status = .pending → job.progress = 0) ∧
      (job.status = .processing → 10 ≤ job.progress ∧ job.progress ≤ 99) ∧
      (job.progress = 100 ↔ job.status = .completed) ∧
      (job.output.isSome ↔ job.status = .completed) ∧
      (job.error.isSome ↔ job.status = .failed) ∧
      (job.status = .cancelled → Text.allBlank job.message = false)) ∧
    (∀ id, past.countP (Exchange.ends id) ≤ 1) ∧
    (∀ later s', History s later s' → ∀ id job, s.get? id = some job →
      ∃ job', s'.get? id = some job' ∧ job.progress ≤ job'.progress ∧
        (job.status.isTerminal = true → job' = job)) ∧
    (∀ c answer s', c.IsFresh s → s.call c = (answer, s') →
      (∀ e, answer = .error e → s' = s) ∧
      (∀ job, answer = .ok job →
        (∀ id, id ≠ c.id → s'.get? id = s.get? id) ∧ s'.get? c.id = some job ∧
        s.Originates s' job c)) := by
  have wellFormed := reached.wellFormed .empty
  have fits : s.Fits := reached.fits fits_empty
  refine ⟨?_, reached.countP_ends_le .empty fits_empty, ?_, ?_⟩
  · intro job mem
    obtain ⟨id, found⟩ := mem_jobs.mp mem
    have fitting := fits found
    exact ⟨fitting.pending, fitting.processing, fitting.full, fitting.output, fitting.error,
      fitting.cancelled⟩
  · intro later s' continued id job found
    obtain ⟨job', found', precedes⟩ := continued.precedes wellFormed fits found
    exact ⟨job', found', precedes.progress, precedes.final⟩
  · intro c answer s' fresh called
    have effect := call_effect fresh called
    constructor
    · rintro e rfl
      cases effect with
      | refused => rfl
    · rintro job rfl
      exact ⟨fun id other => effect.others other, effect.named, effect.originates wellFormed⟩

/-- A job reports more progress than there is and is cancelled without a reason; then it is
    too late to complete it. -/
theorem history_records_cancelled :
    ∃ past s, History empty past s ∧ past.map Exchange.call = [.create "a" "A" ⟨"8:00"⟩,
        .update "a" .start ⟨"8:01"⟩, .update "a" (.progress 255 "") ⟨"8:02"⟩,
        .update "a" (.cancel " ") ⟨"8:03"⟩, .update "a" (.complete "a.mp4") ⟨"8:04"⟩] ∧
      past.countP (Exchange.ends "a") ≤ 1 ∧
      s.jobs = [⟨"a", "A", .cancelled, 99, "Cancelled", ⟨"8:00"⟩, ⟨"8:03"⟩, none, none⟩] ∧
      ∀ job ∈ s.jobs, job.status = .cancelled → Text.allBlank job.message = false := by
  have reached : History empty _ _ :=
    .cons (c := .create "a" "A" ⟨"8:00"⟩) List.not_mem_nil rfl <|
    .cons (c := .update "a" .start ⟨"8:01"⟩) trivial rfl <|
    .cons (c := .update "a" (.progress 255 "") ⟨"8:02"⟩) trivial rfl <|
    .cons (c := .update "a" (.cancel " ") ⟨"8:03"⟩) trivial rfl <|
    .cons (c := .update "a" (.complete "a.mp4") ⟨"8:04"⟩) trivial rfl <| .nil _
  obtain ⟨fits, once, -⟩ := history_records reached
  refine ⟨_, _, reached, rfl, once "a", by decide +kernel, ?_⟩
  intro job mem
  exact (fits job mem).2.2.2.2.2

end JobStore

end Compositor
