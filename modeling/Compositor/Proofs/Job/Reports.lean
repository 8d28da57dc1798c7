import Compositor.Proofs.Job.Ending

/-! # What the observer is told

Whoever changes a job tells the observer about it, as an errand after the change.  Others may act
in between: a cancellation may be told before a change that the worker made earlier.  But nothing
is lost and nothing is told twice, and cancellations apart the observer learns of the changes of
a job in their order, since nobody but the job's worker makes them.  `Service.Tells` relates what
was told, the errands that are left and the records that the store has made.
-/

namespace Compositor

/-! ## Records and errands -/

/-- What the observer is told by an errand. -/
def Errand.told? : Errand → Option Job
  | tell job => some job
  | count _ => none

/-- What a party has yet to tell. -/
def Party.untold (p : Party) : List Job := p.errands.filterMap Errand.told?

/-- The transition that a worker asks for in a phase. -/
def Phase.asks? : Phase → Option Transition
  | start => some .start
  | staged _ => some (.progress 30 "Assets staged")
  | prepared order => some (.progress 50 ("Rendering with " ++ order.backend.name))
  | rendered _ => some (.progress 90 "Render finished")
  | leave (.failed message) => some (.fail message)
  | complete output => some (.complete output)
  | _ => none

/-- A record of this job. -/
def Job.isOf (id : String) (job : Job) : Bool := job.id == id

/-- A record of this job that its worker or its caller has made: no cancellation. -/
def Job.isOwn (id : String) (job : Job) : Bool := job.isOf id && job.status != .cancelled

namespace Service

variable {ω : Type} (crew : Crew ω)

/-- What all parties have yet to tell. -/
def untold (s : Service ω) : List Job := s.parties.flatMap Party.untold

/-- The record that a call has made, if it was not refused. -/
def made {ε : Type} : Except ε Job → List Job
  | .ok job => [job]
  | .error _ => []

/-- What a worker's step does to the store, and the record that it makes, if it makes one. -/
def ask (s : Service ω) (w : Worker) : List Job × Service ω :=
  match w.phase.asks? with
  | some t => (made (s.change w.id t).1, (s.change w.id t).2)
  | none => ([], s)

/-- The record that a step makes in the store, if it makes one. -/
def records (s : Service ω) : ServiceStep → List Job
  | .submit id scene => made (s.accept id scene).1
  | .cancel id reason => made (s.revoke id reason).1
  | .go i =>
    match s.parties[i]? with
    | some ⟨[], some w⟩ => (s.ask w).1
    | _ => []
  | .turn _ => []

/-- The records that are made in the store in a run. -/
def history (s : Service ω) : List ServiceStep → List Job
  | [] => []
  | step :: steps =>
    match s.step? crew step with
    | some next => s.records step ++ next.history steps
    | none => []

variable {crew} {s s' : Service ω} {w : Worker} {errands : List Errand} {phase : Phase} {id : String}
  {past : List Job}

theorem told_errandsOf (job : Job) : (errandsOf job).filterMap Errand.told? = [job] := by
  rw [errandsOf]
  split <;> rfl

theorem told_flatMap_errandsOf (records : List Job) :
    (records.flatMap errandsOf).filterMap Errand.told? = records := by
  induction records with
  | nil => rfl
  | cons job records inductionHypothesis =>
    rw [List.flatMap_cons, List.filterMap_append, told_errandsOf, inductionHypothesis]
    rfl

theorem change_records {t : Transition} {result : Except JobError Job}
    (changed : s.change id t = (result, s')) :
    (∃ job, result = .ok job ∧ job.status = t.target ∧ s.store.Changed id job s'.store) ∨
    ∃ e, result = .error e ∧ s'.store = s.store := by
  cases found : s.store.get? id with
  | none =>
    rw [change, JobStore.update_of_absent found] at changed
    cases changed
    exact .inr ⟨_, rfl, rfl⟩
  | some job =>
    rcases change_cases found t with ⟨job', store, taken, made, kept⟩ | ⟨-, refused⟩
    · cases made.symm.trans changed
      have status : job'.status = t.target := by
        obtain ⟨-, rfl⟩ := Job.apply_eq_ok.mp taken
        rfl
      exact .inl ⟨job', rfl, status, kept⟩
    · cases refused.symm.trans changed
      exact .inr ⟨_, rfl, rfl⟩

theorem report_records {t : Transition} {next : Phase}
    (reported : s.report id t next = (errands, phase, s')) :
    errands = (made (s.change id t).1).flatMap errandsOf ∧ s' = (s.change id t).2 := by
  rw [report] at reported
  split at reported
  · rename_i job after changed
    cases reported
    rw [changed]
    exact ⟨(List.flatMap_singleton ..).symm, rfl⟩
  · rename_i e after changed
    cases reported
    rw [changed]
    exact ⟨rfl, rfl⟩

/-- The errands of a worker's step are those of the record that it makes, or it has made none and
    counts a run of the engine. -/
theorem work?_errands (worked : s.work? crew w = some (errands, phase, s')) :
    (errands = (s.ask w).1.flatMap errandsOf ∨
      (s.ask w).1 = [] ∧ ∃ backend ok, errands = [.count (.engineRun backend ok)]) ∧
      ∃ world, s' = { (s.ask w).2 with world := world } := by
  obtain ⟨id, scene, current⟩ := w
  have asks : ∀ {t next}, s.report id t next = (errands, phase, s') →
      (errands = (made (s.change id t).1).flatMap errandsOf ∨
        made (s.change id t).1 = [] ∧ ∃ backend ok, errands = [.count (.engineRun backend ok)]) ∧
        ∃ world, s' = { (s.change id t).2 with world := world } := by
    intro t next reported
    obtain ⟨errands, rfl⟩ := report_records reported
    exact ⟨.inl errands, _, rfl⟩
  cases current with
  | start => exact asks (Option.some.inj worked)
  | staged scene => exact asks (Option.some.inj worked)
  | prepared order => exact asks (Option.some.inj worked)
  | rendered order => exact asks (Option.some.inj worked)
  | stage | negotiate scene program | prepare program profile =>
    simp only [work?] at worked
    split at worked <;> (cases worked; exact ⟨.inl rfl, _, rfl⟩)
  | compile | launch =>
    cases worked
    exact ⟨.inl rfl, _, rfl⟩
  | render order =>
    simp only [work?] at worked
    split at worked
    · cases worked
    · split at worked
      · cases worked
        exact ⟨.inr ⟨rfl, _, _, rfl⟩, _, rfl⟩
      · cases worked
        exact ⟨.inr ⟨rfl, _, _, rfl⟩, _, rfl⟩
      · cases worked
        exact ⟨.inl rfl, _, rfl⟩
  | leave outcome =>
    cases outcome with
    | finished output | overtaken =>
      cases worked
      exact ⟨.inl rfl, _, rfl⟩
    | failed message =>
      simp only [work?] at worked
      simp only [ask, Phase.asks?]
      split at worked
      · rename_i job after changed
        cases worked
        rw [changed]
        exact ⟨.inl (List.flatMap_singleton ..).symm, _, rfl⟩
      · rename_i e after changed
        cases worked
        rw [changed]
        exact ⟨.inl rfl, _, rfl⟩
  | cleanUp outcome =>
    simp only [work?] at worked
    cases worked
    split <;> exact ⟨.inl rfl, _, rfl⟩
  | complete output =>
    simp only [work?] at worked
    simp only [ask, Phase.asks?]
    split at worked
    · rename_i job after changed
      cases worked
      rw [changed]
      exact ⟨.inl (List.flatMap_singleton ..).symm, _, rfl⟩
    · rename_i e after changed
      cases worked
      rw [changed]
      exact ⟨.inl rfl, _, rfl⟩
  | ended outcome => cases worked

/-- A worker has the record that it makes among its errands. -/
theorem work?_ask (worked : s.work? crew w = some (errands, phase, s')) :
    errands.filterMap Errand.told? = (s.ask w).1 ∧
      ∃ world, s' = { (s.ask w).2 with world := world } := by
  obtain ⟨rfl | ⟨asked, backend, ok, rfl⟩, rest⟩ := work?_errands worked
  · exact ⟨told_flatMap_errandsOf _, rest⟩
  · exact ⟨asked.symm, rest⟩

/-- A worker makes one record of its job or none, and it does not cancel the job. -/
theorem ask_cases (s : Service ω) (w : Worker) :
    (∃ job store, s.ask w = ([job], { s with store := store }) ∧ job.status ≠ .cancelled ∧
      s.store.Changed w.id job store) ∨ s.ask w = ([], s) := by
  cases asked : w.phase.asks? with
  | none =>
    right
    simp only [ask, asked]
  | some t =>
    have other : t.target ≠ .cancelled := by
      obtain ⟨id, scene, current⟩ := w
      cases current with
      | leave outcome => cases outcome <;> cases asked; exact JobStatus.noConfusion
      | start | staged | prepared | rendered | complete => cases asked; exact JobStatus.noConfusion
      | _ => cases asked
    cases changed : s.change w.id t with
    | mk result after =>
      obtain ⟨store, rfl⟩ := change_rest changed
      rcases change_records changed with ⟨job, rfl, status, kept⟩ | ⟨e, rfl, same⟩
      · left
        refine ⟨job, store, ?_, status ▸ other, kept⟩
        simp only [ask, asked, changed]
        rfl
      · right
        simp only [ask, asked, changed]
        cases same
        rfl

/-! ## Told and left to tell -/

/-- What was told, what is left to tell, and the records that the store has made. -/
structure Tells (s : Service ω) (past : List Job) : Prop where
  all : (s.reports ++ s.untold).Perm past
  ordered : ∀ id, (s.reports ++ s.untold).filter (Job.isOwn id) = past.filter (Job.isOwn id)
  latest : ∀ id, (past.filter (Job.isOf id)).getLast? = s.store.get? id
  first : ∀ id job, (past.filter (Job.isOf id)).head? = some job → job.status = .pending
  own : ∀ {i : Nat} {p : Party} {job : Job}, s.parties[i]? = some p → job ∈ p.untold →
    job.status ≠ .cancelled → p.worker.map Worker.id = some job.id

theorem exists_split {β : Type} {l : List β} {i : Nat} {x : β} (place : l[i]? = some x) :
    ∃ before after, l = before ++ x :: after ∧ before.length = i ∧
      ∀ y, l.set i y = before ++ y :: after := by
  obtain ⟨bound, here⟩ := List.getElem?_eq_some_iff.mp place
  refine ⟨l.take i, l.drop (i + 1), ?_, List.length_take_of_le (Nat.le_of_lt bound), ?_⟩
  · rw [← here, List.getElem_cons_drop, List.take_append_drop]
  · intro y
    exact List.set_eq_take_append_cons_drop .. |>.trans (if_pos bound)

namespace Tells

variable {holds : Phase → Job → List JobEvent → Prop} {events : String → List JobEvent}

theorem latest_append {store store' : JobStore} {job : Job}
    (latest : ∀ id, (past.filter (Job.isOf id)).getLast? = store.get? id)
    (found : store'.get? job.id = some job)
    (others : ∀ other, other ≠ job.id → store'.get? other = store.get? other) (id : String) :
    ((past ++ [job]).filter (Job.isOf id)).getLast? = store'.get? id := by
  rw [List.filter_append]
  by_cases same : job.id = id
  · subst same
    have here : job.isOf job.id = true := beq_self_eq_true _
    rw [List.filter_cons_of_pos here, List.filter_nil, List.getLast?_append, found]
    rfl
  · have apart : ¬ job.isOf id = true := by
      rwa [Job.isOf, beq_iff_eq]
    rw [List.filter_cons_of_neg apart, List.filter_nil, List.append_nil, latest,
      others id (Ne.symm same)]

theorem first_append (tells : s.Tells past) {job : Job}
    (fresh : s.store.get? job.id = none → job.status = .pending) (id : String) (record : Job)
    (head : ((past ++ [job]).filter (Job.isOf id)).head? = some record) :
    record.status = .pending := by
  rw [List.filter_append, List.head?_append] at head
  cases earlier : (past.filter (Job.isOf id)).head? with
  | some old =>
    rw [earlier] at head
    cases head
    exact tells.first id _ earlier
  | none =>
    -- It is the job's first record, so the store did not know the job.
    rw [earlier, Option.none_or, List.head?_filter] at head
    have here := List.find?_some head
    have only : record = job := by simpa using List.mem_of_find?_eq_some head
    subst only
    rw [Job.isOf, beq_iff_eq] at here
    subst here
    apply fresh
    rw [← tells.latest, List.head?_eq_none_iff.mp earlier]
    rfl

/-- A record that replaces another bears the identifier that it is kept under. -/
theorem id_eq (tells : s.Tells past) {job : Job} {store : JobStore}
    (changed : s.store.Changed id job store) : job.id = id := by
  obtain ⟨old, found, same⟩ := changed.before
  have mem := List.mem_of_getLast? ((tells.latest id).trans found)
  rw [same]
  exact beq_iff_eq.mp (List.mem_filter.mp mem).2

/-- Nobody but its worker tells of a job, its cancellation apart. -/
theorem alone (tells : s.Tells past) (coherent : s.Coherent holds events) {p : Party}
    {before after : List Party} (parties : s.parties = before ++ p :: after)
    (worker : p.worker = some w) :
    (before.flatMap Party.untold).filter (Job.isOwn w.id) = [] ∧
      (after.flatMap Party.untold).filter (Job.isOwn w.id) = [] := by
  have acting : s.workerAt? before.length = some w := by
    rw [workerAt?, parties, List.getElem?_append_right (Nat.le_refl _), Nat.sub_self]
    exact worker
  have elsewhere : ∀ {j q job}, s.parties[j]? = some q → j ≠ before.length → job ∈ q.untold →
      job.isOwn w.id ≠ true := by
    intro j q job place different mem own
    rw [Job.isOwn, Job.isOf, Bool.and_eq_true, beq_iff_eq, bne_iff_ne] at own
    obtain ⟨v, other, same⟩ := Option.map_eq_some_iff.mp (tells.own place mem own.2)
    have there : s.workerAt? j = some v := by
      rw [workerAt?, place]
      exact other
    exact different (coherent.apart there acting (same.trans own.1))
  constructor
  · rw [List.filter_eq_nil_iff]
    intro job mem
    obtain ⟨q, mem, told⟩ := List.mem_flatMap.mp mem
    obtain ⟨j, place⟩ := List.mem_iff_getElem?.mp mem
    have bound := (List.getElem?_eq_some_iff.mp place).1
    refine elsewhere ?_ (Nat.ne_of_lt bound) told
    rw [parties, List.getElem?_append_left bound, place]
  · rw [List.filter_eq_nil_iff]
    intro job mem
    obtain ⟨q, mem, told⟩ := List.mem_flatMap.mp mem
    obtain ⟨j, place⟩ := List.mem_iff_getElem?.mp mem
    refine elsewhere (j := before.length + (j + 1)) ?_ (by omega) told
    rw [parties, List.getElem?_append_right (Nat.le_add_right ..), Nat.add_sub_cancel_left]
    exact place

/-- A caller changes a job, and has the record among its errands. -/
theorem call (tells : s.Tells past) {party : Party} {job : Job}
    (parties : s'.parties = s.parties ++ [party]) (untold : party.untold = [job])
    (reports : s'.reports = s.reports)
    (own : job.status ≠ .cancelled → party.worker.map Worker.id = some job.id)
    (fresh : s.store.get? job.id = none → job.status = .pending)
    (found : s'.store.get? job.id = some job)
    (others : ∀ other, other ≠ job.id → s'.store.get? other = s.store.get? other) :
    s'.Tells (past ++ [job]) := by
  have left : s'.untold = s.untold ++ [job] := by
    rw [Service.untold, parties, List.flatMap_append, List.flatMap_singleton, untold, Service.untold]
  constructor
  · rw [reports, left, ← List.append_assoc]
    exact tells.all.append_right [job]
  · intro id
    rw [reports, left, ← List.append_assoc, List.filter_append, tells.ordered, List.filter_append]
  · exact latest_append tells.latest found others
  · exact tells.first_append fresh
  · intro i p job' place mem status
    rw [parties, List.getElem?_append] at place
    split at place
    · exact tells.own place mem status
    · rw [List.getElem?_singleton] at place
      split at place
      · cases place
        rw [untold, List.mem_singleton] at mem
        subst mem
        exact own status
      · cases place

theorem own_set (tells : s.Tells past) {i : Nat} {q : Party}
    (own : ∀ job ∈ q.untold, job.status ≠ .cancelled → q.worker.map Worker.id = some job.id)
    {j : Nat} {p : Party} {job : Job} (place : (s.parties.set i q)[j]? = some p)
    (mem : job ∈ p.untold) (status : job.status ≠ .cancelled) :
    p.worker.map Worker.id = some job.id := by
  rw [List.getElem?_set] at place
  split at place
  · split at place
    · cases place
      exact own job mem status
    · cases place
  · exact tells.own place mem status

/-- A party runs an errand. -/
theorem errand (tells : s.Tells past) (coherent : s.Coherent holds events) {i : Nat} {e : Errand}
    {errands : List Errand} {worker : Option Worker}
    (party : s.parties[i]? = some ⟨e :: errands, worker⟩) :
    Tells { s.run e with parties := (s.run e).parties.set i ⟨errands, worker⟩ } past := by
  obtain ⟨before, after, parties, -, set⟩ := exists_split party
  have same := (s.run_rest e).2.1
  have old : s.untold = before.flatMap Party.untold ++
      ((Party.mk (e :: errands) worker).untold ++ after.flatMap Party.untold) := by
    rw [untold, parties, List.flatMap_append, List.flatMap_cons]
  have new : ((s.run e).parties.set i ⟨errands, worker⟩).flatMap Party.untold =
      before.flatMap Party.untold ++
        ((Party.mk errands worker).untold ++ after.flatMap Party.untold) := by
    rw [same, set, List.flatMap_append, List.flatMap_cons]
  have own : ∀ {j : Nat} {p : Party} {job : Job},
      ((s.run e).parties.set i ⟨errands, worker⟩)[j]? = some p → job ∈ p.untold →
      job.status ≠ .cancelled → p.worker.map Worker.id = some job.id := by
    rw [same]
    apply tells.own_set
    intro job mem
    have among : job ∈ (Party.mk (e :: errands) worker).untold := by
      cases e with
      | count m => exact mem
      | tell told => exact List.mem_cons_of_mem _ mem
    have mine := tells.own party among
    exact mine
  cases e with
  | count m =>
    have left : ((s.run (.count m)).parties.set i ⟨errands, worker⟩).flatMap Party.untold =
        s.untold := new.trans old.symm
    refine ⟨?_, ?_, tells.latest, tells.first, own⟩
    · rw [untold, left]
      exact tells.all
    · intro id
      rw [untold, left]
      exact tells.ordered id
  | tell job =>
    -- What was the first to tell is now the last that was told.
    have left : s.untold = before.flatMap Party.untold ++
        job :: ((Party.mk errands worker).untold ++ after.flatMap Party.untold) := old
    have reports : (s.run (.tell job)).reports = s.reports ++ [job] := rfl
    refine ⟨?_, ?_, tells.latest, tells.first, own⟩
    · rw [untold, new, reports, List.append_assoc]
      refine List.Perm.trans ?_ tells.all
      rw [left, List.singleton_append]
      exact List.perm_middle.symm.append_left s.reports
    · intro id
      rw [← tells.ordered, untold, new, reports, left]
      simp only [List.filter_append]
      by_cases here : job.isOwn id = true
      · have status : job.status ≠ .cancelled := by
          rw [Job.isOwn, Bool.and_eq_true, bne_iff_ne] at here
          exact here.2
        have same : job.id = id := by
          rw [Job.isOwn, Bool.and_eq_true, Job.isOf, beq_iff_eq] at here
          exact here.1
        obtain ⟨w, worker, mine⟩ :=
          Option.map_eq_some_iff.mp (tells.own party List.mem_cons_self status)
        have none := (tells.alone coherent parties worker).1
        rw [mine, same] at none
        rw [none, List.filter_cons_of_pos here, List.filter_cons_of_pos here, List.filter_append]
        simp
      · rw [List.filter_cons_of_neg here, List.filter_cons_of_neg here, List.filter_append]
        simp

/-- A worker takes a step, and has the record that it makes among its errands. -/
theorem work (tells : s.Tells past) (coherent : s.Coherent holds events) {i : Nat}
    (party : s.parties[i]? = some ⟨[], some w⟩)
    (worked : s.work? crew w = some (errands, phase, s')) :
    Tells { s' with parties := s'.parties.set i ⟨errands, some { w with phase := phase }⟩ }
      (past ++ (s.ask w).1) := by
  obtain ⟨told, world, rfl⟩ := work?_ask worked
  obtain ⟨before, after, parties, -, set⟩ := exists_split party
  have old : s.untold = before.flatMap Party.untold ++ after.flatMap Party.untold := by
    rw [untold, parties, List.flatMap_append, List.flatMap_cons]
    rfl
  have new : (s.parties.set i ⟨errands, some { w with phase := phase }⟩).flatMap Party.untold =
      before.flatMap Party.untold ++ ((s.ask w).1 ++ after.flatMap Party.untold) := by
    rw [set, List.flatMap_append, List.flatMap_cons, ← told]
    rfl
  have own : ∀ {j : Nat} {p : Party} {job : Job},
      (s.parties.set i ⟨errands, some { w with phase := phase }⟩)[j]? = some p → job ∈ p.untold →
      job.status ≠ .cancelled → p.worker.map Worker.id = some job.id := by
    apply tells.own_set
    intro job mem _
    have made : job ∈ (s.ask w).1 := told ▸ mem
    rcases s.ask_cases w with ⟨record, store, asked, -, kept⟩ | asked
    · rw [asked, List.mem_singleton] at made
      rw [made, tells.id_eq kept]
      rfl
    · rw [asked] at made
      cases made
  rcases s.ask_cases w with ⟨job, store, asked, -, kept⟩ | asked
  · have mine := tells.id_eq kept
    have known : s.store.get? w.id ≠ none := by
      obtain ⟨old, found, -⟩ := kept.before
      rw [found]
      exact Option.some_ne_none old
    simp only [asked] at new ⊢
    refine ⟨?_, ?_, ?_, ?_, own⟩
    · rw [untold, new]
      have all := tells.all.append_right [job]
      rw [old] at all
      refine List.Perm.trans ?_ all
      rw [List.append_assoc, List.append_assoc]
      exact (List.perm_append_comm.append_left _).append_left s.reports
    · intro id
      have ordered := tells.ordered id
      rw [old, List.filter_append, List.filter_append] at ordered
      rw [untold, new]
      simp only [List.filter_append, ← ordered]
      by_cases here : job.isOwn id = true
      · -- Nobody else has anything to tell of the worker's job.
        have same : w.id = id := by
          rw [Job.isOwn, Bool.and_eq_true, Job.isOf, beq_iff_eq] at here
          exact mine.symm.trans here.1
        have none := tells.alone coherent parties rfl
        rw [same] at none
        rw [none.1, none.2]
        simp
      · rw [List.filter_cons_of_neg here]
        simp
    · apply latest_append tells.latest
      · exact mine ▸ kept.found
      · exact mine ▸ kept.others
    · exact tells.first_append fun absent => absurd (mine ▸ absent) known
  · simp only [asked, List.append_nil, List.nil_append] at new ⊢
    refine ⟨?_, ?_, tells.latest, tells.first, own⟩
    · rw [untold, new, ← old]
      exact tells.all
    · intro id
      rw [untold, new, ← old]
      exact tells.ordered id

/-- Every step keeps told and made records together. -/
theorem step (tells : s.Tells past) (coherent : s.Coherent holds events) {step : ServiceStep}
    (taken : s.step? crew step = some s') : s'.Tells (past ++ s.records step) := by
  cases step with
  | submit id scene =>
    simp only [step?] at taken
    split at taken
    · cases taken
    · rename_i new
      cases taken
      simp only [records, accept]
      cases scene.fault? with
      | some e =>
        rw [made, List.append_nil]
        exact tells
      | none =>
        refine tells.call rfl rfl rfl (fun _ => rfl) (fun _ => rfl) ?_ ?_
        · exact JobStore.get?_create_self
        · exact fun _ => JobStore.get?_create_of_ne
  | cancel id reason =>
    cases taken
    simp only [records, revoke]
    cases changed : s.change id (.cancel (reasonOf reason)) with
    | mk result after =>
      obtain ⟨store, rfl⟩ := change_rest changed
      rcases change_records changed with ⟨job, rfl, status, kept⟩ | ⟨e, rfl, unchanged⟩
      · have same := tells.id_eq kept
        refine tells.call rfl (told_errandsOf job) rfl (fun other => absurd status other) ?_ ?_ ?_
        · obtain ⟨old, there, -⟩ := kept.before
          rw [same, there]
          exact fun absent => absurd absent (Option.some_ne_none old)
        · exact same ▸ kept.found
        · exact same ▸ kept.others
      · cases unchanged
        rw [made, List.append_nil]
        exact tells
  | go i =>
    rcases go?_cases taken with ⟨e, errands, worker, party, rfl⟩ |
        ⟨w, errands, phase, after, party, worked, rfl⟩
    · simp only [records, party, List.append_nil]
      exact tells.errand coherent party
    · simp only [records, party]
      exact tells.work coherent party worked
  | turn around =>
    cases taken
    simp only [records, List.append_nil]
    exact ⟨tells.all, tells.ordered, tells.latest, tells.first, tells.own⟩

theorem follow (tells : s.Tells past) (coherent : s.Coherent holds events)
    (invariant : JobInvariant holds) {steps : List ServiceStep}
    (run : s.follow? crew steps = some s') : s'.Tells (past ++ s.history crew steps) := by
  induction steps generalizing s past events with
  | nil =>
    cases run
    simp only [history, List.append_nil]
    exact tells
  | cons step steps inductionHypothesis =>
    obtain ⟨next, taken, run⟩ := follow?_cons.mp run
    have later :=
      inductionHypothesis (tells.step coherent taken) (coherent.step invariant taken) run
    simp only [history, taken, ← List.append_assoc]
    exact later

end Tells

/-! ## Reports of a run -/

/-- What the observer was told in a run and what is left to tell are the records that the store
    has made, each once.  Cancellations apart, the records of a job come in their order. -/
theorem follow?_tells {settings : ServiceSettings} {around : Surroundings} {world : ω}
    {steps : List ServiceStep}
    (run : (ofSettings settings around world).follow? crew steps = some s) :
    s.Tells ((ofSettings settings around world).history crew steps) := by
  have start : (ofSettings settings around world).Tells [] := by
    refine ⟨List.Perm.nil, fun _ => rfl, fun _ => rfl, ?_, ?_⟩
    · intro id job first
      cases first
    · intro i p job place
      cases place
  have always : JobInvariant fun _ _ _ => True := 
    ⟨fun _ _ _ => trivial, fun _ _ => trivial, fun _ _ => trivial⟩
  exact start.follow (.ofSettings settings around world) always run

/-- When nothing is left to tell, the observer knows all records; of a job that was not cancelled
    it knows them in their order, from the pending record to the one that the store has. -/
theorem follow?_reports_inOrder {settings : ServiceSettings} {around : Surroundings} {world : ω}
    {steps : List ServiceStep}
    (run : (ofSettings settings around world).follow? crew steps = some s) (told : s.untold = []) :
    s.reports.Perm ((ofSettings settings around world).history crew steps) ∧
    ∀ id, (∀ job ∈ s.reports, job.id = id → job.status ≠ .cancelled) →
      s.reports.filter (Job.isOf id) =
        ((ofSettings settings around world).history crew steps).filter (Job.isOf id) ∧
      (∀ job, (s.reports.filter (Job.isOf id)).head? = some job → job.status = .pending) ∧
      (s.reports.filter (Job.isOf id)).getLast? = s.store.get? id := by
  have tells := follow?_tells run
  have all := tells.all
  rw [told, List.append_nil] at all
  refine ⟨all, ?_⟩
  intro id uncancelled
  have own : ∀ {records : List Job}, (∀ job ∈ records, job ∈ s.reports) →
      records.filter (Job.isOf id) = records.filter (Job.isOwn id) := by
    intro records among
    apply List.filter_congr
    intro job mem
    by_cases here : job.isOf id = true
    · have status := uncancelled job (among job mem) (beq_iff_eq.mp here)
      rw [Job.isOwn, here, Bool.true_and]
      exact (bne_iff_ne.mpr status).symm
    · rw [Job.isOwn, Bool.eq_false_iff.mpr here, Bool.false_and]
  have equal : s.reports.filter (Job.isOf id) =
      ((ofSettings settings around world).history crew steps).filter (Job.isOf id) := by
    have ordered := tells.ordered id
    rw [told, List.append_nil] at ordered
    rw [own fun _ mem => mem, own fun _ mem => all.mem_iff.mpr mem, ordered]
  refine ⟨equal, ?_, ?_⟩
  · rw [equal]
    exact tells.first id
  · rw [equal]
    exact tells.latest id

/-- A job is cancelled between the start of its worker and the report of that.  The observer is
    told of the cancellation first, and at last of a job that is under way. -/
theorem follow?_tells_late :
    let steps := [.submit "a" Sample.scene] ++ List.replicate 3 (.go 0)
      ++ [.cancel "a" none, .go 1, .go 1] ++ List.replicate 4 (.go 0)
    ∃ s, (ofSettings ⟨.standard, .standard, none⟩ noon ()).follow? obligingCrew steps = some s ∧
      s.untold = [] ∧ (s.workerAt? 0).map Worker.phase = some (.ended .overtaken) ∧
      s.reports.map Job.status = [.pending, .cancelled, .processing] ∧
      (s.store.get? "a").map Job.status = some .cancelled := by
  intro steps
  have ended : ((ofSettings ⟨.standard, .standard, none⟩ noon ()).follow? obligingCrew steps).map (fun s =>
      (s.untold, (s.workerAt? 0).map Worker.phase, s.reports.map Job.status,
        (s.store.get? "a").map Job.status)) =
      some ([], some (.ended .overtaken), [.pending, .cancelled, .processing], some .cancelled) := by
    decide +kernel
  obtain ⟨s, run, parts⟩ := Option.map_eq_some_iff.mp ended
  rw [Prod.mk.injEq, Prod.mk.injEq, Prod.mk.injEq] at parts
  exact ⟨s, run, parts⟩

end Service

end Compositor
