import Compositor.Job.Store
import Mathlib.Data.List.Nodup
import Mathlib.Data.List.Perm.Basic
import Std.Data.TreeMap.Lemmas

/-! # Changes of the job store

The store is changed by creating a job or by letting one take a transition.  Either
change concerns a single identifier; what is kept under all others stays as it is.

The identifiers are kept twice, in their order and with the records.  `JobStore.WellFormed`
says that the two agree, and every change keeps it so.
-/

namespace Compositor

/-! ## Transitions -/

namespace Job

variable {job job' : Job} {t : Transition} {now : Timestamp}

theorem apply_eq_ok : job.apply t now = .ok job' ↔
    job.status ∈ t.sources ∧ job' = { job.record t with status := t.target, updated := now } := by
  rw [apply]
  by_cases allowed : job.status ∈ t.sources
  · rw [if_pos allowed, Except.ok.injEq]
    exact ⟨fun equal => ⟨allowed, equal.symm⟩, fun equal => equal.2.symm⟩
  · rw [if_neg allowed]
    exact ⟨fun equal => (by cases equal), fun equal => absurd equal.1 allowed⟩

theorem apply_eq_error (refused : job.status ∉ t.sources) :
    job.apply t now = .error (.invalidTransition job.id job.status t.target) := by
  rw [apply, if_neg refused]

theorem apply_id (taken : job.apply t now = .ok job') : job'.id = job.id := by
  obtain ⟨-, rfl⟩ := apply_eq_ok.mp taken
  cases t <;> rfl

end Job

/-- No transition leads out of a terminal status. -/
theorem Transition.not_isTerminal_of_mem_sources {t : Transition} {status : JobStatus}
    (mem : status ∈ t.sources) : status.isTerminal = false := by
  cases t <;> cases status <;> first | rfl | simp [sources] at mem

namespace JobStore

variable {s s' : JobStore} {id other title : String} {job job' old : Job} {t : Transition}
  {now : Timestamp}

/-! ## Looking up -/

theorem get?_replace (s : JobStore) (id : String) (job : Job) (other : String) :
    (s.replace id job).get? other = if id = other then some job else s.get? other := by
  simp only [replace, get?, Std.TreeMap.getElem?_insert, Std.LawfulEqCmp.compare_eq_iff_eq]

theorem get?_replace_self : (s.replace id job).get? id = some job := by
  rw [get?_replace, if_pos rfl]

theorem get?_replace_of_ne (different : other ≠ id) :
    (s.replace id job).get? other = s.get? other := by
  rw [get?_replace, if_neg (Ne.symm different)]

/-- What is on record under an identifier when a job was created. -/
theorem get?_create (s : JobStore) (id title : String) (now : Timestamp) (other : String) :
    (s.create id title now).2.get? other =
      if id = other then some (.queued id title now) else s.get? other :=
  get?_replace s id _ other

theorem get?_create_self : (s.create id title now).2.get? id = some (.queued id title now) := by
  rw [get?_create, if_pos rfl]

theorem get?_create_of_ne (different : other ≠ id) :
    (s.create id title now).2.get? other = s.get? other := by
  rw [get?_create, if_neg (Ne.symm different)]

theorem get?_create_of_some (found : s.get? other = some job) (new : s.get? id = none) :
    (s.create id title now).2.get? other = some job := by
  rw [get?_create_of_ne, found]
  rintro rfl
  cases found.symm.trans new

/-! ## All records -/

theorem mem_jobs : job ∈ s.jobs ↔ ∃ id, s.get? id = some job := by
  simp only [jobs, List.mem_map, Prod.exists, exists_eq_right, get?,
    Std.TreeMap.mem_toList_iff_getElem?_eq_some]

/-- The records of the other identifiers. -/
def jobsBut (s : JobStore) (id : String) : List Job :=
  (s.records.toList.filter fun e => decide ¬ (id == e.1) = true).map Prod.snd

theorem jobs_replace (s : JobStore) (id : String) (job : Job) :
    (s.replace id job).jobs.Perm (job :: s.jobsBut id) :=
  Std.TreeMap.toList_insert_perm.map Prod.snd

theorem jobs_create (s : JobStore) (id title : String) (now : Timestamp) :
    (s.create id title now).2.jobs.Perm (.queued id title now :: s.jobsBut id) :=
  jobs_replace s id _

/-- A record that is put where it is already changes nothing. -/
theorem jobs_of_some (found : s.get? id = some job) : s.jobs.Perm (job :: s.jobsBut id) := by
  have same : ∀ k : String, (s.records.insert id job)[k]? = s.records[k]? := by
    intro k
    rw [Std.TreeMap.getElem?_insert]
    split
    · rename_i here
      rw [← Std.LawfulEqCmp.compare_eq_iff_eq.mp here]
      exact found.symm
    · rfl
  have equal := Std.TreeMap.equiv_iff_toList_eq.mp (.of_forall_constGet?_eq same)
  refine List.Perm.trans (.of_eq ?_) (s.jobs_replace id job)
  rw [jobs, jobs, replace, equal]

theorem jobs_of_none (new : s.get? id = none) : s.jobs = s.jobsBut id := by
  rw [jobs, jobsBut, List.filter_eq_self.mpr]
  rintro ⟨k, job⟩ mem
  have there := Std.TreeMap.mem_toList_iff_getElem?_eq_some.mp mem
  rw [decide_eq_true_iff, beq_iff_eq]
  rintro rfl
  cases there.symm.trans new

/-! ## Identifiers and records -/

/-- Each identifier stands once in the order, and those that stand there have a record, which
    bears the identifier. -/
structure WellFormed (s : JobStore) : Prop where
  nodup : s.ids.Nodup
  known : ∀ id, id ∈ s.ids ↔ (s.get? id).isSome = true
  named : ∀ {id job}, s.get? id = some job → job.id = id

namespace WellFormed

theorem empty : JobStore.empty.WellFormed where
  nodup := List.nodup_nil
  known _ := ⟨fun mem => absurd mem List.not_mem_nil, fun known => by cases known⟩
  named found := by cases found

theorem get?_eq_none (wellFormed : s.WellFormed) : s.get? id = none ↔ id ∉ s.ids := by
  rw [wellFormed.known, Option.not_isSome_iff_eq_none]

theorem create (wellFormed : s.WellFormed) (new : id ∉ s.ids) (title : String) (now : Timestamp) :
    (s.create id title now).2.WellFormed where
  nodup := by
    refine List.nodup_append.mpr ⟨wellFormed.nodup, List.nodup_singleton id, ?_⟩
    rintro a old b mem rfl
    exact new (List.mem_singleton.mp mem ▸ old)
  known other := by
    rw [get?_create]
    split
    · rename_i same
      exact iff_of_true (List.mem_append_right _ (List.mem_singleton.mpr same.symm)) rfl
    · rename_i different
      rw [← wellFormed.known]
      exact List.mem_append.trans
        (or_iff_left fun mem => different (List.mem_singleton.mp mem).symm)
  named {other job} found := by
    rw [get?_create] at found
    split at found
    · rename_i same
      cases found
      exact same
    · exact wellFormed.named found

theorem replace (wellFormed : s.WellFormed) (found : s.get? id = some old) (same : job.id = id) :
    (s.replace id job).WellFormed where
  nodup := wellFormed.nodup
  known other := by
    rw [get?_replace]
    split
    · rename_i here
      exact iff_of_true ((wellFormed.known other).mpr (here ▸ found ▸ rfl)) rfl
    · exact wellFormed.known other
  named {other job} there := by
    rw [get?_replace] at there
    split at there
    · rename_i here
      cases there
      exact same.trans here
    · exact wellFormed.named there

end WellFormed

/-! ## Updating -/

/-- The store with another record under an identifier. -/
structure Changed (s : JobStore) (id : String) (job : Job) (s' : JobStore) : Prop where
  before : ∃ old, s.get? id = some old ∧ job.id = old.id
  found : s'.get? id = some job
  others : ∀ other, other ≠ id → s'.get? other = s.get? other
  ids : s'.ids = s.ids

theorem Changed.refl (found : s.get? id = some job) : s.Changed id job s :=
  ⟨⟨job, found, rfl⟩, found, fun _ _ => rfl, rfl⟩

theorem replace_changed (found : s.get? id = some old) (same : job.id = old.id) :
    s.Changed id job (s.replace id job) where
  before := ⟨old, found, same⟩
  found := get?_replace_self
  others := fun _ => get?_replace_of_ne
  ids := rfl

/-- An update that is possible changes one record. -/
theorem update_of_ok (found : s.get? id = some job) (taken : job.apply t now = .ok job') :
    s.update id t now = (.ok job', s.replace id job') ∧ s.Changed id job' (s.replace id job') :=
  ⟨by simp only [update, found, taken], replace_changed found (Job.apply_id taken)⟩

theorem update_of_refused (found : s.get? id = some job) (refused : job.status ∉ t.sources) :
    s.update id t now = (.error (.invalidTransition job.id job.status t.target), s) := by
  simp only [update, found, Job.apply_eq_error refused]

theorem update_of_absent (absent : s.get? id = none) :
    s.update id t now = (.error (.notFound id), s) := by
  simp only [update, absent]

end JobStore

end Compositor
