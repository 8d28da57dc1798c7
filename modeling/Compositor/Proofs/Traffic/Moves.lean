import Compositor.Traffic.Pool

/-! # The moves of a pool

A step of a pool changes one batch, and with it the counters and the free places.
`Pool.Move` lists all that a step can do; `Pool.step?` makes such moves and no others.
A property of a pool and of the steps that led to it holds after every run if it holds of a
pool without batches and is kept by moves; this is `Pool.follow?_invariant`.
-/

namespace Compositor

theorem Batch.getElem?_of_isOver {α : Type} {b : Batch α} (closed : b.isOver = true) {i : Nat}
    {state : ItemState α} (item : b.items[i]? = some state) : ∃ e, state = .ended e := by
  have ended := List.all_eq_true.mp closed state (List.mem_of_getElem? item)
  cases state with
  | ended e => exact ⟨e, rfl⟩
  | waiting | running | leaving e entries => cases ended

namespace Pool

/-! ## Moves -/

variable {α : Type}

/-- All that a step can do to a pool. -/
inductive Move (p p' : Pool α) : PoolStep α → Prop where
  | submit (size : Nat) (status : p'.status = p.status) (free : p'.free = p.free)
      (batches : p'.batches = p.batches ++ [.ofSize size]) : Move p p' (.submit size)
  | start {k i : Nat} {b : Batch α} (batch : p.batches[k]? = some b)
      (item : b.items[i]? = some .waiting) (room : 0 < p.free)
      (status : p'.status = { p.status with active := p.status.active + 1 })
      (free : p'.free = p.free - 1) (batches : p'.batches = p.batches.set k (b.setItem i .running)) :
    Move p p' (.start k i)
  | finish {k i : Nat} {b : Batch α} {e : ItemEnd α} (batch : p.batches[k]? = some b)
      (item : b.items[i]? = some .running) (whole : e.isPanic = false)
      (status : p'.status = { p.status with active := p.status.active - 1 })
      (free : p'.free = p.free)
      (batches : p'.batches = p.batches.set k (b.setItem i (.leaving e e.entries))) :
    Move p p' (.finish k i e)
  | breakOff {k i : Nat} {b : Batch α} {e : ItemEnd α} (batch : p.batches[k]? = some b)
      (item : b.items[i]? = some .running) (broken : e.isPanic = true)
      (status : p'.status = p.status) (free : p'.free = p.free + 1)
      (batches : p'.batches = p.batches.set k (b.setItem i (.ended e))) :
    Move p p' (.finish k i e)
  | enter {k i : Nat} {b : Batch α} {e : ItemEnd α} {entry : PoolEntry} {entries : List PoolEntry}
      (batch : p.batches[k]? = some b) (item : b.items[i]? = some (.leaving e (entry :: entries)))
      (status : p'.status = p.status.enter entry) (free : p'.free = p.free)
      (batches : p'.batches = p.batches.set k ((b.setItem i (.leaving e entries)).enter i entry)) :
    Move p p' (.settle k i)
  | leave {k i : Nat} {b : Batch α} {e : ItemEnd α} (batch : p.batches[k]? = some b)
      (item : b.items[i]? = some (.leaving e [])) (status : p'.status = p.status)
      (free : p'.free = p.free + 1)
      (batches : p'.batches = p.batches.set k (b.setItem i (.ended e))) :
    Move p p' (.settle k i)
  | look {k : Nat} {b : Batch α} {e : ItemEnd α} (batch : p.batches[k]? = some b)
      (closed : b.isOver = true) (item : b.items[b.outputs.length]? = some (.ended e))
      (whole : e.isPanic = false) (status : p'.status = p.status) (free : p'.free = p.free)
      (batches : p'.batches = p.batches.set k (b.look e)) : Move p p' (.join k)
  | lookBroken {k : Nat} {b : Batch α} {message : String} (batch : p.batches[k]? = some b)
      (closed : b.isOver = true) (item : b.items[b.outputs.length]? = some (.ended (.panic message)))
      (status : p'.status = p.status.enter .failed) (free : p'.free = p.free)
      (batches : p'.batches = p.batches.set k
        ((b.enter b.outputs.length (.failure ("task panicked: " ++ message))).look
          (.panic message))) :
    Move p p' (.join k)
  | report {k : Nat} {b : Batch α} (batch : p.batches[k]? = some b) (closed : b.isOver = true)
      (all : b.items.length ≤ b.outputs.length) (unreported : b.result = none)
      (status : p'.status = p.status) (free : p'.free = p.free)
      (batches : p'.batches = p.batches.set k { b with result := some b.report }) :
    Move p p' (.join k)

/-! ## Steps are moves -/

variable {p p' : Pool α} {s : PoolStep α} {k i : Nat}

theorem item?_eq_some {state : ItemState α} :
    p.item? k i = some state ↔ ∃ b, p.batches[k]? = some b ∧ b.items[i]? = some state :=
  Option.bind_eq_some_iff

theorem modifyBatch_eq {b : Batch α} (batch : p.batches[k]? = some b) (f : Batch α → Batch α) :
    p.modifyBatch k f = { p with batches := p.batches.set k (f b) } := by
  have bound := (List.getElem?_eq_some_iff.mp batch).1
  rw [modifyBatch]
  congr 1
  apply List.ext_getElem?
  intro j
  rw [List.getElem?_modify, List.getElem?_set]
  by_cases same : k = j
  · subst same
    rw [batch]
    simp [bound]
  · simp [same]

theorem enter_eq {b : Batch α} (batch : p.batches[k]? = some b) (entry : PoolEntry) :
    p.enter k i entry =
      { p with status := p.status.enter entry, batches := p.batches.set k (b.enter i entry) } := by
  rw [enter, modifyBatch_eq batch]

theorem joinNext_move {b : Batch α} (batch : p.batches[k]? = some b) (closed : b.isOver = true)
    (unreported : b.result = none) : p.Move (p.joinNext k b) (.join k) := by
  have bound := (List.getElem?_eq_some_iff.mp batch).1
  have again : ∀ b', (p.batches.set k b')[k]? = some b' := fun b' => List.getElem?_set_self bound
  cases next : b.items[b.outputs.length]? with
  | none =>
    simp only [joinNext, next, modifyBatch_eq batch]
    exact .report batch closed (List.getElem?_eq_none_iff.mp next) unreported rfl rfl rfl
  | some state =>
    obtain ⟨e, rfl⟩ := Batch.getElem?_of_isOver closed next
    cases e with
    | value x =>
      simp only [joinNext, next, ItemEnd.lateEntries, List.foldl_nil, modifyBatch_eq batch]
      exact .look batch closed next rfl rfl rfl rfl
    | error message =>
      simp only [joinNext, next, ItemEnd.lateEntries, List.foldl_nil, modifyBatch_eq batch]
      exact .look batch closed next rfl rfl rfl rfl
    -- The batch makes the entries of an item that broke off.
    | panic message =>
      simp only [joinNext, next, ItemEnd.lateEntries, List.foldl_cons, List.foldl_nil]
      rw [enter_eq batch, enter_eq (again _), modifyBatch_eq (by rw [List.set_set]; exact again _),
        List.set_set, List.set_set]
      exact .lookBroken batch closed next rfl rfl rfl

/-- A step is one of the moves. -/
theorem step?_move (taken : p.step? s = some p') : p.Move p' s := by
  cases s with
  | submit size =>
    cases taken
    exact .submit size rfl rfl rfl
  | start k i =>
    simp only [step?] at taken
    split at taken
    · rename_i waiting
      obtain ⟨b, batch, item⟩ := item?_eq_some.mp waiting
      split at taken
      · rename_i room
        rw [setItem, modifyBatch_eq batch] at taken
        cases taken
        exact .start batch item room rfl rfl rfl
      · cases taken
    · cases taken
  | finish k i e =>
    simp only [step?] at taken
    split at taken
    · rename_i running
      obtain ⟨b, batch, item⟩ := item?_eq_some.mp running
      split at taken
      · rename_i broken
        rw [setItem, modifyBatch_eq batch] at taken
        cases taken
        exact .breakOff batch item broken rfl rfl rfl
      · rename_i whole
        rw [setItem, modifyBatch_eq batch] at taken
        cases taken
        exact .finish batch item (Bool.eq_false_iff.mpr whole) rfl rfl rfl
    · cases taken
  | settle k i =>
    simp only [step?] at taken
    split at taken
    · rename_i e entry entries leaving
      obtain ⟨b, batch, item⟩ := item?_eq_some.mp leaving
      have bound := (List.getElem?_eq_some_iff.mp batch).1
      rw [setItem, modifyBatch_eq batch, enter_eq (List.getElem?_set_self bound),
        List.set_set] at taken
      cases taken
      exact .enter batch item rfl rfl rfl
    · rename_i e leaving
      obtain ⟨b, batch, item⟩ := item?_eq_some.mp leaving
      rw [setItem, modifyBatch_eq batch] at taken
      cases taken
      exact .leave batch item rfl rfl rfl
    · cases taken
  | join k =>
    simp only [step?] at taken
    split at taken
    · rename_i b batch
      split at taken
      · rename_i ready
        rw [Bool.and_eq_true, Option.isNone_iff_eq_none] at ready
        cases taken
        exact joinNext_move batch ready.1 ready.2
      · cases taken
    · cases taken

/-! ## Runs -/

/-- The pool after some steps, if they are all possible. -/
def follow? (p : Pool α) : List (PoolStep α) → Option (Pool α)
  | [] => some p
  | s :: ss =>
    match p.step? s with
    | some p => p.follow? ss
    | none => none

theorem follow?_keeps {holds : List (PoolStep α) → Pool α → Prop}
    (move : ∀ {past p s p'}, holds past p → Move p p' s → holds (past ++ [s]) p')
    {past ss : List (PoolStep α)} (held : holds past p) (run : p.follow? ss = some p') :
    holds (past ++ ss) p' := by
  induction ss generalizing p past with
  | nil =>
    cases run
    rw [List.append_nil]
    exact held
  | cons s ss inductionHypothesis =>
    cases taken : p.step? s with
    | none =>
      rw [follow?, taken] at run
      cases run
    | some next =>
      simp only [follow?, taken] at run
      have later := inductionHypothesis (move held (step?_move taken)) run
      rwa [List.append_assoc] at later

/-- What holds of a pool without batches and is kept by moves holds after every run. -/
theorem follow?_invariant (holds : List (PoolStep α) → Pool α → Prop) {name : String} {limit : Nat}
    (start : holds [] (ofLimit name limit))
    (move : ∀ {past p s p'}, holds past p → Move p p' s → holds (past ++ [s]) p')
    {ss : List (PoolStep α)} (run : (ofLimit name limit).follow? ss = some p) : holds ss p :=
  follow?_keeps move start run

end Pool

end Compositor
