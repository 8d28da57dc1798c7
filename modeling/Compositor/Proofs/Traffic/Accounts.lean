import Compositor.Proofs.Traffic.Schedules

/-! # The account of a pool

Three counters tell of the items of all batches: how many are inside their tasks, how many came
to the end of their tasks and how many have no value.  An item makes its own entries on its way
out.  One that breaks off makes none: its batch counts the failure when it looks at the item, and
it stays among the items inside for ever.  `Pool.Books` relates the counters to the items.
-/

namespace Compositor

variable {α : Type}

/-- The step ends a task, and in a way of which something is true. -/
def PoolStep.endsWith (q : ItemEnd α → Bool) : PoolStep α → Bool
  | finish _ _ e => q e
  | _ => false

/-- The item has no value. -/
def ItemEnd.isFailure (e : ItemEnd α) : Bool := e.value?.isNone

/-! ## Entries -/

namespace ItemState

variable {e : ItemEnd α} {entry : PoolEntry} {entries : List PoolEntry}

/-- The task of the item broke off. -/
def isBroken : ItemState α → Bool
  | ended e => e.isPanic
  | _ => false

/-- The task of the item has ended, and in a way of which something is true. -/
def endsWith (q : ItemEnd α → Bool) (s : ItemState α) : Bool := s.end?.any q

/-- The item has made this entry itself. -/
def hasEntered (entry : PoolEntry) : ItemState α → Bool
  | leaving e entries => e.entries.contains entry && !entries.contains entry
  | ended e => e.entries.contains entry
  | _ => false

theorem hasEntered_leaving_entries : (leaving e e.entries).hasEntered entry = false := by
  rw [hasEntered, Bool.and_not_self]

theorem hasEntered_leaving_nil : (leaving e []).hasEntered entry = (ended e).hasEntered entry := by
  simp [hasEntered]

theorem hasEntered_ended_of_isPanic (broken : e.isPanic = true) :
    (ended e).hasEntered entry = false := by
  cases e with
  | value x | error message => cases broken
  | panic message => rfl

/-- An item that has ended has made its entries, unless it broke off. -/
theorem hasEntered_ended (e : ItemEnd α) :
    ((ended e).hasEntered .processed).toNat + (ended e).isBroken.toNat = 1 ∧
      ((ended e).hasEntered .failed).toNat + (ended e).isBroken.toNat =
        ((ended e).endsWith ItemEnd.isFailure).toNat := by
  cases e <;> exact ⟨rfl, rfl⟩

theorem isBroken_of_isProper {s : ItemState α} (proper : s.IsProper) :
    s.isBroken = s.endsWith ItemEnd.isPanic := by
  cases s with
  | waiting | running | ended e => rfl
  | leaving e entries => exact proper.1.symm

/-- The counters follow the entries of an item, one at a time. -/
theorem enter_totals (left : entry :: entries <:+ e.entries) (status : PoolStatus) :
    (status.enter entry).totalProcessed
        + ((leaving e (entry :: entries)).hasEntered .processed).toNat =
      status.totalProcessed + ((leaving e entries).hasEntered .processed).toNat ∧
    (status.enter entry).totalFailed + ((leaving e (entry :: entries)).hasEntered .failed).toNat =
      status.totalFailed + ((leaving e entries).hasEntered .failed).toNat := by
  rcases ItemEnd.entries_cases left with
    ⟨rfl, all⟩ | ⟨message, rfl, rfl, rfl⟩ | ⟨message, rfl, rfl, rfl⟩
  · cases e with
    | value x | error message =>
      cases all
      exact ⟨rfl, rfl⟩
    | panic message => cases all
  · exact ⟨rfl, rfl⟩
  · exact ⟨rfl, rfl⟩

end ItemState

/-- The items that broke off among those that the batch has looked at. -/
def Batch.brokenSeen (b : Batch α) : Nat :=
  (b.items.take b.outputs.length).countP ItemState.isBroken

namespace Pool

variable {p p' : Pool α} {step : PoolStep α} {k i : Nat} {b b' : Batch α} {s s' : ItemState α}
  {e : ItemEnd α}

/-- The items that broke off and whose failure was counted. -/
def brokenSeen (p : Pool α) : Nat := (p.batches.map Batch.brokenSeen).sum

/-! ## The counters belong to the items -/

/-- The counters belong to the states of the items. -/
structure Books (p : Pool α) : Prop where
  active : p.status.active = p.count ItemState.isRunning + p.count ItemState.isBroken
  processed : p.status.totalProcessed = p.count (ItemState.hasEntered .processed)
  failed : p.status.totalFailed = p.count (ItemState.hasEntered .failed) + p.brokenSeen

theorem brokenSeen_set (batch : p.batches[k]? = some b) (batches : p'.batches = p.batches.set k b') :
    p'.brokenSeen + b.brokenSeen = p.brokenSeen + b'.brokenSeen := by
  rw [brokenSeen, batches]
  exact sum_map_set batch Batch.brokenSeen b'

namespace Books

theorem submit (books : p.Books) {size : Nat} (status : p'.status = p.status)
    (batches : p'.batches = p.batches ++ [.ofSize size]) : p'.Books where
  active := by
    rw [status, books.active, count_submit batches, count_submit batches]
    rfl
  processed := by
    rw [status, books.processed, count_submit batches]
    rfl
  failed := by
    rw [status, books.failed, count_submit batches, brokenSeen, brokenSeen, batches]
    simp [ItemState.hasEntered, Batch.brokenSeen, Batch.ofSize]

/-- An item goes on, and the counters change as its state does. -/
theorem change (books : p.Books) (kept : b.Kept) (batch : p.batches[k]? = some b)
    (item : b.items[i]? = some s) (unended : s.isEnded = false)
    (batches : p'.batches = p.batches.set k b') (items : b'.items = b.items.set i s')
    (outputs : b'.outputs = b.outputs)
    (active : p'.status.active + s.isRunning.toNat =
      p.status.active + s'.isRunning.toNat + s'.isBroken.toNat)
    (processed : p'.status.totalProcessed + (s.hasEntered .processed).toNat =
      p.status.totalProcessed + (s'.hasEntered .processed).toNat)
    (failed : p'.status.totalFailed + (s.hasEntered .failed).toNat =
      p.status.totalFailed + (s'.hasEntered .failed).toNat) : p'.Books := by
  have counts := count_change batch item batches items
  have unbroken : s.isBroken = false := by
    cases s with
    | waiting | running | leaving e entries => rfl
    | ended e => cases unended
  -- The batch has not looked at any of its items.
  have unseen : p'.brokenSeen = p.brokenSeen := by
    have total := brokenSeen_set batch batches
    have none := (kept.outputs_eq_nil item unended).1
    simp only [Batch.brokenSeen, outputs, none, List.length_nil, List.take_zero,
      List.countP_nil] at total
    exact total
  constructor
  · have running := counts ItemState.isRunning
    have broken := counts ItemState.isBroken
    have before := books.active
    rw [unbroken, Bool.toNat_false] at broken
    omega
  · have entered := counts (ItemState.hasEntered .processed)
    have before := books.processed
    omega
  · have entered := counts (ItemState.hasEntered .failed)
    have before := books.failed
    omega

/-- A batch looks at its next item, and counts a failure if that broke off. -/
theorem look (books : p.Books) (batch : p.batches[k]? = some b)
    (item : b.items[b.outputs.length]? = some (.ended e))
    (batches : p'.batches = p.batches.set k b') (items : b'.items = b.items)
    (outputs : b'.outputs.length = b.outputs.length + 1)
    (active : p'.status.active = p.status.active)
    (processed : p'.status.totalProcessed = p.status.totalProcessed)
    (failed : p'.status.totalFailed = p.status.totalFailed + e.isPanic.toNat) : p'.Books := by
  have same := count_same batch batches items
  have seen : b'.brokenSeen = b.brokenSeen + e.isPanic.toNat := by
    rw [Batch.brokenSeen, items, outputs, List.take_add_one, item, List.countP_append,
      Option.toList_some, List.countP_singleton, toNat_eq_ite]
    rfl
  constructor
  · rw [active, same, same]
    exact books.active
  · rw [processed, same]
    exact books.processed
  · have total := brokenSeen_set batch batches
    have before := books.failed
    rw [same]
    omega

theorem move (books : p.Books) (kept : p.Kept) (move : p.Move p' step) : p'.Books := by
  cases move with
  | submit size status free batches => exact books.submit status batches
  | start batch item room status free batches =>
    exact books.change (kept _ _ batch) batch item rfl batches rfl rfl (by rw [status]; rfl)
      (by rw [status]; rfl) (by rw [status]; rfl)
  | finish batch item whole status free batches =>
    -- The item is one of those inside.
    have inside := count_change batch item batches rfl ItemState.isRunning
    have before := books.active
    refine books.change (kept _ _ batch) batch item rfl batches rfl rfl ?_ ?_ ?_
    · simp only [status, ItemState.isRunning, ItemState.isBroken, Bool.toNat_true,
        Bool.toNat_false] at inside ⊢
      omega
    · rw [status, ItemState.hasEntered_leaving_entries]
      rfl
    · rw [status, ItemState.hasEntered_leaving_entries]
      rfl
  | breakOff batch item broken status free batches =>
    refine books.change (kept _ _ batch) batch item rfl batches rfl rfl ?_ ?_ ?_
    · rw [status, ItemState.isBroken, broken]
      rfl
    · rw [status, ItemState.hasEntered_ended_of_isPanic broken]
      rfl
    · rw [status, ItemState.hasEntered_ended_of_isPanic broken]
      rfl
  | @enter k i b e entry entries batch item status free batches =>
    obtain ⟨-, left⟩ := (kept _ _ batch).proper _ _ item
    obtain ⟨processed, failed⟩ := ItemState.enter_totals left p.status
    obtain ⟨items, outputs, -⟩ := Batch.enter_rest (b.setItem i (.leaving e entries)) i entry
    refine books.change (kept _ _ batch) batch item rfl batches items outputs ?_ ?_ ?_
    · rw [status]
      cases entry <;> rfl
    · rw [status]
      exact processed
    · rw [status]
      exact failed
  | @leave k i b e batch item status free batches =>
    obtain ⟨whole, -⟩ := (kept _ _ batch).proper _ _ item
    refine books.change (kept _ _ batch) batch item rfl batches rfl rfl ?_ ?_ ?_
    · rw [status, ItemState.isBroken, whole]
      rfl
    · rw [status, ItemState.hasEntered_leaving_nil]
    · rw [status, ItemState.hasEntered_leaving_nil]
  | look batch closed item whole status free batches =>
    exact books.look batch item batches rfl (List.length_append ..) (by rw [status])
      (by rw [status]) (by rw [status, whole]; rfl)
  | lookBroken batch closed item status free batches =>
    exact books.look batch item batches rfl (List.length_append ..) (by rw [status]; rfl)
      (by rw [status]; rfl) (by rw [status]; rfl)
  | @report k b batch closed all unreported status free batches =>
    have same := count_same batch batches rfl
    have seen := brokenSeen_set batch batches
    constructor
    · rw [status, same, same]
      exact books.active
    · rw [status, same]
      exact books.processed
    · rw [status, same, books.failed, Nat.add_right_cancel seen]

end Books

theorem follow?_books {name : String} {limit : Nat} {ss : List (PoolStep α)}
    (run : (ofLimit name limit).follow? ss = some p) : p.Books := by
  have both := follow?_invariant (fun _ p => p.Kept ∧ p.Books)
    ⟨fun _ _ batch => (by cases batch), ⟨rfl, rfl, rfl⟩⟩
    (fun held move => ⟨held.1.move move, held.2.move held.1 move⟩) run
  exact both.2

/-! ## Idle pools -/

/-- All batches are reported. -/
def isIdle (p : Pool α) : Bool := p.batches.all fun b => b.result.isSome

theorem Kept.ended_of_isIdle (kept : p.Kept) (idle : p.isIdle = true)
    (item : p.item? k i = some s) : ∃ e, s = .ended e := by
  obtain ⟨b, batch, item⟩ := item?_eq_some.mp item
  have reported := List.all_eq_true.mp idle b (List.mem_of_getElem? batch)
  obtain ⟨r, result⟩ := Option.isSome_iff_exists.mp reported
  exact Batch.getElem?_of_isOver ((kept _ _ batch).reported r result).1 item

/-- All items of an idle pool were looked at. -/
theorem Kept.brokenSeen_of_isIdle (kept : p.Kept) (idle : p.isIdle = true) :
    p.brokenSeen = p.count ItemState.isBroken := by
  rw [brokenSeen, count]
  congr 1
  apply List.map_congr_left
  intro b mem
  obtain ⟨k, batch⟩ := List.mem_iff_getElem?.mp mem
  obtain ⟨r, result⟩ := Option.isSome_iff_exists.mp (List.all_eq_true.mp idle b mem)
  have all := ((kept k b batch).reported r result).2.1
  rw [Batch.brokenSeen, List.take_of_length_le all]

/-- Numbers of items add up if they do so item by item. -/
theorem count_add {q r t : ItemState α → Bool}
    (each : ∀ k i s, p.item? k i = some s → (q s).toNat + (r s).toNat = (t s).toNat) :
    p.count q + p.count r = p.count t := by
  have listed : ∀ s ∈ p.batches.flatMap Batch.items, (q s).toNat + (r s).toNat = (t s).toNat := by
    intro s mem
    obtain ⟨k, i, item⟩ := mem_items.mp mem
    exact each k i s item
  rw [count_eq, count_eq, count_eq]
  generalize p.batches.flatMap Batch.items = items at listed ⊢
  induction items with
  | nil => rfl
  | cons s items inductionHypothesis =>
    have here := listed s List.mem_cons_self
    have rest := inductionHypothesis fun s mem => listed s (List.mem_cons_of_mem _ mem)
    simp only [toNat_eq_ite] at here
    rw [List.countP_cons, List.countP_cons, List.countP_cons]
    omega

theorem count_true (p : Pool α) : p.count (fun _ => true) = p.sizes.sum := by
  rw [count, sizes]
  congr 1
  apply List.map_congr_left
  intro b _
  rw [List.countP_true]

theorem Move.ends (move : p.Move p' step) (q : ItemEnd α → Bool) :
    p'.count (ItemState.endsWith q) = p.count (ItemState.endsWith q) + (step.endsWith q).toNat := by
  cases move.effect with
  | submit size batches free =>
    rw [count_submit batches]
    rfl
  | item goes batch item batches items outputs result free =>
    have change := count_change batch item batches items (ItemState.endsWith q)
    cases goes with
    | start | finish whole | breakOff broken => exact change
    | enter | leave => exact Nat.add_right_cancel change
  | look batch batches items inside outputs result free => exact count_same batch batches items _
  | report batch batches items outputs unreported reported free =>
    exact count_same batch batches items _

theorem follow?_endsWith {name : String} {limit : Nat} {ss : List (PoolStep α)}
    (run : (ofLimit name limit).follow? ss = some p) (q : ItemEnd α → Bool) :
    ss.countP (PoolStep.endsWith q) = p.count (ItemState.endsWith q) := by
  refine follow?_invariant
    (fun past p => past.countP (PoolStep.endsWith q) = p.count (ItemState.endsWith q)) rfl ?_ run
  intro past p step p' held move
  rw [move.ends, ← held, List.countP_append, List.countP_singleton, toNat_eq_ite]

theorem Kept.count_isBroken (kept : p.Kept) :
    p.count ItemState.isBroken = p.count (ItemState.endsWith ItemEnd.isPanic) := by
  rw [count_eq, count_eq]
  apply List.countP_congr
  intro s mem
  obtain ⟨k, i, item⟩ := mem_items.mp mem
  obtain ⟨b, batch, item⟩ := item?_eq_some.mp item
  rw [ItemState.isBroken_of_isProper ((kept k b batch).proper i s item)]

/-- The account of a pool after every run, with any number of batches under way: the counter of
    the items inside their tasks counts them and the tasks that broke off so far; when all batches
    are reported, nobody is inside, the number of processed items and that of the tasks that broke
    off make up the number of all items, and the failures are counted exactly.  As long as no task
    breaks off the account is exact. -/
theorem follow?_status (name : String) (limit : Nat) {ss : List (PoolStep α)} {p : Pool α}
    (run : (ofLimit name limit).follow? ss = some p) :
    p.status.active =
      p.count ItemState.isRunning + ss.countP (PoolStep.endsWith ItemEnd.isPanic) ∧
    p.count ItemState.isRunning ≤ p.status.maxConcurrent ∧
    p.status.maxConcurrent = max limit 1 ∧
    (p.isIdle = true → p.count ItemState.isRunning = 0 ∧
      p.status.totalProcessed + ss.countP (PoolStep.endsWith ItemEnd.isPanic) =
        (ss.filterMap PoolStep.size?).sum ∧
      p.status.totalFailed = ss.countP (PoolStep.endsWith ItemEnd.isFailure) ∧
      p.status.totalFailed ≤
        p.status.totalProcessed + ss.countP (PoolStep.endsWith ItemEnd.isPanic)) := by
  have kept := follow?_kept run
  have books := follow?_books run
  obtain ⟨places, limited⟩ := follow?_places run
  have inside := count_isRunning_le p
  rw [Places] at places
  rw [follow?_endsWith run, ← kept.count_isBroken]
  refine ⟨books.active, by omega, limited, ?_⟩
  intro idle
  -- All items have ended, so their entries are made and the batches have looked at them.
  have ended := fun k i s => kept.ended_of_isIdle (k := k) (i := i) (s := s) idle
  have nobody : p.count ItemState.isRunning = 0 := by
    apply count_eq_zero
    intro k i s item
    obtain ⟨e, rfl⟩ := ended k i s item
    rfl
  have processed : p.count (ItemState.hasEntered .processed) + p.count ItemState.isBroken =
      (ss.filterMap PoolStep.size?).sum := by
    rw [follow?_sizes run, ← count_true]
    apply count_add
    intro k i s item
    obtain ⟨e, rfl⟩ := ended k i s item
    exact (ItemState.hasEntered_ended e).1
  have failed : p.count (ItemState.hasEntered .failed) + p.count ItemState.isBroken =
      ss.countP (PoolStep.endsWith ItemEnd.isFailure) := by
    rw [follow?_endsWith run]
    apply count_add
    intro k i s item
    obtain ⟨e, rfl⟩ := ended k i s item
    exact (ItemState.hasEntered_ended e).2
  have within : ss.countP (PoolStep.endsWith ItemEnd.isFailure) ≤
      (ss.filterMap PoolStep.size?).sum := by
    rw [follow?_endsWith run, follow?_sizes run, ← count_true, count_eq, count_eq]
    exact List.countP_mono_left fun _ _ _ => rfl
  have seen := kept.brokenSeen_of_isIdle idle
  have totalProcessed := books.processed
  have totalFailed := books.failed
  exact ⟨nobody, by omega, by omega, by omega⟩

/-- Two batches share two places; of their four items one fails and one breaks off. -/
theorem follow?_status_mixed :
    let steps : List (PoolStep Nat) :=
      [.submit 3, .submit 1, .start 0 1, .start 1 0] ++ PoolStep.ending 0 1 (.error "late")
        ++ [.start 0 0, .finish 0 0 (.panic "lost"), .start 0 2]
        ++ PoolStep.ending 1 0 (.value 7) ++ PoolStep.ending 0 2 (.value 2)
        ++ PoolStep.joining 1 1 ++ PoolStep.joining 0 3
    ∃ p, (ofLimit "pool" 2).follow? steps = some p ∧ p.isIdle = true ∧
      p.count ItemState.isRunning = 0 ∧ p.status.active = 1 ∧ p.status.totalProcessed = 3 ∧
      p.status.totalFailed = 2 := by
  intro steps
  have idle : ((ofLimit "pool" 2).follow? steps).map isIdle = some true := by decide +kernel
  obtain ⟨p, run, idle⟩ := Option.map_eq_some_iff.mp idle
  obtain ⟨active, -, -, totals⟩ := follow?_status "pool" 2 run
  obtain ⟨nobody, processed, failed, -⟩ := totals idle
  have broken : steps.countP (PoolStep.endsWith ItemEnd.isPanic) = 1 := by decide +kernel
  have failures : steps.countP (PoolStep.endsWith ItemEnd.isFailure) = 2 := by decide +kernel
  have size : (steps.filterMap PoolStep.size?).sum = 4 := by decide +kernel
  exact ⟨p, run, idle, nobody, by omega, by omega, by omega⟩

/-- The only item of a pool breaks off.  When its batch is reported nobody is inside a task, but
    one item is counted as active, none as processed and one as failed. -/
theorem follow?_status_broken :
    ∃ p, (ofLimit "pool" 1).follow?
        [.submit 1, .start 0 0, .finish 0 0 (.panic "lost" : ItemEnd Nat), .join 0, .join 0] =
          some p ∧
      p.isIdle = true ∧ p.count ItemState.isRunning = 0 ∧
      p.status = ⟨"pool", 1, 1, 0, 1⟩ := by
  refine ⟨_, rfl, ?_, ?_, ?_⟩ <;> decide +kernel

end Pool

end Compositor
