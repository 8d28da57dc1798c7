import Compositor.Proofs.Traffic.Batches
import Mathlib.Algebra.GroupWithZero.Nat

/-! # Batches under every schedule

In what order the items of a pool start, end and make their entries is up to the schedule, and
several batches may be under way.  Whatever it does, there are never more items inside their
tasks than the limit allows, each task is started once, and what a batch reports is a function
of how its items end.  As long as a batch has no report some step is possible, and without new
batches there are only so many steps: every schedule comes to the reports of all batches.
-/

namespace Compositor

variable {α : Type}

/-! ## Sums over lists with a changed element -/

theorem sum_map_set {β : Type} {l : List β} {k : Nat} {x : β} (old : l[k]? = some x) (f : β → Nat)
    (y : β) : ((l.set k y).map f).sum + f x = (l.map f).sum + f y := by
  induction l generalizing k with
  | nil => cases old
  | cons z l inductionHypothesis =>
    cases k with
    | zero =>
      cases old
      simp only [List.set_cons_zero, List.map_cons, List.sum_cons]
      omega
    | succ k =>
      have rest := inductionHypothesis old
      simp only [List.set_cons_succ, List.map_cons, List.sum_cons]
      omega

theorem toNat_eq_ite (b : Bool) : b.toNat = if b then 1 else 0 := by
  cases b <;> rfl

theorem countP_set_add {β : Type} {l : List β} {i : Nat} {x : β} (old : l[i]? = some x)
    (q : β → Bool) (y : β) : (l.set i y).countP q + (q x).toNat = l.countP q + (q y).toNat := by
  induction l generalizing i with
  | nil => cases old
  | cons z l inductionHypothesis =>
    cases i with
    | zero =>
      cases old
      simp only [List.set_cons_zero, List.countP_cons, toNat_eq_ite]
      omega
    | succ i =>
      have rest := inductionHypothesis old
      simp only [List.set_cons_succ, List.countP_cons]
      omega

/-! ## Steps and items -/

namespace PoolStep

/-- The number of items of a batch that comes in. -/
def size? : PoolStep α → Option Nat
  | submit size => some size
  | _ => none

/-- The task of this item is entered. -/
def isStart (k i : Nat) : PoolStep α → Bool
  | start batch item => batch == k && item == i
  | _ => false

/-- If a task ends with the step, it ends as it is to end. -/
def Agrees (outcomes : Nat → Nat → ItemEnd α) : PoolStep α → Prop
  | finish k i e => e = outcomes k i
  | _ => True

instance [DecidableEq α] (outcomes : Nat → Nat → ItemEnd α) (step : PoolStep α) :
    Decidable (step.Agrees outcomes) :=
  match step with
  | finish k i e => inferInstanceAs (Decidable (e = outcomes k i))
  | submit _ | start _ _ | settle _ _ | join _ => isTrue trivial

end PoolStep

namespace ItemState

/-- The item is inside its task. -/
def isRunning : ItemState α → Bool
  | running => true
  | _ => false

/-- The item has a place in the pool. -/
def isPlaced : ItemState α → Bool
  | running | leaving _ _ => true
  | _ => false

/-- The task of the item was entered. -/
def hasStarted : ItemState α → Bool
  | waiting => false
  | _ => true

/-- The most steps that the item takes. -/
def stepsLeft : ItemState α → Nat
  | waiting => 6
  | running => 5
  | leaving _ entries => entries.length + 1
  | ended _ => 0

/-- The item goes from one state to another in a step. -/
inductive Goes (k i : Nat) : PoolStep α → ItemState α → ItemState α → Prop where
  | start : Goes k i (.start k i) waiting running
  | finish {e : ItemEnd α} (whole : e.isPanic = false) :
    Goes k i (.finish k i e) running (leaving e e.entries)
  | breakOff {e : ItemEnd α} (broken : e.isPanic = true) :
    Goes k i (.finish k i e) running (ended e)
  | enter {e : ItemEnd α} {entry : PoolEntry} {entries : List PoolEntry} :
    Goes k i (.settle k i) (leaving e (entry :: entries)) (leaving e entries)
  | leave {e : ItemEnd α} : Goes k i (.settle k i) (leaving e []) (ended e)

theorem Goes.stepsLeft_lt {k i : Nat} {step : PoolStep α} {s s' : ItemState α}
    (goes : Goes k i step s s') : s'.stepsLeft < s.stepsLeft := by
  cases goes with
  | start | breakOff | leave => simp [stepsLeft]
  | @finish e whole => cases e <;> simp [stepsLeft, ItemEnd.entries]
  | enter => simp [stepsLeft]

end ItemState

theorem Batch.enter_rest (b : Batch α) (i : Nat) (entry : PoolEntry) :
    (b.enter i entry).items = b.items ∧ (b.enter i entry).outputs = b.outputs ∧
      (b.enter i entry).result = b.result := by
  cases entry <;> exact ⟨rfl, rfl, rfl⟩

/-- The most steps until the batch is reported. -/
def Batch.stepsLeft (b : Batch α) : Nat :=
  (b.items.map ItemState.stepsLeft).sum + (b.items.length - b.outputs.length)
    + if b.result.isSome then 0 else 1

namespace Pool

variable {p p' : Pool α} {k i : Nat} {b b' : Batch α} {s s' : ItemState α} {step : PoolStep α}

/-- The number of items of all batches of which something is true. -/
def count (p : Pool α) (q : ItemState α → Bool) : Nat :=
  (p.batches.map fun b => b.items.countP q).sum

/-- The most steps until all batches are reported. -/
def stepsLeft (p : Pool α) : Nat := (p.batches.map Batch.stepsLeft).sum

/-! ## What a step does to the items -/

/-- What a step does to the items, the rest of the records apart. -/
inductive Effect (p p' : Pool α) : PoolStep α → Prop where
  | submit (size : Nat) (batches : p'.batches = p.batches ++ [.ofSize size])
      (free : p'.free = p.free) : Effect p p' (.submit size)
  | item {step : PoolStep α} {k i : Nat} {b b' : Batch α} {s s' : ItemState α}
      (goes : ItemState.Goes k i step s s') (batch : p.batches[k]? = some b)
      (item : b.items[i]? = some s) (batches : p'.batches = p.batches.set k b')
      (items : b'.items = b.items.set i s') (outputs : b'.outputs = b.outputs)
      (result : b'.result = b.result)
      (free : p'.free + s'.isPlaced.toNat = p.free + s.isPlaced.toNat) : Effect p p' step
  | look {k : Nat} {b b' : Batch α} (batch : p.batches[k]? = some b)
      (batches : p'.batches = p.batches.set k b') (items : b'.items = b.items)
      (inside : b.outputs.length < b.items.length)
      (outputs : b'.outputs.length = b.outputs.length + 1) (result : b'.result = b.result)
      (free : p'.free = p.free) : Effect p p' (.join k)
  | report {k : Nat} {b b' : Batch α} (batch : p.batches[k]? = some b)
      (batches : p'.batches = p.batches.set k b') (items : b'.items = b.items)
      (outputs : b'.outputs = b.outputs) (unreported : b.result = none)
      (reported : b'.result.isSome = true) (free : p'.free = p.free) : Effect p p' (.join k)

theorem Move.effect (move : p.Move p' step) : p.Effect p' step := by
  cases move with
  | submit size status free batches => exact .submit size batches free
  | start batch item room status free batches =>
    refine .item .start batch item batches rfl rfl rfl ?_
    simp only [free, ItemState.isPlaced, Bool.toNat_true, Bool.toNat_false]
    omega
  | finish batch item whole status free batches =>
    exact .item (.finish whole) batch item batches rfl rfl rfl (by rw [free]; rfl)
  | breakOff batch item broken status free batches =>
    exact .item (.breakOff broken) batch item batches rfl rfl rfl (by rw [free]; rfl)
  | @enter k i b e entry entries batch item status free batches =>
    obtain ⟨items, outputs, result⟩ :=
      Batch.enter_rest (b.setItem i (.leaving e entries)) i entry
    exact .item .enter batch item batches items outputs result (by rw [free]; rfl)
  | leave batch item status free batches =>
    exact .item .leave batch item batches rfl rfl rfl (by rw [free]; rfl)
  | look batch closed item whole status free batches =>
    exact .look batch batches rfl (List.getElem?_eq_some_iff.mp item).1 (List.length_append ..) rfl
      free
  | lookBroken batch closed item status free batches =>
    exact .look batch batches rfl (List.getElem?_eq_some_iff.mp item).1 (List.length_append ..) rfl
      free
  | report batch closed all unreported status free batches =>
    exact .report batch batches rfl rfl unreported rfl free

theorem count_submit {size : Nat} (batches : p'.batches = p.batches ++ [.ofSize size])
    (q : ItemState α → Bool) : p'.count q = p.count q + if q .waiting then size else 0 := by
  rw [count, count, batches, List.map_append, List.sum_append, List.map_singleton,
    List.sum_singleton, Batch.ofSize, List.countP_replicate]

theorem count_same (batch : p.batches[k]? = some b) (batches : p'.batches = p.batches.set k b')
    (items : b'.items = b.items) (q : ItemState α → Bool) : p'.count q = p.count q := by
  have total := sum_map_set batch (fun b => b.items.countP q) b'
  rw [items] at total
  rw [count, batches, count]
  omega

theorem count_change (batch : p.batches[k]? = some b) (item : b.items[i]? = some s)
    (batches : p'.batches = p.batches.set k b') (items : b'.items = b.items.set i s')
    (q : ItemState α → Bool) : p'.count q + (q s).toNat = p.count q + (q s').toNat := by
  have total := sum_map_set batch (fun b => b.items.countP q) b'
  have inner := countP_set_add item q s'
  rw [items] at total
  rw [count, batches, count]
  omega

theorem item?_submit {size : Nat} (batches : p'.batches = p.batches ++ [.ofSize size]) (j l : Nat) :
    p'.item? j l =
      if j = p.batches.length ∧ l < size then some .waiting else p.item? j l := by
  rw [item?, item?, batches, List.getElem?_append]
  by_cases old : j < p.batches.length
  · rw [if_pos old, if_neg (by omega)]
  · rw [if_neg old, List.getElem?_singleton, List.getElem?_eq_none (by omega), Option.bind_none]
    by_cases new : j = p.batches.length
    · rw [if_pos (by omega), Option.bind_some, Batch.ofSize, List.getElem?_replicate]
      simp [new]
    · rw [if_neg (by omega), if_neg (by omega), Option.bind_none]

theorem item?_same (batch : p.batches[k]? = some b) (batches : p'.batches = p.batches.set k b')
    (items : b'.items = b.items) (j l : Nat) : p'.item? j l = p.item? j l := by
  rw [item?, item?, batches, List.getElem?_set]
  split
  · rename_i here
    rw [if_pos (List.getElem?_eq_some_iff.mp batch).1, ← here, batch, Option.bind_some,
      Option.bind_some, items]
  · rfl

theorem item?_change (batch : p.batches[k]? = some b) (item : b.items[i]? = some s)
    (batches : p'.batches = p.batches.set k b') (items : b'.items = b.items.set i s') (j l : Nat) :
    p'.item? j l = if j = k ∧ l = i then some s' else p.item? j l := by
  have bound := (List.getElem?_eq_some_iff.mp batch).1
  have inside := (List.getElem?_eq_some_iff.mp item).1
  rw [item?, item?, batches, List.getElem?_set]
  by_cases here : k = j
  · subst here
    rw [if_pos rfl, if_pos bound, batch, Option.bind_some, Option.bind_some, items,
      List.getElem?_set]
    by_cases same : i = l
    · subst same
      rw [if_pos rfl, if_pos inside, if_pos ⟨rfl, rfl⟩]
    · rw [if_neg same, if_neg fun both => same both.2.symm]
  · rw [if_neg here, if_neg fun both => here both.1.symm]

/-! ## Places -/

theorem Move.maxConcurrent (move : p.Move p' step) :
    p'.status.maxConcurrent = p.status.maxConcurrent := by
  cases move with
  | submit _ status | start _ _ _ status | finish _ _ _ status | breakOff _ _ _ status
  | leave _ _ status | look _ _ _ _ status | report _ _ _ _ status => rw [status]
  | @enter k i b e entry entries batch item status =>
    rw [status]
    cases entry <;> rfl
  | lookBroken _ _ _ status =>
    rw [status]
    rfl

/-- A place is free or taken by an item. -/
def Places (p : Pool α) : Prop := p.free + p.count ItemState.isPlaced = p.status.maxConcurrent

theorem Places.move (places : p.Places) (move : p.Move p' step) : p'.Places := by
  rw [Places, move.maxConcurrent, ← places]
  cases move.effect with
  | submit size batches free =>
    rw [count_submit batches, free]
    rfl
  | item goes batch item batches items outputs result free =>
    have change := count_change batch item batches items ItemState.isPlaced
    omega
  | look batch batches items inside outputs result free =>
    rw [count_same batch batches items, free]
  | report batch batches items outputs unreported reported free =>
    rw [count_same batch batches items, free]

theorem follow?_places {name : String} {limit : Nat} {ss : List (PoolStep α)}
    (run : (ofLimit name limit).follow? ss = some p) :
    p.Places ∧ p.status.maxConcurrent = max limit 1 := by
  refine follow?_invariant (fun _ p => p.Places ∧ p.status.maxConcurrent = max limit 1)
    ⟨rfl, rfl⟩ ?_ run
  intro past p s p' held move
  exact ⟨held.1.move move, move.maxConcurrent.trans held.2⟩

theorem count_eq (p : Pool α) (q : ItemState α → Bool) :
    p.count q = (p.batches.flatMap Batch.items).countP q := by
  rw [count, List.countP_flatMap]
  rfl

theorem mem_items : s ∈ p.batches.flatMap Batch.items ↔ ∃ k i, p.item? k i = some s := by
  rw [List.mem_flatMap]
  constructor
  · rintro ⟨b, batch, item⟩
    obtain ⟨k, batch⟩ := List.mem_iff_getElem?.mp batch
    obtain ⟨i, item⟩ := List.mem_iff_getElem?.mp item
    exact ⟨k, i, item?_eq_some.mpr ⟨b, batch, item⟩⟩
  · rintro ⟨k, i, item⟩
    obtain ⟨b, batch, item⟩ := item?_eq_some.mp item
    exact ⟨b, List.mem_of_getElem? batch, List.mem_of_getElem? item⟩

/-- Who is inside a task has a place. -/
theorem count_isRunning_le (p : Pool α) :
    p.count ItemState.isRunning ≤ p.count ItemState.isPlaced := by
  rw [count_eq, count_eq]
  apply List.countP_mono_left
  intro s _ inside
  cases s with
  | running => rfl
  | waiting | leaving e entries | ended e => cases inside

/-! ## Starts and ends -/

/-- How often the task of an item was entered. -/
def starts (p : Pool α) (k i : Nat) : Nat := ((p.item? k i).map fun s => s.hasStarted.toNat).getD 0

theorem Move.starts (move : p.Move p' step) (k i : Nat) :
    p'.starts k i = p.starts k i + (step.isStart k i).toNat := by
  cases move.effect with
  | submit size batches free =>
    rw [Pool.starts, Pool.starts, item?_submit batches]
    split
    · rename_i new
      rw [item?, List.getElem?_eq_none (by omega)]
      rfl
    · rfl
  | @item _ k' i' _ _ _ _ goes batch item batches items outputs result free =>
    have old := item?_eq_some.mpr ⟨_, batch, item⟩
    rw [Pool.starts, Pool.starts, item?_change batch item batches items]
    split
    · rename_i here
      rw [here.1, here.2, old]
      cases goes <;> simp [ItemState.hasStarted, PoolStep.isStart]
    · rename_i elsewhere
      cases goes with
      | @start =>
        have other : PoolStep.isStart k i (.start k' i' : PoolStep α) = false := by
          apply Bool.eq_false_iff.mpr
          intro here
          rw [PoolStep.isStart, Bool.and_eq_true, beq_iff_eq, beq_iff_eq] at here
          exact elsewhere ⟨here.1.symm, here.2.symm⟩
        rw [other]
        rfl
      | _ => rfl
  | look batch batches items inside outputs result free =>
    rw [Pool.starts, Pool.starts, item?_same batch batches items]
    rfl
  | report batch batches items outputs unreported reported free =>
    rw [Pool.starts, Pool.starts, item?_same batch batches items]
    rfl

theorem follow?_starts {name : String} {limit : Nat} {ss : List (PoolStep α)}
    (run : (ofLimit name limit).follow? ss = some p) (k i : Nat) :
    ss.countP (PoolStep.isStart k i) = p.starts k i := by
  refine follow?_invariant (fun past p => past.countP (PoolStep.isStart k i) = p.starts k i)
    rfl ?_ run
  intro past p step p' held move
  rw [move.starts, ← held, List.countP_append, List.countP_singleton, toNat_eq_ite]

/-- A task that has ended ends with the step, or it had ended before. -/
theorem Move.end? {e : ItemEnd α} (move : p.Move p' step) (item : p'.item? k i = some s')
    (ended : s'.end? = some e) :
    step = .finish k i e ∨ ∃ s, p.item? k i = some s ∧ s.end? = some e := by
  cases move.effect with
  | submit size batches free =>
    rw [item?_submit batches] at item
    split at item
    · cases item
      cases ended
    · exact .inr ⟨s', item, ended⟩
  | item goes batch old batches items outputs result free =>
    have before := item?_eq_some.mpr ⟨_, batch, old⟩
    rw [item?_change batch old batches items] at item
    split at item
    · rename_i here
      obtain ⟨rfl, rfl⟩ := here
      cases item
      cases goes with
      | start => cases ended
      | finish whole => cases ended; exact .inl rfl
      | breakOff broken => cases ended; exact .inl rfl
      | enter => exact .inr ⟨_, before, ended⟩
      | leave => exact .inr ⟨_, before, ended⟩
    · exact .inr ⟨s', item, ended⟩
  | look batch batches items inside outputs result free =>
    rw [item?_same batch batches items] at item
    exact .inr ⟨s', item, ended⟩
  | report batch batches items outputs unreported reported free =>
    rw [item?_same batch batches items] at item
    exact .inr ⟨s', item, ended⟩

/-- Tasks that have ended did so as they are to end. -/
def Follows (outcomes : Nat → Nat → ItemEnd α) (p : Pool α) : Prop :=
  ∀ k i s e, p.item? k i = some s → s.end? = some e → e = outcomes k i

theorem Follows.move {outcomes : Nat → Nat → ItemEnd α} (follows : p.Follows outcomes)
    (move : p.Move p' step) (agrees : step.Agrees outcomes) : p'.Follows outcomes := by
  intro k i s e item ended
  rcases move.end? item ended with rfl | ⟨s, before, ended⟩
  · exact agrees
  · exact follows k i s e before ended

theorem follow?_follows {outcomes : Nat → Nat → ItemEnd α} {name : String} {limit : Nat}
    {ss : List (PoolStep α)} (run : (ofLimit name limit).follow? ss = some p)
    (agree : ∀ step ∈ ss, step.Agrees outcomes) : p.Follows outcomes := by
  refine follow?_invariant
    (fun past p => (∀ step ∈ past, step.Agrees outcomes) → p.Follows outcomes) ?_ ?_ run agree
  · intro _ k i s e at'
    cases at'
  · intro past p step p' held move agree
    have before := held fun s mem => agree s (List.mem_append_left _ mem)
    exact before.move move (agree step (List.mem_append_right _ (List.mem_singleton.mpr rfl)))

/-! ## Sizes -/

/-- The numbers of items of all batches. -/
def sizes (p : Pool α) : List Nat := p.batches.map fun b => b.items.length

theorem sizes_same (batch : p.batches[k]? = some b) (batches : p'.batches = p.batches.set k b')
    (size : b'.items.length = b.items.length) : p'.sizes = p.sizes := by
  rw [sizes, sizes, batches, List.map_set]
  apply List.ext_getElem?
  intro j
  rw [List.getElem?_set]
  split
  · rename_i here
    subst here
    have bound := (List.getElem?_eq_some_iff.mp batch).1
    rw [List.getElem?_map, batch, List.length_map, if_pos bound, Option.map_some, size]
  · rfl

theorem Move.sizes (move : p.Move p' step) : p'.sizes = p.sizes ++ step.size?.toList := by
  cases move.effect with
  | submit size batches free =>
    rw [Pool.sizes, Pool.sizes, batches, List.map_append]
    simp [PoolStep.size?, Batch.ofSize]
  | item goes batch item batches items outputs result free =>
    rw [sizes_same batch batches (by rw [items, List.length_set])]
    cases goes <;> simp [PoolStep.size?]
  | look batch batches items inside outputs result free =>
    rw [sizes_same batch batches (by rw [items])]
    simp [PoolStep.size?]
  | report batch batches items outputs unreported reported free =>
    rw [sizes_same batch batches (by rw [items])]
    simp [PoolStep.size?]

theorem follow?_sizes {name : String} {limit : Nat} {ss : List (PoolStep α)}
    (run : (ofLimit name limit).follow? ss = some p) : ss.filterMap PoolStep.size? = p.sizes := by
  refine follow?_invariant (fun past p => past.filterMap PoolStep.size? = p.sizes) rfl ?_ run
  intro past p step p' held move
  rw [move.sizes, ← held, List.filterMap_append]
  congr 1

/-! ## Progress -/

theorem Move.stepsLeft_lt (move : p.Move p' step) (inner : step.size? = none) :
    p'.stepsLeft < p.stepsLeft := by
  -- Only one batch changes, and it comes nearer to its report.
  have nearer : ∀ {k : Nat} {b b' : Batch α}, p.batches[k]? = some b →
      p'.batches = p.batches.set k b' → b'.stepsLeft < b.stepsLeft → p'.stepsLeft < p.stepsLeft := by
    intro k b b' batch batches less
    have total := sum_map_set batch Batch.stepsLeft b'
    rw [stepsLeft, batches, stepsLeft]
    omega
  cases move.effect with
  | submit size batches free => cases inner
  | @item _ _ _ _ _ _ s' goes batch item batches items outputs result free =>
    apply nearer batch batches
    have total := sum_map_set item ItemState.stepsLeft s'
    have less := goes.stepsLeft_lt
    rw [Batch.stepsLeft, Batch.stepsLeft, items, outputs, result, List.length_set]
    omega
  | look batch batches items inside outputs result free =>
    apply nearer batch batches
    rw [Batch.stepsLeft, Batch.stepsLeft, items, outputs, result]
    omega
  | report batch batches items outputs unreported reported free =>
    apply nearer batch batches
    rw [Batch.stepsLeft, Batch.stepsLeft, items, outputs, unreported, if_pos reported]
    simp

theorem length_le_stepsLeft {ss : List (PoolStep α)} (run : p.follow? ss = some p')
    (inner : ∀ step ∈ ss, step.size? = none) : ss.length ≤ p.stepsLeft := by
  induction ss generalizing p with
  | nil => exact Nat.zero_le _
  | cons step ss inductionHypothesis =>
    cases taken : p.step? step with
    | none =>
      rw [follow?, taken] at run
      cases run
    | some next =>
      simp only [follow?, taken] at run
      have rest := inductionHypothesis run fun s mem => inner s (List.mem_cons_of_mem _ mem)
      have less := (step?_move taken).stepsLeft_lt (inner step List.mem_cons_self)
      rw [List.length_cons]
      omega

theorem count_eq_zero {q : ItemState α → Bool}
    (none : ∀ k i s, p.item? k i = some s → q s = false) : p.count q = 0 := by
  rw [count_eq, List.countP_eq_zero]
  intro s mem
  obtain ⟨k, i, item⟩ := mem_items.mp mem
  rw [none k i s item]
  exact Bool.false_ne_true

/-- As long as a batch is not reported some step is possible, however its items are to end. -/
theorem exists_step (places : p.Places) (positive : 0 < p.status.maxConcurrent)
    (outcomes : Nat → Nat → ItemEnd α) (batch : p.batches[k]? = some b) (unreported : b.result = none) :
    ∃ step, step.size? = none ∧ step.Agrees outcomes ∧ (p.step? step).isSome = true := by
  -- Whoever has left its task can go on, and whoever is inside can end.
  by_cases leaving : ∃ k i e entries, p.item? k i = some (.leaving e entries)
  · obtain ⟨k, i, e, entries, item⟩ := leaving
    refine ⟨.settle k i, rfl, trivial, ?_⟩
    cases entries <;> simp only [step?, item, Option.isSome_some]
  by_cases running : ∃ k i, p.item? k i = some .running
  · obtain ⟨k, i, item⟩ := running
    refine ⟨.finish k i (outcomes k i), rfl, rfl, ?_⟩
    simp only [step?, item]
    split <;> rfl
  by_cases waiting : ∃ k i, p.item? k i = some .waiting
  · -- No item has a place, so all places are free.
    have untaken : p.count ItemState.isPlaced = 0 := by
      apply count_eq_zero
      intro k i s item
      cases s with
      | waiting | ended e => rfl
      | running => exact absurd ⟨k, i, item⟩ running
      | leaving e entries => exact absurd ⟨k, i, e, entries, item⟩ leaving
    have room : 0 < p.free := by
      rw [Places, untaken] at places
      omega
    obtain ⟨k, i, item⟩ := waiting
    refine ⟨.start k i, rfl, trivial, ?_⟩
    simp only [step?, item, if_pos room, Option.isSome_some]
  · -- All items have ended, so the batch can look at one or report.
    have closed : b.isOver = true := by
      apply List.all_eq_true.mpr
      intro s mem
      obtain ⟨i, item⟩ := List.mem_iff_getElem?.mp mem
      have here := item?_eq_some.mpr ⟨b, batch, item⟩
      cases s with
      | ended e => rfl
      | waiting => exact absurd ⟨k, i, here⟩ waiting
      | running => exact absurd ⟨k, i, here⟩ running
      | leaving e entries => exact absurd ⟨k, i, e, entries, here⟩ leaving
    refine ⟨.join k, rfl, trivial, ?_⟩
    simp only [step?, batch, closed, unreported, Option.isNone_none, Bool.and_self, if_true,
      Option.isSome_some]

/-! ## Reports under every schedule -/

theorem follow?_append {first second : List (PoolStep α)} {p'' : Pool α}
    (run : p.follow? first = some p') (more : p'.follow? second = some p'') :
    p.follow? (first ++ second) = some p'' := by
  induction first generalizing p with
  | nil =>
    cases run
    exact more
  | cons step first inductionHypothesis =>
    cases taken : p.step? step with
    | none =>
      rw [follow?, taken] at run
      cases run
    | some next =>
      simp only [follow?, taken] at run
      simp only [List.cons_append, follow?, taken]
      exact inductionHypothesis run

/-- In every run of a pool, and however tasks end: no more items than the limit are inside their
    tasks; no task is entered twice; if a batch is reported, then each of its tasks was entered,
    and the report is the list of all values in order, or else lists the items without a value in
    order, each once and with its own message.  If no more batches come in, a run can be
    continued by so many steps only, and one that cannot be continued has reported all batches. -/
theorem follow?_reports (name : String) (limit : Nat) (outcomes : Nat → Nat → ItemEnd α)
    {ss : List (PoolStep α)} {p : Pool α} (run : (ofLimit name limit).follow? ss = some p)
    (agree : ∀ step ∈ ss, step.Agrees outcomes) :
    p.count ItemState.isRunning ≤ max limit 1 ∧
    (∀ k i, ss.countP (PoolStep.isStart k i) ≤ 1) ∧
    (∀ k n r, (ss.filterMap PoolStep.size?)[k]? = some n → p.result? k = some r →
      (∀ i, ss.countP (PoolStep.isStart k i) = if i < n then 1 else 0) ∧
      (∀ values, (∀ i < n, outcomes k i = .value (values i)) → r = .ok ((List.range n).map values)) ∧
      ((∃ i < n, ∀ x, outcomes k i ≠ .value x) → ∃ failures, r = .error ⟨n, failures⟩ ∧
        failures.Pairwise (fun f g => f.index < g.index) ∧
        ∀ f, f ∈ failures ↔ f.index < n ∧ (outcomes k f.index).message? = some f.message)) ∧
    (∀ more p', (∀ step ∈ more, step.size? = none) → p.follow? more = some p' →
      more.length ≤ p.stepsLeft ∧
      ((∀ step, step.size? = none → step.Agrees outcomes → p'.step? step = none) →
        ∀ k n, (ss.filterMap PoolStep.size?)[k]? = some n → (p'.result? k).isSome = true)) := by
  obtain ⟨places, limited⟩ := follow?_places run
  refine ⟨?_, ?_, ?_, ?_⟩
  · have inside := count_isRunning_le p
    rw [Places] at places
    omega
  · intro k i
    rw [follow?_starts run, starts]
    cases p.item? k i with
    | none => exact Nat.zero_le 1
    | some s => exact Bool.toNat_le _
  · intro k n r size result
    obtain ⟨b, batch, reported⟩ := Option.bind_eq_some_iff.mp result
    rw [follow?_sizes run, sizes, List.getElem?_map, batch, Option.map_some,
      Option.some.injEq] at size
    subst size
    have kept := follow?_kept run k b batch
    have follows : b.Follows (outcomes k) := by
      intro i s e item ended
      exact follow?_follows run agree k i s e (item?_eq_some.mpr ⟨b, batch, item⟩) ended
    refine ⟨?_, fun values => kept.report_values follows reported,
      kept.report_failures follows reported⟩
    intro i
    rw [follow?_starts run, starts, item?, batch, Option.bind_some]
    split
    · rename_i inside
      have item := List.getElem?_eq_getElem inside
      obtain ⟨e, ended⟩ := Batch.getElem?_of_isOver (kept.reported r reported).1 item
      rw [item, ended]
      rfl
    · rw [List.getElem?_eq_none (by omega)]
      rfl
  · intro more p' inner continued
    refine ⟨length_le_stepsLeft continued inner, ?_⟩
    intro stuck k n size
    have whole := follow?_append run continued
    obtain ⟨places, limited⟩ := follow?_places whole
    have noMore : more.filterMap PoolStep.size? = [] := List.filterMap_eq_nil_iff.mpr inner
    have sizes := follow?_sizes whole
    rw [List.filterMap_append, noMore, List.append_nil] at sizes
    rw [sizes, Pool.sizes, List.getElem?_map] at size
    obtain ⟨b, batch, -⟩ := Option.map_eq_some_iff.mp size
    rw [result?, batch, Option.bind_some]
    cases reported : b.result with
    | some r => rfl
    | none =>
      obtain ⟨step, inner, agrees, possible⟩ :=
        exists_step places (by omega) outcomes batch reported
      rw [stuck step inner agrees] at possible
      cases possible

/-- Two batches share two places.  The first item of one breaks off after the second has failed;
    the other batch has a value. -/
theorem follow?_reports_mixed :
    let outcomes : Nat → Nat → ItemEnd Nat := fun k i =>
      if k = 1 then .value 7 else if i = 0 then .panic "lost" else if i = 1 then .error "late"
      else .value i
    let steps : List (PoolStep Nat) :=
      [.submit 3, .submit 1, .start 0 1, .start 1 0] ++ PoolStep.ending 0 1 (.error "late")
        ++ [.start 0 0, .finish 0 0 (.panic "lost"), .start 0 2]
        ++ PoolStep.ending 1 0 (.value 7) ++ PoolStep.ending 0 2 (.value 2)
        ++ PoolStep.joining 1 1 ++ PoolStep.joining 0 3
    ∃ p, (ofLimit "pool" 2).follow? steps = some p ∧ (∀ step ∈ steps, step.Agrees outcomes) ∧
      p.result? 1 = some (.ok [7]) ∧
      ∃ failures, p.result? 0 = some (.error ⟨3, failures⟩) ∧
        failures.Pairwise (fun f g => f.index < g.index) ∧
        ∀ f, f ∈ failures ↔ f.index < 3 ∧ (outcomes 0 f.index).message? = some f.message := by
  intro outcomes steps
  have agree : ∀ step ∈ steps, step.Agrees outcomes := by decide +kernel
  have ended : ((ofLimit "pool" 2).follow? steps).map
      (fun p => [(p.result? 0).isSome, (p.result? 1).isSome]) = some [true, true] := by
    decide +kernel
  obtain ⟨p, run, results⟩ := Option.map_eq_some_iff.mp ended
  rw [List.cons.injEq, List.cons.injEq, Option.isSome_iff_exists, Option.isSome_iff_exists] at results
  obtain ⟨⟨r, first⟩, ⟨r', second⟩, -⟩ := results
  obtain ⟨-, -, reports, -⟩ := follow?_reports "pool" 2 outcomes run agree
  obtain ⟨-, -, failed⟩ := reports 0 3 r (by decide +kernel) first
  obtain ⟨-, succeeded, -⟩ := reports 1 1 r' (by decide +kernel) second
  obtain ⟨failures, rfl, sorted, listed⟩ := failed ⟨0, by decide, by intro x; simp [outcomes]⟩
  rw [succeeded (fun _ => 7) (by decide +kernel)] at second
  exact ⟨p, run, agree, second, failures, first, sorted, listed⟩

end Pool

end Compositor
