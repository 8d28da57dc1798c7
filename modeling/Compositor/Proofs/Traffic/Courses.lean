import Compositor.Proofs.Traffic.Schedules
import Mathlib.Data.List.Sort

/-! # Batches of tasks that act

The tasks of a batch act on a state that they share.  A `Pool.Course` is any sequence of steps of
a pool in which each task of a batch acts when it ends and ends as its action says; other batches
may be under way.

What the state is like when the batch is reported follows from what each task does and from what
the others leave alone (`Course.ends`).  If no task has an influence on how another one ends, the
report is the same in every course.  Running the tasks in turn is one of the courses.
-/

namespace Compositor

variable {α : Type}

/-! ## The same ends, the same report -/

namespace Batch

variable {b b' : Batch α} {ends : Nat → ItemEnd α} {r r' : Except BatchError (List α)}

/-- The failures of a batch by position. -/
def byPosition (b : Batch α) : List ItemFailure :=
  b.failures.mergeSort fun f g => decide (f.index ≤ g.index)

theorem mem_byPosition {f : ItemFailure} : f ∈ b.byPosition ↔ f ∈ b.failures := List.mem_mergeSort

theorem report_eq (b : Batch α) : b.report =
    if b.byPosition = [] then .ok (b.outputs.filterMap id)
    else .error ⟨b.items.length, b.byPosition⟩ := by
  have none : b.byPosition = [] ↔ b.failures = [] := by
    rw [← List.length_eq_zero_iff, byPosition, List.length_mergeSort, List.length_eq_zero_iff]
  rw [report, byPosition] at *
  split
  · rename_i clean
    rw [if_pos (none.mpr clean)]
  · rename_i failures some
    rw [if_neg fun clean => some (none.mp clean)]

/-- The report of a batch is determined by how its items end. -/
theorem Kept.report_unique (kept : b.Kept) (kept' : b'.Kept) (follows : b.Follows ends)
    (follows' : b'.Follows ends) (sizes : b'.items.length = b.items.length)
    (result : b.result = some r) (result' : b'.result = some r') : r' = r := by
  have outputs : b'.outputs = b.outputs := by
    rw [kept'.outputs_eq follows' result', kept.outputs_eq follows result, sizes]
  have antisymm : Std.Antisymm fun f g : ItemFailure => f.index < g.index :=
    ⟨fun f g before after => absurd before (Nat.lt_asymm after)⟩
  have irrefl : Std.Irrefl fun f g : ItemFailure => f.index < g.index :=
    ⟨fun f => Nat.lt_irrefl f.index⟩
  have failures : b'.byPosition = b.byPosition := by
    refine kept'.sorted.eq_of_mem_iff kept.sorted fun f => ?_
    refine (mem_byPosition (b := b')).trans (.trans ?_ mem_byPosition.symm)
    rw [kept'.lists.mem, kept.lists.mem, kept'.listedAt_eq follows' result',
      kept.listedAt_eq follows result, sizes]
  obtain ⟨-, -, rfl⟩ := kept.reported r result
  obtain ⟨-, -, rfl⟩ := kept'.reported r' result'
  rw [report_eq, report_eq, outputs, failures, sizes]

/-- In a batch that reports values all items have one. -/
theorem Kept.value_of_ok {values : List α} (kept : b.Kept) (follows : b.Follows ends)
    (result : b.result = some (.ok values)) {i : Nat} (inside : i < b.items.length) :
    ∃ x, ends i = .value x := by
  by_contra none
  obtain ⟨failures, failed, -⟩ :=
    kept.report_failures follows result ⟨i, inside, fun x value => none ⟨x, value⟩⟩
  cases failed

theorem Kept.values_eq {values : List α} (kept : b.Kept) (follows : b.Follows ends)
    (result : b.result = some (.ok values)) :
    values.map .value = (List.range b.items.length).map ends := by
  have report := (kept.reported _ result).2.2
  rw [report_eq] at report
  split at report
  · cases report
    rw [kept.outputs_eq follows result, List.filterMap_map, List.map_filterMap,
      ← List.filterMap_eq_map]
    refine List.filterMap_congr fun i mem => ?_
    obtain ⟨x, value⟩ := kept.value_of_ok follows result (List.mem_range.mp mem)
    simp only [Function.comp_apply, id_eq, value, ItemEnd.value?, Option.map_some]
  · cases report

end Batch

namespace Pool

variable {τ σ : Type} {task : τ → σ → ItemEnd α × σ} {items : List τ} {k : Nat}
  {p p' p'' : Pool α} {w w' w'' : σ}

/-! ## Courses -/

/-- The pool goes on, and the tasks of a batch act when they end. -/
inductive Course (task : τ → σ → ItemEnd α × σ) (items : List τ) (k : Nat) :
    Pool α → σ → Pool α → σ → Prop where
  | refl (p : Pool α) (w : σ) : Course task items k p w p w
  /-- A step with which no task of the batch ends. -/
  | step {p p' p'' : Pool α} {w w' : σ} {step : PoolStep α} (quiet : ∀ i e, step ≠ .finish k i e)
      (taken : p.step? step = some p') (rest : Course task items k p' w p'' w') :
    Course task items k p w p'' w'
  | finish {p p' p'' : Pool α} {w w' : σ} {i : Nat} {x : τ} (item : items[i]? = some x)
      (taken : p.step? (.finish k i (task x w).1) = some p')
      (rest : Course task items k p' (task x w).2 p'' w') : Course task items k p w p'' w'

/-- What each task of a batch brings about, and no other one undoes, as long as something is so
    that they all keep. -/
structure Lasts (task : τ → σ → ItemEnd α × σ) (items : List τ) (invariant : σ → Prop)
    (holds : Nat → ItemEnd α → σ → Prop) : Prop where
  keep : ∀ x ∈ items, ∀ w, invariant w → invariant (task x w).2
  made : ∀ i x w, items[i]? = some x → invariant w → holds i (task x w).1 (task x w).2
  kept : ∀ i e j x w, j ≠ i → items[j]? = some x → invariant w → holds i e w →
    holds i e (task x w).2

namespace Course

theorem trans (first : Course task items k p w p' w') (second : Course task items k p' w' p'' w'') :
    Course task items k p w p'' w'' := by
  induction first with
  | refl => exact second
  | step quiet taken _ inductionHypothesis => exact .step quiet taken (inductionHypothesis second)
  | finish item taken _ inductionHypothesis => exact .finish item taken (inductionHypothesis second)

theorem follow (course : Course task items k p w p' w') : ∃ ss, p.follow? ss = some p' := by
  induction course with
  | refl => exact ⟨[], rfl⟩
  | step _ taken _ inductionHypothesis | finish _ taken _ inductionHypothesis =>
    obtain ⟨ss, run⟩ := inductionHypothesis
    exact ⟨_ :: ss, by rw [follow?, taken]; exact run⟩

/-- A course on a state is a course on a part of it if the tasks act on that part alone. -/
theorem map {σ' : Type} {task' : τ → σ' → ItemEnd α × σ'} (part : σ → σ')
    (same : ∀ x w, (task x w).1 = (task' x (part w)).1 ∧ part (task x w).2 = (task' x (part w)).2)
    (course : Course task items k p w p' w') :
    Course task' items k p (part w) p' (part w') := by
  induction course with
  | refl => exact .refl _ _
  | step quiet taken _ inductionHypothesis => exact .step quiet taken inductionHypothesis
  | @finish p p' p'' w w' i x item taken _ inductionHypothesis =>
    rw [(same x w).2] at inductionHypothesis
    rw [(same x w).1] at taken
    exact .finish item taken inductionHypothesis

/-- What all tasks keep is kept. -/
theorem keeps {holds : σ → Prop} (keep : ∀ x ∈ items, ∀ w, holds w → holds (task x w).2)
    (course : Course task items k p w p' w') (held : holds w) : holds w' := by
  induction course with
  | refl => exact held
  | step _ _ _ inductionHypothesis => exact inductionHypothesis held
  | finish item _ _ inductionHypothesis =>
    exact inductionHypothesis (keep _ (List.mem_of_getElem? item) _ held)

/-- What a task brings about when it ends is so in the end. -/
theorem ends {invariant : σ → Prop} {holds : Nat → ItemEnd α → σ → Prop}
    (lasts : Lasts task items invariant holds) (course : Course task items k p w p' w')
    (held : invariant w)
    (start : ∀ i s e, p.item? k i = some s → s.end? = some e → holds i e w) :
    ∀ i s e, p'.item? k i = some s → s.end? = some e → holds i e w' := by
  induction course with
  | refl => exact start
  | step quiet taken _ inductionHypothesis =>
    refine inductionHypothesis held fun i s e item ended => ?_
    rcases (step?_move taken).end? item ended with finish | ⟨s, before, ended⟩
    · exact absurd finish (quiet i e)
    · exact start i s e before ended
  | @finish p p' p'' w w' j x item taken rest inductionHypothesis =>
    refine inductionHypothesis (lasts.keep x (List.mem_of_getElem? item) w held) ?_
    intro i s e here ended
    rcases (step?_move taken).end? here ended with finish | ⟨s, before, ended⟩
    · cases finish
      exact lasts.made j x w item held
    · refine lasts.kept i e j x w ?_ item held (start i s e before ended)
      -- The task that ends with the step had not ended before.
      rintro rfl
      simp only [step?, before] at taken
      cases s with
      | waiting | running => cases ended
      | leaving e entries | ended e => cases taken

theorem sizes (course : Course task items k p w p' w') : ∃ later, p'.sizes = p.sizes ++ later := by
  induction course with
  | refl => exact ⟨[], (List.append_nil _).symm⟩
  | step _ taken _ inductionHypothesis | finish _ taken _ inductionHypothesis =>
    obtain ⟨later, sizes⟩ := inductionHypothesis
    rw [(step?_move taken).sizes, List.append_assoc] at sizes
    exact ⟨_, sizes⟩

end Course

/-! ## Reports -/

/-- The pool has come about by steps. -/
def Reachable (p : Pool α) : Prop :=
  ∃ name limit, ∃ past : List (PoolStep α), (ofLimit name limit).follow? past = some p

theorem Reachable.follow {ss : List (PoolStep α)} (reachable : p.Reachable)
    (run : p.follow? ss = some p') : p'.Reachable := by
  obtain ⟨name, limit, past, before⟩ := reachable
  exact ⟨name, limit, past ++ ss, follow?_append before run⟩

theorem Reachable.step {step : PoolStep α} (reachable : p.Reachable)
    (taken : p.step? step = some p') : p'.Reachable :=
  reachable.follow (show p.follow? [step] = some p' by simp only [follow?, taken])

theorem Reachable.kept (reachable : p.Reachable) : p.Kept := by
  obtain ⟨name, limit, past, run⟩ := reachable
  exact follow?_kept run

/-- A batch comes in, and its tasks act. -/
structure Batched (task : τ → σ → ItemEnd α × σ) (items : List τ) (before : Pool α) (w : σ)
    (after : Pool α) (w' : σ) (r : Except BatchError (List α)) : Prop where
  reachable : before.Reachable
  course : ∃ p, before.step? (.submit items.length) = some p ∧
    Course task items before.batches.length p w after w'
  reported : after.result? before.batches.length = some r

namespace Batched

variable {r : Except BatchError (List α)}

theorem map {σ' : Type} {task' : τ → σ' → ItemEnd α × σ'} (part : σ → σ')
    (same : ∀ x w, (task x w).1 = (task' x (part w)).1 ∧ part (task x w).2 = (task' x (part w)).2)
    (batched : Batched task items p w p' w' r) :
    Batched task' items p (part w) p' (part w') r := by
  obtain ⟨reachable, ⟨started, submitted, course⟩, reported⟩ := batched
  exact ⟨reachable, ⟨started, submitted, course.map part same⟩, reported⟩

theorem keeps {holds : σ → Prop} (batched : Batched task items p w p' w' r)
    (keep : ∀ x ∈ items, ∀ w, holds w → holds (task x w).2) (held : holds w) : holds w' := by
  obtain ⟨_, _, course⟩ := batched.course
  exact course.keeps keep held

/-- The batch is in the pool, with an item for each task. -/
theorem exists_batch (batched : Batched task items p w p' w' r) :
    ∃ b : Batch α, p'.batches[p.batches.length]? = some b ∧ b.Kept ∧
      b.items.length = items.length ∧ b.result = some r := by
  obtain ⟨started, submitted, course⟩ := batched.course
  obtain ⟨b, batch, result⟩ := Option.bind_eq_some_iff.mp batched.reported
  obtain ⟨ss, run⟩ := course.follow
  refine ⟨b, batch, ((batched.reachable.step submitted).follow run).kept _ _ batch, ?_, result⟩
  obtain ⟨later, sizes⟩ := course.sizes
  rw [(step?_move submitted).sizes, List.append_assoc] at sizes
  have length : p.sizes.length = p.batches.length := List.length_map ..
  have size : p'.sizes[p.batches.length]? = some items.length := by
    rw [sizes, ← length, List.getElem?_append_right (Nat.le_refl _), Nat.sub_self]
    rfl
  rw [Pool.sizes, List.getElem?_map, batch] at size
  exact Option.some.inj size

/-- When it comes in, no item of the batch has ended. -/
theorem end?_of_submit {started : Pool α} {i : Nat} {s : ItemState α}
    (submitted : p.step? (.submit items.length) = some started)
    (item : started.item? p.batches.length i = some s) : s.end? = none := by
  cases submitted
  rw [item?_submit rfl] at item
  split at item
  · cases item
    rfl
  · rw [item?, List.getElem?_eq_none (Nat.le_refl _)] at item
    cases item

/-- When the batch is reported, what the tasks that ended have brought about is so. -/
theorem ends {invariant : σ → Prop} {holds : Nat → ItemEnd α → σ → Prop}
    (batched : Batched task items p w p' w' r) (lasts : Lasts task items invariant holds)
    (held : invariant w) :
    ∃ b : Batch α, b.Kept ∧ b.items.length = items.length ∧ b.result = some r ∧
      ∀ (i : Nat) (s : ItemState α) (e : ItemEnd α), b.items[i]? = some s → s.end? = some e →
        holds i e w' := by
  obtain ⟨b, batch, kept, size, result⟩ := batched.exists_batch
  obtain ⟨started, submitted, course⟩ := batched.course
  refine ⟨b, kept, size, result, fun i s e item ended => ?_⟩
  refine course.ends lasts held (fun i s e item ended => ?_) i s e
    (item?_eq_some.mpr ⟨b, batch, item⟩) ended
  cases (end?_of_submit submitted item).symm.trans ended

/-- All tasks have ended by then. -/
theorem each {invariant : σ → Prop} {holds : Nat → ItemEnd α → σ → Prop}
    (batched : Batched task items p w p' w' r) (lasts : Lasts task items invariant holds)
    (held : invariant w) {i : Nat} (inside : i < items.length) : ∃ e, holds i e w' := by
  obtain ⟨b, kept, size, result, ends⟩ := batched.ends lasts held
  have item := List.getElem?_eq_getElem (size ▸ inside : i < b.items.length)
  obtain ⟨e, ended⟩ := Batch.getElem?_of_isOver (kept.reported r result).1 item
  exact ⟨e, ends i _ e (item.trans (congrArg some ended)) rfl⟩

/-- If no task has an influence on how another one ends, all items end as they would alone. -/
theorem follows {invariant : σ → Prop} {outcome : τ → ItemEnd α}
    (batched : Batched task items p w p' w' r)
    (keep : ∀ x ∈ items, ∀ w, invariant w → invariant (task x w).2)
    (same : ∀ x ∈ items, ∀ w, invariant w → (task x w).1 = outcome x) (held : invariant w) :
    ∃ b : Batch α, b.Kept ∧ b.items.length = items.length ∧ b.result = some r ∧
      b.Follows fun i => (items[i]?.map outcome).getD (.error "") := by
  have lasts : Lasts task items invariant fun i e _ =>
      e = (items[i]?.map outcome).getD (.error "") := by
    refine ⟨keep, fun i x w item held => ?_, fun _ _ _ _ _ _ _ _ ended => ended⟩
    rw [item, Option.map_some, Option.getD_some, same x (List.mem_of_getElem? item) w held]
  exact batched.ends lasts held

/-- Then every course comes to the same report. -/
theorem report_unique {q q' : Pool α} {v : σ} {r' : Except BatchError (List α)}
    {invariant : σ → Prop} {outcome : τ → ItemEnd α}
    (batched : Batched task items p w p' w' r) (batched' : Batched task items q w q' v r')
    (keep : ∀ x ∈ items, ∀ w, invariant w → invariant (task x w).2)
    (same : ∀ x ∈ items, ∀ w, invariant w → (task x w).1 = outcome x) (held : invariant w) :
    r' = r := by
  obtain ⟨b, kept, size, result, follows⟩ := batched.follows keep same held
  obtain ⟨b', kept', size', result', follows'⟩ := batched'.follows keep same held
  exact kept.report_unique kept' follows follows' (size'.trans size.symm) result result'

/-- Values are reported only if all tasks have one. -/
theorem values_eq {values : List α} {invariant : σ → Prop} {outcome : τ → ItemEnd α}
    (batched : Batched task items p w p' w' (.ok values))
    (keep : ∀ x ∈ items, ∀ w, invariant w → invariant (task x w).2)
    (same : ∀ x ∈ items, ∀ w, invariant w → (task x w).1 = outcome x) (held : invariant w) :
    values.map .value = items.map outcome := by
  obtain ⟨b, kept, size, result, follows⟩ := batched.follows keep same held
  rw [kept.values_eq follows result, size]
  refine List.ext_getElem (by rw [List.length_map, List.length_map, List.length_range]) ?_
  intro i _ inside
  rw [List.length_map] at inside
  simp only [List.getElem_map, List.getElem_range, List.getElem?_eq_getElem inside,
    Option.map_some, Option.getD_some]

end Batched

/-! ## One task after another -/

end Pool

/-- The item that a step changes. -/
def PoolStep.place? : PoolStep α → Option (Nat × Nat)
  | start k i | finish k i _ | settle k i => some (k, i)
  | submit _ | join _ => none

theorem ItemState.Goes.place? {k i : Nat} {step : PoolStep α} {s s' : ItemState α}
    (goes : ItemState.Goes k i step s s') : step.place? = some (k, i) := by
  cases goes <;> rfl

namespace Pool

variable {τ σ : Type} {task : τ → σ → ItemEnd α × σ} {items : List τ} {k : Nat}
  {p p' : Pool α} {w w' : σ}

theorem steps_of_follow? {ss : List (PoolStep α)} (run : p.follow? ss = some p') :
    p.steps ss = p' := by
  induction ss generalizing p with
  | nil => exact Option.some.inj run
  | cons s ss inductionHypothesis =>
    cases taken : p.step? s with
    | none => simp [follow?, taken] at run
    | some next =>
      simp only [follow?, taken] at run
      rw [steps, List.foldl_cons, taken, Option.getD_some]
      exact inductionHypothesis run

theorem Course.of_follow? {ss : List (PoolStep α)}
    (quiet : ∀ step ∈ ss, ∀ i e, step ≠ .finish k i e) (run : p.follow? ss = some p') :
    Course task items k p w p' w := by
  induction ss generalizing p with
  | nil =>
    cases run
    exact .refl _ _
  | cons s ss inductionHypothesis =>
    cases taken : p.step? s with
    | none => simp [follow?, taken] at run
    | some next =>
      simp only [follow?, taken] at run
      exact .step (quiet s List.mem_cons_self) taken
        (inductionHypothesis (fun step mem => quiet step (List.mem_cons_of_mem _ mem)) run)

variable {i : Nat} {b : Batch α} {e : ItemEnd α} {s s' : ItemState α} {step : PoolStep α}

/-- One item of a batch has come to a state, and nothing else in the batch has changed. -/
def Becomes (p' : Pool α) (k i : Nat) (b : Batch α) (s : ItemState α) : Prop :=
  ∃ b', p'.batches[k]? = some b' ∧ b'.items = b.items.set i s ∧ b'.outputs = b.outputs ∧
    b'.result = b.result

theorem Becomes.trans {b₁ : Batch α} (items : b₁.items = b.items.set i s)
    (outputs : b₁.outputs = b.outputs) (result : b₁.result = b.result)
    (next : p.Becomes k i b₁ s') : p.Becomes k i b s' := by
  obtain ⟨b₂, batch, items', outputs', result'⟩ := next
  exact ⟨b₂, batch, by rw [items', items, List.set_set], outputs'.trans outputs,
    result'.trans result⟩

/-- A step of an item changes that item. -/
theorem Effect.becomes (effect : p.Effect p' step) (own : step.place? = some (k, i))
    (batch : p.batches[k]? = some b) (state : b.items[i]? = some s) :
    ∃ s', ItemState.Goes k i step s s' ∧ p'.Becomes k i b s' ∧
      p'.free + s'.isPlaced.toNat = p.free + s.isPlaced.toNat := by
  cases effect with
  | submit | look | report => cases own
  | @item _ k' i' b₁ b' s₁ s' goes batch' state' batches items outputs result free =>
    have place := goes.place?
    rw [own] at place
    obtain ⟨rfl, rfl⟩ := Prod.mk.inj (Option.some.inj place)
    obtain rfl := Option.some.inj (batch.symm.trans batch')
    obtain rfl := Option.some.inj (state.symm.trans state')
    have bound := (List.getElem?_eq_some_iff.mp batch).1
    exact ⟨s', goes, ⟨b', by rw [batches, List.getElem?_set_self bound], items, outputs, result⟩, free⟩

/-- A step of an item that is possible changes it. -/
theorem exists_goes (step : PoolStep α) (own : step.place? = some (k, i)) (batch : p.batches[k]? = some b)
    (state : b.items[i]? = some s) (possible : (p.step? step).isSome = true) :
    ∃ next s', p.step? step = some next ∧ ItemState.Goes k i step s s' ∧ next.Becomes k i b s' ∧
      next.free + s'.isPlaced.toNat = p.free + s.isPlaced.toNat := by
  obtain ⟨next, taken⟩ := Option.isSome_iff_exists.mp possible
  obtain ⟨s', goes, becomes, free⟩ := (step?_move taken).effect.becomes own batch state
  exact ⟨next, s', taken, goes, becomes, free⟩

/-- An item that has left its task makes its entries and gives its place back. -/
theorem exists_settled {entries : List PoolEntry} (batch : p.batches[k]? = some b)
    (state : b.items[i]? = some (.leaving e entries)) :
    ∃ p', p.follow? (List.replicate (entries.length + 1) (.settle k i)) = some p' ∧
      p'.free = p.free + 1 ∧ p'.Becomes k i b (.ended e) := by
  have inside := (List.getElem?_eq_some_iff.mp state).1
  have item := item?_eq_some.mpr ⟨b, batch, state⟩
  induction entries generalizing p b with
  | nil =>
    obtain ⟨next, s', taken, goes, becomes, free⟩ :=
      exists_goes (.settle k i) rfl batch state (by simp [step?, item])
    cases goes
    exact ⟨next, by simp [follow?, taken], by simpa [ItemState.isPlaced] using free, becomes⟩
  | cons entry entries inductionHypothesis =>
    obtain ⟨next, s', taken, goes, becomes, free⟩ :=
      exists_goes (.settle k i) rfl batch state (by simp [step?, item])
    cases goes
    obtain ⟨b₁, batch₁, items, outputs, result⟩ := becomes
    have state₁ : b₁.items[i]? = some (.leaving e entries) := by
      rw [items, List.getElem?_set_self inside]
    obtain ⟨p', run, free', becomes⟩ :=
      inductionHypothesis batch₁ state₁ (by rwa [items, List.length_set])
        (item?_eq_some.mpr ⟨b₁, batch₁, state₁⟩)
    refine ⟨p', ?_, ?_, becomes.trans items outputs result⟩
    · rw [List.length_cons, List.replicate_succ, follow?, taken]
      exact run
    · rw [free', Nat.add_right_cancel free]

/-- A task that has its turn runs from its start to its end. -/
theorem exists_turn {x : τ} (item : items[i]? = some x) (batch : p.batches[k]? = some b)
    (state : b.items[i]? = some .waiting) (room : 0 < p.free) (w : σ) :
    ∃ p', Course task items k p w p' (task x w).2 ∧
      p.follow? (.start k i :: PoolStep.ending k i (task x w).1) = some p' ∧
      p'.free = p.free ∧ p'.Becomes k i b (.ended (task x w).1) := by
  have inside := (List.getElem?_eq_some_iff.mp state).1
  obtain ⟨p₁, s₁, started, goes, becomes, free⟩ := exists_goes (.start k i) rfl batch state
    (by simp [step?, item?_eq_some.mpr ⟨b, batch, state⟩, room])
  cases goes
  obtain ⟨b₁, batch₁, items₁, outputs₁, result₁⟩ := becomes
  have state₁ : b₁.items[i]? = some .running := by rw [items₁, List.getElem?_set_self inside]
  obtain ⟨p₂, s₂, finished, goes, becomes, free'⟩ :=
    exists_goes (.finish k i (task x w).1) rfl batch₁ state₁ (by
      simp only [step?, item?_eq_some.mpr ⟨b₁, batch₁, state₁⟩]
      split <;> rfl)
  have opening : ∀ {p' : Pool α}, Course task items k p₂ (task x w).2 p' (task x w).2 →
      Course task items k p w p' (task x w).2 := fun rest =>
    .step (fun _ _ equal => by cases equal) started (.finish item finished rest)
  cases goes with
  | breakOff broken =>
    refine ⟨p₂, opening (.refl _ _), ?_, ?_, becomes.trans items₁ outputs₁ result₁⟩
    · simp [follow?, PoolStep.ending, broken, started, finished]
    · simp only [ItemState.isPlaced, Bool.toNat_true, Bool.toNat_false] at free free'
      omega
  | finish whole =>
    obtain ⟨b₂, batch₂, items₂, outputs₂, result₂⟩ := becomes
    have state₂ : b₂.items[i]? = some (.leaving (task x w).1 (task x w).1.entries) := by
      rw [items₂, List.getElem?_set_self (by rwa [items₁, List.length_set])]
    obtain ⟨p₃, settled, free'', becomes⟩ := exists_settled batch₂ state₂
    refine ⟨p₃, opening (.of_follow? (fun step mem => ?_) settled), ?_, ?_,
      (becomes.trans items₂ outputs₂ result₂).trans items₁ outputs₁ result₁⟩
    · rw [List.eq_of_mem_replicate mem]
      exact fun _ _ equal => by cases equal
    · simpa [follow?, PoolStep.ending, whole, started, finished] using settled
    · simp only [ItemState.isPlaced, Bool.toNat_true, Bool.toNat_false] at free free'
      omega

/-- A batch whose items have all ended looks at the next one, or reports. -/
theorem exists_join (batch : p.batches[k]? = some b) (closed : b.isOver = true)
    (unreported : b.result = none) :
    ∃ next, p.step? (.join k) = some next ∧ next.free = p.free ∧
      ((b.items.length ≤ b.outputs.length ∧ (next.result? k).isSome = true) ∨
        (b.outputs.length < b.items.length ∧ ∃ b', next.batches[k]? = some b' ∧
          b'.items = b.items ∧ b'.outputs.length = b.outputs.length + 1 ∧ b'.result = none)) := by
  have bound := (List.getElem?_eq_some_iff.mp batch).1
  have taken : p.step? (.join k) = some (p.joinNext k b) := by
    simp [step?, batch, closed, unreported]
  have here : ∀ b', (p.batches.set k b')[k]? = some b' := fun _ => List.getElem?_set_self bound
  refine ⟨_, taken, ?_⟩
  cases joinNext_move batch closed unreported with
  | @look _ b₁ _ batch' _ item _ _ free batches | @lookBroken _ b₁ _ batch' _ item _ free batches =>
    obtain rfl := Option.some.inj (batch.symm.trans batch')
    have next := (congrArg (·[k]?) batches).trans (here _)
    exact ⟨free, .inr ⟨(List.getElem?_eq_some_iff.mp item).1, _, next, rfl, List.length_append,
      unreported⟩⟩
  | @report _ b₁ batch' _ all _ _ free batches =>
    obtain rfl := Option.some.inj (batch.symm.trans batch')
    refine ⟨free, .inl ⟨all, ?_⟩⟩
    rw [result?, batches, here]
    rfl

/-- A batch whose items have all ended looks at those that are left and reports. -/
theorem exists_joined {left : Nat} (batch : p.batches[k]? = some b) (closed : b.isOver = true)
    (unreported : b.result = none) (size : b.items.length = b.outputs.length + left) :
    ∃ p', p.follow? (List.replicate (left + 1) (.join k)) = some p' ∧ p'.free = p.free ∧
      (p'.result? k).isSome = true := by
  induction left generalizing p b with
  | zero =>
    obtain ⟨next, taken, free, ⟨-, reported⟩ | ⟨inside, -⟩⟩ := exists_join batch closed unreported
    · exact ⟨next, by simp [follow?, taken], free, reported⟩
    · omega
  | succ left inductionHypothesis =>
    obtain ⟨next, taken, free, ⟨all, -⟩ | ⟨-, b', batch', items, outputs, unreported'⟩⟩ :=
      exists_join batch closed unreported
    · omega
    · have closed' : b'.isOver = true := by rwa [Batch.isOver, items]
      obtain ⟨p', run, free', reported⟩ :=
        inductionHypothesis batch' closed' unreported' (by rw [items]; omega)
      refine ⟨p', ?_, free'.trans free, reported⟩
      rw [List.replicate_succ, follow?, taken]
      exact run

/-- Running the items that are left in turn, from a state in which those before them have ended,
    is a course to a report. -/
theorem exists_go {rest : List τ} {index : Nat} (behind : items.drop index = rest)
    (within : index ≤ items.length) (room : 0 < p.free) (batch : p.batches[k]? = some b)
    (size : b.items.length = items.length) (outputs : b.outputs = []) (unreported : b.result = none)
    (before : ∀ i < index, ∃ e, b.items[i]? = some (.ended e))
    (after : ∀ i, index ≤ i → i < items.length → b.items[i]? = some .waiting) (w : σ) :
    ∃ p' w', runInTurn.go task k p index w rest = (p', w') ∧ Course task items k p w p' w' ∧
      p'.free = p.free ∧ (p'.result? k).isSome = true := by
  induction rest generalizing p b index w with
  | nil =>
    have whole : index = items.length :=
      Nat.le_antisymm within (List.drop_eq_nil_iff.mp behind)
    have closed : b.isOver = true := by
      rw [Batch.isOver, List.all_eq_true]
      intro s mem
      obtain ⟨i, item⟩ := List.mem_iff_getElem?.mp mem
      have inside := (List.getElem?_eq_some_iff.mp item).1
      obtain ⟨e, ended⟩ := before i (by omega)
      cases item.symm.trans ended
      rfl
    obtain ⟨p', run, free, reported⟩ :=
      exists_joined batch closed unreported
        (show b.items.length = b.outputs.length + index by simp [outputs, size, whole])
    refine ⟨p', w, ?_, .of_follow? (fun step mem => ?_) run, free, reported⟩
    · rw [runInTurn.go, PoolStep.joining, steps_of_follow? run]
    · rw [List.eq_of_mem_replicate mem]
      exact fun _ _ equal => by cases equal
  | cons x rest inductionHypothesis =>
    have inside : index < items.length := by
      by_contra beyond
      rw [List.drop_of_length_le (Nat.le_of_not_lt beyond)] at behind
      cases behind
    have item : items[index]? = some x := by
      rw [← List.head?_drop, behind]
      rfl
    obtain ⟨p₁, course, run, free, b₁, batch₁, items₁, outputs₁, result₁⟩ :=
      exists_turn item batch (after index (Nat.le_refl _) inside) room w
    have before₁ : ∀ i < index + 1, ∃ e, b₁.items[i]? = some (.ended e) := by
      intro i early
      rw [items₁, List.getElem?_set]
      split
      · exact ⟨_, if_pos (by omega)⟩
      · exact before i (by omega)
    have after₁ : ∀ i, index + 1 ≤ i → i < items.length → b₁.items[i]? = some .waiting := by
      intro i late bound
      rw [items₁, List.getElem?_set_ne (by omega)]
      exact after i (by omega) bound
    obtain ⟨p', w', gone, more, free', reported⟩ := inductionHypothesis
      (by rw [← List.tail_drop, behind]; rfl) inside (free ▸ room) batch₁
      (by rw [items₁, List.length_set, size]) (outputs₁.trans outputs)
      (result₁.trans unreported) before₁ after₁ (task x w).2
    refine ⟨p', w', ?_, course.trans more, free'.trans free, reported⟩
    rw [runInTurn.go]
    simp only [steps_of_follow? run, gone]

/-- Running tasks in turn is one of the courses of a batch, in a pool with a free place. -/
theorem runInTurn_batched (task : τ → σ → ItemEnd α × σ) (reachable : p.Reachable)
    (room : 0 < p.free) (items : List τ) (w : σ) :
    ∃ r p' w', p.runInTurn task items w = (r, p', w') ∧ p'.free = p.free ∧
      Batched task items p w p' w' r := by
  obtain ⟨next, submitted, same, batches⟩ : ∃ next, p.step? (.submit items.length) = some next ∧
      next.free = p.free ∧ next.batches = p.batches ++ [.ofSize items.length] := ⟨_, rfl, rfl, rfl⟩
  have started : p.steps [.submit items.length] = next := by
    rw [steps, List.foldl_cons, List.foldl_nil, submitted, Option.getD_some]
  have batch : next.batches[p.batches.length]? = some (.ofSize items.length) := by
    rw [batches, List.getElem?_concat_length]
  have ran : ∃ p' w', runInTurn.go task p.batches.length next 0 w items = (p', w') ∧
      Course task items p.batches.length next w p' w' ∧ p'.free = next.free ∧
      (p'.result? p.batches.length).isSome = true :=
    exists_go List.drop_zero (Nat.zero_le _) (same ▸ room) batch List.length_replicate rfl rfl
      (fun i none => absurd none (Nat.not_lt_zero i))
      (fun i _ bound => List.getElem?_replicate_of_lt bound) w
  obtain ⟨p', w', gone, course, free, reported⟩ := ran
  obtain ⟨r, result⟩ := Option.isSome_iff_exists.mp reported
  refine ⟨r, p', w', ?_, free.trans same, reachable, ⟨_, submitted, course⟩, result⟩
  rw [runInTurn, started]
  simp only [gone, result, Option.getD_some]

end Pool

end Compositor
