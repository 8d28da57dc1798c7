import Compositor.Proofs.Traffic.Courses

/-! # Each task in its turn

The tasks of a batch act on a state that they share, and in which order is up to the course that
the pool takes.  There is such an order, though: each task acts once, on what those before it have
left behind (`Pool.Batched.ran`).
-/

namespace Compositor

variable {α τ σ : Type}

/-- How the task of this item ends with the step. -/
def PoolStep.endOf? (k i : Nat) : PoolStep α → Option (ItemEnd α)
  | finish k' i' e => if k = k' ∧ i = i' then some e else none
  | submit _ | start _ _ | settle _ _ | join _ => none

namespace Pool

variable {task : τ → σ → ItemEnd α × σ} {items : List τ} {k i : Nat} {p p' : Pool α} {w w' : σ}
  {step : PoolStep α} {e : ItemEnd α}

/-! ## Ends -/

/-- How the task of an item has ended. -/
def endOf? (p : Pool α) (k i : Nat) : Option (ItemEnd α) := (p.item? k i).bind ItemState.end?

/-- A task that ends with a step had not ended before, and the others have ended as before. -/
theorem Move.endOf? (move : p.Move p' step) (k i : Nat) :
    p'.endOf? k i = (p.endOf? k i).or (step.endOf? k i) ∧
      (step.endOf? k i = none ∨ p.endOf? k i = none) := by
  cases move.effect with
  | submit size batches free =>
    refine ⟨?_, .inl rfl⟩
    rw [PoolStep.endOf?, Option.or_none, Pool.endOf?, Pool.endOf?, item?_submit batches]
    split
    · rename_i new
      rw [item?, List.getElem?_eq_none (by omega)]
      rfl
    · rfl
  | @item _ k' i' _ _ _ _ goes batch item batches items outputs result free =>
    have old := item?_eq_some.mpr ⟨_, batch, item⟩
    rw [Pool.endOf?, Pool.endOf?, item?_change batch item batches items]
    split
    · rename_i here
      obtain ⟨rfl, rfl⟩ := here
      rw [old]
      cases goes <;> simp [ItemState.end?, PoolStep.endOf?]
    · rename_i elsewhere
      have none : step.endOf? k i = none := by
        cases goes with
        | start | enter | leave => rfl
        | finish | breakOff => exact if_neg elsewhere
      rw [none, Option.or_none]
      exact ⟨rfl, .inl rfl⟩
  | look batch batches items inside outputs result free =>
    rw [Pool.endOf?, Pool.endOf?, item?_same batch batches items, PoolStep.endOf?, Option.or_none]
    exact ⟨rfl, .inl rfl⟩
  | report batch batches items outputs unreported reported free =>
    rw [Pool.endOf?, Pool.endOf?, item?_same batch batches items, PoolStep.endOf?, Option.or_none]
    exact ⟨rfl, .inl rfl⟩

/-! ## Orders -/

/-- Tasks act one after the other, each of which ends as it is said. -/
inductive Ran (task : τ → σ → ItemEnd α × σ) (items : List τ) :
    List (Nat × ItemEnd α) → σ → σ → Prop where
  | nil (w : σ) : Ran task items [] w w
  | cons {i : Nat} {x : τ} {done : List (Nat × ItemEnd α)} {w w' : σ} (item : items[i]? = some x)
    (rest : Ran task items done (task x w).2 w') :
    Ran task items ((i, (task x w).1) :: done) w w'

/-- How a task has ended does not change. -/
theorem Course.endOf? (course : Course task items k p w p' w') (ended : p.endOf? k i = some e) :
    p'.endOf? k i = some e := by
  induction course with
  | refl => exact ended
  | step _ taken _ inductionHypothesis | finish _ taken _ inductionHypothesis =>
    refine inductionHypothesis ?_
    rw [((step?_move taken).endOf? k i).1, ended, Option.some_or]

/-- The tasks that end in a course act one after the other. -/
theorem Course.ran (course : Course task items k p w p' w') :
    ∃ done, Ran task items done w w' ∧ (done.map Prod.fst).Nodup ∧
      ∀ i e, (i, e) ∈ done ↔ p.endOf? k i = none ∧ p'.endOf? k i = some e := by
  induction course with
  | refl p w =>
    refine ⟨[], .nil w, List.nodup_nil, fun i e => ⟨(absurd · List.not_mem_nil), fun both => ?_⟩⟩
    cases both.1.symm.trans both.2
  | @step p p₁ p' w w' step quiet taken rest inductionHypothesis =>
    obtain ⟨done, ran, distinct, mem⟩ := inductionHypothesis
    refine ⟨done, ran, distinct, fun i e => ?_⟩
    have none : step.endOf? k i = none := by
      cases step with
      | finish k' i' e' =>
        refine if_neg ?_
        rintro ⟨rfl, rfl⟩
        exact quiet i e' rfl
      | submit | start | settle | join => rfl
    have same := ((step?_move taken).endOf? k i).1
    rw [none, Option.or_none] at same
    rw [mem, same]
  | @finish p p₁ p' w w' i x item taken rest inductionHypothesis =>
    obtain ⟨done, ran, distinct, mem⟩ := inductionHypothesis
    -- The task had not ended before this step, and the rest of the course leaves it alone.
    have here := (step?_move taken).endOf? k i
    rw [PoolStep.endOf?, if_pos ⟨rfl, rfl⟩] at here
    have before : p.endOf? k i = none := here.2.resolve_left (Option.some_ne_none _)
    have ended : p₁.endOf? k i = some (task x w).1 := by rw [here.1, before, Option.none_or]
    refine ⟨(i, (task x w).1) :: done, .cons item ran, ?_, fun j e => ?_⟩
    · refine List.nodup_cons.mpr ⟨fun again => ?_, distinct⟩
      obtain ⟨⟨j, e⟩, among, rfl⟩ := List.mem_map.mp again
      cases ((mem j e).mp among).1.symm.trans ended
    · rw [List.mem_cons, mem, Prod.mk.injEq]
      by_cases same : j = i
      · subst same
        rw [before, ended, rest.endOf? ended]
        simp [eq_comm]
      · have others := ((step?_move taken).endOf? k j).1
        rw [PoolStep.endOf?, if_neg fun both => same both.2, Option.or_none] at others
        simp [same, others]

/-- In a batch that is reported each task has acted once.  If it has no failure, each of them has
    ended with a value. -/
theorem Batched.ran {r : Except BatchError (List α)} (batched : Batched task items p w p' w' r) :
    ∃ done, Ran task items done w w' ∧ (done.map Prod.fst).Perm (List.range items.length) ∧
      ∀ values, r = .ok values → ∀ i e, (i, e) ∈ done → ∃ x, e = .value x := by
  obtain ⟨b, batch, kept, size, result⟩ := batched.exists_batch
  obtain ⟨started, submitted, course⟩ := batched.course
  obtain ⟨done, ran, distinct, mem⟩ := course.ran
  have unended (i : Nat) : started.endOf? p.batches.length i = none := by
    rw [endOf?, Option.bind_eq_none_iff]
    exact fun s item => Batched.end?_of_submit submitted item
  have item (i : Nat) : p'.item? p.batches.length i = b.items[i]? := by
    rw [item?, batch, Option.bind_some]
  have ended (i : Nat) : (∃ e, p'.endOf? p.batches.length i = some e) ↔ i < items.length := by
    rw [← size]
    constructor
    · rintro ⟨e, ended⟩
      obtain ⟨s, there, -⟩ := Option.bind_eq_some_iff.mp ended
      exact (List.getElem?_eq_some_iff.mp ((item i).symm.trans there)).1
    · intro inside
      have there := List.getElem?_eq_getElem inside
      obtain ⟨e, finished⟩ := Batch.getElem?_of_isOver (kept.reported r result).1 there
      exact ⟨e, by rw [endOf?, item, there, finished]; rfl⟩
  refine ⟨done, ran, ?_, ?_⟩
  · refine (List.perm_ext_iff_of_nodup distinct List.nodup_range).mpr fun i => ?_
    rw [List.mem_range, ← ended]
    constructor
    · intro among
      obtain ⟨⟨_, e⟩, here, rfl⟩ := List.mem_map.mp among
      exact ⟨e, ((mem _ e).mp here).2⟩
    · rintro ⟨e, finished⟩
      exact List.mem_map.mpr ⟨(i, e), (mem i e).mpr ⟨unended i, finished⟩, rfl⟩
  · rintro values rfl i e among
    have finished := ((mem i e).mp among).2
    have follows : b.Follows fun i => (p'.endOf? p.batches.length i).getD (.error "") := by
      intro i s e there ended
      simp only [Pool.endOf?, item, there, Option.bind_some, ended, Option.getD_some]
    obtain ⟨x, value⟩ := kept.value_of_ok follows result (size ▸ (ended i).mp ⟨e, finished⟩)
    rw [finished, Option.getD_some] at value
    exact ⟨x, value⟩

end Pool

end Compositor
