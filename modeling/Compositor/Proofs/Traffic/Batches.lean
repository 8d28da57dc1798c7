import Compositor.Proofs.Traffic.Moves

/-! # What a batch reports

The items of a batch put their failures on one list, in the order in which they come to it, and
the batch adds those of the items that broke off when it looks at them.  `Batch.Kept` relates
that list and the values to the items, whatever the order of the steps; when the batch reports,
the report depends on nothing but how each item ended.
-/

namespace Compositor

variable {α : Type}

/-! ## Lists of failures -/

/-- The list has one failure for each position with a message, and no others. -/
structure Lists (failures : List ItemFailure) (messages : Nat → Option String) : Prop where
  mem : ∀ f, f ∈ failures ↔ messages f.index = some f.message
  nodup : (failures.map ItemFailure.index).Nodup

theorem Lists.append {failures new : List ItemFailure} {messages messages' : Nat → Option String}
    {i : Nat} (lists : Lists failures messages) (others : ∀ j, j ≠ i → messages' j = messages j)
    (added : (new = [] ∧ messages' i = messages i) ∨
      ∃ m, new = [⟨i, m⟩] ∧ messages i = none ∧ messages' i = some m) :
    Lists (failures ++ new) messages' := by
  rcases added with ⟨rfl, same⟩ | ⟨m, rfl, before, after⟩
  · have equal : messages' = messages := by
      funext j
      by_cases here : j = i
      · rw [here, same]
      · exact others j here
    rw [List.append_nil, equal]
    exact lists
  · constructor
    · intro f
      rw [List.mem_append, List.mem_singleton, lists.mem]
      by_cases here : f.index = i
      · rw [here, before, after, Option.some.injEq]
        constructor
        · rintro (none | rfl)
          · cases none
          · rfl
        · rintro rfl
          exact .inr (by rw [← here])
      · rw [others _ here]
        constructor
        · rintro (listed | rfl)
          · exact listed
          · exact absurd rfl here
        · exact .inl
    · rw [List.map_append, List.nodup_append]
      refine ⟨lists.nodup, List.pairwise_singleton _ _, ?_⟩
      intro index mem other single
      obtain ⟨f, listed, rfl⟩ := List.mem_map.mp mem
      rw [List.mem_singleton.mp single]
      rintro rfl
      rw [(lists.mem f).mp listed] at before
      cases before

/-! ## Items -/

namespace ItemState

/-- How the task of the item ended. -/
def end? : ItemState α → Option (ItemEnd α)
  | leaving e _ | ended e => some e
  | waiting | running => none

/-- The item has ended. -/
def isEnded : ItemState α → Bool
  | ended _ => true
  | _ => false

/-- What is on the batch's list about the item, which the batch may have looked at. -/
def listed? (looked : Bool) : ItemState α → Option String
  | leaving (.error message) [] | ended (.error message) => some message
  | ended (.panic message) => if looked then some ("task panicked: " ++ message) else none
  | _ => none

/-- The entries that are left are the last ones of a task that did not break off. -/
def IsProper : ItemState α → Prop
  | leaving e entries => e.isPanic = false ∧ entries <:+ e.entries
  | _ => True

theorem listed?_ended (e : ItemEnd α) : (ended e).listed? true = e.message? := by
  cases e <;> rfl

theorem listed?_ended_false {e : ItemEnd α} (whole : e.isPanic = false) (looked : Bool) :
    (ended e).listed? looked = e.message? := by
  cases e with
  | value x => rfl
  | error message => rfl
  | panic message => cases whole

end ItemState

/-- The next entry is on the way from the end of the task to the last entry. -/
theorem ItemEnd.entries_cases {e : ItemEnd α} {entry : PoolEntry} {entries : List PoolEntry}
    (left : entry :: entries <:+ e.entries) :
    (entry = .processed ∧ entry :: entries = e.entries) ∨
    (∃ message, e = .error message ∧ entry = .failed ∧ entries = [.failure message]) ∨
    ∃ message, e = .error message ∧ entry = .failure message ∧ entries = [] := by
  cases e with
  | value x => simpa [ItemEnd.entries, List.suffix_cons_iff] using left
  | error message => simpa [ItemEnd.entries, List.suffix_cons_iff] using left
  | panic message => simp [ItemEnd.entries] at left

/-! ## Batches -/

namespace Batch

variable {b : Batch α} {i : Nat} {s s' : ItemState α} {e : ItemEnd α}

/-- What is on the list about the item at a position. -/
def listedAt (b : Batch α) (i : Nat) : Option String :=
  b.items[i]?.bind (ItemState.listed? (decide (i < b.outputs.length)))

/-- The records of a batch belong to the states of its items. -/
structure Kept (b : Batch α) : Prop where
  proper : ∀ (i : Nat) (s : ItemState α), b.items[i]? = some s → s.IsProper
  lists : Lists b.failures b.listedAt
  looked : ∀ (i : Nat) (x : Option α), b.outputs[i]? = some x →
    ∃ e : ItemEnd α, b.items[i]? = some (.ended e) ∧ x = e.value?
  closed : b.outputs ≠ [] → b.isOver = true
  reported : ∀ r, b.result = some r →
    b.isOver = true ∧ b.items.length ≤ b.outputs.length ∧ r = b.report

theorem ofSize_kept (size : Nat) : (ofSize size : Batch α).Kept where
  proper := by
    intro i s item
    rw [ofSize, List.getElem?_replicate] at item
    split at item
    · cases item
      trivial
    · cases item
  lists := by
    constructor
    · intro f
      simp only [ofSize, listedAt, List.getElem?_replicate]
      split <;> simp [ItemState.listed?]
    · exact List.nodup_nil
  looked := by
    intro i x looked
    cases looked
  closed := fun some => absurd rfl some
  reported := by
    intro r reported
    cases reported

namespace Kept

/-- As long as an item has not ended, the batch has looked at none. -/
theorem outputs_eq_nil (kept : b.Kept) (item : b.items[i]? = some s) (active : s.isEnded = false) :
    b.outputs = [] ∧ b.result = none := by
  have open' : b.isOver ≠ true := by
    intro closed
    obtain ⟨e, rfl⟩ := getElem?_of_isOver closed item
    cases active
  constructor
  · exact Decidable.byContradiction fun looked => open' (kept.closed looked)
  · cases result : b.result with
    | none => rfl
    | some r => exact absurd (kept.reported r result).1 open'

/-- An item that has not ended goes on, and may put its failure on the list. -/
theorem change {new : List ItemFailure} (kept : b.Kept) (item : b.items[i]? = some s)
    (active : s.isEnded = false) (proper : s'.IsProper)
    (added : (new = [] ∧ s'.listed? false = s.listed? false) ∨
      ∃ m, new = [⟨i, m⟩] ∧ s.listed? false = none ∧ s'.listed? false = some m) :
    Kept { b with items := b.items.set i s', failures := b.failures ++ new } := by
  obtain ⟨noOutputs, noResult⟩ := kept.outputs_eq_nil item active
  have bound := (List.getElem?_eq_some_iff.mp item).1
  constructor
  · intro j state at'
    rw [List.getElem?_set] at at'
    split at at'
    · cases at'
      exact proper
    · exact kept.proper j state at'
  · apply kept.lists.append (i := i)
    · intro j different
      simp only [listedAt, List.getElem?_set, if_neg (Ne.symm different)]
    · have before : b.listedAt i = s.listed? false := by
        rw [listedAt, item, noOutputs]
        rfl
      have after : listedAt { b with items := b.items.set i s', failures := b.failures ++ new } i =
          s'.listed? false := by
        simp only [listedAt, List.getElem?_set_self bound, noOutputs]
        rfl
      rw [before, after]
      exact added
  · intro j x looked
    rw [noOutputs] at looked
    cases looked
  · intro looked
    exact absurd noOutputs looked
  · intro r reported
    rw [noResult] at reported
    cases reported

theorem setItem (kept : b.Kept) (item : b.items[i]? = some s) (active : s.isEnded = false)
    (proper : s'.IsProper) (same : s'.listed? false = s.listed? false) : (b.setItem i s').Kept := by
  have next := kept.change item active proper (.inl ⟨rfl, same⟩)
  rwa [List.append_nil] at next

/-- When all items have ended, the batch looks at the next one, and may put its failure on the
    list. -/
theorem look {new : List ItemFailure} (kept : b.Kept) (closed : b.isOver = true)
    (item : b.items[b.outputs.length]? = some (.ended e))
    (added : (new = [] ∧ (ItemState.ended e).listed? true = (ItemState.ended e).listed? false) ∨
      ∃ m, new = [⟨b.outputs.length, m⟩] ∧ (ItemState.ended e).listed? false = none ∧
        (ItemState.ended e).listed? true = some m) :
    Kept { b with failures := b.failures ++ new, outputs := b.outputs ++ [e.value?] } := by
  constructor
  · exact kept.proper
  · apply kept.lists.append (i := b.outputs.length)
    · intro j different
      have same : (j < b.outputs.length + 1) ↔ j < b.outputs.length := by omega
      simp only [listedAt, List.length_append, List.length_singleton, same]
    · simpa [listedAt, item] using added
  · intro j x looked
    rw [List.getElem?_append] at looked
    split at looked
    · exact kept.looked j x looked
    · rw [List.getElem?_singleton] at looked
      split at looked
      · cases looked
        have here : j = b.outputs.length := by omega
        exact ⟨e, here ▸ item, rfl⟩
      · cases looked
  · exact fun _ => closed
  · intro r reported
    have bound := (List.getElem?_eq_some_iff.mp item).1
    have all := (kept.reported r reported).2.1
    omega

theorem withReport (kept : b.Kept) (closed : b.isOver = true) (all : b.items.length ≤ b.outputs.length) :
    Kept { b with result := some b.report } where
  proper := kept.proper
  lists := kept.lists
  looked := kept.looked
  closed := kept.closed
  reported := by
    intro r reported
    cases reported
    exact ⟨closed, all, rfl⟩

end Kept

/-! ## Reports -/

/-- The items of the batch end in no other way than this. -/
def Follows (ends : Nat → ItemEnd α) (b : Batch α) : Prop :=
  ∀ (i : Nat) (s : ItemState α) (e : ItemEnd α), b.items[i]? = some s → s.end? = some e → e = ends i

variable {ends : Nat → ItemEnd α} {r : Except BatchError (List α)}

theorem Kept.listedAt_eq (kept : b.Kept) (follows : b.Follows ends) (result : b.result = some r)
    (i : Nat) : b.listedAt i = if i < b.items.length then (ends i).message? else none := by
  obtain ⟨closed, all, -⟩ := kept.reported r result
  by_cases inside : i < b.items.length
  · have item := List.getElem?_eq_getElem inside
    obtain ⟨e, ended⟩ := getElem?_of_isOver closed item
    rw [ended] at item
    have looked : i < b.outputs.length := by omega
    rw [if_pos inside, listedAt, item, Option.bind_some, decide_eq_true looked,
      ItemState.listed?_ended, follows i _ e item rfl]
  · rw [if_neg inside, listedAt, List.getElem?_eq_none (by omega), Option.bind_none]

theorem Kept.outputs_eq (kept : b.Kept) (follows : b.Follows ends) (result : b.result = some r) :
    b.outputs = (List.range b.items.length).map fun i => (ends i).value? := by
  obtain ⟨-, all, -⟩ := kept.reported r result
  have within : b.outputs.length ≤ b.items.length := by
    apply Nat.le_of_not_lt
    intro beyond
    obtain ⟨e, item, -⟩ := kept.looked _ _ (List.getElem?_eq_getElem beyond)
    have bound := (List.getElem?_eq_some_iff.mp item).1
    omega
  apply List.ext_getElem
  · rw [List.length_map, List.length_range]
    omega
  · intro i inside _
    obtain ⟨e, item, value⟩ := kept.looked i _ (List.getElem?_eq_getElem inside)
    rw [value, follows i _ e item rfl, List.getElem_map, List.getElem_range]

/-- The failures of a report are in the order of the items, each at most once. -/
theorem Kept.sorted (kept : b.Kept) :
    (b.failures.mergeSort fun f g => decide (f.index ≤ g.index)).Pairwise
      fun f g => f.index < g.index := by
  have ascending : (b.failures.mergeSort fun f g => decide (f.index ≤ g.index)).Pairwise
      fun f g => decide (f.index ≤ g.index) = true :=
    List.pairwise_mergeSort (by simpa using fun _ _ _ => Nat.le_trans)
      (by simpa using fun _ _ => Nat.le_total _ _) b.failures
  have apart : (b.failures.mergeSort fun f g => decide (f.index ≤ g.index)).Pairwise
      fun f g => f.index ≠ g.index := by
    rw [← List.pairwise_map]
    exact ((List.mergeSort_perm _ _).map _).nodup_iff.mpr kept.lists.nodup
  refine ascending.imp₂ ?_ apart
  intro f g le ne
  have := of_decide_eq_true le
  omega

theorem Kept.report_values (kept : b.Kept) (follows : b.Follows ends) (result : b.result = some r)
    {values : Nat → α} (success : ∀ i < b.items.length, ends i = .value (values i)) :
    r = .ok ((List.range b.items.length).map values) := by
  obtain ⟨-, -, rfl⟩ := kept.reported r result
  have clean : b.failures = [] := by
    apply List.eq_nil_iff_forall_not_mem.mpr
    intro f mem
    have listed := (kept.lists.mem f).mp mem
    rw [kept.listedAt_eq follows result] at listed
    split at listed
    · rename_i inside
      rw [success f.index inside] at listed
      cases listed
    · cases listed
  have outputs : b.outputs = ((List.range b.items.length).map values).map some := by
    rw [kept.outputs_eq follows result, List.map_map]
    apply List.map_congr_left
    intro i mem
    rw [success i (List.mem_range.mp mem)]
    rfl
  rw [Batch.report, clean, outputs, List.filterMap_map]
  exact congrArg Except.ok List.filterMap_some

theorem Kept.report_failures (kept : b.Kept) (follows : b.Follows ends) (result : b.result = some r)
    (failure : ∃ i < b.items.length, ∀ x, ends i ≠ .value x) :
    ∃ failures, r = .error ⟨b.items.length, failures⟩ ∧
      failures.Pairwise (fun f g => f.index < g.index) ∧
      ∀ f, f ∈ failures ↔ f.index < b.items.length ∧ (ends f.index).message? = some f.message := by
  obtain ⟨-, -, rfl⟩ := kept.reported r result
  have listed : ∀ f, f ∈ b.failures ↔
      f.index < b.items.length ∧ (ends f.index).message? = some f.message := by
    intro f
    rw [kept.lists.mem, kept.listedAt_eq follows result]
    split
    · rename_i inside
      exact ⟨fun told => ⟨inside, told⟩, And.right⟩
    · rename_i outside
      exact ⟨fun none => (by cases none), fun told => absurd told.1 outside⟩
  refine ⟨_, ?_, kept.sorted, ?_⟩
  · obtain ⟨i, inside, noValue⟩ := failure
    obtain ⟨message, told⟩ : ∃ message, (ends i).message? = some message := by
      cases ended : ends i with
      | value x => exact absurd ended (noValue x)
      | error message => exact ⟨message, rfl⟩
      | panic message => exact ⟨_, rfl⟩
    have some' : b.failures ≠ [] :=
      List.ne_nil_of_mem ((listed ⟨i, message⟩).mpr ⟨inside, told⟩)
    rw [Batch.report]
    split
    · rename_i none
      exact absurd none some'
    · rfl
  · intro f
    rw [List.mem_mergeSort]
    exact listed f

end Batch

/-! ## Moves keep the records -/

namespace Pool

variable {p p' : Pool α} {s : PoolStep α}

/-- The records of all batches belong to the states of their items. -/
def Kept (p : Pool α) : Prop := ∀ (k : Nat) (b : Batch α), p.batches[k]? = some b → b.Kept

theorem of_getElem?_set {holds : Nat → Batch α → Prop} {batches : List (Batch α)} {k : Nat}
    {new : Batch α} (old : ∀ j b, batches[j]? = some b → holds j b) (held : holds k new) :
    ∀ j b, (batches.set k new)[j]? = some b → holds j b := by
  intro j b batch
  rw [List.getElem?_set] at batch
  split at batch
  · rename_i here
    split at batch
    · cases batch
      exact here ▸ held
    · cases batch
  · exact old j b batch

theorem of_getElem?_concat {holds : Nat → Batch α → Prop} {batches : List (Batch α)}
    {new : Batch α} (old : ∀ j b, batches[j]? = some b → holds j b)
    (held : holds batches.length new) : ∀ j b, (batches ++ [new])[j]? = some b → holds j b := by
  intro j b batch
  rw [List.getElem?_append] at batch
  split at batch
  · exact old j b batch
  · rw [List.getElem?_singleton] at batch
    split at batch
    · cases batch
      have here : j = batches.length := by omega
      exact here ▸ held
    · cases batch

theorem Kept.move (kept : p.Kept) (move : p.Move p' s) : p'.Kept := by
  cases move with
  | submit size _ _ batches =>
    rw [Kept, batches]
    exact of_getElem?_concat kept (Batch.ofSize_kept size)
  | start batch item room _ _ batches =>
    rw [Kept, batches]
    exact of_getElem?_set kept ((kept _ _ batch).setItem item rfl trivial rfl)
  | @finish k i b e batch item whole _ _ batches =>
    rw [Kept, batches]
    refine of_getElem?_set kept ((kept _ _ batch).setItem item rfl ⟨whole, List.suffix_rfl⟩ ?_)
    cases e with
    | value x | error message => rfl
    | panic message => cases whole
  | @breakOff k i b e batch item broken _ _ batches =>
    rw [Kept, batches]
    refine of_getElem?_set kept ((kept _ _ batch).setItem item rfl trivial ?_)
    cases e with
    | value x | error message => cases broken
    | panic message => rfl
  | @enter k i b e entry entries batch item _ _ batches =>
    rw [Kept, batches]
    have keptBatch := kept _ _ batch
    obtain ⟨whole, left⟩ := keptBatch.proper _ _ item
    have proper : (ItemState.leaving e entries).IsProper :=
      ⟨whole, (List.suffix_cons entry entries).trans left⟩
    -- The last entry of an item that failed puts its message on the list.
    rcases ItemEnd.entries_cases left with
      ⟨rfl, whole⟩ | ⟨message, rfl, rfl, rfl⟩ | ⟨message, rfl, rfl, rfl⟩
    · refine of_getElem?_set kept (keptBatch.setItem item rfl proper ?_)
      cases e with
      | value x => rfl
      | error message => cases whole; rfl
      | panic message => cases whole
    · exact of_getElem?_set kept (keptBatch.setItem item rfl proper rfl)
    · exact of_getElem?_set kept (keptBatch.change item rfl proper (.inr ⟨message, rfl, rfl, rfl⟩))
  | @leave k i b e batch item _ _ batches =>
    rw [Kept, batches]
    have keptBatch := kept _ _ batch
    obtain ⟨whole, -⟩ := keptBatch.proper _ _ item
    refine of_getElem?_set kept (keptBatch.setItem item rfl trivial ?_)
    cases e with
    | value x | error message => rfl
    | panic message => cases whole
  | @look k b e batch closed item whole _ _ batches =>
    rw [Kept, batches]
    have same := (ItemState.listed?_ended_false whole true).trans
      (ItemState.listed?_ended_false whole false).symm
    have next := (kept _ _ batch).look closed item (.inl ⟨rfl, same⟩)
    rw [List.append_nil] at next
    exact of_getElem?_set kept next
  | lookBroken batch closed item _ _ batches =>
    rw [Kept, batches]
    exact of_getElem?_set kept ((kept _ _ batch).look closed item (.inr ⟨_, rfl, rfl, rfl⟩))
  | report batch closed all unreported _ _ batches =>
    rw [Kept, batches]
    exact of_getElem?_set kept ((kept _ _ batch).withReport closed all)

theorem follow?_kept {name : String} {limit : Nat} {ss : List (PoolStep α)}
    (run : (ofLimit name limit).follow? ss = some p) : p.Kept :=
  follow?_invariant (fun _ p => p.Kept) (fun _ _ batch => by cases batch) Kept.move run

end Pool

end Compositor
