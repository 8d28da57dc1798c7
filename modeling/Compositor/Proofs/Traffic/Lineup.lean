import Compositor.Proofs.Traffic.Window
import Mathlib.Data.List.Induction
import Mathlib.Data.List.Perm.Basic
import Mathlib.Data.List.Sort

/-! # No slot is wasted

Callers that are told to wait sleep until the call that was the oldest when they asked leaves
the window.  Several may be told the same; then they all wake together, one gets through, and
the others, like those that are overtaken by somebody new, have to ask again.

All the same, when callers get through depends on when they come and on nothing else.  The
`j`-th to get through does so when the `j`-th has come and the call that stands as many places
before as the limit has left the window (`slots`).  No sleeper sleeps longer than until then
(`Lineup.opens`): that is all that has to be known of who is told what.

Clocks are ideal: a sleeper wakes when it is to, and of the callers that are due at an instant
any may be the next.
-/

namespace Compositor.RateLimiter

/-! ## Slots -/

/-- The instant at which the call that stands as many places before the next one as the limit
    leaves the window, if there is such a call.  Calls are given latest first. -/
def opening (limit window : Nat) (granted : List Nat) : Option Nat :=
  granted[limit - 1]?.map (· + window)

/-- The earliest instant at which a caller that comes at `arrival` may get through after some
    calls. -/
def slot (limit window : Nat) (granted : List Nat) (arrival : Nat) : Nat :=
  match opening limit window granted with
  | none => arrival
  | some opens => max arrival opens

/-- The earliest instants at which callers may get through, latest first.  The callers are given
    in the order of their arrivals. -/
def slots (limit window : Nat) (arrivals : List Nat) : List Nat :=
  arrivals.foldl (fun granted arrival => slot limit window granted arrival :: granted) []

section Slots

variable {limit window now arrival g t i j : Nat} {granted arrivals : List Nat}

theorem slots_concat (limit window : Nat) (arrivals : List Nat) (arrival : Nat) :
    slots limit window (arrivals ++ [arrival]) =
      slot limit window (slots limit window arrivals) arrival :: slots limit window arrivals :=
  List.foldl_concat ..

theorem slots_length (limit window : Nat) (arrivals : List Nat) :
    (slots limit window arrivals).length = arrivals.length := by
  induction arrivals using List.reverseRecOn with
  | nil => rfl
  | append_singleton arrivals arrival ih =>
    rw [slots_concat, List.length_cons, ih, List.length_append, List.length_singleton]

/-- The slots of the callers that come first do not depend on those that come after them. -/
theorem slots_prefix (limit window : Nat) (first second : List Nat) :
    (slots limit window first).reverse <+: (slots limit window (first ++ second)).reverse := by
  induction second using List.reverseRecOn with
  | nil => simp
  | append_singleton second arrival ih =>
    rw [← List.append_assoc, slots_concat, List.reverse_cons]
    exact ih.trans (List.prefix_append _ _)

/-- The slot of the caller at a position. -/
theorem getElem?_slots (at_ : arrivals[j]? = some arrival) :
    (slots limit window arrivals).reverse[j]? =
      some (slot limit window (slots limit window (arrivals.take j)) arrival) := by
  obtain ⟨inside, rfl⟩ := List.getElem?_eq_some_iff.mp at_
  have early := slots_prefix limit window (arrivals.take (j + 1)) (arrivals.drop (j + 1))
  rw [List.take_append_drop, ← List.take_append_getElem inside, slots_concat,
    List.reverse_cons] at early
  obtain ⟨rest, whole⟩ := early
  have length : (slots limit window (arrivals.take j)).reverse.length = j := by
    rw [List.length_reverse, slots_length, List.length_take, Nat.min_eq_left (Nat.le_of_lt inside)]
  rw [← whole, List.append_assoc, List.getElem?_append_right (Nat.le_of_eq length), length,
    Nat.sub_self, List.singleton_append, List.getElem?_cons_zero]

/-- The first callers are let through when they come. -/
theorem slots_first (early : j < limit) :
    (slots limit window arrivals).reverse[j]? = arrivals[j]? := by
  cases at_ : arrivals[j]? with
  | none =>
    rw [List.getElem?_eq_none_iff] at at_ ⊢
    rwa [List.length_reverse, slots_length]
  | some arrival =>
    have short : (slots limit window (arrivals.take j)).length ≤ limit - 1 := by
      rw [slots_length, List.length_take]
      omega
    rw [getElem?_slots at_, slot, opening, List.getElem?_eq_none short]
    rfl

/-- A later one is let through when it has come and the call that stands as many places before
    as the limit has left the window. -/
theorem slots_later (positive : 0 < limit) (at_ : arrivals[j + limit]? = some arrival)
    (before : (slots limit window arrivals).reverse[j]? = some g) :
    (slots limit window arrivals).reverse[j + limit]? = some (max arrival (g + window)) := by
  have inside := (List.getElem?_eq_some_iff.mp at_).1
  have length : (slots limit window (arrivals.take (j + limit))).length = j + limit := by
    rw [slots_length, List.length_take, Nat.min_eq_left (Nat.le_of_lt inside)]
  have last : (slots limit window (arrivals.take (j + limit)))[limit - 1]? = some g := by
    obtain ⟨rest, whole⟩ :=
      slots_prefix limit window (arrivals.take (j + limit)) (arrivals.drop (j + limit))
    rw [List.take_append_drop] at whole
    rw [← whole, List.getElem?_append_left (by rw [List.length_reverse]; omega),
      List.getElem?_reverse (by omega), length] at before
    rwa [show j + limit - 1 - j = limit - 1 by omega] at before
  rw [getElem?_slots at_, slot, opening, last]
  rfl

end Slots

/-! ## Ascending lists -/

/-- In an ascending list the elements below a bound come first. -/
theorem getElem?_iff_lt_countP {l : List Nat} {a m : Nat} {p : Nat → Bool}
    (sorted : l.Pairwise (· ≤ ·)) (down : ∀ a b, a ≤ b → p b = true → p a = true)
    (at_ : l[m]? = some a) : p a = true ↔ m < l.countP p := by
  induction l generalizing m with
  | nil => cases at_
  | cons b l ih =>
    obtain ⟨least, rest⟩ := List.pairwise_cons.mp sorted
    have first : ∀ x ∈ b :: l, b ≤ x := by
      intro x mem
      rcases List.mem_cons.mp mem with rfl | mem
      · exact Nat.le_refl _
      · exact least x mem
    by_cases holds : p b = true
    · rw [List.countP_cons_of_pos holds]
      cases m with
      | zero =>
        cases at_
        exact iff_of_true holds (Nat.succ_pos _)
      | succ m => rw [ih rest at_, Nat.add_lt_add_iff_right]
    · have none : ∀ x ∈ b :: l, ¬ p x = true :=
        fun x mem above => holds (down b x (first x mem) above)
      rw [List.countP_eq_zero.mpr none]
      exact iff_of_false (none a (List.mem_of_getElem? at_)) (Nat.not_lt_zero m)

/-! ## What the limiter remembers -/

section Openings

variable {l : RateLimiter} {window limit now t oldest opens : Nat} {granted rest : List Nat}

/-- A call leaves the window no earlier than the calls before it. -/
theorem opening_cons (sorted : (t :: granted).Pairwise (· ≥ ·))
    (before : opening limit window granted = some opens) :
    ∃ later, opening limit window (t :: granted) = some later ∧ opens ≤ later := by
  obtain ⟨g, at_, rfl⟩ := Option.map_eq_some_iff.mp before
  obtain ⟨inside, rfl⟩ := List.getElem?_eq_some_iff.mp at_
  have inside' : limit - 1 < (t :: granted).length := Nat.lt_succ_of_lt inside
  have order := List.pairwise_iff_getElem.mp sorted (limit - 1) (limit - 1 + 1) inside'
    (Nat.succ_lt_succ inside) (Nat.lt_succ_self _)
  rw [List.getElem_cons_succ] at order
  refine ⟨_, by rw [opening, List.getElem?_eq_getElem inside', Option.map_some], ?_⟩
  exact Nat.add_le_add_right order window

/-- Nobody is let through before the window opens. -/
theorem Keeps.opened (keeps : l.Keeps (t :: granted).reverse now)
    (before : opening l.maxCalls l.window granted = some opens) : opens ≤ t := by
  obtain ⟨g, at_, rfl⟩ := Option.map_eq_some_iff.mp before
  obtain ⟨inside, -⟩ := List.getElem?_eq_some_iff.mp at_
  have positive := l.maxCalls_pos
  apply keeps.spaced (granted.length - l.maxCalls) g t
  · rw [List.getElem?_reverse (by rw [List.length_cons]; omega), List.length_cons,
      show granted.length + 1 - 1 - (granted.length - l.maxCalls) = l.maxCalls - 1 + 1 by omega,
      List.getElem?_cons_succ, at_]
  · rw [List.getElem?_reverse (by rw [List.length_cons]; omega), List.length_cons,
      show granted.length + 1 - 1 - (granted.length - l.maxCalls + l.maxCalls) = 0 by omega,
      List.getElem?_cons_zero]

/-- If the limiter is full, then its oldest call is the one that the window waits for. -/
theorem Keeps.opening_eq (keeps : l.Keeps granted.reverse now)
    (full : l.maxCalls ≤ (l.prune now).calls.length)
    (calls : (l.prune now).calls = oldest :: rest) :
    opening l.maxCalls l.window granted = some (now + (l.window - (now - oldest))) ∧
      now < now + (l.window - (now - oldest)) := by
  have size : (l.prune now).calls.length ≤ l.maxCalls := keeps.prune.bounded
  obtain ⟨forgotten, split, -⟩ := keeps.prune.kept
  rw [calls, List.length_cons] at full size
  rw [calls, List.reverse_eq_iff, List.reverse_append, List.reverse_cons, List.append_assoc,
    List.singleton_append] at split
  have near : oldest ∈ within l.window now granted.reverse := by
    rw [← keeps.prune_calls, calls]
    exact List.mem_cons_self
  have past := keeps.past oldest (List.mem_filter.mp near).1
  have close := of_decide_eq_true (List.mem_filter.mp near).2
  have at_ : granted[l.maxCalls - 1]? = some oldest := by
    rw [split, List.getElem?_append_right (by rw [List.length_reverse]; omega), List.length_reverse,
      show l.maxCalls - 1 - rest.length = 0 by omega, List.getElem?_cons_zero]
  refine ⟨?_, by omega⟩
  rw [opening, at_, Option.map_some, Option.some.injEq]
  omega

end Openings

namespace Crowd

/-! ## Moments -/

/-- What can happen. -/
inductive Event where
  /-- The caller at a position tries. -/
  | attempt (i : Nat)
  /-- Somebody asks how the limiter stands. -/
  | status (now : Nat)

/-- A crowd at an instant. -/
structure Moment where
  now : Nat
  crowd : Crowd

namespace Moment

/-- Callers that are to come at the given instants, and a limiter that has seen no call. -/
def start (limit window : Nat) (arrivals : List Nat) : Moment :=
  ⟨0, ofLimit limit window, arrivals, []⟩

/-- What happens next happens before any caller wakes, or is a caller that wakes first.  Time does
    not go back. -/
def step? (m : Moment) : Event → Option Moment
  | .attempt i =>
    match m.crowd.wakes[i]? with
    | none => none
    | some now =>
      if ∀ t ∈ m.crowd.wakes, now ≤ t then some ⟨now, m.crowd.serve i⟩ else none
  | .status now =>
    if m.now ≤ now ∧ ∀ t ∈ m.crowd.wakes, now ≤ t then
      some ⟨now, { m.crowd with limiter := (m.crowd.limiter.status now).2 }⟩
    else none

/-- The moment after some events, if they can happen. -/
def follow? (m : Moment) : List Event → Option Moment
  | [] => some m
  | e :: events => (m.step? e).bind fun m => m.follow? events

end Moment

/-- How often callers try. -/
def attempts (events : List Event) : Nat :=
  events.countP fun
    | .attempt _ => true
    | .status _ => false

theorem attempts_cons (e : Event) (events : List Event) :
    attempts (e :: events) = attempts [e] + attempts events :=
  @List.countP_append _ _ [e] events

variable {c : Crowd} {m m' : Moment} {e : Event} {i t : Nat}

theorem Moment.step?_attempt_iff : m.step? (.attempt i) = some m' ↔
    ∃ t, m.crowd.wakes[i]? = some t ∧ (∀ u ∈ m.crowd.wakes, t ≤ u) ∧ m' = ⟨t, m.crowd.serve i⟩ := by
  rw [step?]
  split
  · rename_i none
    simp only [none, reduceCtorEq, false_and, exists_false]
  · rename_i now at_
    simp only [at_, Option.some.injEq, Option.ite_none_right_eq_some, exists_eq_left',
      eq_comm (a := m')]

theorem Moment.step?_status_iff {now : Nat} : m.step? (.status now) = some m' ↔
    (m.now ≤ now ∧ ∀ t ∈ m.crowd.wakes, now ≤ t) ∧
      m' = ⟨now, { m.crowd with limiter := m.crowd.limiter.prune now }⟩ := by
  rw [step?, Option.ite_none_right_eq_some, Option.some.injEq, eq_comm (a := m')]
  rfl

/-- Who tries either is let through or sleeps until the oldest call has left the window. -/
theorem serve_cases (due : c.wakes[i]? = some t) :
    ((c.limiter.prune t).calls.length < c.limiter.maxCalls ∧ c.serve i =
      { limiter := { c.limiter.prune t with calls := (c.limiter.prune t).calls ++ [t] }
        wakes := c.wakes.eraseIdx i
        granted := t :: c.granted }) ∨
    (c.limiter.maxCalls ≤ (c.limiter.prune t).calls.length ∧ ∃ oldest rest,
      (c.limiter.prune t).calls = oldest :: rest ∧ c.serve i =
        { limiter := c.limiter.prune t
          wakes := c.wakes.set i (t + (c.limiter.window - (t - oldest)))
          granted := c.granted }) := by
  simp only [serve, due]
  rcases attempt_cases c.limiter t with ⟨room, answer⟩ | ⟨full, oldest, rest, calls, answer⟩
  · rw [answer]
    exact .inl ⟨room, rfl⟩
  · rw [answer]
    exact .inr ⟨full, oldest, rest, calls, rfl⟩

/-! ## Who has come, and who sleeps -/

/-- How the callers stand at a moment: which arrivals have been `seen`, which are `fresh`, and
    when those that have tried wake who are `asleep`. -/
structure Lineup (limit window : Nat) (arrivals : List Nat) (m : Moment)
    (seen fresh asleep : List Nat) : Prop where
  limit_eq : m.crowd.limiter.maxCalls = limit
  window_eq : m.crowd.limiter.window = window
  keeps : m.crowd.limiter.Keeps m.crowd.granted.reverse m.now
  came : arrivals.Perm (seen ++ fresh)
  waits : m.crowd.wakes.Perm (fresh ++ asleep)
  /-- Who has come is through or asleep. -/
  seen_length : seen.length = m.crowd.granted.length + asleep.length
  past : ∀ a ∈ seen, a ≤ m.now
  ahead : ∀ t ∈ m.crowd.wakes, m.now ≤ t
  /-- Nobody sleeps longer than until the window opens. -/
  opens : ∀ t ∈ asleep, ∃ opens, opening limit window m.crowd.granted = some opens ∧ t ≤ opens
  scheduled :
    m.crowd.granted = slots limit window (arrivals.mergeSort.take m.crowd.granted.length)

namespace Lineup

variable {limit window a : Nat} {arrivals seen fresh asleep granted : List Nat}

theorem start (limit window : Nat) (arrivals : List Nat) :
    Lineup (max limit 1) window arrivals (.start limit window arrivals) [] arrivals [] where
  limit_eq := rfl
  window_eq := rfl
  keeps := ofLimit_keeps limit window 0
  came := .refl _
  waits := .of_eq (List.append_nil _).symm
  seen_length := rfl
  past := by simp
  ahead := fun t _ => Nat.zero_le t
  opens := by simp
  scheduled := rfl

theorem length_eq (lineup : Lineup limit window arrivals m seen fresh asleep) :
    m.crowd.granted.length + m.crowd.wakes.length = arrivals.length := by
  have came := lineup.came.length_eq
  have waits := lineup.waits.length_eq
  have seen := lineup.seen_length
  rw [List.length_append] at came waits
  omega

theorem status {now : Nat} (lineup : Lineup limit window arrivals m seen fresh asleep)
    (order : m.now ≤ now) (first : ∀ t ∈ m.crowd.wakes, now ≤ t) :
    Lineup limit window arrivals
      ⟨now, { m.crowd with limiter := m.crowd.limiter.prune now }⟩ seen fresh asleep :=
  { lineup with
    limit_eq := lineup.limit_eq
    window_eq := lineup.window_eq
    keeps := (lineup.keeps.mono order).prune
    past := fun a mem => Nat.le_trans (lineup.past a mem) order
    ahead := first }

/-- Who tries has come by then, and no longer counts as fresh or as asleep. -/
theorem turn (lineup : Lineup limit window arrivals m seen fresh asleep)
    (due : m.crowd.wakes[i]? = some t) :
    ∃ seen' fresh' asleep', arrivals.Perm (seen' ++ fresh') ∧
      (m.crowd.wakes.eraseIdx i).Perm (fresh' ++ asleep') ∧
      seen'.length = m.crowd.granted.length + asleep'.length + 1 ∧
      (∀ a ∈ seen', a ≤ t) ∧ ∀ u ∈ asleep', u ∈ asleep := by
  obtain ⟨inside, at_⟩ := List.getElem?_eq_some_iff.mp due
  have others : (t :: m.crowd.wakes.eraseIdx i).Perm (fresh ++ asleep) := by
    have perm := List.getElem_cons_eraseIdx_perm inside
    rw [at_] at perm
    exact perm.trans lineup.waits
  have order : m.now ≤ t := lineup.ahead t (List.mem_of_getElem? due)
  have past : ∀ a ∈ seen, a ≤ t := fun a mem => Nat.le_trans (lineup.past a mem) order
  have length := lineup.seen_length
  rcases List.mem_append.mp (others.mem_iff.mp List.mem_cons_self) with new | old
  · -- The caller comes just now.
    have split := List.perm_cons_erase new
    refine ⟨t :: seen, fresh.erase t, asleep, ?_, ?_, by rw [List.length_cons]; omega, ?_,
      fun u mem => mem⟩
    · exact (lineup.came.trans (split.append_left seen)).trans List.perm_middle
    · exact (others.trans (split.append_right asleep)).cons_inv
    · intro a mem
      rcases List.mem_cons.mp mem with rfl | mem
      · exact Nat.le_refl _
      · exact past a mem
  · -- The caller has slept.
    have split := List.perm_cons_erase old
    refine ⟨seen, fresh, asleep.erase t, lineup.came, ?_, ?_, past,
      fun u mem => List.mem_of_mem_erase mem⟩
    · exact ((others.trans (split.append_left fresh)).trans List.perm_middle).cons_inv
    · have length' := split.length_eq
      rw [List.length_cons] at length'
      omega

/-- The next slot is no earlier than the first caller that is due. -/
theorem le_slot (lineup : Lineup limit window arrivals m seen fresh asleep)
    (next : arrivals.mergeSort[m.crowd.granted.length]? = some a)
    (first : ∀ u ∈ m.crowd.wakes, t ≤ u) : t ≤ slot limit window m.crowd.granted a := by
  cases asleep with
  | nil =>
    -- All who have come are through, so that the next one to come is due now at the earliest.
    have early : seen.length = m.crowd.granted.length := lineup.seen_length
    have fresh : fresh.countP (fun b => decide (b < t)) = 0 := by
      rw [List.countP_eq_zero]
      intro b mem below
      have above := first b (lineup.waits.mem_iff.mpr (List.mem_append_left _ mem))
      exact absurd (of_decide_eq_true below) (Nat.not_lt.mpr above)
    have count : arrivals.mergeSort.countP (fun b => decide (b < t)) ≤ m.crowd.granted.length := by
      rw [(List.mergeSort_perm _ _).countP_eq, lineup.came.countP_eq, List.countP_append, fresh,
        Nat.add_zero, ← early]
      exact List.countP_le_length
    have late : t ≤ a := by
      by_contra below
      have holds := getElem?_iff_lt_countP List.sortedLE_mergeSort.pairwise
        (p := fun b => decide (b < t)) (by simp only [decide_eq_true_eq]; omega) next
      have := holds.mp (decide_eq_true (Nat.lt_of_not_le below))
      omega
    rw [slot]
    split
    · exact late
    · exact Nat.le_trans late (Nat.le_max_left _ _)
  | cons u asleep =>
    -- A sleeper wakes no later than the window opens.
    obtain ⟨opens, opening, wakes⟩ := lineup.opens u List.mem_cons_self
    have due := first u (lineup.waits.mem_iff.mpr (by simp))
    rw [slot, opening]
    exact Nat.le_trans (Nat.le_trans due wakes) (Nat.le_max_right _ _)

/-- Somebody who is let through has waited for the next slot. -/
theorem slot_le (next : arrivals.mergeSort[granted.length]? = some a)
    (came : arrivals.Perm (seen ++ fresh)) (many : granted.length < seen.length)
    (past : ∀ b ∈ seen, b ≤ t) (opened : ∀ opens, opening limit window granted = some opens →
      opens ≤ t) : slot limit window granted a ≤ t := by
  have present : a ≤ t := by
    have holds := getElem?_iff_lt_countP List.sortedLE_mergeSort.pairwise
      (p := fun b => decide (b ≤ t)) (by simp only [decide_eq_true_eq]; omega) next
    apply of_decide_eq_true (holds.mpr _)
    rw [(List.mergeSort_perm _ _).countP_eq, came.countP_eq, List.countP_append,
      List.countP_eq_length.mpr fun b mem => decide_eq_true (past b mem)]
    omega
  rw [slot]
  split
  · exact present
  · exact Nat.max_le.mpr ⟨present, opened _ ‹_›⟩

theorem grant (lineup : Lineup limit window arrivals m seen fresh asleep)
    (due : m.crowd.wakes[i]? = some t) (first : ∀ u ∈ m.crowd.wakes, t ≤ u)
    (room : (m.crowd.limiter.prune t).calls.length < m.crowd.limiter.maxCalls) :
    ∃ seen' fresh' asleep', Lineup limit window arrivals
      ⟨t, { m.crowd.limiter.prune t with calls := (m.crowd.limiter.prune t).calls ++ [t] },
        m.crowd.wakes.eraseIdx i, t :: m.crowd.granted⟩ seen' fresh' asleep' := by
  obtain ⟨seen', fresh', asleep', came, waits, length, past, subset⟩ := lineup.turn due
  have keeps := lineup.keeps.mono (lineup.ahead t (List.mem_of_getElem? due))
  rw [keeps.prune_calls] at room
  have keeps' := keeps.grant room
  rw [← List.reverse_cons] at keeps'
  have more : m.crowd.granted.length < arrivals.mergeSort.length := by
    rw [List.length_mergeSort, ← lineup.length_eq]
    have inside := (List.getElem?_eq_some_iff.mp due).1
    omega
  have next := List.getElem?_eq_getElem more
  have slot_eq :
      slot limit window m.crowd.granted arrivals.mergeSort[m.crowd.granted.length] = t := by
    apply Nat.le_antisymm _ (lineup.le_slot next first)
    apply slot_le next came (by omega) past
    intro opens opening
    rw [← lineup.limit_eq, ← lineup.window_eq] at opening
    exact keeps'.opened opening
  refine ⟨seen', fresh', asleep', lineup.limit_eq, lineup.window_eq, keeps', came, waits, ?_, past,
    fun u mem => first u (List.mem_of_mem_eraseIdx mem), ?_, ?_⟩
  · exact length.trans (Nat.add_right_comm _ _ _)
  · intro u mem
    obtain ⟨opens, opening, wakes⟩ := lineup.opens u (subset u mem)
    obtain ⟨later, opening', order⟩ := opening_cons (List.pairwise_reverse.mp keeps'.sorted) opening
    exact ⟨later, opening', Nat.le_trans wakes order⟩
  · rw [List.length_cons, List.take_succ_eq_append_getElem more, slots_concat, ← lineup.scheduled,
      slot_eq]

theorem refuse {oldest : Nat} {rest : List Nat}
    (lineup : Lineup limit window arrivals m seen fresh asleep)
    (due : m.crowd.wakes[i]? = some t) (first : ∀ u ∈ m.crowd.wakes, t ≤ u)
    (full : m.crowd.limiter.maxCalls ≤ (m.crowd.limiter.prune t).calls.length)
    (calls : (m.crowd.limiter.prune t).calls = oldest :: rest) :
    ∃ seen' fresh' asleep', Lineup limit window arrivals
      ⟨t, m.crowd.limiter.prune t,
        m.crowd.wakes.set i (t + (m.crowd.limiter.window - (t - oldest))), m.crowd.granted⟩
      seen' fresh' asleep' := by
  obtain ⟨seen', fresh', asleep', came, waits, length, past, subset⟩ := lineup.turn due
  have keeps := lineup.keeps.mono (lineup.ahead t (List.mem_of_getElem? due))
  obtain ⟨opening, later⟩ := keeps.opening_eq full calls
  rw [lineup.limit_eq, lineup.window_eq] at opening
  rw [lineup.window_eq] at later ⊢
  have sleeps := List.set_perm_cons_eraseIdx (List.getElem?_eq_some_iff.mp due).1
    (t + (window - (t - oldest)))
  refine ⟨seen', fresh', (t + (window - (t - oldest))) :: asleep', lineup.limit_eq,
    lineup.window_eq, keeps.prune, came, (sleeps.trans (waits.cons _)).trans List.perm_middle.symm,
    length.trans (Nat.add_assoc _ _ _), past, ?_, ?_, lineup.scheduled⟩
  · intro u mem
    rcases List.mem_cons.mp (sleeps.mem_iff.mp mem) with rfl | mem
    · exact Nat.le_of_lt later
    · exact first u (List.mem_of_mem_eraseIdx mem)
  · intro u mem
    rcases List.mem_cons.mp mem with rfl | mem
    · exact ⟨_, opening, Nat.le_refl _⟩
    · exact lineup.opens u (subset u mem)

theorem step (lineup : Lineup limit window arrivals m seen fresh asleep)
    (taken : m.step? e = some m') :
    ∃ seen' fresh' asleep', Lineup limit window arrivals m' seen' fresh' asleep' := by
  cases e with
  | attempt i =>
    obtain ⟨t, due, first, rfl⟩ := Moment.step?_attempt_iff.mp taken
    rcases serve_cases due with ⟨room, served⟩ | ⟨full, oldest, rest, calls, served⟩
    · rw [served]
      exact lineup.grant due first room
    · rw [served]
      exact lineup.refuse due first full calls
  | status now =>
    obtain ⟨⟨order, first⟩, rfl⟩ := Moment.step?_status_iff.mp taken
    exact ⟨seen, fresh, asleep, lineup.status order first⟩

theorem follow {events : List Event} (lineup : Lineup limit window arrivals m seen fresh asleep)
    (run : m.follow? events = some m') :
    ∃ seen' fresh' asleep', Lineup limit window arrivals m' seen' fresh' asleep' := by
  induction events generalizing m seen fresh asleep with
  | nil =>
    cases run
    exact ⟨seen, fresh, asleep, lineup⟩
  | cons e events ih =>
    obtain ⟨between, taken, rest⟩ := Option.bind_eq_some_iff.mp run
    obtain ⟨seen', fresh', asleep', lineup'⟩ := lineup.step taken
    exact ih lineup' rest

end Lineup

/-! ## Nobody tries for ever -/

/-- How often callers may still try.  Who is let through is gone; who is not has tried before the
    window opens, and wakes when it does, so that between two grants each of them tries at most
    once. -/
def rank (limit window : Nat) (c : Crowd) : Nat :=
  c.wakes.length * c.wakes.length + c.wakes.countP fun t =>
    (opening limit window c.granted).any fun opens => decide (t < opens)

variable {limit window : Nat} {arrivals seen fresh asleep : List Nat} {events : List Event}

theorem rank_le (limit window : Nat) (c : Crowd) :
    c.rank limit window ≤ c.wakes.length * (c.wakes.length + 1) := by
  rw [rank, Nat.mul_succ]
  exact Nat.add_le_add_left List.countP_le_length _

theorem rank_eq_zero (none : c.rank limit window = 0) : c.wakes = [] := by
  rw [rank, Nat.add_eq_zero_iff, Nat.mul_eq_zero, or_self] at none
  exact List.length_eq_zero_iff.mp none.1

namespace Lineup

theorem rank_attempt (lineup : Lineup limit window arrivals m seen fresh asleep)
    (taken : m.step? (.attempt i) = some m') :
    m'.crowd.rank limit window < m.crowd.rank limit window := by
  obtain ⟨t, due, first, rfl⟩ := Moment.step?_attempt_iff.mp taken
  obtain ⟨inside, at_⟩ := List.getElem?_eq_some_iff.mp due
  rcases serve_cases due with ⟨room, served⟩ | ⟨full, oldest, rest, calls, served⟩
  · -- With one caller less the square makes up for all others, whenever they wake.
    rw [served]
    calc rank limit window ⟨_, m.crowd.wakes.eraseIdx i, _⟩
        ≤ (m.crowd.wakes.length - 1) * (m.crowd.wakes.length - 1 + 1) := by
          rw [← List.length_eraseIdx_of_lt inside]
          exact rank_le ..
      _ < m.crowd.wakes.length * m.crowd.wakes.length := by
          rw [Nat.sub_add_cancel (Nat.zero_lt_of_lt inside)]
          exact Nat.mul_lt_mul_of_pos_right (Nat.sub_one_lt_of_lt inside) (Nat.zero_lt_of_lt inside)
      _ ≤ m.crowd.rank limit window := Nat.le_add_right _ _
  · -- The caller was to try before the window opens, and now is to try when it does.
    have keeps := lineup.keeps.mono (lineup.ahead t (List.mem_of_getElem? due))
    obtain ⟨opening, later⟩ := keeps.opening_eq full calls
    have woken := List.getElem_cons_eraseIdx_perm inside
    have sleeps := List.set_perm_cons_eraseIdx inside
      (t + (m.crowd.limiter.window - (t - oldest)))
    rw [lineup.limit_eq, lineup.window_eq] at opening
    rw [at_] at woken
    rw [lineup.window_eq] at later sleeps served
    simp only [served, rank, List.length_set, opening, Option.any_some, sleeps.countP_eq]
    rw [← woken.countP_eq, List.countP_cons_of_neg, List.countP_cons_of_pos]
    · omega
    · exact decide_eq_true later
    · simp only [Nat.lt_irrefl, decide_false, Bool.false_eq_true, not_false_eq_true]

/-- Questions about the status do not count. -/
theorem rank_step (lineup : Lineup limit window arrivals m seen fresh asleep)
    (taken : m.step? e = some m') :
    m'.crowd.rank limit window + attempts [e] ≤ m.crowd.rank limit window := by
  cases e with
  | attempt i => exact lineup.rank_attempt taken
  | status now =>
    obtain ⟨-, rfl⟩ := Moment.step?_status_iff.mp taken
    exact Nat.le_refl _

theorem rank_follow (lineup : Lineup limit window arrivals m seen fresh asleep)
    (run : m.follow? events = some m') :
    m'.crowd.rank limit window + attempts events ≤ m.crowd.rank limit window := by
  induction events generalizing m seen fresh asleep with
  | nil =>
    cases run
    exact Nat.le_refl _
  | cons e events ih =>
    obtain ⟨between, taken, rest⟩ := Option.bind_eq_some_iff.mp run
    obtain ⟨seen', fresh', asleep', lineup'⟩ := lineup.step taken
    have one := lineup.rank_step taken
    have others := ih lineup' rest
    rw [attempts_cons]
    omega

end Lineup

/-- As long as somebody waits, somebody wakes first. -/
theorem next?_cases (c : Crowd) : (c.next? = none ∧ c.wakes = []) ∨
    ∃ i t, c.next? = some i ∧ c.wakes[i]? = some t ∧ ∀ u ∈ c.wakes, t ≤ u := by
  cases found : c.next? with
  | none =>
    refine .inl ⟨rfl, ?_⟩
    by_contra some
    obtain ⟨t, least⟩ := Option.isSome_iff_exists.mp (List.isSome_min?_of_ne_nil some)
    obtain ⟨mem, least⟩ := List.min?_eq_some_iff.mp least
    have none := List.findIdx?_eq_none_iff.mp found t mem
    rw [List.all_eq_false] at none
    obtain ⟨u, mem, less⟩ := none
    exact less (decide_eq_true (least u mem))
  | some i =>
    obtain ⟨inside, least, -⟩ := List.findIdx?_eq_some_iff_getElem.mp found
    refine .inr ⟨i, c.wakes[i], rfl, List.getElem?_eq_getElem inside, ?_⟩
    exact fun u mem => of_decide_eq_true (List.all_eq_true.mp least u mem)

/-! ## The schedule -/

/-- The limiter wastes no slot.  Callers come at any instants, questions about the status are put
    at any time, and of the callers that are due at an instant any may be the next.  At every
    moment those that are through got through in ascending order, at the first `slots`; callers
    have tried no more often than `n * (n + 1)` times, and somebody can try as long as anybody
    waits, so that in the end all are through.  Then the first ones were let through when they
    came, and every other one when it had come and the call that stands as many places before as
    the limit had left the window. -/
theorem follow?_scheduled {limit window : Nat} {arrivals : List Nat} {events : List Event}
    {m : Moment} (run : (Moment.start limit window arrivals).follow? events = some m) :
    let n := arrivals.length
    let places := max limit 1
    let due := arrivals.mergeSort
    let calls := m.crowd.granted.reverse
    calls <+: (slots places window due).reverse ∧ calls.Pairwise (· ≤ ·) ∧
    calls.length + m.crowd.wakes.length = n ∧ attempts events ≤ n * (n + 1) ∧
    (m.crowd.wakes ≠ [] → ∃ i m', m.step? (.attempt i) = some m') ∧
    (m.crowd.wakes = [] → calls = (slots places window due).reverse ∧
      (∀ j < places, calls[j]? = due[j]?) ∧
      ∀ j arrival g, due[j + places]? = some arrival → calls[j]? = some g →
        calls[j + places]? = some (max arrival (g + window))) := by
  intro n places due calls
  have before : Lineup places window arrivals _ _ _ _ := Lineup.start limit window arrivals
  obtain ⟨seen, fresh, asleep, lineup⟩ := before.follow run
  have length := lineup.length_eq
  have early : calls <+: (slots places window due).reverse := by
    have whole := slots_prefix places window (due.take m.crowd.granted.length)
      (due.drop m.crowd.granted.length)
    rwa [← lineup.scheduled, List.take_append_drop] at whole
  refine ⟨early, lineup.keeps.sorted, ?_, ?_, ?_, ?_⟩
  · exact (congrArg (· + m.crowd.wakes.length) List.length_reverse).trans length
  · have tries := before.rank_follow run
    have bound := rank_le places window (Moment.start limit window arrivals).crowd
    exact Nat.le_trans (Nat.le_trans (Nat.le_add_left _ _) tries) bound
  · intro some
    rcases next?_cases m.crowd with ⟨-, none⟩ | ⟨i, t, -, next, first⟩
    · exact absurd none some
    · exact ⟨i, _, Moment.step?_attempt_iff.mpr ⟨t, next, first, rfl⟩⟩
  · intro none
    have all : calls = (slots places window due).reverse := by
      apply early.eq_of_length
      rw [List.length_reverse, List.length_reverse, slots_length, List.length_mergeSort, ← length,
        none, List.length_nil, Nat.add_zero]
    rw [all]
    exact ⟨rfl, fun j first => slots_first first,
      fun j arrival g come before => slots_later (by omega) come before⟩

/-- Two callers come at once, and a third one while the second sleeps; the third is told the same
    as the second and overtakes it. -/
theorem follow?_scheduled_overtaken :
    let events : List Event :=
      [.attempt 0, .attempt 0, .status 2, .attempt 1, .attempt 1, .attempt 0, .attempt 0]
    let m : Moment := ⟨20, ⟨1, 10, [20], Nat.one_pos⟩, [], [20, 10, 0]⟩
    (Moment.start 1 10 [0, 0, 4]).follow? events = some m ∧
    m.crowd.granted.reverse = (slots 1 10 [0, 0, 4].mergeSort).reverse ∧
    m.crowd.granted.reverse[2]? = some (max 4 (10 + 10)) := by
  intro events m
  have run : (Moment.start 1 10 [0, 0, 4]).follow? events = some m := rfl
  have due : [0, 0, 4].mergeSort[2]? = some 4 := by rw [List.mergeSort_of_pairwise (by decide)]; rfl
  obtain ⟨-, -, -, -, -, ends⟩ := follow?_scheduled run
  obtain ⟨all, -, later⟩ := ends rfl
  exact ⟨run, all, later 1 4 10 due rfl⟩

/-- A run follows the callers in the order of time. -/
theorem run_follow (fuel now : Nat) (c : Crowd) :
    ∃ events now', (⟨now, c⟩ : Moment).follow? events = some ⟨now', run fuel c⟩ ∧
      (attempts events = fuel ∨ (run fuel c).wakes = []) := by
  induction fuel generalizing now c with
  | zero => exact ⟨[], now, rfl, .inl rfl⟩
  | succ fuel ih =>
    rw [run]
    rcases next?_cases c with ⟨next, none⟩ | ⟨i, t, next, due, first⟩
    · rw [next]
      exact ⟨[], now, rfl, .inr none⟩
    · rw [next]
      obtain ⟨events, now', follows, ends⟩ := ih t (c.serve i)
      have taken : (⟨now, c⟩ : Moment).step? (.attempt i) = some ⟨t, c.serve i⟩ :=
        Moment.step?_attempt_iff.mpr ⟨t, due, first, rfl⟩
      refine ⟨.attempt i :: events, now', ?_, ends.imp_left fun all => ?_⟩
      · rw [Moment.follow?, taken]
        exact follows
      · rw [attempts, List.countP_cons_of_pos rfl]
        exact congrArg (· + 1) all

end Crowd

/-- The callers that are let in one after the other get the slots. -/
theorem admitAll_eq (limit window : Nat) (arrivals : List Nat) :
    ((ofLimit limit window).admitAll arrivals).1 =
      (slots (max limit 1) window arrivals.mergeSort).reverse := by
  let n := arrivals.length
  let c : Crowd := ⟨ofLimit limit window, arrivals, []⟩
  obtain ⟨events, now, run, ends⟩ := c.run_follow (n * (n + 1)) 0
  have through : (Crowd.run (n * (n + 1)) c).wakes = [] := by
    rcases ends with all | none
    · have tries : (Crowd.run (n * (n + 1)) c).rank (max limit 1) window + Crowd.attempts events ≤
          c.rank (max limit 1) window := (Crowd.Lineup.start ..).rank_follow run
      have bound : c.rank (max limit 1) window ≤ n * (n + 1) := Crowd.rank_le ..
      have spent : (Crowd.run (n * (n + 1)) c).rank (max limit 1) window = 0 := by omega
      exact Crowd.rank_eq_zero spent
    · exact none
  exact ((Crowd.follow?_scheduled run).2.2.2.2.2 through).1

end Compositor.RateLimiter
