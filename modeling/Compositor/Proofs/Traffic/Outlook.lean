import Compositor.Proofs.Traffic.Window

/-! # What the status promises

A limiter says for how long nobody will be let through.  It says so in whole milliseconds, and
rounds down: who comes back after just as many milliseconds may still come too early, by less
than one (`status_fraction`).  Apart from that the status foretells every later answer, and
asking for it changes none.
-/

namespace Compositor.RateLimiter

variable {l : RateLimiter} {all rest : List Nat} {now t oldest : Nat}

/-! ## Questions change nothing -/

/-- What has left the window has left it for good. -/
theorem prune_prune (l : RateLimiter) (order : now ≤ t) : (l.prune now).prune t = l.prune t := by
  have calls : ∀ calls : List Nat,
      (calls.dropWhile fun g => decide (l.window ≤ now - g)).dropWhile
        (fun g => decide (l.window ≤ t - g)) =
      calls.dropWhile fun g => decide (l.window ≤ t - g) := by
    intro calls
    induction calls with
    | nil => rfl
    | cons g calls ih =>
      by_cases gone : l.window ≤ now - g
      · rw [List.dropWhile_cons_of_pos (by simpa using gone), ih,
          List.dropWhile_cons_of_pos (by simp only [decide_eq_true_eq]; omega)]
      · rw [List.dropWhile_cons_of_neg (by simpa using gone)]
  exact congrArg (fun calls => ({ l with calls } : RateLimiter)) (calls l.calls)

theorem attempt_prune (l : RateLimiter) (order : now ≤ t) :
    (l.prune now).attempt t = l.attempt t := by
  simp only [attempt, prune_prune l order]

theorem status_prune (l : RateLimiter) (order : now ≤ t) :
    (l.prune now).status t = l.status t := by
  simp only [status, prune_prune l order]

/-- Visits with which no call starts change no later answer. -/
theorem attempt_after {visits : List Visit} (quiet : l.grants visits = [])
    (order : ∀ v ∈ visits, v.now ≤ t) : (l.after visits).attempt t = l.attempt t := by
  induction visits generalizing l with
  | nil => rfl
  | cons v visits ih =>
    obtain ⟨none, rest⟩ := List.append_eq_nil_iff.mp quiet
    rw [after, ih rest fun w mem => order w (List.mem_cons_of_mem _ mem)]
    have before := order v List.mem_cons_self
    cases v with
    | attempt now =>
      rw [visit]
      rcases attempt_cases l now with ⟨-, answer⟩ | ⟨-, oldest, rest, -, answer⟩
      · rw [started, answer, if_pos rfl] at none
        cases none
      · rw [answer]
        exact attempt_prune l before
    | status now => exact attempt_prune l before

/-! ## When the next caller is let through -/

theorem attempt_of_room (room : (l.prune now).calls.length < l.maxCalls) :
    (l.attempt now).1 = .granted := by
  rcases attempt_cases l now with ⟨-, answer⟩ | ⟨full, -⟩
  · rw [answer]
  · exact absurd room (Nat.not_lt.mpr full)

theorem attempt_of_full (full : l.maxCalls ≤ (l.prune now).calls.length)
    (calls : (l.prune now).calls = oldest :: rest) :
    (l.attempt now).1 = .wait (l.window - (now - oldest)) := by
  rcases attempt_cases l now with ⟨room, -⟩ | ⟨-, oldest', rest', calls', answer⟩
  · exact absurd room (Nat.not_lt.mpr full)
  · rw [calls, List.cons.injEq] at calls'
    rw [answer, calls'.1]

/-- For how long a caller who comes now has to wait. -/
def delay (l : RateLimiter) (now : Nat) : Nat :=
  match (l.attempt now).1 with
  | .wait time => time
  | .granted | .again => 0

/-- The calls that the limiter has are no later than the present. -/
theorem Keeps.calls_past (keeps : l.Keeps all now) : ∀ g ∈ l.calls, g ≤ now := by
  obtain ⟨forgotten, split, -⟩ := keeps.kept
  exact fun g mem => keeps.past g (split ▸ List.mem_append_right _ mem)

/-- Where there is room, there is room later on. -/
theorem attempt_of_room_before (order : now ≤ t)
    (room : (l.prune now).calls.length < l.maxCalls) : (l.attempt t).1 = .granted := by
  apply attempt_of_room
  rw [← prune_prune l order]
  exact Nat.lt_of_le_of_lt (List.dropWhile_suffix _).length_le room

/-- A full window has room again once its oldest call has left it. -/
theorem Keeps.attempt_of_full_before (keeps : l.Keeps all now) (order : now ≤ t)
    (full : l.maxCalls ≤ (l.prune now).calls.length)
    (calls : (l.prune now).calls = oldest :: rest) :
    (l.attempt t).1 =
      if l.window ≤ t - oldest then .granted else .wait (l.window - (t - oldest)) := by
  have kept : (l.prune t).calls =
      (oldest :: rest).dropWhile fun g => decide (l.window ≤ t - g) := by
    rw [← prune_prune l order, ← calls]
    rfl
  split
  · next gone =>
    apply attempt_of_room
    have bounded : (l.prune now).calls.length ≤ l.maxCalls := keeps.prune.bounded
    rw [kept, List.dropWhile_cons_of_pos (by simpa using gone)]
    rw [calls] at bounded
    exact Nat.lt_of_le_of_lt (List.dropWhile_suffix _).length_le bounded
  · next stays =>
    rw [List.dropWhile_cons_of_neg (by simpa using stays)] at kept
    exact attempt_of_full (by rwa [kept, ← calls]) kept

/-- Who comes later has to wait for what is left of the time. -/
theorem Keeps.attempt_later (keeps : l.Keeps all now) (order : now ≤ t) :
    (l.attempt t).1 =
      if now + l.delay now ≤ t then .granted else .wait (now + l.delay now - t) := by
  rcases attempt_cases l now with ⟨room, answer⟩ | ⟨full, oldest, rest, calls, answer⟩
  · have delay : l.delay now = 0 := by rw [RateLimiter.delay, answer]
    rw [attempt_of_room_before order room, delay, Nat.add_zero, if_pos order]
  · have delay : l.delay now = l.window - (now - oldest) := by rw [RateLimiter.delay, answer]
    have past : oldest ≤ now := keeps.prune.calls_past oldest (calls ▸ List.mem_cons_self)
    rw [keeps.attempt_of_full_before order full calls]
    by_cases gone : l.window ≤ t - oldest
    · rw [if_pos gone, if_pos (by omega)]
    · have left : l.window - (t - oldest) = now + l.delay now - t := by omega
      rw [if_neg gone, if_neg (by omega), left]

/-! ## The status -/

/-- The status says what a caller would be told, in whole milliseconds. -/
theorem nextAvailable_eq (l : RateLimiter) (now : Nat) :
    (l.status now).1.nextAvailable =
      match (l.attempt now).1 with
      | .wait time => some (time / millisecond)
      | .granted | .again => none := by
  rcases attempt_cases l now with ⟨room, answer⟩ | ⟨full, oldest, rest, calls, answer⟩
  · rw [answer]
    exact if_pos room
  · rw [answer]
    have full : ¬ (l.prune now).calls.length < (l.prune now).maxCalls := Nat.not_lt.mpr full
    simp only [status]
    rw [if_neg full, calls]
    rfl

theorem nextAvailable_eq_none :
    (l.status now).1.nextAvailable = none ↔ (l.attempt now).1 = .granted := by
  rw [nextAvailable_eq]
  rcases attempt_cases l now with ⟨-, answer⟩ | ⟨-, oldest, rest, -, answer⟩ <;> rw [answer] <;>
    simp

theorem nextAvailable_eq_some {m : Nat} (names : (l.status now).1.nextAvailable = some m) :
    (l.attempt now).1 = .wait (l.delay now) ∧ m = l.delay now / millisecond := by
  rw [nextAvailable_eq] at names
  rw [delay]
  cases answer : (l.attempt now).1 with
  | wait time =>
    rw [answer] at names
    exact ⟨rfl, (Option.some.inj names).symm⟩
  | granted | again =>
    rw [answer] at names
    cases names

/-- What the status of a limiter is worth, after visits whose instants never go back.  To ask for
    it changes no later answer.  It counts the calls that are less than a window ago, and names a
    time exactly if a caller would not be let through now.  That time is the one that a caller
    would be told, without the fraction of a millisecond.  Who comes back after it, and nobody was
    let through since, is let through, or comes too early by less than a millisecond; a millisecond
    later everybody is let through. -/
theorem status_foretells (maxCalls window : Nat) (visits : List Visit) (now : Nat)
    (order : ((visits ++ [Visit.status now]).map Visit.now).Pairwise (· ≤ ·)) :
    let l := (ofLimit maxCalls window).after visits
    let calls := (ofLimit maxCalls window).grants visits
    let report := (l.status now).1
    (∀ t, now ≤ t → (l.status now).2.attempt t = l.attempt t ∧
      (l.status now).2.status t = l.status t) ∧
    report.callsInWindow = (within window now calls).length ∧
    (report.nextAvailable = none ↔ (l.attempt now).1 = .granted) ∧
    ∀ m, report.nextAvailable = some m → ∃ time, (l.attempt now).1 = .wait time ∧
      m = time / millisecond ∧
      ∀ since t, l.grants since = [] → (∀ v ∈ since, v.now ≤ t) → now ≤ t →
        let answer := ((l.after since).attempt t).1
        (answer = if now + time ≤ t then .granted else .wait (now + time - t)) ∧
        (now + (m + 1) * millisecond ≤ t → answer = .granted) ∧
        (now + m * millisecond ≤ t →
          answer = .granted ∨ ∃ early < millisecond, answer = .wait early) := by
  intro l calls report
  rw [List.map_append, List.pairwise_append] at order
  obtain ⟨ordered, -, last⟩ := order
  have keeps : l.Keeps calls now :=
    after_keeps maxCalls window ordered fun v mem =>
      last v.now (List.mem_map_of_mem mem) now (by simp [Visit.now])
  have sameWindow : l.window = window := (after_constants (ofLimit maxCalls window) visits).2
  refine ⟨fun t later => ⟨attempt_prune l later, status_prune l later⟩, ?_,
    nextAvailable_eq_none, ?_⟩
  · rw [← sameWindow]
    exact congrArg List.length keeps.prune_calls
  · intro m next
    obtain ⟨told, rfl⟩ := nextAvailable_eq_some next
    refine ⟨l.delay now, told, rfl, ?_⟩
    intro since t quiet past later answer
    have equation : answer =
        if now + l.delay now ≤ t then .granted else .wait (now + l.delay now - t) := by
      rw [← keeps.attempt_later later, ← attempt_after quiet past]
    have below := Nat.div_mul_le_self (l.delay now) millisecond
    have above := Nat.lt_div_mul_add (a := l.delay now) (b := millisecond) (by decide)
    refine ⟨equation, ?_, ?_⟩
    · intro late
      rw [equation, if_pos]
      rw [Nat.succ_mul] at late
      omega
    · intro early
      rw [equation]
      split
      · exact .inl rfl
      · exact .inr ⟨_, by omega, rfl⟩

/-- One call in a millisecond: half a millisecond after it the status names no time at all, and yet
    a caller has to wait. -/
theorem status_fraction :
    let l := (ofLimit 1 millisecond).after [.attempt 0]
    let now := 500000
    (l.status now).1.nextAvailable = some 0 ∧
      (l.attempt (now + 0 * millisecond)).1 = .wait (millisecond - now) := by
  decide

end Compositor.RateLimiter
