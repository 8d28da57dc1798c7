import Compositor.Traffic.Backoff
import Mathlib.Algebra.Order.Ring.Nat
import Mathlib.Order.Bounds.Basic

/-! # Which attempts are made

`RetryPolicy.retry` acts on a state of the world, so it can be watched.  Here the world is the
list of all that was done (`RetryEvent`), and the attempts go as an infinite sequence of outcomes
says, which is read call by call, whatever number a call is given (`RetryPolicy.play`).

An attempt is the last one if its outcome is final, or if no more are allowed.  What is done up to
the last attempt is fixed by its number alone (`RetryPolicy.transcript`), and so is the result.
-/

namespace Compositor

/-- What is seen of an operation that is tried again and again. -/
inductive RetryEvent where
  /-- An attempt, with the number that the operation is given. -/
  | call (attempt : Nat)
  /-- A pause of so many milliseconds. -/
  | sleep (time : Nat)
deriving DecidableEq

namespace RetryEvent

def isCall : RetryEvent → Bool
  | call _ => true
  | sleep _ => false

/-- How many attempts were made. -/
def calls (events : List RetryEvent) : Nat := events.countP isCall

theorem calls_append (first second : List RetryEvent) :
    calls (first ++ second) = calls first + calls second := List.countP_append

end RetryEvent

namespace RetryPolicy

variable {ε α : Type}

/-- An operation whose calls have the given outcomes one after another, from number one on. -/
def play (outcomes : Nat → Except ε α) (attempt : Nat) (events : List RetryEvent) :
    Except ε α × List RetryEvent :=
  (outcomes (RetryEvent.calls events + 1), events ++ [.call attempt])

/-- A pause that is written down. -/
def rest (time : Nat) (events : List RetryEvent) : List RetryEvent := events ++ [.sleep time]

/-- No further attempt is made after the outcome. -/
def IsFinal (transient : ε → Bool) : Except ε α → Prop
  | .ok _ => True
  | .error e => transient e = false

/-- All that is done from one attempt to another, which is the last one. -/
def transcript (p : RetryPolicy) (first last : Nat) : List RetryEvent :=
  (List.range' first (last - first)).flatMap (fun n => [.call n, .sleep (p.delayAfter n)])
    ++ [.call last]

variable (p : RetryPolicy)

/-- What is left behind when an attempt is made and a pause follows. -/
theorem calls_rest_call (attempt time : Nat) (events : List RetryEvent) :
    RetryEvent.calls (rest time (events ++ [.call attempt])) = RetryEvent.calls events + 1 := by
  rw [rest, RetryEvent.calls_append, RetryEvent.calls_append]
  rfl

theorem transcript_self (n : Nat) : p.transcript n n = [.call n] := by
  rw [transcript, Nat.sub_self]
  rfl

/-- Going on after an attempt. -/
theorem transcript_of_lt {first last : Nat} (before : first < last) :
    p.transcript first last =
      .call first :: .sleep (p.delayAfter first) :: p.transcript (first + 1) last := by
  have between : last - first = (last - (first + 1)) + 1 := by omega
  rw [transcript, between, List.range'_succ]
  rfl

/-- The attempts are counted up from the first to the last one. -/
theorem le_of_call_mem_transcript {first last n : Nat} (order : first ≤ last)
    (mem : .call n ∈ p.transcript first last) : n ≤ last := by
  rw [transcript, List.mem_append, List.mem_flatMap] at mem
  obtain ⟨m, inside, equal⟩ | equal := mem
  · obtain ⟨-, small⟩ := List.mem_range'_1.mp inside
    obtain rfl : n = m := by simpa using equal
    omega
  · obtain rfl : n = last := by simpa using equal
    exact Nat.le_refl _

/-! ## The last attempt -/

section

variable (transient : ε → Bool) (outcomes : Nat → Except ε α)

/-- The attempts from some number on that can be the last one: the final ones, and the last one
    that is allowed. -/
def lastCandidates (first allowed : Nat) : Set Nat :=
  {n | n = allowed ∨ first ≤ n ∧ IsFinal transient (outcomes n)}

variable {transient outcomes}

theorem isLeast_of_isFinal {first allowed : Nat} (order : first ≤ allowed)
    (final : IsFinal transient (outcomes first)) :
    IsLeast (lastCandidates transient outcomes first allowed) first := by
  refine ⟨.inr ⟨Nat.le_refl _, final⟩, ?_⟩
  rintro n (rfl | ⟨later, -⟩)
  · exact order
  · exact later

theorem isLeast_of_not_isFinal {first allowed last : Nat}
    (notFinal : ¬ IsFinal transient (outcomes first))
    (least : IsLeast (lastCandidates transient outcomes (first + 1) allowed) last) :
    IsLeast (lastCandidates transient outcomes first allowed) last := by
  obtain ⟨mem, below⟩ := least
  refine ⟨mem.imp_right fun ⟨later, final⟩ => ⟨by omega, final⟩, ?_⟩
  rintro n (rfl | ⟨later, final⟩)
  · exact below (.inl rfl)
  · have other : n ≠ first := by
      rintro rfl
      exact notFinal final
    exact below (.inr ⟨by omega, final⟩)

theorem play_eq {attempt : Nat} {events : List RetryEvent}
    (counted : RetryEvent.calls events + 1 = attempt) :
    play outcomes attempt events = (outcomes attempt, events ++ [.call attempt]) := by
  rw [play, counted]

/-- The loop, wherever it stands: what was done so far has one attempt less than the number of the
    next one. -/
theorem retryFrom_eq_transcript (attempt left : Nat) (events : List RetryEvent)
    (counted : RetryEvent.calls events + 1 = attempt) :
    ∃ last, IsLeast (lastCandidates transient outcomes attempt (attempt + left)) last ∧
      p.retryFrom transient (play outcomes) rest attempt left events =
        (outcomes last, events ++ p.transcript attempt last) := by
  induction left generalizing attempt events with
  | zero =>
    refine ⟨attempt, ⟨.inl rfl, ?_⟩, ?_⟩
    · rintro n (rfl | ⟨later, -⟩)
      · exact Nat.le_refl _
      · exact later
    · rw [retryFrom, play_eq counted, transcript_self]
      cases outcomes attempt <;> rfl
  | succ left ih =>
    by_cases final : IsFinal transient (outcomes attempt)
    · refine ⟨attempt, isLeast_of_isFinal (Nat.le_add_right _ _) final, ?_⟩
      rw [retryFrom, play_eq counted, transcript_self]
      cases outcome : outcomes attempt with
      | ok x => rfl
      | error e =>
        rw [outcome] at final
        have permanent : ¬ transient e = true := by simpa [IsFinal] using final
        exact if_neg permanent
    · -- The operation fails for a passing reason, so that the next attempt is made.
      have counted' : RetryEvent.calls
          (rest (p.delayAfter attempt) (events ++ [.call attempt])) + 1 = attempt + 1 := by
        rw [calls_rest_call, counted]
      obtain ⟨last, least, run⟩ := ih (attempt + 1) _ counted'
      rw [Nat.add_right_comm] at least
      have later : attempt < last := by
        obtain rfl | ⟨later, -⟩ := least.1 <;> omega
      refine ⟨last, isLeast_of_not_isFinal final least, ?_⟩
      rw [retryFrom, play_eq counted, transcript_of_lt p later]
      cases outcome : outcomes attempt with
      | ok x =>
        rw [outcome] at final
        exact absurd trivial final
      | error e =>
        rw [outcome] at final
        have passing : transient e = true := by simpa [IsFinal] using final
        dsimp only
        rw [if_pos passing, run, rest, List.append_assoc, List.append_assoc]
        rfl

end

/-- An operation is tried up to the first final outcome, but not more often than is allowed: with
    the numbers from one on, with the pause that belongs to an attempt behind it and before the
    next one, and with the last outcome as the result.  The numbers have thirty-two bits if the
    limit has. -/
theorem retry_eq_transcript (small : p.maxAttempts < 2 ^ 32) (transient : ε → Bool)
    (outcomes : Nat → Except ε α) :
    ∃ last,
      IsLeast {n | n = max 1 p.maxAttempts ∨ 1 ≤ n ∧ IsFinal transient (outcomes n)} last ∧
      p.retry transient (play outcomes) rest [] =
        (outcomes last,
          (List.range' 1 (last - 1)).flatMap (fun n => [.call n, .sleep (p.delayAfter n)])
            ++ [.call last]) ∧
      ∀ n, .call n ∈ (p.retry transient (play outcomes) rest []).2 → n < 2 ^ 32 := by
  obtain ⟨last, least, run⟩ :=
    @retryFrom_eq_transcript _ _ p transient outcomes 1 (p.maxAttempts - 1) [] rfl
  have allowed : 1 + (p.maxAttempts - 1) = max 1 p.maxAttempts := by omega
  rw [allowed] at least
  rw [retry, run, List.nil_append]
  refine ⟨last, least, rfl, fun n mem => ?_⟩
  have inside : last ≤ max 1 p.maxAttempts := least.2 (.inl rfl)
  have first : 1 ≤ last := by
    obtain rfl | ⟨first, -⟩ := least.1 <;> omega
  have := p.le_of_call_mem_transcript first mem
  omega

/-- A policy with as many attempts as can be counted. -/
def tireless : RetryPolicy := { standard with maxAttempts := 2 ^ 32 - 1 }

/-- The third attempt succeeds. -/
theorem retry_eq_transcript_tireless :
    tireless.maxAttempts < 2 ^ 32 ∧
      tireless.retry (fun _ : Unit => true)
          (play fun n => if n < 3 then .error () else .ok n) rest [] =
        (.ok 3, [.call 1, .sleep 500, .call 2, .sleep 1000, .call 3]) := by
  have small : tireless.maxAttempts < 2 ^ 32 := by decide
  refine ⟨small, ?_⟩
  obtain ⟨last, ⟨mem, below⟩, run, -⟩ :=
    retry_eq_transcript tireless small (fun _ : Unit => true)
      (fun n => if n < 3 then .error () else .ok n)
  have atMost : last ≤ 3 := below (.inr ⟨by decide, trivial⟩)
  have third : last = 3 := by
    obtain equal | ⟨first, final⟩ := mem
    · rw [equal] at atMost
      exact absurd atMost (by decide)
    · by_contra other
      have passing : last < 3 := by omega
      rw [if_pos passing] at final
      exact Bool.noConfusion final
  rw [run, third]
  decide +kernel

end RetryPolicy

end Compositor
