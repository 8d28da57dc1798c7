import Compositor.Double.Basic

/-! # Retrying with growing pauses

An operation that fails for a passing reason is tried again after a pause.  The
pauses grow by a constant factor up to a ceiling; the number of attempts is
limited.

The operation and the pause act on a state of the world, so that a run can be
observed: `retry` says which attempts are made, in which order, with which pauses
between them.
-/

namespace Compositor

/-- How often and how patiently an operation is tried.  Times are in
    milliseconds. -/
structure RetryPolicy where
  /-- The most attempts, the first one included; zero counts as one. -/
  maxAttempts : Nat
  /-- The pause after the first attempt. -/
  initialDelay : Nat
  /-- The longest pause. -/
  maxDelay : Nat
  /-- The factor by which pauses grow. -/
  multiplier : Double
deriving DecidableEq

namespace RetryPolicy

/-- The policy unless said otherwise. -/
def standard : RetryPolicy where
  maxAttempts := 3
  initialDelay := 500
  maxDelay := 30000
  multiplier := 2

/-- The highest power of the multiplier that is taken. -/
def exponentLimit : Nat := 64

/-- The longest time that can be told. -/
def longestTime : Nat := Nat.pow 2 64 - 1

/-- The pause after a failed attempt, which is counted from one. -/
def delayAfter (p : RetryPolicy) (attempt : Nat) : Nat :=
  let grown := Double.ofNat p.initialDelay * p.multiplier.pow (Nat.min (attempt - 1) exponentLimit)
  ((grown.min (Double.ofNat p.maxDelay)).max 0).toNatUpTo longestTime

variable {σ ε α : Type} (p : RetryPolicy) (transient : ε → Bool)
  (operation : Nat → σ → Except ε α × σ) (pause : Nat → σ → σ)

/-- Makes an attempt and, while more are `left`, goes on after a transient
    failure. -/
def retryFrom (attempt left : Nat) (world : σ) : Except ε α × σ :=
  match operation attempt world with
  | (.ok x, world) => (.ok x, world)
  | (.error e, world) =>
    match left with
    | 0 => (.error e, world)
    | left + 1 =>
      -- The pause after an attempt belongs to its number, not to the number left.
      if transient e then retryFrom (attempt + 1) left (pause (p.delayAfter attempt) world)
      else (.error e, world)

/-- Tries an operation until it succeeds, fails for good, or has had all its
    attempts.  The operation is given the number of the attempt. -/
def retry (world : σ) : Except ε α × σ :=
  retryFrom p transient operation pause 1 (p.maxAttempts - 1) world

end RetryPolicy

end Compositor
