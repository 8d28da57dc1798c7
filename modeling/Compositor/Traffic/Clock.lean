/-! # Sleeping

A clock takes a limit to how long a party may sleep at a stretch.  Who asks for more
is woken at the limit.  Times are in milliseconds.
-/

namespace Compositor.Clock

/-- The longest sleep: thirty years of 365 days. -/
def longestSleep : Nat := 30 * 365 * 24 * 3600 * 1000

/-- How long a sleep lasts. -/
def slept (time : Nat) : Nat := min time longestSleep

/-- A sleep within the limit lasts as long as was asked for. -/
theorem slept_eq {time : Nat} (h : time ≤ longestSleep) : slept time = time := Nat.min_eq_left h

end Compositor.Clock
