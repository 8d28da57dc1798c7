/-! # A limit on calls in a sliding window

At most so many calls may start within any stretch of time of the window's
length.  The limiter keeps the instants of the calls that are still within the
window.  Callers are delayed, never turned away: one that comes too early is told
how long to wait and then tries again.

Instants and lengths of time are in nanoseconds.
-/

namespace Compositor

/-- A limiter with the instants of the calls in its window, oldest first. -/
structure RateLimiter where
  /-- The most calls in a window. -/
  maxCalls : Nat
  window : Nat
  calls : List Nat
  maxCalls_pos : 0 < maxCalls

/-- The answer to a caller. -/
inductive Admission where
  /-- The call may start, and is counted. -/
  | granted
  /-- Come back after this time. -/
  | wait (time : Nat)
  /-- Come back at once. -/
  | again
deriving DecidableEq

/-- What a limiter says about itself, in milliseconds. -/
structure RateLimitStatus where
  maxCalls : Nat
  window : Nat
  callsInWindow : Nat
  /-- The time until a call is possible, if none is now. -/
  nextAvailable : Option Nat
deriving DecidableEq

namespace RateLimiter

/-- The nanoseconds of a millisecond. -/
def millisecond : Nat := 1000000

/-- A limiter that has seen no call.  A limit of zero counts as one. -/
def ofLimit (maxCalls window : Nat) : RateLimiter :=
  ⟨max maxCalls 1, window, [], by omega⟩

/-- A limiter for so many calls in a minute. -/
def perMinute (calls : Nat) : RateLimiter := ofLimit calls (60000 * millisecond)

/-- Forgets the calls that have left the window. -/
def prune (l : RateLimiter) (now : Nat) : RateLimiter :=
  { l with calls := l.calls.dropWhile fun t => decide (l.window ≤ now - t) }

/-- A caller asks to start a call. -/
def attempt (l : RateLimiter) (now : Nat) : Admission × RateLimiter :=
  let l := l.prune now
  if l.calls.length < l.maxCalls then (.granted, { l with calls := l.calls ++ [now] })
  else
    match l.calls with
    | oldest :: _ => (.wait (l.window - (now - oldest)), l)
    -- Not reached: the list is full and the limit is positive.
    | [] => (.again, l)

/-- The limiter's account of itself.  What has left the window is forgotten. -/
def status (l : RateLimiter) (now : Nat) : RateLimitStatus × RateLimiter :=
  let l := l.prune now
  ({ maxCalls := l.maxCalls
     window := l.window / millisecond
     callsInWindow := l.calls.length
     nextAvailable :=
       if l.calls.length < l.maxCalls then none
       else l.calls.head?.map fun oldest => (l.window - (now - oldest)) / millisecond },
    l)

/-! ## Many callers

Callers wait for their turn on ideal clocks: who is told to wait tries again
exactly then.  The state is the limiter and, for each caller that is not through,
the instant of the next attempt.
-/

/-- A limiter with waiting callers. -/
structure Crowd where
  limiter : RateLimiter
  /-- The next attempts of the callers that wait. -/
  wakes : List Nat
  /-- The instants at which callers got through, latest first. -/
  granted : List Nat

namespace Crowd

/-- The caller at a position tries. -/
def serve (c : Crowd) (i : Nat) : Crowd :=
  match c.wakes[i]? with
  | none => c
  | some now =>
    match c.limiter.attempt now with
    | (.granted, limiter) =>
      { limiter, wakes := c.wakes.eraseIdx i, granted := now :: c.granted }
    | (.wait time, limiter) => { c with limiter, wakes := c.wakes.set i (now + time) }
    | (.again, limiter) => { c with limiter }

/-- The position of the caller whose attempt is next; the first one of several at
    one instant. -/
def next? (c : Crowd) : Option Nat :=
  c.wakes.findIdx? fun t => c.wakes.all fun u => decide (t ≤ u)

/-- Lets callers try in the order of time. -/
def run : Nat → Crowd → Crowd
  | 0, c => c
  | fuel + 1, c =>
    match c.next? with
    | none => c
    | some i => run fuel (c.serve i)

end Crowd

/-- Callers that arrive at the given instants: the limiter after all of them got
    through, and when they did, in order.  A caller that is told to wait again was
    overtaken by another one, so that nobody tries more often than there are
    callers. -/
def admitAll (l : RateLimiter) (arrivals : List Nat) : List Nat × RateLimiter :=
  let n := arrivals.length
  let c := Crowd.run (n * (n + 1)) ⟨l, arrivals, []⟩
  (c.granted.reverse, c.limiter)

end RateLimiter

end Compositor
