import Compositor.Datum.Basic
import Compositor.Traffic.Pool
import Compositor.Traffic.RateLimit

/-! # The data form of pools and rate limits -/

namespace Compositor

/-- The data form of a pool's account of itself. -/
def PoolStatus.toDatum (s : PoolStatus) : Datum :=
  .ofMembers
    [("name", .text s.name), ("active", .integer s.active),
     ("max_concurrent", .integer s.maxConcurrent), ("total_processed", .integer s.totalProcessed),
     ("total_failed", .integer s.totalFailed)]

/-- The members of a rate limiter's account of itself. -/
def RateLimitStatus.members (s : RateLimitStatus) : List (String × Datum) :=
  [("max_calls", .integer s.maxCalls), ("window_ms", .integer s.window),
   ("calls_in_window", .integer s.callsInWindow),
   ("next_available_in_ms",
     match s.nextAvailable with
     | none => .null
     | some ms => .integer ms)]

/-- The data form of a rate limiter's account of itself. -/
def RateLimitStatus.toDatum (s : RateLimitStatus) : Datum := .ofMembers s.members

end Compositor
