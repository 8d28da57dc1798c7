import Compositor.Datum.Record
import Compositor.Traffic.Backoff

/-! # Fetch settings

How assets are downloaded.
-/

namespace Compositor

/-- Reads a retry policy. -/
def RetryPolicy.read : Reader RetryPolicy := fun d => do
  let (maxAttempts, initialDelay, maxDelay, multiplier, ()) ←
    (Fields.cons (.orElse "max_attempts" Reader.natural32 standard.maxAttempts) <|
      .cons (.orElse "initial_delay_ms" Reader.natural64 standard.initialDelay) <|
      .cons (.orElse "max_delay_ms" Reader.natural64 standard.maxDelay) <|
      .cons (.orElse "backoff_multiplier" Reader.real standard.multiplier) .nil).readFront d
  pure { maxAttempts, initialDelay, maxDelay, multiplier }

/-- The data form of a retry policy. -/
def RetryPolicy.toDatum (p : RetryPolicy) : Datum :=
  .ofMembers
    [("max_attempts", .integer p.maxAttempts), ("initial_delay_ms", .integer p.initialDelay),
     ("max_delay_ms", .integer p.maxDelay), ("backoff_multiplier", .real p.multiplier)]

/-- How assets are downloaded. -/
structure FetchSettings where
  /-- The most downloads at once. -/
  maxConcurrent : Nat
  callsPerMinute : Nat
  /-- How many seconds one request may take. -/
  timeout : Nat
  /-- What the program calls itself. -/
  userAgent : String
  retry : RetryPolicy
deriving DecidableEq

namespace FetchSettings

/-- The settings unless said otherwise. -/
def standard : FetchSettings where
  maxConcurrent := 4
  callsPerMinute := 60
  timeout := 30
  userAgent := "montage/0.1.0"
  retry := .standard

/-- The user agent can be sent: it has no control characters but tabs. -/
def canBeSent (s : FetchSettings) : Bool :=
  s.userAgent.toList.all fun c => c == '\t' || (decide (0x20 ≤ c.toNat) && c.toNat != 0x7F)

/-- Reads fetch settings. -/
def read : Reader FetchSettings := fun d => do
  let (maxConcurrent, callsPerMinute, timeout, userAgent, retry, ()) ←
    (Fields.cons (.orElse "max_concurrent" Reader.natural64 standard.maxConcurrent) <|
      .cons (.orElse "calls_per_minute" Reader.natural32 standard.callsPerMinute) <|
      .cons (.orElse "timeout_secs" Reader.natural64 standard.timeout) <|
      .cons (.orElse "user_agent" Reader.text standard.userAgent) <|
      .cons (.orElse "retry" RetryPolicy.read standard.retry) .nil).readFront d
  pure { maxConcurrent, callsPerMinute, timeout, userAgent, retry }

/-- The data form of fetch settings. -/
def toDatum (s : FetchSettings) : Datum :=
  .ofMembers
    [("max_concurrent", .integer s.maxConcurrent), ("calls_per_minute", .integer s.callsPerMinute),
     ("timeout_secs", .integer s.timeout), ("user_agent", .text s.userAgent),
     ("retry", s.retry.toDatum)]

end FetchSettings

end Compositor
