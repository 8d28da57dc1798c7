import Compositor.Metric.Basic

/-! # Exposition of metrics

Monitoring reads metrics as samples: a name with labels, and a number.
-/

namespace Compositor

/-- A sample: its name with labels, and its number. -/
structure Sample where
  name : String
  value : Nat
deriving DecidableEq

namespace Sample

/-- The value of a label, in quotes; quotes, backslashes and ends of lines in it are
    escaped. -/
def quotedLabel (s : String) : String :=
  let body := s.toList.flatMap fun c =>
    match c with
    | '\\' => ['\\', '\\']
    | '"' => ['\\', '"']
    | '\n' => ['\\', 'n']
    | c => [c]
  "\"" ++ String.ofList body ++ "\""

/-- A name with labels. -/
def labelled (name : String) (labels : List (String × String)) : String :=
  name ++ "\x7b" ++ ",".intercalate (labels.map fun l => l.1 ++ "=" ++ quotedLabel l.2) ++ "\x7d"

end Sample

/-- The outcome's name. -/
def AttemptOutcome.name : AttemptOutcome → String
  | ok => "ok"
  | transient => "transient"
  | failed => "failed"

namespace Metric

/-- Success or failure as the value of a label. -/
def resultName (ok : Bool) : String := if ok then "ok" else "failed"

/-- The labels of a request. -/
def requestLabels (method path : String) (status : Nat) : List (String × String) :=
  [("method", method), ("path", path), ("status", toString status)]

/-- The names of the samples that go up by one with the metric. -/
def sampleNames : Metric → List String
  | jobSubmitted => ["montage_jobs_submitted_total"]
  | jobFinished status => [Sample.labelled "montage_jobs_finished_total" [("status", status.name)]]
  | engineRun backend ok =>
    [Sample.labelled "montage_engine_run_duration_seconds_count"
      [("backend", backend.name), ("result", resultName ok)]]
  | probe backend ok =>
    [Sample.labelled "montage_probe_outcomes_total"
      [("backend", backend.name), ("result", resultName ok)]]
  | fetchAttempt outcome =>
    [Sample.labelled "montage_fetch_attempts_total" [("result", outcome.name)]]
  | request method path status =>
    [Sample.labelled "montage_http_request_duration_seconds_count"
        (requestLabels method path status),
      Sample.labelled "montage_http_requests_total" (requestLabels method path status)]

end Metric

/-- The samples of all counts that are not zero. -/
def Tally.samples (t : Tally) : List Sample :=
  let names := t.increments.flatMap Metric.sampleNames
  names.eraseDups.map fun name => ⟨name, names.count name⟩

end Compositor
