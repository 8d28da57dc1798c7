import Compositor.Http.MediaType
import Compositor.Http.Message
import Compositor.Http.PathLabel
import Compositor.Http.Query
import Compositor.Http.Route
import Compositor.Job.Calls
import Compositor.Job.Format
import Compositor.Json.Reader
import Compositor.Scene.Format
import Compositor.Settings.Basic
import Compositor.Traffic.Format

/-! # The site

The service as it is seen over HTTP.  A request is answered in one go; workers act
between requests.  Every request is counted once it is answered.
-/

namespace Compositor

/-- The service and the settings that it shows. -/
structure Site (ω : Type) where
  settings : Settings
  service : Service ω

namespace Site

variable {ω : Type}

/-! ## Reading requests -/

/-- The most jobs on a page. -/
def greatestPage : Nat := 1000

/-- A page size that is asked for: at least one job, and not too many. -/
def pageSize (limit : Option Nat) : Nat :=
  min (max (limit.getD JobFilter.standard.limit) 1) greatestPage

/-- The filter of a query, its status apart, and the status as it is written; nothing
    if the query cannot be understood. -/
def filterOf? (query : String) : Option (JobFilter × Option String) := do
  let ps := Query.parameters query
  let status ← Query.text? "status" ps
  let limit ← Query.number?? "limit" ps
  let offset ← Query.number?? "offset" ps
  pure (⟨none, pageSize limit, offset.getD 0⟩, status)

/-- The identifier of a job without its encoding; nothing if it is no text. -/
def identifier? (raw : String) : Option String := Text.decode? (Percent.decode (Text.utf8 raw))

/-- Reads the body of a cancellation: a reason may be given.  A list of no values is
    refused. -/
def readReason : Reader (Option String)
  -- The reason may be absent from a record, but a list has a place for it.
  | .list [] => .error .wrongShape
  | d => do
    let (reason, ()) ← (Fields.cons (.absentable "reason" Reader.text) .nil).read d
    pure reason

/-- The longest body that is read, in bytes. -/
def longestBody : Nat := 2 * 1024 * 1024

/-- Reads a body, or refuses it. -/
def readBody {α : Type} (read : Reader α) (r : Request) : Except Response α :=
  if !(r.contentType.map MediaType.isJson).getD false then .error (.refusal 415)
  else if longestBody < r.body.utf8ByteSize then .error (.refusal 413)
  else
    match Json.decode read r.body with
    | .ok x => .ok x
    | .error .malformed => .error (.refusal 400)
    | .error .wrongShape => .error (.refusal 422)

/-- Reads a body that may be left out: it is if nothing is said about its type. -/
def readOptionalBody {α : Type} (read : Reader α) (r : Request) : Except Response (Option α) :=
  if r.contentType.isSome then (readBody read r).map some else .ok none

/-! ## Answers -/

/-- The version of the service. -/
def version : String := "0.1.0"

/-- How a refused call is answered. -/
def refused (e : ServiceError) : Response :=
  let status :=
    match e with
    | .validation _ => 400
    | .job (.notFound _) => 404
    | .job (.invalidTransition _ _ _) => 409
  .ofError status e.message

/-- The answer of a call. -/
def called (status : Nat) : Except ServiceError Job → Response
  | .ok job => .ofDatum status job.report
  | .error e => refused e

/-- The page of a filter. -/
def page (s : Service ω) (f : JobFilter) : Response :=
  .ofDatum 200 <| .ofMembers
    [("jobs", .list ((s.store.list f).map Job.report)), ("total", .integer (s.store.count f)),
     ("limit", .integer f.limit), ("offset", .integer f.offset)]

/-- Lists jobs. -/
def listJobs (s : Service ω) (query : String) : Response :=
  match filterOf? query with
  | none => .refusal 400
  | some (f, none) => page s f
  | some (f, some name) =>
    match JobStatus.parse? name with
    | some status => page s { f with status := some status }
    | none => .ofError 400 (JobStatus.unknownMessage name)

/-- Shows a job. -/
def showJob (s : Service ω) (raw : String) : Response :=
  match identifier? raw with
  | none => .refusal 400
  | some id =>
    match s.store.get? id with
    | some job => .ofDatum 200 job.report
    | none => refused (.job (.notFound id))

/-- Submits the scene in the body. -/
def submitJob (s : Service ω) (id : String) (r : Request) : Response × Service ω :=
  match readBody Scene.read r with
  | .error response => (response, s)
  | .ok scene =>
    let (result, s) := s.submit id scene
    (called 202 result, s)

/-- Cancels a job for the reason in the body, if there is one. -/
def cancelJob (s : Service ω) (raw : String) (r : Request) : Response × Service ω :=
  match identifier? raw with
  | none => (.refusal 400, s)
  | some id =>
    match readOptionalBody readReason r with
    | .error response => (response, s)
    | .ok reason =>
      let (result, s) := s.cancel id reason.join
      (called 200 result, s)

/-- The settings that are shown. -/
def shownSettings (site : Site ω) : Response := .ofDatum 200 site.settings.toDatum

/-- That the service is well. -/
def health : Response :=
  .ofDatum 200 (.ofMembers [("status", .text "ok"), ("version", .text version)])

variable (crew : Crew ω)

/-- The traffic of the crew. -/
def traffic (s : Service ω) : Response :=
  .ofDatum 200 <| .ofMembers <|
    match crew.traffic? s.world with
    | none => [("configured", .bool false)]
    | some t =>
      [("configured", .bool true), ("pool", t.pool.toDatum), ("rate_limit", t.rateLimit.toDatum)]

/-- The samples of what there is now.  The request that asks is the only one that is
    being answered. -/
def gauges (s : Service ω) : List Sample :=
  ⟨"montage_http_requests_in_flight", 1⟩
    :: JobStatus.all.map fun status =>
      ⟨Sample.labelled "montage_jobs_by_status" [("status", status.name)],
        s.store.count (.ofStatus status)⟩

/-- All samples. -/
def metrics (s : Service ω) : Response :=
  let counted : Tally := ⟨s.tally.increments ++ crew.counted s.world⟩
  ⟨200, [], .samples (gauges s ++ counted.samples)⟩

/-- Does what a request asks for.  A job that is submitted gets the identifier. -/
def answer (site : Site ω) (id : String) (r : Request) : Endpoint → Response × Service ω
  | .health => (health, site.service)
  | .settings => (site.shownSettings, site.service)
  | .traffic => (traffic crew site.service, site.service)
  | .submitJob => submitJob site.service id r
  | .listJobs => (listJobs site.service r.query, site.service)
  | .showJob raw => (showJob site.service raw, site.service)
  | .cancelJob raw => cancelJob site.service raw r
  | .metrics => (metrics crew site.service, site.service)

/-- Finds out what a request asks for, and does it. -/
def dispatch (site : Site ω) (id : String) (r : Request) : Response × Service ω :=
  match Place.ofPath? r.path with
  | none => (.notFound, site.service)
  | some place =>
    match place.endpoint? r.method with
    | none => (.methodNotAllowed place.methods, site.service)
    | some endpoint => site.answer crew id r endpoint

/-- Answers a request and counts it. -/
def respond (site : Site ω) (id : String) (r : Request) : Response × Site ω :=
  let (response, service) := site.dispatch crew id r
  let tally :=
    service.tally.add (.request r.method (PathLabel.ofPath r.path) response.status)
  (response, { site with service := { service with tally } })

/-- What is sent of a response: to a `HEAD` request no body. -/
def sentBody (r : Request) (response : Response) : Body :=
  if r.method == "HEAD" then .empty else response.body

end Site

end Compositor
