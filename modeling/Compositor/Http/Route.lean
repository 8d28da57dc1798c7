import Compositor.Text.Split

/-! # Routes

A path leads to a place of the service, and the place and the method together say
what is asked for.  Letters of a path are taken as they are written; only the
identifier of a job may be percent-encoded.
-/

namespace Compositor

/-- A place that a path leads to. -/
inductive Place where
  | health
  | settings
  | traffic
  | jobs
  /-- A job; its identifier is as it is written in the path. -/
  | job (id : String)
  | metrics
deriving DecidableEq

/-- What a request asks for. -/
inductive Endpoint where
  | health
  | settings
  | traffic
  | submitJob
  | listJobs
  | showJob (id : String)
  | cancelJob (id : String)
  | metrics
deriving DecidableEq

namespace Place

/-- The place within the service's own part of the paths. -/
def ofSegments? : List String → Option Place
  | ["health"] => some health
  | ["config"] => some settings
  | ["fetch", "status"] => some traffic
  | ["jobs"] => some jobs
  | ["jobs", id] => if id.isEmpty then none else some (job id)
  | _ => none

/-- The place that a path leads to. -/
def ofPath? (path : String) : Option Place :=
  match (Text.splitOn '/' path.toList).map String.ofList with
  | ["", "metrics"] => some metrics
  | "" :: "api" :: "v1" :: segments => ofSegments? segments
  | _ => none

/-- The methods that are possible at a place. -/
def methods : Place → List String
  | jobs => ["POST", "GET", "HEAD"]
  | job _ => ["GET", "HEAD", "DELETE"]
  | _ => ["GET", "HEAD"]

/-- What is asked for at a place by getting it. -/
def shown : Place → Endpoint
  | health => .health
  | settings => .settings
  | traffic => .traffic
  | jobs => .listJobs
  | job id => .showJob id
  | metrics => .metrics

/-- What a method asks for at a place, if it is possible there. -/
def endpoint? (p : Place) (method : String) : Option Endpoint :=
  match method, p with
  | "GET", _ => some p.shown
  | "HEAD", _ => some p.shown
  | "POST", jobs => some .submitJob
  | "DELETE", job id => some (.cancelJob id)
  | _, _ => none

end Place

end Compositor
