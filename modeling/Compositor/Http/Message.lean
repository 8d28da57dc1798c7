import Compositor.Datum.Basic
import Compositor.Metric.Exposition

/-! # Requests and responses -/

namespace Compositor

/-- A request. -/
structure Request where
  method : String
  path : String
  query : String
  /-- The media type that the request says its body has. -/
  contentType : Option String
  body : String
deriving DecidableEq

/-- The path and the query of a request's target.  A fragment is dropped. -/
def Request.splitTarget (target : String) : String × String :=
  let (path, query) := (target.toList.takeWhile (· != '#')).span (· != '?')
  (String.ofList path, String.ofList (query.drop 1))

/-- What a response carries. -/
inductive Body where
  | empty
  | json (d : Datum)
  | samples (samples : List Sample)
  /-- A text for people to read. -/
  | explanation

/-- A response. -/
structure Response where
  status : Nat
  /-- The methods that are possible, if the one of the request is not. -/
  allow : List String
  body : Body

namespace Response

/-- A response with data. -/
def ofDatum (status : Nat) (d : Datum) : Response := ⟨status, [], .json d⟩

/-- A response that tells of an error. -/
def ofError (status : Nat) (message : String) : Response :=
  ofDatum status (.ofMembers [("error", .text message)])

/-- A request that cannot be understood. -/
def refusal (status : Nat) : Response := ⟨status, [], .explanation⟩

/-- There is nothing at the path of the request. -/
def notFound : Response := ⟨404, [], .empty⟩

/-- The method is not possible at the path. -/
def methodNotAllowed (allow : List String) : Response := ⟨405, allow, .empty⟩

/-- The media type of the body. -/
def contentType (r : Response) : Option String :=
  match r.body with
  | .empty => none
  | .json _ => some "application/json"
  | .samples _ => some "text/plain; version=0.0.4"
  | .explanation => some "text/plain; charset=utf-8"

end Response

end Compositor
