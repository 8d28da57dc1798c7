import Compositor.Assets.Embedded
import Compositor.Assets.Error
import Compositor.Files.Tree
import Compositor.Settings.Fetch
import Compositor.Traffic.RateLimit
import Compositor.Url.Basic

/-! # Downloads

A download is a request that is tried again after passing failures.  Every attempt
waits for the rate limit.  Several downloads share a pool of workers.

The network is beyond the program's control, so a `Network` is any way of
answering requests, over any state of the world, together with a clock.
-/

namespace Compositor

/-- What came of a request. -/
inductive Reply where
  | noConnection
  /-- An answer; its body is nothing if it was cut short. -/
  | answer (status : Nat) (body : Option (List UInt8))
deriving DecidableEq

/-- A network and a clock, over states of the world. -/
structure Network (σ : Type) where
  get : Url → σ → Reply × σ
  /-- The present instant, in nanoseconds. -/
  now : σ → Nat
  /-- Lets nanoseconds pass. -/
  sleep : Nat → σ → σ

/-- How an attempt at a download went. -/
inductive AttemptOutcome where
  | ok
  | transient
  | failed
deriving DecidableEq

/-- The outcome of an attempt with a result. -/
def AttemptOutcome.ofResult {α : Type} : Except AssetError α → AttemptOutcome
  | .ok _ => ok
  | .error e => if e.isTransient then transient else failed

/-- A file to download: the position of its source in the scene, and the URL. -/
structure Download where
  index : Nat
  url : String
deriving DecidableEq

/-- A file that was downloaded, with the position of the source that it is for. -/
structure Downloaded where
  index : Nat
  path : String
deriving DecidableEq

/-- The state of the part of the service that gets assets. -/
structure Stager (σ : Type) where
  settings : FetchSettings
  limiter : RateLimiter
  pool : Pool Downloaded
  /-- The outcomes of all attempts, latest first. -/
  attempts : List AttemptOutcome
  files : FileTree
  world : σ

/-- What the stager says about its traffic. -/
structure FetchStatus where
  pool : PoolStatus
  rateLimit : RateLimitStatus
deriving DecidableEq

namespace Stager

variable {σ : Type}

/-- A stager that has done nothing yet.  There is none if the settings name a user
    agent that cannot be sent. -/
def ofSettings (settings : FetchSettings) (files : FileTree) (world : σ) :
    Except AssetError (Stager σ) :=
  if settings.canBeSent then
    .ok
      { settings, files, world
        limiter := .perMinute settings.callsPerMinute
        pool := .ofLimit "fetch" settings.maxConcurrent
        attempts := [] }
  else .error (.client "builder error")

variable (net : Network σ)

/-- Waits until the rate limit lets a request through. -/
def awaitTurn (s : Stager σ) : Stager σ :=
  let now := net.now s.world
  let (granted, limiter) := s.limiter.admitAll [now]
  let time := granted.headD now
  { s with limiter, world := if now < time then net.sleep (time - now) s.world else s.world }

/-- The stager's account of its traffic. -/
def status (s : Stager σ) : FetchStatus :=
  ⟨s.pool.status, (s.limiter.status (net.now s.world)).1⟩

/-- A character that the host of a URL may have, but not that of a request. -/
def isUnfitForRequest (c : Char) : Bool := c == '"' || c == '`' || c == '{' || c == '}'

/-- The request can be made at all: it goes to a host on the Web. -/
def isRequestable (u : Url) : Bool :=
  match u.host with
  | some host =>
    (u.scheme == "http" || u.scheme == "https") && !host.toList.any isUnfitForRequest
  | none => false

/-- What a reply means. -/
def readReply (raw : String) (u : Url) : Reply → Except AssetError (List UInt8)
  | .noConnection =>
    .error
      (.request raw ("error sending request for url (" ++ u.withoutCredentials.text ++ ")") true)
  | .answer status body =>
    if 200 ≤ status ∧ status < 300 then
      match body with
      | some bytes => .ok bytes
      | none => .error (.request raw "error decoding response body" false)
    else .error (.status raw status)

/-- One request. -/
def request (raw : String) (u : Url) (s : Stager σ) : Except AssetError (List UInt8) × Stager σ :=
  if isRequestable u then
    let (reply, world) := net.get u s.world
    (readReply raw u reply, { s with world })
  else
    (.error
      (.request raw ("builder error for url (" ++ u.withoutCredentials.text ++ ")") false), s)

/-- One attempt: waits for its turn, and its outcome is recorded. -/
def attempt (raw : String) (u : Url) (s : Stager σ) : Except AssetError (List UInt8) × Stager σ :=
  let (result, s) := request net raw u (s.awaitTurn net)
  (result, { s with attempts := .ofResult result :: s.attempts })

/-- The bytes at a URL. -/
def fetch (raw : String) (s : Stager σ) : Except AssetError (List UInt8) × Stager σ :=
  match Url.parse? raw with
  | none => (.error (.invalidUrl raw), s)
  | some u =>
    s.settings.retry.retry AssetError.isTransient (fun _ s => attempt net raw u s)
      (fun ms s => { s with world := net.sleep (ms * RateLimiter.millisecond) s.world }) s

/-! ## Files -/

/-- The longest file extension that is taken from a URL. -/
def extensionLimit : Nat := 5

/-- The file extension of a URL: what follows the last dot of its path, if that
    looks like one. -/
def urlExtension (raw : String) : String :=
  let found := do
    let u ← Url.parse? raw
    let name ← u.lastSegment?
    let (reversed, _) ← Embedded.splitAt? '.' name.toList.reverse
    let ext := reversed.reverse.map Char.toLower
    if !ext.isEmpty && ext.length ≤ extensionLimit && ext.all Char.isAlphanum then
      some (String.ofList ext)
    else none
  found.getD Embedded.plainExtension

/-- The name of the file of an asset. -/
def assetName (index : Nat) (ext : String) : String := "asset_" ++ toString index ++ "." ++ ext

/-- The file that a download goes to. -/
def Download.path (workDir : String) (d : Download) : String :=
  Path.join workDir (assetName d.index (urlExtension d.url))

/-- Writes a file. -/
def writeFile (path : String) (bytes : List UInt8) (s : Stager σ) :
    Except AssetError Unit × Stager σ :=
  match s.files.write path bytes with
  | .ok files => (.ok (), { s with files })
  | .error e => (.error (.io path e.message), s)

/-- Downloads a file; the value says where it is and what it is for. -/
def download (workDir : String) (d : Download) (s : Stager σ) : ItemEnd Downloaded × Stager σ :=
  match fetch net d.url s with
  | (.error e, s) => (.error e.message, s)
  | (.ok bytes, s) =>
    let path := Download.path workDir d
    match writeFile path bytes s with
    | (.ok (), s) => (.value ⟨d.index, path⟩, s)
    | (.error e, s) => (.error e.message, s)

/-- Downloads files through the pool. -/
def downloadAll (workDir : String) (ds : List Download) (s : Stager σ) :
    Except AssetError (List Downloaded) × Stager σ :=
  if ds.isEmpty then (.ok [], s)
  else
    let (result, pool, s) := s.pool.runInTurn (download net workDir) ds s
    (result.mapError .batch, { s with pool })

end Stager

end Compositor
