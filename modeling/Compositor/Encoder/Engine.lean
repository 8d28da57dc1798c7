import Compositor.Encoder.Error
import Compositor.Encoder.Listing
import Compositor.Settings.Engine
import Compositor.Text.Utf8

/-! # The external engine

The engine is a binary that is started once for each piece of work.  What the
binary does is beyond the program's control, so a `Binary` is any way of
answering a call, over any state of the world.

An `Engine` remembers the listing of encoders once it has one.  A listing that
failed is asked for again; a test encode is started only for an encoder that is
listed.
-/

namespace Compositor

/-- How a call of the binary ended. -/
structure Ending where
  /-- The exit code; nothing if a signal ended it. -/
  code : Option Int
  out : List UInt8
  err : List UInt8

/-- What became of an attempt to start the binary. -/
inductive Launch where
  | notFound
  | refused (reason : String)
  | ended (ending : Ending)

/-- Ways to call the binary, over states of the world. -/
structure Binary (σ : Type) where
  /-- Waits for the end. -/
  call : List String → σ → Launch × σ
  /-- Waits for the end, but at most so many seconds; nothing if they pass. -/
  callWithin : Nat → List String → σ → Option Launch × σ

/-- The call succeeded. -/
def Ending.succeeded (e : Ending) : Bool := e.code == some 0

/-- The error of a call that ended without success. -/
def Ending.failure (e : Ending) : EngineError :=
  .executionFailed (e.code.getD (-1)) (Text.decodeLossy e.err)

/-- An engine: its settings and what it has listed. -/
structure Engine where
  settings : EngineSettings
  listing : Option EncoderSupport

namespace Engine

/-- An engine that has listed nothing yet. -/
def ofSettings (settings : EngineSettings) : Engine := ⟨settings, none⟩

/-- The arguments that ask for the listing. -/
def listingArgs : List String := ["-hide_banner", "-encoders"]

/-- The quality of a test encode. -/
def probeQuality : Nat := 28

/-- The arguments of a test encode: a few frames of a generated picture, thrown
    away. -/
def probeArgs (b : Backend) : List String :=
  let p := EncoderProfile.ofBackend b probeQuality
  p.hardwareArgs
    ++ ["-f", "lavfi", "-i", "testsrc2=size=256x144:rate=25", "-frames:v", "5"]
    ++ p.codecArgs
    ++ ["-pix_fmt", p.pixelFormat.getD "yuv420p", "-f", "null", "-"]

/-- The arguments of a call: those of every call, then its own. -/
def callArgs (e : Engine) (args : List String) : List String :=
  ["-hide_banner", "-loglevel", e.settings.logLevel] ++ e.settings.extraArgs ++ args

variable {σ : Type} (binary : Binary σ)

/-- The error of a binary that did not start, or its ending. -/
def started (e : Engine) : Launch → Except EngineError Ending
  | .notFound => .error (.notFound e.settings.path)
  | .refused reason => .error (.io reason)
  | .ended ending => .ok ending

/-- The binary can be started. -/
def validate (e : Engine) (world : σ) : Except EngineError Unit × σ :=
  let (launch, world) := binary.call ["-version"] world
  ((e.started launch).map fun _ => (), world)

/-- The listing of encoders: the one that is remembered, or else a new one, which
    is remembered if it succeeds. -/
def list (e : Engine) (world : σ) : Except EngineError EncoderSupport × Engine × σ :=
  match e.listing with
  | some support => (.ok support, e, world)
  | none =>
    let (launch, world) := binary.call listingArgs world
    match e.started launch with
    | .error error => (.error error, e, world)
    | .ok ending =>
      if ending.succeeded then
        let support := EncoderSupport.ofListing (Text.decodeLossy ending.out)
        (.ok support, { e with listing := some support }, world)
      else (.error ending.failure, e, world)

/-- Calls the binary within a time limit; the answer is what it wrote to its error
    output. -/
def execute (e : Engine) (args : List String) (limit : Nat) (world : σ) :
    Except EngineError String × σ :=
  match binary.callWithin limit (e.callArgs args) world with
  | (none, world) => (.error (.timeout limit), world)
  | (some launch, world) =>
    match e.started launch with
    | .error error => (.error error, world)
    | .ok ending =>
      if ending.succeeded then (.ok (Text.decodeLossy ending.err), world)
      else (.error ending.failure, world)

/-- What a failed test encode says about its backend. -/
def probeFailure (b : Backend) : EngineError → EngineError
  | .executionFailed _ stderr => .probeFailed b (Text.trim stderr)
  | error => .probeFailed b error.message

/-- Tries a backend with a test encode. -/
def probe (e : Engine) (b : Backend) (world : σ) : Except EngineError Unit × Engine × σ :=
  match e.list binary world with
  | (.error error, e, world) =>
    (.error (.probeFailed b ("cannot list encoders: " ++ error.message)), e, world)
  | (.ok support, e, world) =>
    if support.supports b then
      match e.execute binary (probeArgs b) e.settings.probeTimeout world with
      | (.ok _, world) => (.ok (), e, world)
      | (.error error, world) => (.error (probeFailure b error), e, world)
    else (.error (.encoderUnavailable b.encoder), e, world)

/-- Renders. -/
def run (e : Engine) (args : List String) (world : σ) : Except EngineError String × σ :=
  e.execute binary args e.settings.runTimeout world

end Engine

end Compositor
