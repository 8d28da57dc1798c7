import Compositor.Text.Blank

/-! # Encoder backends

A backend is a family of video encoders.  The hardware backends are tried in
order of priority; the software backend is always there and comes last.

An `EncoderProfile` is what a backend needs on the engine's command line.
-/

namespace Compositor

/-- A family of video encoders. -/
inductive Backend where
  | nvenc
  | amf
  | qsv
  | videoToolbox
  | software
deriving DecidableEq

namespace Backend

/-- All backends, the most preferred one first. -/
def preference : List Backend := [.nvenc, .amf, .qsv, .videoToolbox, .software]

/-- The backend's name. -/
def name : Backend → String
  | .nvenc => "nvenc"
  | .amf => "amf"
  | .qsv => "qsv"
  | .videoToolbox => "videotoolbox"
  | .software => "software"

/-- The engine's name of the backend's encoder. -/
def encoder : Backend → String
  | .nvenc => "h264_nvenc"
  | .amf => "h264_amf"
  | .qsv => "h264_qsv"
  | .videoToolbox => "h264_videotoolbox"
  | .software => "libx264"

/-- How much the backend is preferred. -/
def priority : Backend → Nat
  | .nvenc => 40
  | .amf => 30
  | .qsv => 20
  | .videoToolbox => 10
  | .software => 0

/-- The backend runs on special hardware, so it may be missing. -/
def isHardware : Backend → Bool
  | .software => false
  | _ => true

/-- The backend of a name as it is written in a document. -/
def ofName? (s : String) : Option Backend := preference.find? fun b => b.name == s

/-- The backend that a user means, by any of its usual names in any case. -/
def parse? (s : String) : Option Backend :=
  let s := Text.lower s
  if s = "nvenc" ∨ s = "cuda" ∨ s = "nvidia" then some .nvenc
  else if s = "amf" ∨ s = "amd" then some .amf
  else if s = "qsv" ∨ s = "intel" then some .qsv
  else if s = "videotoolbox" ∨ s = "vt" then some .videoToolbox
  else if s = "software" ∨ s = "cpu" ∨ s = "libx264" then some .software
  else none

/-- What is said of a name that means no backend. -/
def unknownMessage (s : String) : String := "unknown backend: " ++ Text.lower s

end Backend

/-- What a backend needs on the engine's command line. -/
structure EncoderProfile where
  backend : Backend
  encoder : String
  /-- The encoder's own options. -/
  flags : List String
  /-- Options that set up the hardware, before all inputs. -/
  hardwareArgs : List String
  /-- The pixel format, if the backend needs a particular one. -/
  pixelFormat : Option String
  priority : Nat
deriving DecidableEq

namespace EncoderProfile

/-- The encoder's own options at a quality. -/
def flagsFor (quality : Nat) : Backend → List String
  | .nvenc => ["-preset", "p5", "-tune", "hq", "-rc", "vbr", "-cq", toString quality]
  | .amf =>
    ["-quality", "quality", "-rc", "cqp", "-qp_i", toString quality, "-qp_p", toString quality]
  | .qsv => ["-preset", "medium", "-global_quality", toString quality]
  | .videoToolbox => ["-b:v", "0", "-q:v", toString quality, "-allow_sw", "1"]
  | .software => ["-preset", "medium", "-crf", toString quality]

/-- The options that set up the hardware. -/
def hardwareArgsFor : Backend → List String
  | .qsv => ["-init_hw_device", "qsv=hw", "-filter_hw_device", "hw"]
  | _ => []

/-- The pixel format that the backend needs. -/
def pixelFormatFor : Backend → Option String
  | .qsv => some "nv12"
  | .videoToolbox => some "nv12"
  | _ => none

/-- The profile of a backend at a quality. -/
def ofBackend (backend : Backend) (quality : Nat) : EncoderProfile where
  backend := backend
  encoder := backend.encoder
  flags := flagsFor quality backend
  hardwareArgs := hardwareArgsFor backend
  pixelFormat := pixelFormatFor backend
  priority := backend.priority

/-- The options that select and set up the encoder. -/
def codecArgs (p : EncoderProfile) : List String := ["-c:v", p.encoder] ++ p.flags

end EncoderProfile

end Compositor
