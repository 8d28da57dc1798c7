import Compositor.Datum.Basic
import Compositor.Encoder.Backend
import Compositor.Encoder.Listing

/-! # The data form of encoders -/

namespace Compositor

/-- The data form of a profile. -/
def EncoderProfile.toDatum (p : EncoderProfile) : Datum :=
  .ofMembers
    [("backend", .text p.backend.name), ("encoder", .text p.encoder),
     ("flags", .list (p.flags.map .text)), ("hwaccel_args", .list (p.hardwareArgs.map .text)),
     ("pixel_format",
       match p.pixelFormat with
       | none => .null
       | some format => .text format),
     ("priority", .integer p.priority)]

/-- The data form of a listing of encoders. -/
def EncoderSupport.toDatum (s : EncoderSupport) : Datum :=
  .ofMembers
    [("flags", .ofMembers (Backend.preference.map fun b => (b.encoder, .bool (s.supports b)))),
     ("available", .list (s.available.map fun b => .text b.name))]

end Compositor
