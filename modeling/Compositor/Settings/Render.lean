import Compositor.Datum.Record

/-! # Render settings

What every video of the service has in common.
-/

namespace Compositor

/-- How videos are rendered. -/
structure RenderSettings where
  /-- Frames per second. -/
  fps : Nat
  /-- The most image clips that a video may have. -/
  maxImageInputs : Nat
  pixelFormat : String
  /-- The quality, as the constant rate factor of the software encoder. -/
  crf : Nat
  audioBitrate : String
  /-- The seed of random pans. -/
  seed : Option Nat
deriving DecidableEq

namespace RenderSettings

/-- The settings unless said otherwise. -/
def standard : RenderSettings where
  fps := 25
  maxImageInputs := 32
  pixelFormat := "yuv420p"
  crf := 23
  audioBitrate := "192k"
  seed := none

/-- Reads render settings. -/
def read : Reader RenderSettings := fun d => do
  let (fps, maxImageInputs, pixelFormat, crf, audioBitrate, seed, ()) ←
    (Fields.cons (.orElse "fps" Reader.natural32 standard.fps) <|
      .cons (.orElse "max_image_inputs" Reader.natural64 standard.maxImageInputs) <|
      .cons (.orElse "pixel_format" Reader.text standard.pixelFormat) <|
      .cons (.orElse "crf" Reader.natural8 standard.crf) <|
      .cons (.orElse "audio_bitrate" Reader.text standard.audioBitrate) <|
      .cons (.absentable "seed" Reader.natural64) .nil).readFront d
  pure { fps, maxImageInputs, pixelFormat, crf, audioBitrate, seed }

/-- The data form of render settings. -/
def toDatum (r : RenderSettings) : Datum :=
  .ofMembers <|
    [("fps", .integer r.fps), ("max_image_inputs", .integer r.maxImageInputs),
     ("pixel_format", .text r.pixelFormat), ("crf", .integer r.crf),
     ("audio_bitrate", .text r.audioBitrate)]
      ++ (r.seed.map fun n => ("seed", Datum.integer n)).toList

end RenderSettings

end Compositor
