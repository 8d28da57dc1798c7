import Compositor.Curve.Expression
import Compositor.Encoder.Backend
import Compositor.Program.Basic
import Compositor.Settings.Render

/-! # The engine's arguments

The engine is given everything on its command line: options for each input right
before it, the filter graph, what to write and how to encode it, and the output
file last.
-/

namespace Compositor

variable [w : Spelling]

/-- An input and the options that apply to it. -/
def Input.args : Input → List String
  | generated spec => ["-f", "lavfi", "-i", spec]
  | loopedImage path duration => ["-loop", "1", "-t", duration.numeralText, "-i", path]
  | stillImage path => ["-i", path]
  | audio path true => ["-stream_loop", "-1", "-i", path]
  | audio path false => ["-i", path]

namespace Program

/-- The options that select what is written. -/
def mapArgs (p : Program) : List String :=
  ["-map", p.videoLabel.text]
    ++ (p.audioLabel?.map fun label => ["-map", label.text]).getD []

/-- The options that encode the audio, if there is any. -/
def audioArgs (p : Program) (render : RenderSettings) : List String :=
  if p.audioLabel?.isSome then ["-c:a", "aac", "-b:a", render.audioBitrate] else []

/-- The engine's arguments for a program. -/
def args (p : Program) (profile : EncoderProfile) (render : RenderSettings) (output : String) :
    List String :=
  ["-y"] ++ profile.hardwareArgs
    ++ p.inputs.flatMap Input.args
    ++ ["-filter_complex", p.graph.program]
    ++ p.mapArgs
    ++ profile.codecArgs
    ++ p.audioArgs render
    ++ ["-pix_fmt", profile.pixelFormat.getD render.pixelFormat,
        "-r", toString render.fps,
        "-movflags", "+faststart",
        "-t", p.duration.numeralText,
        output]

end Program

end Compositor
