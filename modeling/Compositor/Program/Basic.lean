import Compositor.Filter.Graph
import Compositor.Double.Basic

/-! # Render programs

A render program is what a scene is compiled to: a filter graph and the inputs
that its streams refer to, by their index.
-/

namespace Compositor

/-- An input of the engine. -/
inductive Input where
  /-- A picture that the engine generates. -/
  | generated (spec : String)
  /-- An image that is repeated for some seconds. -/
  | loopedImage (path : String) (duration : Double)
  /-- An image that is read once. -/
  | stillImage (path : String)
  /-- Sound, repeated for ever or played once. -/
  | audio (path : String) (looped : Bool)
deriving DecidableEq

/-- What a scene is compiled to. -/
structure Program where
  graph : Graph
  inputs : List Input
  duration : Double
deriving DecidableEq

namespace Program

/-- The label of the finished video. -/
def videoLabel (_ : Program) : Label := Label.videoOut

/-- The label of the finished audio, if there is any. -/
def audioLabel? (p : Program) : Option Label :=
  (p.graph.producer? Label.audioOut).map fun _ => Label.audioOut

end Program

end Compositor
