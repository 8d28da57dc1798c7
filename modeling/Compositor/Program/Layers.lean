import Compositor.Curve.Expression
import Compositor.Filter.Subtitles
import Compositor.Program.Basic
import Compositor.Random.ChaCha
import Compositor.Settings.Render

/-! # Compiling scenes

A scene is compiled layer by layer.  The `Draft` holds the graph so far and the
pad with the picture so far; each layer reads that pad and leaves its own output
as the new one: the background, then the image clips, then the text cues.  The
last picture becomes the finished video, the audio tracks are mixed beside it,
and subtitles are drawn last.

Elements that cannot be shown are left out before anything is done for them: they
take no label, no input, no place among the images and no random draw.

Numbers are written in a `Spelling`, which is the standard one unless another one
is given.
-/

namespace Compositor

variable [w : Spelling]

/-! ## Eligible elements -/

/-- The clip can be shown. -/
def ImageClip.isEligible (clip : ImageClip) : Bool :=
  clip.source.location?.isSome && clip.start.isFinite && clip.length.isFinite
    && Double.lessEq 0 clip.start && Double.less 0 clip.length
    && clip.rect.all fun r => decide (0 < r.width) && decide (0 < r.height)

/-- The cue can be shown. -/
def TextCue.isEligible (cue : TextCue) : Bool :=
  !Text.allBlank cue.text && cue.start.isFinite && cue.finish.isFinite
    && Double.lessEq 0 cue.start && Double.less cue.start cue.finish

/-- The subtitles that are drawn, with the location of their file. -/
def Scene.drawnSubtitles? (scene : Scene) : Option (Subtitles × String) :=
  match scene.subtitles with
  | some s =>
    match s.source with
    | .file source => source.location?.map fun path => (s, path)
    | .inline _ => none
  | none => none

/-! ## Filter texts -/

namespace Filter

/-- Fills a frame with a picture, cutting off what sticks out. -/
def fillCrop (width height : Nat) : String :=
  s!"scale={width}:{height}:force_original_aspect_ratio=increase,crop={width}:{height},setsar=1"

/-- Brings a picture to a size. -/
def stretch (width height : Nat) : String := s!"scale={width}:{height},setsar=1"

/-- A slow zoom. -/
structure Zoom where
  rate : Double
  panX : String
  panY : String
  prescaleWidth : Nat

/-- Where a zoom may stay or move to, as the horizontal and vertical pan. -/
def panPresets : List (String × String) :=
  [("iw/2-(iw/zoom/2)", "ih/2-(ih/zoom/2)"), ("0", "0"), ("iw-iw/zoom", "0"),
   ("0", "ih-ih/zoom"), ("iw-iw/zoom", "ih-ih/zoom")]

instance : Nonempty (Fin panPresets.length) := ⟨⟨0, by decide⟩⟩

/-- The greatest zoom. -/
def maxZoom : Double := .ofDecimal false 15 (-1)

/-- The number of frames that a still image is zoomed for. -/
def zoomFrames (length : Double) (fps : Nat) : Nat :=
  Nat.max 1 ((length * Double.ofNat fps).round.toNatUpTo (Nat.pow 2 64 - 1))

/-- Zooms into a still image and shifts it to its start. -/
def zoom (z : Zoom) (clip : ImageClip) (width height fps : Nat) : String :=
  "scale=" ++ toString z.prescaleWidth ++ ":-2,zoompan=z='min(zoom+" ++ z.rate.numeralText ++ ","
    ++ maxZoom.numeralText ++ ")':x='" ++ z.panX ++ "':y='" ++ z.panY ++ "':d="
    ++ toString (zoomFrames clip.length fps)
    ++ ":s=" ++ toString width ++ "x" ++ toString height ++ ":fps=" ++ toString fps
    ++ ",setpts=PTS-STARTPTS+" ++ clip.start.numeralText ++ "/TB"

/-- Lays a picture over another from the clip's start to its end. -/
def overlay (x y : Int) (clip : ImageClip) : String :=
  "overlay=" ++ toString x ++ ":" ++ toString y ++ ":enable='gte(t," ++ clip.start.numeralText
    ++ ")*lt(t," ++ clip.finish.numeralText ++ ")'"

/-- The options of a text that does not move. -/
def fixedTextOptions (cue : TextCue) : List String :=
  ["fontsize=" ++ toString cue.fontSize,
   "fontcolor=" ++ cue.color,
   "x=" ++ (cue.x.map Double.numeralText).getD "(w-text_w)/2",
   "y=" ++ (cue.y.map Double.numeralText).getD "(h-text_h)/2"]

/-- The size of a text whose scale follows a curve. -/
def scaledFontSize (fontSize : Nat) (variableText : String) : Curve Double → String
  | .constant s => "fontsize=" ++ ((Double.ofNat fontSize * s).round).numeralText
  | scale => "fontsize='" ++ toString fontSize ++ "*" ++ scale.expressionText variableText ++ "'"

/-- The opacity of a text; full opacity needs no option. -/
def opacityOptions (variableText : String) (opacity : Curve Double) : List String :=
  let full := match opacity with
    | .constant v => v.same 1
    | .pieces _ _ _ => false
  if full then [] else ["alpha='" ++ opacity.expressionText variableText ++ "'"]

/-- The options of a text that moves.  The times of its keyframes count from its
    start. -/
def movingTextOptions (cue : TextCue) : List String :=
  let variableText := "(t-" ++ cue.start.numeralText ++ ")"
  let formula (p : TextProperty) : String := (p.curve cue.keyframes).expressionText variableText
  [scaledFontSize cue.fontSize variableText (TextProperty.scale.curve cue.keyframes),
   "fontcolor=" ++ cue.color,
   "x='" ++ formula .x ++ "'",
   "y='" ++ formula .y ++ "'"]
    ++ opacityOptions variableText (TextProperty.opacity.curve cue.keyframes)

/-- The options of a text, in order. -/
def textOptions (cue : TextCue) : List String :=
  ["text='" ++ drawnText cue.text ++ "'"]
    ++ (cue.fontFile.map fun font => "fontfile='" ++ quotedValue font ++ "'").toList
    ++ (if cue.keyframes.isEmpty then fixedTextOptions cue else movingTextOptions cue)
    ++ (cue.boxColor.map fun color => "box=1:boxcolor=" ++ color ++ ":boxborderw=10").toList
    ++ ["enable='between(t," ++ cue.start.numeralText ++ "," ++ cue.finish.numeralText ++ ")'"]

/-- Draws a text from the cue's start to its end. -/
def drawText (cue : TextCue) : String := "drawtext=" ++ String.intercalate ":" (textOptions cue)

/-- Mixes so many sounds with the given weights. -/
def mix (count : Nat) (weights : List String) : String :=
  "amix=inputs=" ++ toString count
    ++ ":duration=longest:dropout_transition=0:weights='" ++ String.intercalate " " weights
    ++ "':normalize=0"

end Filter

/-! ## Zooming -/

/-- The zoom of a clip before its pan is chosen: its own if it has one, else the
    scene's. -/
structure ZoomWish where
  rate : Double
  panX : Option String
  panY : Option String
  prescaleWidth : Nat

/-- The zoom of a clip, if it has an enabled one. -/
def ImageClip.zoomWish? (clip : ImageClip) (defaults : Option KenBurnsDefaults) : Option ZoomWish :=
  match clip.kenBurns, defaults with
  | some k, _ =>
    if k.enabled then
      some
        { rate := k.zoomRate
          panX := k.panX
          panY := k.panY
          prescaleWidth := k.prescaleWidth.getD
            ((defaults.map (·.prescaleWidth)).getD KenBurns.defaultPrescaleWidth) }
    else none
  | none, some d =>
    if d.enabled then
      some { rate := d.zoomRate, panX := none, panY := none, prescaleWidth := d.prescaleWidth }
    else none
  | none, none => none

/-- The zoom with its pan: what the clip says itself, else the preset with the
    given number. -/
def ZoomWish.settle (wish : ZoomWish) (preset : Nat) : Filter.Zoom :=
  let (x, y) := Filter.panPresets.getD preset ("0", "0")
  { rate := wish.rate
    panX := wish.panX.getD x
    panY := wish.panY.getD y
    prescaleWidth := wish.prescaleWidth }

/-- The scene draws the pans of its zoomed clips at random. -/
def Scene.randomizesPan (scene : Scene) : Bool := scene.kenBurns.any (·.randomizePan)

/-- The number of a preset: a draw if the scene wants one, else the first. -/
def Scene.choosePan (scene : Scene) (random : Generator) : Nat × Generator :=
  if scene.randomizesPan then random.draw Filter.panPresets.length else (0, random)

/-! ## Drafts -/

/-- A program in the making. -/
structure Draft where
  graph : Graph
  inputs : List Input
  labels : LabelAllocator
  /-- The picture so far. -/
  current : Pad
  random : Generator

namespace Draft

/-- Adds a filter with a numbered output. -/
def addNode (d : Draft) (kind : NodeKind) (pads : List Pad) (filter : String) (label : LabelKind) :
    Label × Draft :=
  let (output, labels) := d.labels.take label
  (output, { d with graph := d.graph.push ⟨kind, pads, filter, output⟩, labels := labels })

/-- Adds an input; it gets the next index. -/
def addInput (d : Draft) (input : Input) : Draft := { d with inputs := d.inputs ++ [input] }

/-- Nothing but a generated picture. -/
def ofColor (scene : Scene) (render : RenderSettings) (random : Generator) (color : String) :
    Draft where
  graph := Graph.empty
  inputs :=
    [.generated ("color=c=" ++ color ++ ":s=" ++ toString scene.width ++ "x"
      ++ toString scene.height ++ ":r=" ++ toString render.fps ++ ":d="
      ++ scene.duration.numeralText)]
  labels := LabelAllocator.fresh
  current := .stream 0 .video
  random := random

/-- Nothing but a background image. -/
def ofImage (scene : Scene) (random : Generator) (path : String) : Draft :=
  let empty : Draft :=
    { graph := Graph.empty
      inputs := [.loopedImage path scene.duration]
      labels := LabelAllocator.fresh
      current := .stream 0 .video
      random := random }
  let (label, d) :=
    empty.addNode .scale [.stream 0 .video] (Filter.fillCrop scene.width scene.height) .scaledImage
  { d with current := .label label }

/-- The background.  An image without a location gives way to black. -/
def background (scene : Scene) (render : RenderSettings) (random : Generator) : Draft :=
  match scene.background with
  | .color color => ofColor scene render random color
  | .image source =>
    match source.location? with
    | some path => ofImage scene random path
    | none => ofColor scene render random "black"

/-- Declares a clip's input and brings it to its size, zooming if it is to be
    zoomed.  The answer is the label of the sized picture. -/
def scaleClip (scene : Scene) (render : RenderSettings) (d : Draft) (clip : ImageClip) :
    Label × Draft :=
  let path := clip.source.location?.getD ""
  let pad : Pad := .stream d.inputs.length .video
  let width := (clip.rect.map (·.width)).getD scene.width
  let height := (clip.rect.map (·.height)).getD scene.height
  match clip.zoomWish? scene.kenBurns with
  | some wish =>
    -- A zoom makes its frames out of a single one, so the image is not repeated.
    let (preset, random) := scene.choosePan d.random
    ({ d with random := random }.addInput (.stillImage path)).addNode .kenBurns [pad]
      (Filter.zoom (wish.settle preset) clip width height render.fps) .kenBurns
  | none =>
    let covers := clip.rect.all fun r => r.covers scene.width scene.height
    (d.addInput (.loopedImage path clip.finish)).addNode .scale [pad]
      (if covers then Filter.fillCrop width height else Filter.stretch width height) .scaledImage

/-- Lays a clip over the picture so far. -/
def addClip (scene : Scene) (render : RenderSettings) (d : Draft) (clip : ImageClip) : Draft :=
  let x := (clip.rect.map (·.x)).getD 0
  let y := (clip.rect.map (·.y)).getD 0
  let (scaled, d) := scaleClip scene render d clip
  let (output, d) :=
    d.addNode .overlay [d.current, .label scaled] (Filter.overlay x y clip) .overlay
  { d with current := .label output }

/-- Draws a text over the picture so far. -/
def addText (d : Draft) (cue : TextCue) : Draft :=
  let (output, d) := d.addNode .drawText [d.current] (Filter.drawText cue) .text
  { d with current := .label output }

/-- Adds the eligible clips of a list, if so many were added before.  Once there are
    as many as there may be, the rest of the list is not looked at. -/
def addClips (scene : Scene) (render : RenderSettings) : Nat → Draft → List ImageClip → Draft
  | _, d, [] => d
  | count, d, clip :: clips =>
    if render.maxImageInputs ≤ count then d
    else if clip.isEligible then
      addClips scene render (count + 1) (d.addClip scene render clip) clips
    else addClips scene render count d clips

/-- Adds the eligible cues of a list. -/
def addTexts : Draft → List TextCue → Draft
  | d, [] => d
  | d, cue :: cues => if cue.isEligible then (d.addText cue).addTexts cues else d.addTexts cues

/-- The graph, with the picture so far as the finished video.  A picture that no
    filter produces is passed through. -/
def finishVideo (d : Draft) : Graph :=
  let (renamed, graph) :=
    match d.current with
    | .label label => d.graph.renameOutput label Label.videoOut
    | .stream _ _ => (false, d.graph)
  if renamed then graph
  else graph.push ⟨.passThrough, [d.current], "null", Label.videoOut⟩

end Draft

/-! ## Audio and subtitles -/

/-- The input of an audio track.  Music is repeated. -/
def AudioTrack.input (track : AudioTrack) (path : String) : Input :=
  .audio path (track.role == .music)

/-- The sounds found so far: their pads and weights, and all inputs of the program. -/
structure AudioMix where
  pads : List Pad
  weights : List String
  inputs : List Input

namespace AudioMix

/-- Adds an audio track, if it has a location. -/
def add (mix : AudioMix) (track : AudioTrack) : AudioMix :=
  match track.source.location? with
  | none => mix
  | some path =>
    { pads := mix.pads ++ [.stream mix.inputs.length .audio]
      weights := mix.weights ++ [track.effectiveVolume.numeralText]
      inputs := mix.inputs ++ [track.input path] }

/-- Puts the mix into a graph.  A single sound is mixed as well; without sounds there
    is nothing to mix. -/
def addTo (mix : AudioMix) (g : Graph) : Graph :=
  if mix.pads.isEmpty then g
  else g.push ⟨.audioMix, mix.pads, Filter.mix mix.pads.length mix.weights, Label.audioOut⟩

end AudioMix

/-! ## Scenes -/

/-- The draft with all layers of a scene. -/
def Scene.draft (scene : Scene) (render : RenderSettings) (random : Generator) : Draft :=
  let start := Draft.background scene render random
  (Draft.addClips scene render 0 start scene.images).addTexts scene.texts

/-- Compiles a scene.  The answer has the generator after all draws. -/
def Scene.compile (scene : Scene) (render : RenderSettings) (random : Generator) :
    Program × Generator :=
  let d := scene.draft render random
  -- The audio inputs come after all others, in the order of the tracks.
  let mix := scene.audio.foldl AudioMix.add ⟨[], [], d.inputs⟩
  let graph := mix.addTo d.finishVideo
  let graph :=
    match scene.drawnSubtitles? with
    | some (s, path) => graph.injectSubtitles s path
    | none => graph
  ({ graph := graph, inputs := mix.inputs, duration := scene.duration }, d.random)

/-- Compiles scenes one after the other with one generator. -/
def Scene.compileAll (render : RenderSettings) (random : Generator) : List Scene → List Program
  | [] => []
  | scene :: scenes =>
    let (program, random) := scene.compile render random
    program :: Scene.compileAll render random scenes

end Compositor
