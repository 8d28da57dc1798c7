import Compositor.Double.Basic
import Compositor.Encoder.Backend

/-! # Scenes

A scene says what a video shows: a background, image clips laid over it, text
cues, audio tracks and subtitles.  Times are in seconds from the start of the
video, positions and sizes in pixels of the canvas.
-/

namespace Compositor

/-! ## Media -/

/-- Where the bytes of an asset come from. -/
inductive MediaSource where
  /-- A file. -/
  | path (path : String)
  /-- A download. -/
  | url (url : String)
  /-- Bytes that are part of the scene. -/
  | data (payload : String)
deriving DecidableEq

namespace MediaSource

/-- Nothing is named. -/
def isEmpty : MediaSource → Bool
  | path p => p.isEmpty
  | url u => Text.allBlank u
  | data d => Text.allBlank d

/-- What the engine can open.  Embedded bytes have no location of their own. -/
def location? : MediaSource → Option String
  | path p => if p.isEmpty then none else some p
  | url u => if Text.allBlank u then none else some (Text.trim u)
  | data _ => none

end MediaSource

/-! ## Background -/

/-- What is behind everything else. -/
inductive Background where
  | color (color : String)
  | image (source : MediaSource)
deriving DecidableEq

/-- The media source, if there is one. -/
def Background.media? : Background → Option MediaSource
  | color _ => none
  | image source => some source

/-! ## Image clips -/

/-- A rectangle of the canvas. -/
structure Rect where
  x : Int
  y : Int
  width : Nat
  height : Nat
deriving DecidableEq

/-- The rectangle is the whole canvas of the given size. -/
def Rect.covers (r : Rect) (width height : Nat) : Bool :=
  r.x == 0 && r.y == 0 && r.width == width && r.height == height

/-- How one clip is slowly zoomed and panned. -/
structure KenBurns where
  zoomRate : Double
  panX : Option String
  panY : Option String
  prescaleWidth : Option Nat
  enabled : Bool
deriving DecidableEq

/-- How clips are zoomed and panned that do not say so themselves. -/
structure KenBurnsDefaults where
  enabled : Bool
  zoomRate : Double
  prescaleWidth : Nat
  /-- Every zoomed clip draws its pan at random. -/
  randomizePan : Bool
deriving DecidableEq

/-- The zoom added per frame unless a scene says otherwise. -/
def KenBurns.defaultZoomRate : Double := .ofDecimal false 15 (-4)

/-- The width that images are scaled to before they are zoomed, unless a scene
    says otherwise. -/
def KenBurns.defaultPrescaleWidth : Nat := 3840

/-- An image shown for some time. -/
structure ImageClip where
  source : MediaSource
  start : Double
  length : Double
  /-- The place on the canvas; the whole canvas if absent. -/
  rect : Option Rect
  kenBurns : Option KenBurns
deriving DecidableEq

/-- When the clip ends. -/
def ImageClip.finish (clip : ImageClip) : Double := clip.start + clip.length

/-! ## Audio tracks -/

/-- What an audio track is for. -/
inductive AudioRole where
  | music
  | voiceOver
deriving DecidableEq

/-- Sound that is mixed into the video. -/
structure AudioTrack where
  role : AudioRole
  source : MediaSource
  volume : Option Double
deriving DecidableEq

/-- The volume of a track; music stays in the background unless it says
    otherwise. -/
def AudioTrack.effectiveVolume (track : AudioTrack) : Double :=
  track.volume.getD <|
    match track.role with
    | .music => .ofDecimal false 3 (-1)
    | .voiceOver => 1

/-! ## Subtitles -/

/-- Where the subtitles come from. -/
inductive SubtitleSource where
  | inline (text : String)
  | file (source : MediaSource)
deriving DecidableEq

/-- No subtitles are named. -/
def SubtitleSource.isEmpty : SubtitleSource → Bool
  | inline text => Text.allBlank text
  | file source => source.isEmpty

/-- The media source, if there is one. -/
def SubtitleSource.media? : SubtitleSource → Option MediaSource
  | inline _ => none
  | file source => some source

/-- Where on the canvas the subtitles stand. -/
inductive SubtitlePosition where
  | top
  | center
  | bottom
deriving DecidableEq

/-- Subtitles and their style. -/
structure Subtitles where
  source : SubtitleSource
  fontSize : Nat
  color : String
  position : SubtitlePosition
  outline : Bool
  background : String
deriving DecidableEq

/-! ## Text cues -/

/-- The state of a text at one time. -/
structure Keyframe where
  time : Double
  x : Double
  y : Double
  opacity : Double
  scale : Double
deriving DecidableEq

/-- A text shown for some time, possibly moving. -/
structure TextCue where
  text : String
  start : Double
  finish : Double
  fontSize : Nat
  color : String
  x : Option Double
  y : Option Double
  fontFile : Option String
  boxColor : Option String
  keyframes : List Keyframe
deriving DecidableEq

/-- White, the colour of text unless a scene says otherwise. -/
def TextCue.defaultColor : String := "#FFFFFF"

/-- The size of text unless a scene says otherwise. -/
def TextCue.defaultFontSize : Nat := 48

/-- A text in the middle of the canvas, without keyframes. -/
def TextCue.plain (text : String) (start finish : Double) : TextCue where
  text := text
  start := start
  finish := finish
  fontSize := defaultFontSize
  color := defaultColor
  x := none
  y := none
  fontFile := none
  boxColor := none
  keyframes := []

/-! ## Scenes -/

/-- What a video shows. -/
structure Scene where
  title : String
  duration : Double
  width : Nat
  height : Nat
  background : Background
  images : List ImageClip
  audio : List AudioTrack
  subtitles : Option Subtitles
  texts : List TextCue
  kenBurns : Option KenBurnsDefaults
  /-- The backend that the video is to be encoded with, if it can be had. -/
  backend : Option Backend
deriving DecidableEq

namespace Scene

/-- A scene with nothing but a black background. -/
def blank (duration : Double) (width height : Nat) : Scene where
  title := ""
  duration := duration
  width := width
  height := height
  background := .color "black"
  images := []
  audio := []
  subtitles := none
  texts := []
  kenBurns := none
  backend := none

/-- The media source of the subtitles, if they come from a file. -/
def subtitleSource? (scene : Scene) : Option MediaSource :=
  scene.subtitles.bind fun s => s.source.media?

/-- All media sources in order: background, images, audio, subtitles. -/
def mediaSources (scene : Scene) : List MediaSource :=
  scene.background.media?.toList
    ++ scene.images.map (·.source)
    ++ scene.audio.map (·.source)
    ++ scene.subtitleSource?.toList

end Scene

end Compositor
