import Compositor.Scene.Basic
import Compositor.Datum.Record

/-! # The data form of scenes

Scenes are exchanged as data values.  This module describes the fields of each
record type once, for reading, and gives for each type the value that is written.
A field that may be absent is left out when it is; every other field is always
written, so that no default can replace it when the value is read back.

Alternatives with a value (media and subtitle sources) are records with one
member; the background names its alternative in the member `type`, which may
stand anywhere among the others.  To find it, all members of a background are
taken in first, which limits how deep they may be nested.
-/

namespace Compositor

/-! ## Media -/

namespace MediaSource

/-- The reader of each alternative. -/
def named : String → Option (Reader MediaSource)
  | "path" => some fun d => (Reader.text d).map path
  | "url" => some fun d => (Reader.text d).map url
  | "data" => some fun d => (Reader.text d).map data
  | _ => none

/-- Reads a media source. -/
def read : Reader MediaSource := Reader.alternative named

/-- The data form of a media source. -/
def toDatum : MediaSource → Datum
  | path p => .ofMembers [("path", .text p)]
  | url u => .ofMembers [("url", .text u)]
  | data d => .ofMembers [("data", .text d)]

end MediaSource

/-! ## Background -/

namespace Background

/-- How deep the members of a background may be nested: a document may be nested
    127 deep, and the background is in its second level. -/
def depthLimit : Nat := 125

/-- The two kinds of background. -/
inductive Kind where
  | color
  | image

/-- Reads the name of a kind. -/
def Kind.read : Reader Kind
  | .text "color" => .ok .color
  | .text "image" => .ok .image
  | d => .error d.mismatch

/-- Reads what a background of some kind consists of. -/
def readKind : Kind → Reader Background
  | .color => fun d => do
    let (c, ()) ← (Fields.cons (.required "color" Reader.text) .nil).read d
    pure (.color c)
  | .image => fun d => do
    let (s, ()) ← (Fields.cons (.required "source" MediaSource.read) .nil).read d
    pure (.image s)

/-- Takes in the members of a background: the kind given so far, if any, and the
    other members, last one first. -/
def takeMembers (kind : Option Kind) (others : List (Option String × Datum)) :
    List (Option String × Datum) → Except Fault (Option Kind × List (Option String × Datum))
  | [] => .ok (kind, others.reverse)
  | (none, _) :: _ => .error .malformed
  | (some name, d) :: rest =>
    if name = "type" then
      match kind with
      -- The kind may be given once only.
      | some _ => .error .wrongShape
      | none => do takeMembers (some (← Kind.read d)) others rest
    else if d.isReadable depthLimit then takeMembers kind ((some name, d) :: others) rest
    else .error .malformed

/-- Reads a background. -/
def read : Reader Background
  | .record members => do
    match ← takeMembers none [] members with
    | (none, _) => throw .wrongShape
    | (some kind, others) => Reader.takenIn (readKind kind) (.record others)
  | .list [] => .error .wrongShape
  | .list (d :: ds) => do
    let kind ← Kind.read d
    if Datum.allReadable depthLimit ds then Reader.takenIn (readKind kind) (.list ds)
    else throw .malformed
  | d => .error d.mismatch

/-- The data form of a background. -/
def toDatum : Background → Datum
  | color c => .ofMembers [("type", .text "color"), ("color", .text c)]
  | image s => .ofMembers [("type", .text "image"), ("source", s.toDatum)]

end Background

/-! ## Image clips -/

namespace Rect

/-- Reads a rectangle. -/
def read : Reader Rect := fun d => do
  let (x, y, width, height, ()) ←
    (Fields.cons (.required "x" Reader.integer32) <|
      .cons (.required "y" Reader.integer32) <|
      .cons (.required "width" Reader.natural32) <|
      .cons (.required "height" Reader.natural32) .nil).read d
  pure { x, y, width, height }

/-- The data form of a rectangle. -/
def toDatum (r : Rect) : Datum :=
  .ofMembers
    [("x", .integer r.x), ("y", .integer r.y), ("width", .integer r.width),
     ("height", .integer r.height)]

end Rect

/-- A member that is left out when its value is absent. -/
def absentMember {α : Type} (name : String) (write : α → Datum) : Option α → List (String × Datum)
  | none => []
  | some x => [(name, write x)]

namespace KenBurns

/-- Reads the zoom of a clip. -/
def read : Reader KenBurns := fun d => do
  let (zoomRate, panX, panY, prescaleWidth, enabled, ()) ←
    (Fields.cons (.orElse "zoom_rate" Reader.real defaultZoomRate) <|
      .cons (.absentable "pan_x" Reader.text) <|
      .cons (.absentable "pan_y" Reader.text) <|
      .cons (.absentable "prescale_width" Reader.natural32) <|
      .cons (.orElse "enabled" Reader.bool true) .nil).read d
  pure { zoomRate, panX, panY, prescaleWidth, enabled }

/-- The data form of the zoom of a clip. -/
def toDatum (k : KenBurns) : Datum :=
  .ofMembers <|
    [("zoom_rate", .real k.zoomRate)]
      ++ absentMember "pan_x" .text k.panX
      ++ absentMember "pan_y" .text k.panY
      ++ absentMember "prescale_width" (fun n : Nat => .integer n) k.prescaleWidth
      ++ [("enabled", .bool k.enabled)]

end KenBurns

namespace KenBurnsDefaults

/-- Reads the zoom of the clips that do not give one. -/
def read : Reader KenBurnsDefaults := fun d => do
  let (enabled, zoomRate, prescaleWidth, randomizePan, ()) ←
    (Fields.cons (.orElse "enabled" Reader.bool false) <|
      .cons (.orElse "zoom_rate" Reader.real KenBurns.defaultZoomRate) <|
      .cons (.orElse "prescale_width" Reader.natural32 KenBurns.defaultPrescaleWidth) <|
      .cons (.orElse "randomize_pan" Reader.bool false) .nil).read d
  pure { enabled, zoomRate, prescaleWidth, randomizePan }

/-- The data form of the zoom of the clips that do not give one. -/
def toDatum (k : KenBurnsDefaults) : Datum :=
  .ofMembers
    [("enabled", .bool k.enabled), ("zoom_rate", .real k.zoomRate),
     ("prescale_width", .integer k.prescaleWidth), ("randomize_pan", .bool k.randomizePan)]

end KenBurnsDefaults

namespace ImageClip

/-- Reads an image clip. -/
def read : Reader ImageClip := fun d => do
  let (source, start, length, rect, kenBurns, ()) ←
    (Fields.cons (.required "source" MediaSource.read) <|
      .cons (.required "start" Reader.real) <|
      .cons (.required "length" Reader.real) <|
      .cons (.absentable "rect" Rect.read) <|
      .cons (.absentable "ken_burns" KenBurns.read) .nil).read d
  pure { source, start, length, rect, kenBurns }

/-- The data form of an image clip. -/
def toDatum (clip : ImageClip) : Datum :=
  .ofMembers <|
    [("source", clip.source.toDatum), ("start", .real clip.start), ("length", .real clip.length)]
      ++ absentMember "rect" Rect.toDatum clip.rect
      ++ absentMember "ken_burns" KenBurns.toDatum clip.kenBurns

end ImageClip

/-! ## Audio tracks -/

namespace AudioRole

/-- The role's name. -/
def name : AudioRole → String
  | music => "music"
  | voiceOver => "voice_over"

/-- The role of a name. -/
def ofName? : String → Option AudioRole
  | "music" => some music
  | "voice_over" => some voiceOver
  | _ => none

end AudioRole

namespace AudioTrack

/-- Reads an audio track. -/
def read : Reader AudioTrack := fun d => do
  let (role, source, volume, ()) ←
    (Fields.cons (.required "role" (Reader.choice AudioRole.ofName?)) <|
      .cons (.required "source" MediaSource.read) <|
      .cons (.absentable "volume" Reader.real) .nil).read d
  pure { role, source, volume }

/-- The data form of an audio track. -/
def toDatum (track : AudioTrack) : Datum :=
  .ofMembers <|
    [("role", .text track.role.name), ("source", track.source.toDatum)]
      ++ absentMember "volume" .real track.volume

end AudioTrack

/-! ## Subtitles -/

namespace SubtitleSource

/-- The reader of each alternative. -/
def named : String → Option (Reader SubtitleSource)
  | "inline" => some fun d => (Reader.text d).map inline
  | "file" => some fun d => (MediaSource.read d).map file
  | _ => none

/-- Reads a subtitle source. -/
def read : Reader SubtitleSource := Reader.alternative named

/-- The data form of a subtitle source. -/
def toDatum : SubtitleSource → Datum
  | inline text => .ofMembers [("inline", .text text)]
  | file source => .ofMembers [("file", source.toDatum)]

end SubtitleSource

namespace SubtitlePosition

/-- The position's name. -/
def name : SubtitlePosition → String
  | top => "top"
  | center => "center"
  | bottom => "bottom"

/-- The position of a name. -/
def ofName? : String → Option SubtitlePosition
  | "top" => some top
  | "center" => some center
  | "bottom" => some bottom
  | _ => none

end SubtitlePosition

namespace Subtitles

/-- Reads subtitles. -/
def read : Reader Subtitles := fun d => do
  let (source, fontSize, color, position, outline, background, ()) ←
    (Fields.cons (.required "source" SubtitleSource.read) <|
      .cons (.orElse "font_size" Reader.natural32 24) <|
      .cons (.orElse "color" Reader.text TextCue.defaultColor) <|
      .cons (.orElse "position" (Reader.choice SubtitlePosition.ofName?) .bottom) <|
      .cons (.orElse "outline" Reader.bool true) <|
      .cons (.orElse "background" Reader.text "transparent") .nil).read d
  pure { source, fontSize, color, position, outline, background }

/-- The data form of subtitles. -/
def toDatum (s : Subtitles) : Datum :=
  .ofMembers
    [("source", s.source.toDatum), ("font_size", .integer s.fontSize), ("color", .text s.color),
     ("position", .text s.position.name), ("outline", .bool s.outline),
     ("background", .text s.background)]

end Subtitles

/-! ## Text cues -/

namespace Keyframe

/-- Reads a keyframe. -/
def read : Reader Keyframe := fun d => do
  let (time, x, y, opacity, scale, ()) ←
    (Fields.cons (.required "time" Reader.real) <|
      .cons (.orElse "x" Reader.real 0) <|
      .cons (.orElse "y" Reader.real 0) <|
      .cons (.orElse "opacity" Reader.real 1) <|
      .cons (.orElse "scale" Reader.real 1) .nil).read d
  pure { time, x, y, opacity, scale }

/-- The data form of a keyframe. -/
def toDatum (k : Keyframe) : Datum :=
  .ofMembers
    [("time", .real k.time), ("x", .real k.x), ("y", .real k.y), ("opacity", .real k.opacity),
     ("scale", .real k.scale)]

end Keyframe

namespace TextCue

/-- Reads a text cue. -/
def read : Reader TextCue := fun d => do
  let (text, start, finish, fontSize, color, x, y, fontFile, boxColor, keyframes, ()) ←
    (Fields.cons (.required "text" Reader.text) <|
      .cons (.required "start" Reader.real) <|
      .cons (.required "end" Reader.real) <|
      .cons (.orElse "font_size" Reader.natural32 defaultFontSize) <|
      .cons (.orElse "color" Reader.text defaultColor) <|
      .cons (.absentable "x" Reader.real) <|
      .cons (.absentable "y" Reader.real) <|
      .cons (.absentable "font_file" Reader.text) <|
      .cons (.absentable "box_color" Reader.text) <|
      .cons (.orElse "keyframes" (Reader.list Keyframe.read) []) .nil).read d
  pure { text, start, finish, fontSize, color, x, y, fontFile, boxColor, keyframes }

/-- The data form of a text cue. -/
def toDatum (cue : TextCue) : Datum :=
  .ofMembers <|
    [("text", .text cue.text), ("start", .real cue.start), ("end", .real cue.finish),
     ("font_size", .integer cue.fontSize), ("color", .text cue.color)]
      ++ absentMember "x" .real cue.x
      ++ absentMember "y" .real cue.y
      ++ absentMember "font_file" .text cue.fontFile
      ++ absentMember "box_color" .text cue.boxColor
      ++ [("keyframes", .list (cue.keyframes.map Keyframe.toDatum))]

end TextCue

/-! ## Scenes -/

namespace Scene

/-- Reads a scene. -/
def read : Reader Scene := fun d => do
  let (title, duration, width, height, background, images, audio, subtitles, texts, kenBurns,
      backend, ()) ←
    (Fields.cons (.orElse "title" Reader.text "") <|
      .cons (.required "duration" Reader.real) <|
      .cons (.required "width" Reader.natural32) <|
      .cons (.required "height" Reader.natural32) <|
      .cons (.orElse "background" Background.read (.color "black")) <|
      .cons (.orElse "images" (Reader.list ImageClip.read) []) <|
      .cons (.orElse "audio" (Reader.list AudioTrack.read) []) <|
      .cons (.absentable "subtitles" Subtitles.read) <|
      .cons (.orElse "texts" (Reader.list TextCue.read) []) <|
      .cons (.absentable "ken_burns" KenBurnsDefaults.read) <|
      .cons (.absentable "backend" (Reader.choice Backend.ofName?)) .nil).read d
  pure
    { title, duration, width, height, background, images, audio, subtitles, texts, kenBurns,
      backend }

/-- The data form of a scene. -/
def toDatum (scene : Scene) : Datum :=
  .ofMembers <|
    [("title", .text scene.title), ("duration", .real scene.duration),
     ("width", .integer scene.width), ("height", .integer scene.height),
     ("background", scene.background.toDatum),
     ("images", .list (scene.images.map ImageClip.toDatum)),
     ("audio", .list (scene.audio.map AudioTrack.toDatum))]
      ++ absentMember "subtitles" Subtitles.toDatum scene.subtitles
      ++ [("texts", .list (scene.texts.map TextCue.toDatum))]
      ++ absentMember "ken_burns" KenBurnsDefaults.toDatum scene.kenBurns
      ++ absentMember "backend" (fun b : Backend => .text b.name) scene.backend

end Scene

end Compositor
