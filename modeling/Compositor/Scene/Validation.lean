import Compositor.Scene.Basic
import Compositor.Double.Text

/-! # Valid scenes

A scene is rendered only if its duration and size are usable and its numbers are
finite.  Of several faults the first one is reported: duration, size, image
clips, text cues (the times of a cue before its keyframes), audio tracks.
-/

namespace Compositor

/-- The part of a scene that holds a number which is not finite. -/
inductive ScenePart where
  | imageTiming (index : Nat)
  | textTiming (index : Nat)
  | textKeyframes (index : Nat)
  | audioVolume (index : Nat)
deriving DecidableEq

/-- The part's name, with its index in the scene. -/
def ScenePart.name : ScenePart → String
  | imageTiming i => s!"images[{i}] timing"
  | textTiming i => s!"texts[{i}] timing"
  | textKeyframes i => s!"texts[{i}].keyframes"
  | audioVolume i => s!"audio[{i}].volume"

/-- Why a scene is not rendered. -/
inductive SceneError where
  | invalidDuration (duration : Double)
  | invalidSize (width height : Nat)
  | nonFinite (part : ScenePart)
  | negativeVolume (index : Nat) (volume : Double)
deriving DecidableEq

/-- The error's text. -/
def SceneError.message : SceneError → String
  | invalidDuration d => "duration must be positive and finite, got " ++ d.text
  | invalidSize w h => s!"output size must be non-zero, got {w}x{h}"
  | nonFinite part => part.name ++ " must be a finite number"
  | negativeVolume i v => s!"audio track {i} has negative volume " ++ v.text

/-- All numbers of the keyframe are finite. -/
def Keyframe.isFinite (k : Keyframe) : Bool :=
  k.time.isFinite && k.x.isFinite && k.y.isFinite && k.opacity.isFinite && k.scale.isFinite

/-- The fault of an image clip. -/
def ImageClip.fault? (clip : ImageClip) (index : Nat) : Option SceneError :=
  if clip.start.isFinite && clip.length.isFinite then none
  else some (.nonFinite (.imageTiming index))

/-- The fault of a text cue. -/
def TextCue.fault? (cue : TextCue) (index : Nat) : Option SceneError :=
  if !(cue.start.isFinite && cue.finish.isFinite) then some (.nonFinite (.textTiming index))
  else if cue.keyframes.all Keyframe.isFinite then none
  else some (.nonFinite (.textKeyframes index))

/-- The fault of an audio track. -/
def AudioTrack.fault? (track : AudioTrack) (index : Nat) : Option SceneError :=
  match track.volume with
  | none => none
  | some v =>
    if !v.isFinite then some (.nonFinite (.audioVolume index))
    else if v.less 0 then some (.negativeVolume index v)
    else none

/-- The first fault of a scene, if it has one. -/
def Scene.fault? (scene : Scene) : Option SceneError :=
  if !scene.duration.isFinite || scene.duration.lessEq 0 then
    some (.invalidDuration scene.duration)
  else if scene.width == 0 || scene.height == 0 then
    some (.invalidSize scene.width scene.height)
  else
    (scene.images.zipIdx.findSome? fun c => c.1.fault? c.2)
      <|> (scene.texts.zipIdx.findSome? fun c => c.1.fault? c.2)
      <|> (scene.audio.zipIdx.findSome? fun t => t.1.fault? t.2)

end Compositor
