import Compositor.Scene.Basic

/-! # Sample scenes

Small scenes and parts of scenes for trying the service out.
-/

namespace Compositor.Sample

/-- A clip that fills the canvas. -/
def clip (path : String) (start length : Double) : ImageClip where
  source := .path path
  start := start
  length := length
  rect := none
  kenBurns := none

/-- Background music. -/
def music (path : String) : AudioTrack where
  role := .music
  source := .path path
  volume := none

/-- A scene with nothing to show. -/
def emptyScene (duration : Double) : Scene := Scene.blank duration 1280 720

/-- A scene with a picture, a text and music. -/
def scene : Scene :=
  { emptyScene 6 with
    title := "sample"
    images := [clip "/media/a.png" 0 3]
    texts := [TextCue.plain "Hello" 1 4]
    audio := [music "/media/music.mp3"] }

/-- A scene with a layer of every kind: a background image, a zoomed and a small
    picture, a text, music and subtitles. -/
def layeredScene : Scene :=
  { scene with
    background := .image (.path "/media/back.png")
    images :=
      [{ clip "/media/a.png" 0 3 with
          kenBurns := some ⟨KenBurns.defaultZoomRate, none, none, none, true⟩ },
       { clip "/media/b.png" 1 2 with rect := some ⟨10, 20, 320, 180⟩ }]
    subtitles := some
      { source := .file (.path "/media/sample.srt")
        fontSize := 24
        color := "#FFFFFF"
        position := .bottom
        outline := true
        background := "transparent" } }

end Compositor.Sample
