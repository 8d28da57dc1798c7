import Compositor.Scene.Sources
import Mathlib.Data.List.Forall2

/-! # Scenes that differ in their sources

`Scene.Along` says of two scenes that they are the same but for their media sources, and that
each source of the one is related to the source at the same place of the other.  A scene that is
given sources is such a scene if the list of them is related to the list of its own.
-/

namespace Compositor

variable {R : MediaSource → MediaSource → Prop}

/-- Backgrounds of the same kind; images are related. -/
inductive Background.Along (R : MediaSource → MediaSource → Prop) :
    Background → Background → Prop where
  | color (color : String) : Along R (.color color) (.color color)
  | image {source source' : MediaSource} (related : R source source') :
    Along R (.image source) (.image source')

/-- Sources of subtitles of the same kind; files are related. -/
inductive SubtitleSource.Along (R : MediaSource → MediaSource → Prop) :
    SubtitleSource → SubtitleSource → Prop where
  | inline (text : String) : Along R (.inline text) (.inline text)
  | file {source source' : MediaSource} (related : R source source') :
    Along R (.file source) (.file source')

/-- Scenes that are the same but for their sources, which are related. -/
structure Scene.Along (R : MediaSource → MediaSource → Prop)
    (S : SubtitleSource → SubtitleSource → Prop) (scene scene' : Scene) : Prop where
  frame : scene' =
    { scene with
      background := scene'.background, images := scene'.images, audio := scene'.audio
      subtitles := scene'.subtitles }
  background : scene.background.Along R scene'.background
  images : List.Forall₂ (fun c c' => c' = { c with source := c'.source } ∧ R c.source c'.source)
    scene.images scene'.images
  audio : List.Forall₂ (fun t t' => t' = { t with source := t'.source } ∧ R t.source t'.source)
    scene.audio scene'.audio
  subtitles : Option.Rel (fun t t' => t' = { t with source := t'.source } ∧ S t.source t'.source)
    scene.subtitles scene'.subtitles

/-- What follows of each source follows of the scene. -/
theorem Scene.Along.imp {R' : MediaSource → MediaSource → Prop}
    {S S' : SubtitleSource → SubtitleSource → Prop} {scene scene' : Scene}
    (along : scene.Along R S scene') (media : ∀ {source source'}, R source source' → R' source source')
    (subtitles : ∀ {source source'}, S source source' → S' source source') :
    scene.Along R' S' scene' := by
  obtain ⟨frame, background, images, audio, related⟩ := along
  refine ⟨frame, ?_, images.imp fun c c' both => ⟨both.1, media both.2⟩,
    audio.imp fun t t' both => ⟨both.1, media both.2⟩, ?_⟩
  · generalize scene.background = before, scene'.background = after at background
    cases background with
    | color c => exact .color c
    | image source => exact .image (media source)
  · generalize scene.subtitles = before, scene'.subtitles = after at related
    cases related with
    | none => exact .none
    | some both => exact .some ⟨both.1, subtitles both.2⟩

/-- The things of a list take their sources in order, and leave the rest. -/
theorem assignSources_along {α : Type} {get : α → MediaSource} (put : MediaSource → α → α)
    {xs : List α} {rest ss : List MediaSource}
    (related : List.Forall₂ R (xs.map get ++ rest) ss) :
    ∃ ys ss', assignSources put xs ss = (ys, ss') ∧
      List.Forall₂ (fun x y => ∃ s, y = put s x ∧ R (get x) s) xs ys ∧ List.Forall₂ R rest ss' := by
  induction xs generalizing ss with
  | nil => exact ⟨[], ss, by simp [assignSources], .nil, related⟩
  | cons x xs inductionHypothesis =>
    cases related with
    | @cons _ s _ ss first others =>
      obtain ⟨ys, ss', assigned, things, left⟩ := inductionHypothesis others
      exact ⟨put s x :: ys, ss', by rw [assignSources, assigned], .cons ⟨s, rfl, first⟩ things, left⟩

theorem Background.assignSource_along {b : Background} {rest ss : List MediaSource}
    (related : List.Forall₂ R (b.media?.toList ++ rest) ss) :
    ∃ b' ss', b.assignSource ss = (b', ss') ∧ b.Along R b' ∧ List.Forall₂ R rest ss' := by
  cases b with
  | color c => exact ⟨.color c, ss, rfl, .color c, related⟩
  | image source =>
    cases related with
    | @cons _ s _ ss first others => exact ⟨.image s, ss, rfl, .image first, others⟩

theorem SubtitleSource.assignSource_along {source : SubtitleSource} {ss : List MediaSource}
    (related : List.Forall₂ R source.media?.toList ss) :
    source.Along R (source.assignSource ss) := by
  cases source with
  | inline text => exact .inline text
  | file s =>
    cases related with
    | cons first others => exact .file first

/-- A scene that is given related sources differs in its sources only. -/
theorem Scene.withSources_along {scene : Scene} {sources : List MediaSource}
    (related : List.Forall₂ R scene.mediaSources sources) :
    scene.Along R (SubtitleSource.Along R) (scene.withSources sources) := by
  rw [mediaSources, List.append_assoc, List.append_assoc] at related
  obtain ⟨background, ss, first, behind, related⟩ := Background.assignSource_along related
  obtain ⟨images, ss', second, clips, related⟩ :=
    assignSources_along (fun s (c : ImageClip) => { c with source := s }) related
  obtain ⟨audio, ss'', third, tracks, related⟩ :=
    assignSources_along (fun s (t : AudioTrack) => { t with source := s }) related
  have given : scene.withSources sources =
      { scene with
        background, images, audio
        subtitles := scene.subtitles.map fun s =>
          { s with source := s.source.assignSource ss'' } } := by
    simp only [withSources, first, second, third]
  rw [given]
  refine ⟨rfl, behind, clips.imp ?_, tracks.imp ?_, ?_⟩
  · rintro c _ ⟨s, rfl, related⟩
    exact ⟨rfl, related⟩
  · rintro t _ ⟨s, rfl, related⟩
    exact ⟨rfl, related⟩
  · rw [subtitleSource?] at related
    cases subtitles : scene.subtitles with
    | none => exact .none
    | some s =>
      rw [subtitles] at related
      exact .some ⟨rfl, SubtitleSource.assignSource_along related⟩

end Compositor
