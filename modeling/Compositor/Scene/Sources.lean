import Compositor.Scene.Basic

/-! # The media sources of a scene

`Scene.mediaSources` lists the sources in order; this module puts others in their
places.  `mediaSources_withSources` says that the two agree: a scene that is given
as many sources as it has, has exactly these.
-/

namespace Compositor

/-- Gives the things of a list a source each, as long as there are sources; what is
    left of the sources comes with it. -/
def assignSources {α : Type} (put : MediaSource → α → α) :
    List α → List MediaSource → List α × List MediaSource
  | x :: xs, s :: ss =>
    let (ys, rest) := assignSources put xs ss
    (put s x :: ys, rest)
  | xs, ss => (xs, ss)

/-- Gives the background a source, if it has one. -/
def Background.assignSource : Background → List MediaSource → Background × List MediaSource
  | .image _, s :: ss => (.image s, ss)
  | b, ss => (b, ss)

/-- Gives subtitles a source, if they have one. -/
def SubtitleSource.assignSource : SubtitleSource → List MediaSource → SubtitleSource
  | .file _, s :: _ => .file s
  | source, _ => source

namespace Scene

/-- The scene with subtitles from a local file. -/
def withSubtitleFile (scene : Scene) (path : String) : Scene :=
  { scene with subtitles := scene.subtitles.map fun s => { s with source := .file (.path path) } }

/-- The scene with other media sources, in the order of `mediaSources`. -/
def withSources (scene : Scene) (sources : List MediaSource) : Scene :=
  let (background, sources) := scene.background.assignSource sources
  let (images, sources) := assignSources (fun s c => { c with source := s }) scene.images sources
  let (audio, sources) := assignSources (fun s t => { t with source := s }) scene.audio sources
  { scene with
    background, images, audio
    subtitles := scene.subtitles.map fun s => { s with source := s.source.assignSource sources } }

end Scene

/-! ## Reading assigned sources back -/

/-- Assigned sources can be read back, and the rest is what was left. -/
theorem assignSources_append {α : Type} (put : MediaSource → α → α) (get : α → MediaSource)
    (get_put : ∀ s x, get (put s x) = s) (xs : List α) (ss rest : List MediaSource)
    (h : ss.length = xs.length) :
    (assignSources put xs (ss ++ rest)).1.map get = ss ∧
      (assignSources put xs (ss ++ rest)).2 = rest := by
  induction xs generalizing ss with
  | nil =>
    cases ss with
    | nil => cases rest <;> simp [assignSources]
    | cons s ss => simp at h
  | cons x xs ih =>
    cases ss with
    | nil => simp at h
    | cons s ss =>
      have := ih ss (by simpa using h)
      simp [assignSources, get_put, this]

/-- The background takes the first source if it has one. -/
theorem Background.assignSource_append (b : Background) (ss rest : List MediaSource)
    (h : ss.length = b.media?.toList.length) :
    (b.assignSource (ss ++ rest)).1.media?.toList = ss ∧
      (b.assignSource (ss ++ rest)).2 = rest := by
  cases b with
  | color c =>
    obtain rfl : ss = [] := by simpa [media?] using h
    cases rest <;> simp [assignSource, media?]
  | image s =>
    obtain ⟨x, rfl⟩ := List.length_eq_one_iff.1 (by simpa [media?] using h)
    simp [assignSource, media?]

/-- Subtitles take the source that is left if they have one. -/
theorem SubtitleSource.media?_assignSource (source : SubtitleSource) (ss : List MediaSource)
    (h : ss.length = source.media?.toList.length) :
    (source.assignSource ss).media?.toList = ss := by
  cases source with
  | inline text =>
    obtain rfl : ss = [] := by simpa [media?] using h
    simp [assignSource, media?]
  | file s =>
    obtain ⟨x, rfl⟩ := List.length_eq_one_iff.1 (by simpa [media?] using h)
    simp [assignSource, media?]

/-- A scene that is given as many sources as it has, has exactly these. -/
theorem Scene.mediaSources_withSources (scene : Scene) (sources : List MediaSource)
    (h : sources.length = scene.mediaSources.length) :
    (scene.withSources sources).mediaSources = sources := by
  obtain ⟨b, i, a, t, rfl, hb, hi, ha, ht⟩ : ∃ b i a t, sources = b ++ (i ++ (a ++ t)) ∧
      b.length = scene.background.media?.toList.length ∧ i.length = scene.images.length ∧
      a.length = scene.audio.length ∧ t.length = scene.subtitleSource?.toList.length := by
    simp only [mediaSources, List.length_append, List.length_map] at h
    let n := scene.background.media?.toList.length
    refine ⟨sources.take n, (sources.drop n).take scene.images.length,
      ((sources.drop n).drop scene.images.length).take scene.audio.length,
      ((sources.drop n).drop scene.images.length).drop scene.audio.length, ?_, ?_, ?_, ?_, ?_⟩
    · simp only [List.take_append_drop]
    all_goals simp only [List.length_take, List.length_drop]; omega
  obtain ⟨background, left⟩ := scene.background.assignSource_append b (i ++ (a ++ t)) hb
  obtain ⟨images, left'⟩ :=
    assignSources_append (fun s (c : ImageClip) => { c with source := s }) (·.source)
      (fun _ _ => rfl) scene.images i (a ++ t) hi
  obtain ⟨audio, left''⟩ :=
    assignSources_append (fun s (c : AudioTrack) => { c with source := s }) (·.source)
      (fun _ _ => rfl) scene.audio a t ha
  have subtitles : ((scene.subtitles.map fun s =>
      { s with source := s.source.assignSource t }).bind fun s => s.source.media?).toList = t := by
    cases hs : scene.subtitles with
    | none => simpa [subtitleSource?, hs, eq_comm] using ht
    | some s => exact s.source.media?_assignSource t (by simpa [subtitleSource?, hs] using ht)
  simp only [withSources, mediaSources, subtitleSource?, left, left', left'', background, images,
    audio, subtitles, List.append_assoc]

/-! ## Assigning again -/

theorem assignSources_snd {α : Type} (put : MediaSource → α → α) (xs : List α)
    (ss : List MediaSource) : (assignSources put xs ss).2 = ss.drop xs.length := by
  induction xs generalizing ss with
  | nil => cases ss <;> rfl
  | cons x xs ih =>
    cases ss with
    | nil => rfl
    | cons s ss => exact ih ss

/-- Of what is assigned twice the latter stays. -/
theorem assignSources_assignSources {α : Type} (put : MediaSource → α → α)
    (put_put : ∀ s s' x, put s' (put s x) = put s' x) (xs : List α) {ss ss' : List MediaSource}
    (h : ss.length ≤ ss'.length) :
    assignSources put (assignSources put xs ss).1 ss' = assignSources put xs ss' := by
  induction xs generalizing ss ss' with
  | nil => cases ss <;> rfl
  | cons x xs ih =>
    cases ss with
    | nil => rfl
    | cons s ss =>
      cases ss' with
      | nil => simp at h
      | cons s' ss' =>
        simp only [assignSources, put_put, ih (Nat.le_of_succ_le_succ h)]

theorem Background.assignSource_assignSource (b : Background) {ss ss' : List MediaSource}
    (h : ss.length ≤ ss'.length) : (b.assignSource ss).1.assignSource ss' = b.assignSource ss' := by
  cases b with
  | color c => cases ss <;> rfl
  | image source =>
    cases ss with
    | nil => rfl
    | cons s ss =>
      cases ss' with
      | nil => simp at h
      | cons s' ss' => rfl

theorem Background.length_assignSource_snd (b : Background) {ss ss' : List MediaSource}
    (h : ss.length ≤ ss'.length) :
    (b.assignSource ss).2.length ≤ (b.assignSource ss').2.length := by
  cases b with
  | color c => cases ss <;> cases ss' <;> simp_all [assignSource]
  | image source => cases ss <;> cases ss' <;> simp_all [assignSource]

theorem SubtitleSource.assignSource_assignSource (source : SubtitleSource)
    {ss ss' : List MediaSource} (h : ss.length ≤ ss'.length) :
    (source.assignSource ss).assignSource ss' = source.assignSource ss' := by
  cases source with
  | inline text => cases ss <;> rfl
  | file s =>
    cases ss with
    | nil => rfl
    | cons s ss =>
      cases ss' with
      | nil => simp at h
      | cons s' ss' => rfl

/-- A scene that is given sources twice has those that it was given last, if these are not
    fewer. -/
theorem Scene.withSources_withSources (scene : Scene) {ss ss' : List MediaSource}
    (h : ss.length ≤ ss'.length) :
    (scene.withSources ss).withSources ss' = scene.withSources ss' := by
  have left {α : Type} (put : MediaSource → α → α) (xs : List α) {ss ss' : List MediaSource}
      (h : ss.length ≤ ss'.length) :
      (assignSources put xs ss).2.length ≤ (assignSources put xs ss').2.length := by
    rw [assignSources_snd, assignSources_snd, List.length_drop, List.length_drop]
    omega
  have behind := scene.background.length_assignSource_snd h
  have background := scene.background.assignSource_assignSource h
  have clips := left (fun s (c : ImageClip) => { c with source := s }) scene.images behind
  have images := assignSources_assignSources (fun s (c : ImageClip) => { c with source := s })
    (fun _ _ _ => rfl) scene.images behind
  have tracks := left (fun s (t : AudioTrack) => { t with source := s }) scene.audio clips
  have audio := assignSources_assignSources (fun s (t : AudioTrack) => { t with source := s })
    (fun _ _ _ => rfl) scene.audio clips
  have subtitles (source : SubtitleSource) := source.assignSource_assignSource tracks
  simp only [withSources, background, images, audio, Option.map_map, Function.comp_def, subtitles]

end Compositor
