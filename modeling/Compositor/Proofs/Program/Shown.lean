import Compositor.Program.Layers

/-! # What is shown of a scene

The compiler walks over all elements of a scene, passes over those that cannot be shown, and stops
at the clip for which there is no place left.  It therefore does what it would do with the shown
elements alone: `Scene.draft_eq` for the layers and `Scene.compile_fst` for the whole program are
stated with folds over `Scene.shownImages`, `Scene.shownTexts` and `Scene.heardTracks`.

Nothing here depends on how numbers are written.
-/

namespace Compositor

/-! ## Shown elements -/

namespace Scene

/-- The clips that are shown: the first eligible ones, as many as there may be. -/
def shownImages (scene : Scene) (render : RenderSettings) : List ImageClip :=
  (scene.images.filter ImageClip.isEligible).take render.maxImageInputs

/-- The cues that are shown. -/
def shownTexts (scene : Scene) : List TextCue := scene.texts.filter TextCue.isEligible

/-- The audio tracks that are heard, with their locations. -/
def heardTracks (scene : Scene) : List (AudioTrack × String) :=
  scene.audio.filterMap fun t => t.source.location?.map fun path => (t, path)

end Scene

variable [w : Spelling]

/-! ## Layers -/

/-- With so many clips before them, those clips are added that are eligible and for which there is a
    place left. -/
theorem Draft.addClips_eq (scene : Scene) (render : RenderSettings) (count : Nat) (d : Draft)
    (clips : List ImageClip) :
    addClips scene render count d clips =
      ((clips.filter ImageClip.isEligible).take (render.maxImageInputs - count)).foldl
        (addClip scene render) d := by
  induction clips generalizing count d with
  | nil =>
    rw [List.filter_nil, List.take_nil]
    rfl
  | cons clip clips ih =>
    rw [addClips]
    by_cases full : render.maxImageInputs ≤ count
    · rw [if_pos full, Nat.sub_eq_zero_of_le full]
      rfl
    · have place : render.maxImageInputs - count = render.maxImageInputs - (count + 1) + 1 := by
        omega
      cases eligible : clip.isEligible with
      | false =>
        have hidden : ¬ clip.isEligible = true := Bool.eq_false_iff.mp eligible
        rw [if_neg full, if_neg Bool.false_ne_true, ih, List.filter_cons_of_neg hidden]
      | true =>
        rw [if_neg full, if_pos rfl, ih, List.filter_cons_of_pos eligible, place,
          List.take_succ_cons, List.foldl_cons]

theorem Draft.addTexts_eq (d : Draft) (cues : List TextCue) :
    d.addTexts cues = (cues.filter TextCue.isEligible).foldl addText d := by
  induction cues generalizing d with
  | nil => rfl
  | cons cue cues ih =>
    rw [addTexts, List.filter_cons]
    split
    · exact ih _
    · exact ih _

theorem Scene.draft_eq (scene : Scene) (render : RenderSettings) (random : Generator) :
    scene.draft render random =
      scene.shownTexts.foldl Draft.addText
        ((scene.shownImages render).foldl (Draft.addClip scene render)
          (Draft.background scene render random)) := by
  rw [draft, Draft.addTexts_eq, Draft.addClips_eq]
  rfl

/-! ## Sounds -/

namespace AudioMix

/-- Each track with a location adds a pad for the input that is declared with it. -/
theorem foldl_add (mix : AudioMix) (tracks : List AudioTrack) :
    let heard := tracks.filterMap fun t => t.source.location?.map fun path => (t, path)
    tracks.foldl add mix =
      { pads := mix.pads
          ++ (List.range' mix.inputs.length heard.length).map fun i => .stream i .audio
        weights := mix.weights ++ heard.map fun t => t.1.effectiveVolume.numeralText
        inputs := mix.inputs ++ heard.map fun t => t.1.input t.2 } := by
  induction tracks generalizing mix with
  | nil => simp
  | cons track tracks ih =>
    rw [List.foldl_cons, ih, add]
    cases located : track.source.location? with
    | none => simp [located]
    | some path => simp [located, List.range'_succ]

end AudioMix

/-- The filter that mixes the heard tracks, whose inputs start at an index. -/
def Scene.mixNode (scene : Scene) (firstInput : Nat) : Node where
  kind := .audioMix
  inputs := (List.range' firstInput scene.heardTracks.length).map fun i => .stream i .audio
  filter := Filter.mix scene.heardTracks.length
    (scene.heardTracks.map fun t => t.1.effectiveVolume.numeralText)
  output := Label.audioOut

/-! ## Whole scenes -/

namespace Scene

variable (scene : Scene) (render : RenderSettings) (random : Generator)

/-- The graph of a scene before subtitles are drawn. -/
def unsubtitled : Graph :=
  let d := scene.draft render random
  if scene.heardTracks.isEmpty then d.finishVideo
  else d.finishVideo.push (scene.mixNode d.inputs.length)

/-- A compiled program, in terms of the draft with all layers. -/
theorem compile_fst :
    (scene.compile render random).1 =
      { graph :=
          match scene.drawnSubtitles? with
          | some (s, path) => (scene.unsubtitled render random).injectSubtitles s path
          | none => scene.unsubtitled render random
        inputs := (scene.draft render random).inputs
          ++ scene.heardTracks.map fun t => t.1.input t.2
        duration := scene.duration } := by
  have mixed (g : Graph) (inputs : List Input) :
      (scene.audio.foldl AudioMix.add ⟨[], [], inputs⟩).addTo g =
        if scene.heardTracks.isEmpty then g else g.push (scene.mixNode inputs.length) := by
    rw [AudioMix.foldl_add, AudioMix.addTo]
    simp only [List.nil_append, List.isEmpty_iff, List.map_eq_nil_iff, List.range'_eq_nil_iff,
      List.length_eq_zero_iff, List.length_map, List.length_range']
    rfl
  rw [compile, mixed, AudioMix.foldl_add]
  rfl

theorem compile_snd :
    (scene.compile render random).2 = (scene.draft render random).random := rfl

end Scene

end Compositor
