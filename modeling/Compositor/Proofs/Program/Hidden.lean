import Compositor.Proofs.Double.Arithmetic
import Compositor.Proofs.Program.Shown

/-! # Hidden elements

An element that cannot be shown, and a clip for which there is no place left, is hidden.
Hidden elements leave no trace: a scene without them is compiled to the same program, by the
same draws.

The compiler walks over hidden elements as well, but what a scene is compiled to depends only on
its frame and on what it shows (`Scene.draft_eq`, `Scene.compile_fst`).  Scenes that have both in
common are `Scene.Alike`, and taking out what is hidden changes neither.
-/

namespace Compositor

/-! ## Why an element is hidden -/

/-- Why a clip cannot be shown. -/
inductive ImageClip.IsUnusable (clip : ImageClip) : Prop where
  | unlocated (nowhere : clip.source.location? = none)
  | startUnbounded (unbounded : clip.start.isFinite = false)
  | startNegative (negative : clip.start.toRat < 0)
  | lengthUnbounded (unbounded : clip.length.isFinite = false)
  | lengthNotPositive (nothing : clip.length.toRat ≤ 0)
  | flat (r : Rect) (place : clip.rect = some r) (zero : r.width = 0 ∨ r.height = 0)

/-- Why a cue cannot be shown. -/
inductive TextCue.IsUnusable (cue : TextCue) : Prop where
  | blank (nothing : Text.allBlank cue.text = true)
  | startUnbounded (unbounded : cue.start.isFinite = false)
  | finishUnbounded (unbounded : cue.finish.isFinite = false)
  | startNegative (negative : cue.start.toRat < 0)
  | overAtOnce (order : cue.finish.toRat ≤ cue.start.toRat)

/-- Why subtitles cannot be drawn. -/
inductive Subtitles.IsUnusable (subtitles : Subtitles) : Prop where
  | inline (text : String) (source : subtitles.source = .inline text)
  | unlocated (file : MediaSource) (source : subtitles.source = .file file)
      (nowhere : file.location? = none)

theorem Double.isFinite_zero : (0 : Double).isFinite = true := by decide +kernel

theorem Double.toRat_zero : (0 : Double).toRat = 0 :=
  toRat_of_isZero (by decide +kernel)

/-- What an eligible clip is like. -/
theorem ImageClip.isEligible_iff {clip : ImageClip} :
    clip.isEligible = true ↔
      clip.source.location? ≠ none ∧ clip.start.isFinite = true ∧ clip.length.isFinite = true ∧
        0 ≤ clip.start.toRat ∧ 0 < clip.length.toRat ∧
        ∀ r, clip.rect = some r → 0 < r.width ∧ 0 < r.height := by
  have rest : (clip.rect.all fun r => decide (0 < r.width) && decide (0 < r.height)) = true ↔
      ∀ r, clip.rect = some r → 0 < r.width ∧ 0 < r.height := by
    cases clip.rect <;> simp
  simp only [isEligible, Bool.and_eq_true, Option.isSome_iff_ne_none, rest, and_assoc]
  refine and_congr_right fun _ => and_congr_right fun finite => and_congr_right fun finite' => ?_
  rw [Double.lessEq_iff_toRat_le Double.isFinite_zero finite,
    Double.less_iff_toRat_lt Double.isFinite_zero finite', Double.toRat_zero]

/-- A clip is either eligible or there is a reason why it cannot be shown. -/
theorem ImageClip.isUnusable_iff {clip : ImageClip} :
    clip.IsUnusable ↔ clip.isEligible = false := by
  rw [← Bool.not_eq_true, isEligible_iff]
  constructor
  · rintro unusable ⟨located, startFinite, lengthFinite, start, length, place⟩
    cases unusable with
    | unlocated nowhere => exact located nowhere
    | startUnbounded unbounded => exact Bool.false_ne_true (unbounded.symm.trans startFinite)
    | startNegative negative => exact negative.not_ge start
    | lengthUnbounded unbounded => exact Bool.false_ne_true (unbounded.symm.trans lengthFinite)
    | lengthNotPositive nothing => exact nothing.not_gt length
    | flat r at_ zero =>
      obtain ⟨width, height⟩ := place r at_
      rcases zero with zero | zero
      · exact width.ne' zero
      · exact height.ne' zero
  · -- Without any of the reasons the clip would be eligible.
    intro fails
    by_contra usable
    refine fails ⟨fun nowhere => usable (.unlocated nowhere), ?_, ?_, ?_, ?_, ?_⟩
    · exact Bool.not_eq_false _ ▸ fun unbounded => usable (.startUnbounded unbounded)
    · exact Bool.not_eq_false _ ▸ fun unbounded => usable (.lengthUnbounded unbounded)
    · exact not_lt.mp fun negative => usable (.startNegative negative)
    · exact not_le.mp fun nothing => usable (.lengthNotPositive nothing)
    · intro r place
      constructor
      · exact Nat.pos_of_ne_zero fun zero => usable (.flat r place (.inl zero))
      · exact Nat.pos_of_ne_zero fun zero => usable (.flat r place (.inr zero))

theorem TextCue.isEligible_iff {cue : TextCue} :
    cue.isEligible = true ↔
      Text.allBlank cue.text = false ∧ cue.start.isFinite = true ∧ cue.finish.isFinite = true ∧
        0 ≤ cue.start.toRat ∧ cue.start.toRat < cue.finish.toRat := by
  simp only [isEligible, Bool.and_eq_true, Bool.not_eq_true', and_assoc]
  refine and_congr_right fun _ => and_congr_right fun finite => and_congr_right fun finite' => ?_
  rw [Double.lessEq_iff_toRat_le Double.isFinite_zero finite,
    Double.less_iff_toRat_lt finite finite', Double.toRat_zero]

theorem TextCue.isUnusable_iff {cue : TextCue} :
    cue.IsUnusable ↔ cue.isEligible = false := by
  rw [← Bool.not_eq_true, isEligible_iff]
  constructor
  · rintro unusable ⟨text, startFinite, finishFinite, start, order⟩
    cases unusable with
    | blank nothing => exact Bool.false_ne_true (text.symm.trans nothing)
    | startUnbounded unbounded => exact Bool.false_ne_true (unbounded.symm.trans startFinite)
    | finishUnbounded unbounded => exact Bool.false_ne_true (unbounded.symm.trans finishFinite)
    | startNegative negative => exact negative.not_ge start
    | overAtOnce backwards => exact backwards.not_gt order
  · -- As for clips, without any of the reasons the cue would be eligible.
    intro fails
    by_contra usable
    refine fails ⟨?_, ?_, ?_, ?_, ?_⟩
    · exact Bool.not_eq_true _ ▸ fun nothing => usable (.blank nothing)
    · exact Bool.not_eq_false _ ▸ fun unbounded => usable (.startUnbounded unbounded)
    · exact Bool.not_eq_false _ ▸ fun unbounded => usable (.finishUnbounded unbounded)
    · exact not_lt.mp fun negative => usable (.startNegative negative)
    · exact not_le.mp fun backwards => usable (.overAtOnce backwards)

/-- Subtitles have a file that can be opened, or there is a reason why they cannot be drawn. -/
theorem Subtitles.isUnusable_iff {subtitles : Subtitles} :
    subtitles.IsUnusable ↔ subtitles.source.media?.bind MediaSource.location? = none := by
  constructor
  · intro unusable
    cases unusable with
    | inline text source => rw [source]; rfl
    | unlocated file source nowhere => rw [source]; exact nowhere
  · intro nowhere
    cases source : subtitles.source with
    | inline text => exact .inline text source
    | file file =>
      rw [source] at nowhere
      exact .unlocated file source nowhere

instance (clip : ImageClip) : Decidable clip.IsUnusable :=
  decidable_of_iff _ ImageClip.isUnusable_iff.symm

instance (cue : TextCue) : Decidable cue.IsUnusable :=
  decidable_of_iff _ TextCue.isUnusable_iff.symm

instance (subtitles : Subtitles) : Decidable subtitles.IsUnusable :=
  decidable_of_iff _ Subtitles.isUnusable_iff.symm

/-! ## Taking out what is hidden -/

/-- The clips of a list without the hidden ones, if so many usable clips come before the list:
    a clip is hidden if it is unusable or comes after as many usable ones as there may be. -/
def ImageClip.withoutHidden (ceiling : Nat) : Nat → List ImageClip → List ImageClip
  | _, [] => []
  | before, clip :: clips =>
    if clip.IsUnusable then withoutHidden ceiling before clips
    else if before < ceiling then clip :: withoutHidden ceiling (before + 1) clips
    else withoutHidden ceiling (before + 1) clips

/-- The scene without its hidden elements. -/
def Scene.withoutHidden (scene : Scene) (render : RenderSettings) : Scene :=
  { scene with
    images := ImageClip.withoutHidden render.maxImageInputs 0 scene.images
    texts := scene.texts.filter fun cue => ¬cue.IsUnusable
    audio := scene.audio.filter fun track => track.source.location? ≠ none
    subtitles := scene.subtitles.filter fun subtitles => ¬subtitles.IsUnusable }

/-- The clips that stay are those that are shown. -/
theorem ImageClip.withoutHidden_eq (ceiling before : Nat) (clips : List ImageClip) :
    withoutHidden ceiling before clips =
      (clips.filter isEligible).take (ceiling - before) := by
  induction clips generalizing before with
  | nil => rw [withoutHidden, List.filter_nil, List.take_nil]
  | cons clip clips inductionHypothesis =>
    rw [withoutHidden, List.filter_cons]
    cases eligible : clip.isEligible with
    | false =>
      rw [if_pos (isUnusable_iff.mpr eligible), inductionHypothesis]
      rfl
    | true =>
      have usable : ¬clip.IsUnusable := by
        rw [isUnusable_iff, eligible]
        exact Bool.noConfusion
      rw [if_neg usable, inductionHypothesis, if_pos rfl]
      by_cases room : before < ceiling
      · have places : ceiling - before = ceiling - (before + 1) + 1 := by omega
        rw [if_pos room, places, List.take_succ_cons]
      · -- All places are taken, by clips that come before this one.
        have full : ceiling - (before + 1) = 0 ∧ ceiling - before = 0 := by omega
        rw [if_neg room, full.1, full.2, List.take_zero, List.take_zero]

theorem Scene.images_withoutHidden (scene : Scene) (render : RenderSettings) :
    (scene.withoutHidden render).images = scene.shownImages render :=
  ImageClip.withoutHidden_eq _ _ _

theorem Scene.texts_withoutHidden (scene : Scene) (render : RenderSettings) :
    (scene.withoutHidden render).texts = scene.shownTexts := by
  refine List.filter_congr fun cue _ => ?_
  cases eligible : cue.isEligible <;> simp [TextCue.isUnusable_iff, eligible]

/-! ## Scenes that look alike -/

/-- Two scenes have the same frame and show the same. -/
structure Scene.Alike (render : RenderSettings) (scene other : Scene) : Prop where
  duration : scene.duration = other.duration
  width : scene.width = other.width
  height : scene.height = other.height
  background : scene.background = other.background
  kenBurns : scene.kenBurns = other.kenBurns
  images : scene.shownImages render = other.shownImages render
  texts : scene.shownTexts = other.shownTexts
  tracks : scene.heardTracks = other.heardTracks
  subtitles : scene.drawnSubtitles? = other.drawnSubtitles?

namespace Scene.Alike

variable {render : RenderSettings} {scene other : Scene}

theorem choosePan (alike : Scene.Alike render scene other) :
    scene.choosePan = other.choosePan := by
  funext random
  rw [Scene.choosePan, Scene.choosePan, randomizesPan, randomizesPan, alike.kenBurns]

/-- A clip is added to a draft in the same way, with the same draw. -/
theorem addClip (alike : Scene.Alike render scene other) :
    Draft.addClip scene render = Draft.addClip other render := by
  funext d clip
  have scaled : Draft.scaleClip scene render d clip = Draft.scaleClip other render d clip := by
    rw [Draft.scaleClip, Draft.scaleClip, alike.choosePan, alike.kenBurns, alike.width,
      alike.height]
  rw [Draft.addClip, Draft.addClip, scaled]

theorem draft (alike : Scene.Alike render scene other) (random : Generator) :
    scene.draft render random = other.draft render random := by
  have start : Draft.background scene render random = Draft.background other render random := by
    simp only [Draft.background, Draft.ofColor, Draft.ofImage, alike.background, alike.duration,
      alike.width, alike.height]
  rw [draft_eq, draft_eq, start, alike.addClip, alike.images, alike.texts]

/-- Scenes that look alike are compiled to the same program, by the same draws. -/
theorem compile (alike : Scene.Alike render scene other) (random : Generator) :
    scene.compile render random = other.compile render random := by
  have mixed : scene.mixNode = other.mixNode := by
    funext firstInput
    rw [mixNode, mixNode, alike.tracks]
  refine Prod.ext ?_ ?_
  · simp only [compile_fst, unsubtitled, alike.draft, alike.tracks, alike.subtitles,
      alike.duration, mixed]
  · rw [compile_snd, compile_snd, alike.draft]

end Scene.Alike

/-- A scene looks as it does without its hidden elements. -/
theorem Scene.withoutHidden_alike (scene : Scene) (render : RenderSettings) :
    Scene.Alike render (scene.withoutHidden render) scene where
  duration := rfl
  width := rfl
  height := rfl
  background := rfl
  kenBurns := rfl
  images := by
    -- All clips that are left are eligible, and there are not too many of them.
    have eligible : (scene.shownImages render).filter ImageClip.isEligible =
        scene.shownImages render :=
      List.filter_eq_self.mpr fun clip mem => (List.mem_filter.mp (List.mem_of_mem_take mem)).2
    rw [shownImages, images_withoutHidden, eligible]
    exact List.take_of_length_le (List.length_take_le _ _)
  texts := by
    rw [shownTexts, texts_withoutHidden, shownTexts, List.filter_filter]
    simp only [Bool.and_self]
  tracks := by
    rw [heardTracks, heardTracks, withoutHidden, List.filterMap_filter]
    refine List.filterMap_congr fun track _ => ?_
    cases track.source.location? <;> rfl
  subtitles := by
    rw [drawnSubtitles?, drawnSubtitles?, withoutHidden]
    cases scene.subtitles with
    | none => rfl
    | some subtitles =>
      by_cases unusable : subtitles.IsUnusable
      · rw [Option.filter_some, if_neg (by simpa using unusable)]
        cases unusable with
        | inline text source => simp only [source]
        | unlocated file source nowhere => simp only [source, nowhere, Option.map_none]
      · rw [Option.filter_some, if_pos (by simpa using unusable)]

/-- Hidden elements leave no trace: without them a scene is compiled to the same graph with the
    same inputs and the same duration, and the generator is left in the same state. -/
theorem Scene.compile_withoutHidden (scene : Scene) (render : RenderSettings)
    (random : Generator) :
    (scene.withoutHidden render).compile render random = scene.compile render random :=
  (scene.withoutHidden_alike render).compile random

end Compositor
