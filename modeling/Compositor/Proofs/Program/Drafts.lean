import Compositor.Proofs.Program.Shown

/-! # What each layer adds to a draft

The background starts a draft, and every clip and every cue adds filters, labels and
inputs to it.  The lemmas here say once what is added; all that is proved of compiled
programs goes back to them.
-/

namespace Compositor

/-! ## Backgrounds -/

/-- The location of the background image, if there is one that can be opened. -/
def Scene.backdrop? (scene : Scene) : Option String :=
  scene.background.media?.bind MediaSource.location?

def Scene.plainColor (scene : Scene) : String :=
  match scene.background with
  | .color color => color
  | .image _ => "black"

def Scene.backgroundInput (scene : Scene) (render : RenderSettings) : Input :=
  match scene.backdrop? with
  | some path => .loopedImage path scene.duration
  | none =>
    .generated ("color=c=" ++ scene.plainColor ++ ":s=" ++ toString scene.width ++ "x"
      ++ toString scene.height ++ ":r=" ++ toString render.fps ++ ":d="
      ++ scene.duration.numeralText)

namespace Draft

/-- A background image is brought to its size by a first filter. -/
theorem background_of_some {scene : Scene} {path : String} (located : scene.backdrop? = some path)
    (render : RenderSettings) (random : Generator) :
    background scene render random =
      { graph := Graph.empty.push ⟨.scale, [.stream 0 .video],
          Filter.fillCrop scene.width scene.height, (LabelAllocator.fresh.take .scaledImage).1⟩
        inputs := [scene.backgroundInput render]
        labels := (LabelAllocator.fresh.take .scaledImage).2
        current := .label (LabelAllocator.fresh.take .scaledImage).1
        random := random } := by
  rw [Scene.backgroundInput, located]
  rw [Scene.backdrop?] at located
  rw [background]
  cases same : scene.background with
  | color color => rw [same] at located; cases located
  | image source =>
    have opened : source.location? = some path := by
      rw [same] at located
      exact located
    simp only [opened]
    rfl

/-- Without a background image there is a generated picture and no filter. -/
theorem background_of_none {scene : Scene} (unlocated : scene.backdrop? = none)
    (render : RenderSettings) (random : Generator) :
    background scene render random =
      { graph := Graph.empty
        inputs := [scene.backgroundInput render]
        labels := LabelAllocator.fresh
        current := .stream 0 .video
        random := random } := by
  rw [Scene.backgroundInput, unlocated, Scene.plainColor]
  rw [Scene.backdrop?] at unlocated
  rw [background]
  cases same : scene.background with
  | color color => rfl
  | image source =>
    have closed : source.location? = none := by
      rw [same] at unlocated
      exact unlocated
    simp only [closed]
    rfl

end Draft

/-! ## Clips -/

namespace ImageClip

variable (clip : ImageClip) (scene : Scene)

def isZoomed : Bool := (clip.zoomWish? scene.kenBurns).isSome

/-- The filter that brings the clip to its size. -/
def scalingKind : NodeKind := if clip.isZoomed scene then .kenBurns else .scale

def scalingLabel : LabelKind := if clip.isZoomed scene then .kenBurns else .scaledImage

def input : Input :=
  if clip.isZoomed scene then .stillImage (clip.source.location?.getD "")
  else .loopedImage (clip.source.location?.getD "") clip.finish

def sizedWidth : Nat := (clip.rect.map (·.width)).getD scene.width

def sizedHeight : Nat := (clip.rect.map (·.height)).getD scene.height

/-- The filter of a clip that is not zoomed: it is cut to the canvas, or stretched to a
    smaller place. -/
def stillFilter : String :=
  if clip.rect.all (fun r => r.covers scene.width scene.height) then
    Filter.fillCrop (clip.sizedWidth scene) (clip.sizedHeight scene)
  else Filter.stretch (clip.sizedWidth scene) (clip.sizedHeight scene)

/-- The filter brings the clip to its size, zooming it with one of the pans if it is to
    be zoomed. -/
def ScaledBy (render : RenderSettings) (filter : String) : Prop :=
  match clip.zoomWish? scene.kenBurns with
  | some wish =>
    ∃ preset, filter = Filter.zoom (wish.settle preset) clip (clip.sizedWidth scene)
      (clip.sizedHeight scene) render.fps
  | none => filter = clip.stillFilter scene

end ImageClip

/-- The filter that brings a clip to its size, behind a draft. -/
def Draft.sizedNode (d : Draft) (scene : Scene) (clip : ImageClip) (filter : String) : Node where
  kind := clip.scalingKind scene
  inputs := [.stream d.inputs.length .video]
  filter := filter
  output := (d.labels.take (clip.scalingLabel scene)).1

/-- The filter that lays a sized clip over the picture so far. -/
def Draft.laidNode (d : Draft) (scene : Scene) (clip : ImageClip) : Node where
  kind := .overlay
  inputs := [d.current, .label (d.labels.take (clip.scalingLabel scene)).1]
  filter := Filter.overlay ((clip.rect.map (·.x)).getD 0) ((clip.rect.map (·.y)).getD 0) clip
  output := ((d.labels.take (clip.scalingLabel scene)).2.take .overlay).1

namespace Draft

theorem scaleClip_eq (scene : Scene) (render : RenderSettings) (d : Draft) (clip : ImageClip) :
    ∃ filter random, clip.ScaledBy scene render filter ∧
      scaleClip scene render d clip =
        ((d.labels.take (clip.scalingLabel scene)).1,
          { graph := d.graph.push (d.sizedNode scene clip filter)
            inputs := d.inputs ++ [clip.input scene]
            labels := (d.labels.take (clip.scalingLabel scene)).2
            current := d.current
            random := random }) := by
  cases wish : clip.zoomWish? scene.kenBurns with
  | some w =>
    have zoomed : clip.isZoomed scene = true := by rw [ImageClip.isZoomed, wish]; rfl
    refine ⟨Filter.zoom (w.settle (scene.choosePan d.random).1) clip (clip.sizedWidth scene)
      (clip.sizedHeight scene) render.fps, (scene.choosePan d.random).2, ?_, ?_⟩
    · simp only [ImageClip.ScaledBy, wish]
      exact ⟨_, rfl⟩
    · simp only [scaleClip, wish, sizedNode, ImageClip.scalingKind, ImageClip.scalingLabel,
        ImageClip.input, zoomed]
      rfl
  | none =>
    have still : clip.isZoomed scene = false := by rw [ImageClip.isZoomed, wish]; rfl
    refine ⟨clip.stillFilter scene, d.random, ?_, ?_⟩
    · simp only [ImageClip.ScaledBy, wish]
    · simp only [scaleClip, wish, sizedNode, ImageClip.scalingKind, ImageClip.scalingLabel,
        ImageClip.input, still]
      rfl

/-- A clip adds an input, a filter that sizes it and a filter that lays it over the
    picture so far. -/
theorem addClip_eq (scene : Scene) (render : RenderSettings) (d : Draft) (clip : ImageClip) :
    ∃ filter random, clip.ScaledBy scene render filter ∧
      d.addClip scene render clip =
        { graph := (d.graph.push (d.sizedNode scene clip filter)).push (d.laidNode scene clip)
          inputs := d.inputs ++ [clip.input scene]
          labels := ((d.labels.take (clip.scalingLabel scene)).2.take .overlay).2
          current := .label (d.laidNode scene clip).output
          random := random } := by
  obtain ⟨filter, random, scaled, equal⟩ := scaleClip_eq scene render d clip
  refine ⟨filter, random, scaled, ?_⟩
  rw [addClip, equal]
  rfl

end Draft

/-! ## Cues -/

def Draft.drawnNode (d : Draft) (cue : TextCue) : Node where
  kind := .drawText
  inputs := [d.current]
  filter := Filter.drawText cue
  output := (d.labels.take .text).1

theorem Draft.addText_eq (d : Draft) (cue : TextCue) :
    d.addText cue =
      { d with
        graph := d.graph.push (d.drawnNode cue)
        labels := (d.labels.take .text).2
        current := .label (d.drawnNode cue).output } := rfl

/-! ## Whole scenes -/

theorem Scene.draft_inputs (scene : Scene) (render : RenderSettings) (random : Generator) :
    (scene.draft render random).inputs =
      scene.backgroundInput render :: (scene.shownImages render).map (·.input scene) := by
  have clips : ∀ (shown : List ImageClip) (d : Draft),
      (shown.foldl (Draft.addClip scene render) d).inputs = d.inputs ++ shown.map (·.input scene) := by
    intro shown
    induction shown with
    | nil => simp
    | cons clip shown inductionHypothesis =>
      intro d
      obtain ⟨filter, random, -, equal⟩ := Draft.addClip_eq scene render d clip
      rw [List.foldl_cons, inductionHypothesis, equal]
      simp
  have cues : ∀ (shown : List TextCue) (d : Draft), (shown.foldl Draft.addText d).inputs = d.inputs := by
    intro shown
    induction shown with
    | nil => exact fun _ => rfl
    | cons cue shown inductionHypothesis =>
      intro d
      rw [List.foldl_cons, inductionHypothesis, Draft.addText_eq]
  have start : (Draft.background scene render random).inputs = [scene.backgroundInput render] := by
    cases located : scene.backdrop? with
    | some path => rw [Draft.background_of_some located]
    | none => rw [Draft.background_of_none located]
  rw [draft_eq, cues, clips, start]
  rfl

theorem Scene.compile_inputs (scene : Scene) (render : RenderSettings) (random : Generator) :
    (scene.compile render random).1.inputs =
      scene.backgroundInput render :: ((scene.shownImages render).map (·.input scene)
        ++ scene.heardTracks.map fun track => track.1.input track.2) := by
  rw [compile_fst, draft_inputs, List.cons_append]

end Compositor
