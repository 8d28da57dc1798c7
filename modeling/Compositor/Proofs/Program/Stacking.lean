import Compositor.Proofs.Filter.Walks
import Compositor.Proofs.Program.Labels
import Mathlib.Data.List.Forall2

/-! # The layers of compiled scenes

Walking back from the finished video of a compiled scene, one visits one filter for
each layer of the scene, from the background on: the clips that are shown, the cues
that are shown and the subtitles, all in their order.

`Graph.Shows` is kept by all that compiling does to a graph: each layer extends the walk
by its filter, and the labels that are replaced at the end take the walk along.
-/

namespace Compositor

/-! ## Layers -/

/-- What a filter on the way to the finished video shows. -/
inductive Layer where
  | backdrop (path : String)
  /-- A clip, with its number among the clips that are shown. -/
  | clip (number : Nat) (clip : ImageClip)
  | cue (cue : TextCue)
  /-- The background and nothing over it. -/
  | passThrough
  | subtitles (subtitles : Subtitles) (path : String)
deriving DecidableEq

namespace Scene

/-- The layers for which a filter draws something. -/
def drawnLayers (scene : Scene) (render : RenderSettings) : List Layer :=
  (scene.backdrop?.map Layer.backdrop).toList
    ++ (scene.shownImages render).zipIdx.map (fun shown => .clip shown.2 shown.1)
    ++ scene.shownTexts.map Layer.cue

/-- All layers of a scene, the background first. -/
def layers (scene : Scene) (render : RenderSettings) : List Layer :=
  (if scene.drawnLayers render = [] then [.passThrough] else scene.drawnLayers render)
    ++ (scene.drawnSubtitles?.map fun drawn => Layer.subtitles drawn.1 drawn.2).toList

end Scene

/-- A filter of a graph over some inputs shows a layer of a scene.  The filter of a clip
    has the clip's position and window, and lays over the picture so far what another
    filter makes of the input that is declared for the clip. -/
def Layer.ShownBy (scene : Scene) (render : RenderSettings) (g : Graph) (inputs : List Input)
    (node : Node) : Layer → Prop
  | backdrop path =>
    node.kind = .scale ∧ node.inputs = [.stream 0 .video] ∧
      node.filter = Filter.fillCrop scene.width scene.height ∧
      inputs[0]? = some (.loopedImage path scene.duration)
  | clip number image =>
    node.kind = .overlay ∧
      node.filter = "overlay=" ++ toString ((image.rect.map (·.x)).getD 0) ++ ":"
        ++ toString ((image.rect.map (·.y)).getD 0) ++ ":enable='gte(t," ++ image.start.numeralText
        ++ ")*lt(t," ++ (image.start + image.length).numeralText ++ ")'" ∧
      ∃ under sized maker, node.inputs = [under, .label sized] ∧ g.maker? sized = some maker ∧
        maker.kind = image.scalingKind scene ∧ maker.inputs = [.stream (number + 1) .video] ∧
        image.ScaledBy scene render maker.filter ∧ inputs[number + 1]? = some (image.input scene)
  | cue text =>
    node.kind = .drawText ∧ node.filter = Filter.drawText text ∧ ∃ under, node.inputs = [under]
  | passThrough => node.kind = .passThrough ∧ node.filter = "null" ∧ ∃ under, node.inputs = [under]
  | subtitles s path =>
    node.kind = .subtitles ∧ node.filter = s.filter path ∧ ∃ under, node.inputs = [under]

/-- Walking back from a pad, one visits the filters of the layers and reaches the first
    input. -/
def Graph.Shows (scene : Scene) (render : RenderSettings) (g : Graph) (inputs : List Input)
    (top : Pad) (layers : List Layer) : Prop :=
  ∃ visited, g.Walk top (.stream 0 .video) visited ∧
    List.Forall₂ (fun node layer => layer.ShownBy scene render g inputs node) visited layers

variable {scene : Scene} {render : RenderSettings} {g : Graph} {inputs : List Input}

/-! ## What keeps a layer shown -/

namespace Layer.ShownBy

variable {layer : Layer} {node : Node}

theorem push (shown : layer.ShownBy scene render g inputs node) (added : Node) :
    layer.ShownBy scene render (g.push added) inputs node := by
  cases layer with
  | clip number clip =>
    obtain ⟨kind, filter, under, sized, maker, reads, made, rest⟩ := shown
    exact ⟨kind, filter, under, sized, maker, reads, Graph.maker?_push made added, rest⟩
  | backdrop | cue | passThrough | subtitles => exact shown

theorem append (shown : layer.ShownBy scene render g inputs node) (more : List Input) :
    layer.ShownBy scene render g (inputs ++ more) node := by
  have kept : ∀ {index : Nat} {input : Input}, inputs[index]? = some input →
      (inputs ++ more)[index]? = some input := by
    intro index input found
    have bound := (List.getElem?_eq_some_iff.mp found).1
    rw [List.getElem?_append_left bound, found]
  cases layer with
  | backdrop path =>
    obtain ⟨kind, reads, filter, found⟩ := shown
    exact ⟨kind, reads, filter, kept found⟩
  | clip number clip =>
    obtain ⟨kind, filter, under, sized, maker, reads, made, kind', reads', scaled, found⟩ := shown
    exact ⟨kind, filter, under, sized, maker, reads, made, kind', reads', scaled, kept found⟩
  | cue | passThrough | subtitles => exact shown

theorem relabel {f : Label → Label}
    (injective : ∀ a ∈ g.outputs, ∀ b ∈ g.outputs, f a = f b → a = b)
    (shown : layer.ShownBy scene render g inputs node) :
    layer.ShownBy scene render (g.relabel f) inputs (node.relabel f) := by
  cases layer with
  | backdrop path =>
    obtain ⟨kind, reads, filter, found⟩ := shown
    refine ⟨kind, ?_, filter, found⟩
    rw [Node.relabel, reads]
    rfl
  | clip number clip =>
    obtain ⟨kind, filter, under, sized, maker, reads, made, kind', reads', scaled, found⟩ := shown
    refine ⟨kind, filter, under.relabel f, f sized, maker.relabel f, ?_,
      Graph.maker?_relabel injective made, kind', ?_, scaled, found⟩
    · rw [Node.relabel, reads]
      rfl
    · rw [Node.relabel, reads']
      rfl
  | cue | passThrough | subtitles =>
    obtain ⟨kind, filter, under, reads⟩ := shown
    refine ⟨kind, filter, under.relabel f, ?_⟩
    rw [Node.relabel, reads]
    rfl

end Layer.ShownBy

namespace Graph.Shows

variable {top : Pad} {layers : List Layer}

theorem push (shows : g.Shows scene render inputs top layers) (added : Node) :
    (g.push added).Shows scene render inputs top layers := by
  obtain ⟨visited, walk, shown⟩ := shows
  exact ⟨visited, walk.push added, shown.imp fun _ _ shown => shown.push added⟩

theorem append (shows : g.Shows scene render inputs top layers) (more : List Input) :
    g.Shows scene render (inputs ++ more) top layers := by
  obtain ⟨visited, walk, shown⟩ := shows
  exact ⟨visited, walk, shown.imp fun _ _ shown => shown.append more⟩

/-- A filter over the picture at the top shows one more layer. -/
theorem push_over {node : Node} {layer : Layer} (shows : g.Shows scene render inputs top layers)
    (new : node.output ∉ g.outputs) (above : node.inputs.head? = some top)
    (shown : layer.ShownBy scene render (g.push node) inputs node) :
    (g.push node).Shows scene render inputs (.label node.output) (layers ++ [layer]) := by
  obtain ⟨visited, walk, before⟩ := shows
  refine ⟨visited ++ [node], walk.push_over new above, ?_⟩
  exact List.rel_append (before.imp fun _ _ shown => shown.push node) (.cons shown .nil)

/-- An output that is moved to a new label takes the layers along. -/
theorem rename {source target : Label} (shows : g.Shows scene render inputs (.label source) layers)
    (new : target ∉ g.outputs) :
    (g.relabel (Label.rename source target)).Shows scene render inputs (.label target) layers := by
  obtain ⟨visited, walk, shown⟩ := shows
  have injective := Label.rename_injOn source new
  have walk' := walk.relabel injective
  rw [Pad.relabel, Label.rename, if_pos rfl] at walk'
  refine ⟨visited.map (Node.relabel (Label.rename source target)), walk', ?_⟩
  rw [List.forall₂_map_left_iff]
  exact shown.imp fun _ _ shown => shown.relabel injective

end Graph.Shows

/-! ## Drafts -/

namespace Draft

/-- The picture so far shows the layers. -/
def Shows (scene : Scene) (render : RenderSettings) (d : Draft) (layers : List Layer) : Prop :=
  d.graph.Shows scene render d.inputs d.current layers

theorem background_shows (scene : Scene) (render : RenderSettings) (random : Generator) :
    (background scene render random).inputs = [scene.backgroundInput render] ∧
      (background scene render random).Shows scene render
        (scene.backdrop?.map Layer.backdrop).toList := by
  cases located : scene.backdrop? with
  | some path =>
    rw [background_of_some located]
    refine ⟨rfl, ?_⟩
    have start : Graph.empty.Shows scene render [scene.backgroundInput render] (.stream 0 .video) [] :=
      ⟨[], .stream 0 .video, .nil⟩
    refine start.push_over List.not_mem_nil rfl ⟨rfl, rfl, rfl, ?_⟩
    rw [Scene.backgroundInput, located]
    rfl
  | none =>
    rw [background_of_none located]
    exact ⟨rfl, [], .stream 0 .video, .nil⟩

variable {d : Draft} {layers : List Layer}

/-- The filter of a clip that is laid over the picture so far gets a new label, even
    behind the filter that sizes the clip. -/
theorem Sound.laidNode_notMem (sound : d.Sound) (scene : Scene) (clip : ImageClip)
    (filter : String) :
    (d.laidNode scene clip).output ∉ (d.graph.push (d.sizedNode scene clip filter)).outputs := by
  have other : LabelKind.overlay ≠ clip.scalingLabel scene := by
    rw [ImageClip.scalingLabel]
    split <;> decide
  have next : (d.laidNode scene clip).output = (d.labels.take .overlay).1 := by
    rw [laidNode, LabelAllocator.take, LabelAllocator.take, LabelAllocator.take]
    simp only [if_neg other]
  rw [next, Graph.outputs_push, List.mem_append, List.mem_singleton]
  rintro (old | same)
  · exact sound.next_notMem .overlay old
  · exact other (Label.numbered_inj.mp same).1

theorem Shows.addClip {number : Nat} (shows : d.Shows scene render layers) (sound : d.Sound)
    (numbered : d.inputs.length = number + 1) (clip : ImageClip) :
    (d.addClip scene render clip).Shows scene render (layers ++ [.clip number clip]) := by
  obtain ⟨filter, random, scaled, equal⟩ := addClip_eq scene render d clip
  have newSized : (d.sizedNode scene clip filter).output ∉ d.graph.outputs :=
    sound.next_notMem (clip.scalingLabel scene)
  have newLaid := sound.laidNode_notMem scene clip filter
  have made := Graph.maker?_push (Graph.maker?_push_self newSized) (d.laidNode scene clip)
  rw [equal]
  apply Graph.Shows.push_over ((Graph.Shows.push shows _).append _) newLaid rfl
  refine ⟨rfl, rfl, d.current, _, d.sizedNode scene clip filter, rfl, made, rfl, ?_, scaled, ?_⟩
  · rw [← numbered]
    rfl
  · rw [← numbered, List.getElem?_concat_length]

theorem Shows.addText (shows : d.Shows scene render layers) (sound : d.Sound) (cue : TextCue) :
    (d.addText cue).Shows scene render (layers ++ [.cue cue]) := by
  rw [addText_eq]
  exact Graph.Shows.push_over shows (sound.next_notMem .text) rfl ⟨rfl, rfl, d.current, rfl⟩

theorem Shows.addClips {number : Nat} {clips : List ImageClip} {later : List LabelKind}
    (shows : d.Shows scene render layers) (sound : d.Sound)
    (room : d.labels.Room (clips.flatMap (·.labelKinds scene) ++ later))
    (numbered : d.inputs.length = number + 1) :
    (clips.foldl (Draft.addClip scene render) d).Shows scene render
      (layers ++ (clips.zipIdx number).map fun shown => .clip shown.2 shown.1) := by
  induction clips generalizing d layers number with
  | nil =>
    rw [List.zipIdx_nil, List.map_nil, List.append_nil]
    exact shows
  | cons clip clips inductionHypothesis =>
    rw [List.flatMap_cons, List.append_assoc] at room
    obtain ⟨sound', room'⟩ := sound.addClip render room
    have numbered' : (d.addClip scene render clip).inputs.length = (number + 1) + 1 := by
      obtain ⟨filter, random, -, equal⟩ := addClip_eq scene render d clip
      rw [equal, List.length_append, numbered]
      rfl
    -- The next clip has the next number, and its stream the next index.
    have shows' := inductionHypothesis (shows.addClip sound numbered clip) sound' room' numbered'
    rw [List.append_assoc] at shows'
    exact shows'

theorem Shows.addTexts {cues : List TextCue} {later : List LabelKind}
    (shows : d.Shows scene render layers) (sound : d.Sound)
    (room : d.labels.Room (cues.map (fun _ => LabelKind.text) ++ later)) :
    (cues.foldl Draft.addText d).Shows scene render (layers ++ cues.map Layer.cue) := by
  induction cues generalizing d layers with
  | nil =>
    rw [List.map_nil, List.append_nil]
    exact shows
  | cons cue cues inductionHypothesis =>
    obtain ⟨sound', room'⟩ := sound.addText cue room
    have shows' := inductionHypothesis (shows.addText sound cue) sound' room'
    rw [List.append_assoc] at shows'
    exact shows'

end Draft

/-! ## Compiled scenes -/

namespace Scene

variable (random : Generator)
  (few : ∀ kind, (scene.labelKinds render).count kind < Label.ordinalLimit)

include few

theorem draft_shows :
    (scene.draft render random).Shows scene render (scene.drawnLayers render) := by
  have few' := few
  simp only [labelKinds, List.append_assoc] at few'
  have sound := Draft.background_sound scene render random
  have room := Draft.background_room scene render random few'
  obtain ⟨inputs, shows⟩ := Draft.background_shows scene render random
  have single : (Draft.background scene render random).inputs.length = 0 + 1 := by
    rw [inputs]
    rfl
  have clips := shows.addClips sound room single
  obtain ⟨sound, room⟩ := sound.addClips room
  rw [draft_eq]
  exact clips.addTexts sound room

/-- The finished video shows the layers that are drawn, or passes the background through
    if there are none. -/
theorem finishVideo_shows :
    (scene.draft render random).finishVideo.Shows scene render (scene.draft render random).inputs
      (.label .videoOut)
      (if scene.drawnLayers render = [] then [.passThrough] else scene.drawnLayers render) := by
  have shows := scene.draft_shows random few
  have unique := (scene.draft_sound few random).wired.unique
  rcases (scene.draft_plain render random).finishVideo with
    ⟨label, mem, current, renamed⟩ | ⟨none, current, passed⟩
  · rw [Draft.Shows, current] at shows
    -- A walk from a label visits at least the producer of that label.
    have drawn : scene.drawnLayers render ≠ [] := by
      intro nothing
      obtain ⟨visited, walk, shown⟩ := shows
      rw [nothing, List.forall₂_nil_right_iff] at shown
      subst shown
      generalize emptied : ([] : List Node) = visited at walk
      cases walk
      simp at emptied
    have moved := Graph.renameOutput_eq_relabel unique mem .videoOut
    rw [if_neg drawn, (Prod.mk.inj (renamed.symm.trans moved)).2]
    exact shows.rename (scene.videoOut_notMem_draft render random)
  · rw [Draft.Shows, current] at shows
    -- A walk that begins at a stream visits nothing.
    have nothing : scene.drawnLayers render = [] := by
      obtain ⟨visited, walk, shown⟩ := shows
      cases walk
      exact List.forall₂_nil_left_iff.mp shown
    rw [if_pos nothing, passed]
    rw [nothing] at shows
    exact shows.push_over (scene.videoOut_notMem_draft render random) rfl ⟨rfl, rfl, _, rfl⟩

theorem unsubtitled_shows :
    (scene.unsubtitled render random).Shows scene render (scene.compile render random).1.inputs
      (.label .videoOut)
      (if scene.drawnLayers render = [] then [.passThrough] else scene.drawnLayers render) := by
  have shows := (scene.finishVideo_shows random few).append
    (scene.heardTracks.map fun track => track.1.input track.2)
  rw [compile_fst, unsubtitled]
  split
  · exact shows
  · exact shows.push _

theorem compile_shows :
    (scene.compile render random).1.graph.Shows scene render (scene.compile render random).1.inputs
      (.label .videoOut) (scene.layers render) := by
  have shows := scene.unsubtitled_shows random few
  have wired := scene.unsubtitled_wired random few
  rw [compile_fst] at shows ⊢
  rw [layers]
  cases scene.drawnSubtitles? with
  | none =>
    rw [Option.map_none, Option.toList_none, List.append_nil]
    exact shows
  | some drawn =>
    have noSubtitles := Graph.find?_eq_none.mpr (scene.subtitles_notMem_unsubtitled render random)
    simp only [wired.injectSubtitles_eq noSubtitles]
    have moved := shows.rename (scene.interim_notMem_unsubtitled random)
    exact moved.push_over (scene.unsubtitled render random).videoOut_notMem_withInterim rfl
      ⟨rfl, rfl, _, rfl⟩

end Scene

/-! ## Too many labels -/

/-- Cues are drawn behind the filters that are there. -/
theorem Draft.head?_addTexts {d : Draft} {first : Node} (starts : d.graph.nodes.head? = some first)
    (cues : List TextCue) : (cues.foldl Draft.addText d).graph.nodes.head? = some first := by
  induction cues generalizing d with
  | nil => exact starts
  | cons cue cues inductionHypothesis =>
    apply inductionHypothesis
    rw [addText_eq, Graph.push, List.head?_append, starts, Option.some_or]

/-- The counter for texts starts over at its limit. -/
theorem Draft.next_addTexts {d : Draft} (small : d.labels.next .text < Label.ordinalLimit)
    (cues : List TextCue) :
    (cues.foldl Draft.addText d).labels.next .text =
      (d.labels.next .text + cues.length) % Label.ordinalLimit := by
  induction cues generalizing d with
  | nil => exact (Nat.mod_eq_of_lt small).symm
  | cons cue cues inductionHypothesis =>
    have next : (d.addText cue).labels.next .text =
        (d.labels.next .text + 1) % Label.ordinalLimit := by
      rw [addText_eq, LabelAllocator.take]
      simp only [if_true]
    have small' : (d.addText cue).labels.next .text < Label.ordinalLimit := by
      rw [next]
      exact Nat.mod_lt _ (by decide)
    rw [List.foldl_cons, inductionHypothesis small', next, Nat.mod_add_mod, List.length_cons]
    congr 1
    omega

/-- When the labels for texts have run out the last cue gets the label of the first one,
    whose filter then becomes the finished video: all cues behind it are lost. -/
theorem Scene.compile_crowded {scene : Scene} (render : RenderSettings) {first last : TextCue}
    {between : List TextCue} (plain : scene.backdrop? = none)
    (noImages : scene.shownImages render = []) (noTracks : scene.heardTracks = [])
    (noSubtitles : scene.drawnSubtitles? = none)
    (cues : scene.shownTexts = first :: (between ++ [last]))
    (full : (1 + between.length) % Label.ordinalLimit = 0) (random : Generator) :
    (scene.compile render random).1.graph.Walk (.label .videoOut) (.stream 0 .video)
      [⟨.drawText, [.stream 0 .video], Filter.drawText first, .videoOut⟩] := by
  let one := (Draft.background scene render random).addText first
  let many := between.foldl Draft.addText one
  have draft : scene.draft render random = many.addText last := by
    rw [draft_eq, noImages, cues, List.foldl_nil, List.foldl_cons, List.foldl_append]
    rfl
  have start : one = (Draft.background scene render random).addText first := rfl
  rw [Draft.background_of_none plain] at start
  have next : one.labels.next .text = 1 := by
    rw [start]
    rfl
  -- The counter has come around to the ordinal of the first cue.
  have again : many.labels.next .text = 0 := by
    rw [Draft.next_addTexts (next ▸ by decide), next]
    exact full
  let drawn : Node := ⟨.drawText, [.stream 0 .video], Filter.drawText first, .numbered .text 0⟩
  have starts : one.graph.nodes.head? = some drawn := by
    rw [start]
    rfl
  have starts' : (many.addText last).graph.nodes.head? = some drawn := by
    rw [← Draft.head?_addTexts starts (between ++ [last]), List.foldl_append]
    rfl
  have current : (many.addText last).current = .label (.numbered .text 0) := by
    rw [← again]
    rfl
  have graph : (scene.compile render random).1.graph = (many.addText last).finishVideo := by
    rw [compile_fst, noSubtitles, unsubtitled, noTracks, draft]
    rfl
  obtain ⟨finished, renamed, walk⟩ := Graph.Walk.rename_first starts' rfl .videoOut
  have renamed' : (many.addText last).graph.renameOutput (.numbered .text 0) .videoOut =
      (true, finished) := renamed
  rw [graph, Draft.finishVideo, current]
  simp only [renamed', if_true]
  exact walk

/-- The layers of a compiled scene, as long as there are few enough labels of each kind.
    There is one way back from the finished video; it visits the filters of the layers and
    ends at the first input, which is the background.  The background is passed through if
    nothing is drawn over it. -/
theorem Scene.compile_layers (scene : Scene) (render : RenderSettings) (random : Generator)
    (few : ∀ kind, (scene.labelKinds render).count kind < Label.ordinalLimit) :
    let program := (scene.compile render random).1
    (∃ visited,
      (∀ source nodes, program.graph.Walk (.label .videoOut) source nodes ↔
        source = .stream 0 .video ∧ nodes = visited) ∧
      List.Forall₂ (fun node layer => layer.ShownBy scene render program.graph program.inputs node)
        visited (scene.layers render)) ∧
    program.inputs[0]? = some (scene.backgroundInput render) ∧
    (.passThrough ∈ program.graph.kinds ↔
      scene.backdrop? = none ∧
      (render.maxImageInputs = 0 ∨ ∀ clip ∈ scene.images, clip.isEligible = false) ∧
      ∀ cue ∈ scene.texts, cue.isEligible = false) := by
  intro program
  refine ⟨?_, ?_, ?_⟩
  · obtain ⟨visited, walk, shown⟩ := scene.compile_shows random few
    refine ⟨visited, fun source nodes => ⟨walk.unique, ?_⟩, shown⟩
    rintro ⟨rfl, rfl⟩
    exact walk
  · rw [compile_inputs]
    rfl
  · rw [passThrough_mem_compile, shownImages, List.take_eq_nil_iff, shownTexts]
    simp [List.filter_eq_nil_iff]

/-- Both limits count.  If no image may be shown the background is passed through although
    a clip is eligible, and with one cue more than there are labels for texts a single
    layer is left. -/
theorem Scene.compile_layers_limits :
    (¬ ∀ (scene : Scene) (render : RenderSettings) (random : Generator),
      .passThrough ∈ (scene.compile render random).1.graph.kinds ↔
        scene.backdrop? = none ∧ (∀ clip ∈ scene.images, clip.isEligible = false) ∧
        ∀ cue ∈ scene.texts, cue.isEligible = false) ∧
    (¬ ∀ (scene : Scene) (render : RenderSettings) (random : Generator) (visited : List Node),
      (scene.compile render random).1.graph.Walk (.label .videoOut) (.stream 0 .video) visited →
        visited.length = (scene.layers render).length) := by
  constructor
  · intro claim
    let scene := { Sample.emptyScene 6 with images := [Sample.clip "/media/a.png" 0 3] }
    let render := { RenderSettings.standard with maxImageInputs := 0 }
    have passed : .passThrough ∈ (scene.compile render (.ofSeed 7)).1.graph.kinds :=
      (scene.passThrough_mem_compile render (.ofSeed 7)).mpr ⟨rfl, rfl, rfl⟩
    have hidden := ((claim scene render (.ofSeed 7)).mp passed).2.1 _ List.mem_cons_self
    have eligible : (Sample.clip "/media/a.png" 0 3).isEligible = true := by decide +kernel
    rw [eligible] at hidden
    cases hidden
  · intro claim
    let cue := TextCue.plain "Hello" 1 4
    let between := List.replicate (Label.ordinalLimit - 1) cue
    let cues := cue :: (between ++ [cue])
    let scene := { Sample.emptyScene 6 with texts := cues }
    have shown : scene.shownTexts = cues := by
      apply List.filter_eq_self.mpr
      intro c mem
      have same : c = cue := by
        rcases List.mem_cons.mp mem with same | mem
        · exact same
        · rcases List.mem_append.mp mem with mem | mem
          · exact List.eq_of_mem_replicate mem
          · exact List.mem_singleton.mp mem
      rw [same]
      decide +kernel
    have full : (1 + between.length) % Label.ordinalLimit = 0 := by
      rw [List.length_replicate]
      decide
    have walk := scene.compile_crowded .standard rfl rfl rfl rfl shown full (.ofSeed 7)
    have lengths := claim scene .standard (.ofSeed 7) _ walk
    have drawn : scene.drawnLayers .standard = cues.map Layer.cue := by
      rw [drawnLayers, shown]
      rfl
    have something : cues.map Layer.cue ≠ [] := List.cons_ne_nil _ _
    have several : cues.length = between.length + 1 + 1 := by
      rw [List.length_cons, List.length_append, List.length_singleton]
    rw [layers, drawn, if_neg something, List.length_append, List.length_map, several,
      List.length_singleton] at lengths
    omega

/-- The sample scene with a layer of every kind has five of them. -/
theorem Scene.compile_layers_sample :
    (∀ kind, (Sample.layeredScene.labelKinds .standard).count kind < Label.ordinalLimit) ∧
    ∃ visited, (Sample.layeredScene.compile .standard (.ofSeed 7)).1.graph.Walk (.label .videoOut)
      (.stream 0 .video) visited ∧ visited.length = 5 := by
  have few : ∀ kind, (Sample.layeredScene.labelKinds .standard).count kind < Label.ordinalLimit := by
    intro kind
    cases kind <;> decide +kernel
  obtain ⟨⟨visited, walks, shown⟩, -, -⟩ := compile_layers Sample.layeredScene .standard (.ofSeed 7) few
  have five : (Sample.layeredScene.layers .standard).length = 5 := by decide +kernel
  exact ⟨few, visited, (walks _ _).mpr ⟨rfl, rfl⟩, shown.length_eq.trans five⟩

end Compositor
