import Compositor.Proofs.Filter.Resuming
import Compositor.Proofs.Program.Filters
import Compositor.Rehearsal.Samples

/-! # Pans that are drawn at random

Scenes are compiled one after the other with one generator.  Every zoomed clip of a scene that wants
random pans takes one draw, in the order of the clips over all scenes, and nothing else takes any.
A draw is seen in the pan of its clip alone: apart from that the program is the one that the scene
has without random pans.

A graph is taken apart into what does not depend on pans (`Graph.panless`) and the texts of its
zooms (`Graph.zoomTexts`), which together are all of it (`Graph.eq_of_panless_eq`).  What is done to
drafts and graphs respects both parts.
-/

namespace Compositor

/-! ## Draws -/

namespace Generator

variable (g : Generator) (bound : Nat) [Nonempty (Fin bound)]

/-- A draw goes on behind a word that is refused, as if that one had been used before. -/
theorem drawBelow_eq :
    drawBelow bound g =
      match tryBelow bound g with
      | .inl later => drawBelow bound later
      | .inr drawn => drawn := by
  rw [drawBelow, repeatM_eq_of_monadTail, repeatM.body]
  cases tryBelow bound g <;> rfl

/-- The generator after some draws. -/
def after : Nat → Generator
  | 0 => g
  | n + 1 => ((after n).draw bound).2

/-- The draw after so many others. -/
def nthDraw (n : Nat) : Nat := ((g.after bound n).draw bound).1

theorem after_after (m n : Nat) : (g.after bound m).after bound n = g.after bound (m + n) := by
  induction n with
  | zero => rfl
  | succ n ih => rw [after, ih, ← Nat.add_assoc, after]

theorem nthDraw_after (m n : Nat) :
    (g.after bound m).nthDraw bound n = g.nthDraw bound (m + n) := by
  rw [nthDraw, after_after, nthDraw]

theorem nthDraw_lt (n : Nat) : g.nthDraw bound n < bound :=
  (drawBelow bound (g.after bound n)).1.isLt

end Generator

/-! ## Zoomed clips and their pans -/

namespace ImageClip

variable (clip : ImageClip)

/-- The clip is zoomed: its own zoom is enabled, or it has none and the scene's is enabled. -/
def Zooms (scene : Scene) : Prop :=
  match clip.kenBurns with
  | some own => own.enabled = true
  | none => ∃ defaults ∈ scene.kenBurns, defaults.enabled = true

theorem zooms_iff {clip : ImageClip} {scene : Scene} :
    clip.Zooms scene ↔ clip.isZoomed scene = true := by
  unfold Zooms isZoomed zoomWish?
  rcases clip.kenBurns with - | own
  · rcases scene.kenBurns with - | defaults
    · simp
    · cases enabled : defaults.enabled <;> simp [enabled]
  · cases enabled : own.enabled <;> simp [enabled]

instance (scene : Scene) : Decidable (clip.Zooms scene) := decidable_of_iff _ zooms_iff.symm

/-- What the clip is panned with if a preset is taken for the axes of which it says nothing. -/
def pans (preset : Nat) : String × String :=
  let (x, y) := Filter.panPresets.getD preset ("0", "0")
  ((clip.kenBurns.bind (·.panX)).getD x, (clip.kenBurns.bind (·.panY)).getD y)

/-- The filter that zooms the clip with the given pans. -/
def zoomText (scene : Scene) (render : RenderSettings) (pans : String × String) : String :=
  match clip.zoomWish? scene.kenBurns with
  | some wish =>
    Filter.zoom ⟨wish.rate, pans.1, pans.2, wish.prescaleWidth⟩ clip (clip.sizedWidth scene)
      (clip.sizedHeight scene) render.fps
  | none => ""

theorem settle_zoomWish? {clip : ImageClip} {defaults : Option KenBurnsDefaults} {wish : ZoomWish}
    (zoomed : clip.zoomWish? defaults = some wish) (preset : Nat) :
    wish.settle preset =
      ⟨wish.rate, (clip.pans preset).1, (clip.pans preset).2, wish.prescaleWidth⟩ := by
  have own : wish.panX = clip.kenBurns.bind (·.panX) ∧ wish.panY = clip.kenBurns.bind (·.panY) := by
    unfold zoomWish? at zoomed
    rcases kenBurns : clip.kenBurns with - | own
    · rcases defaults with - | d
      · simp [kenBurns] at zoomed
      · simp only [kenBurns] at zoomed
        split at zoomed
        · cases zoomed
          exact ⟨rfl, rfl⟩
        · cases zoomed
    · simp only [kenBurns] at zoomed
      split at zoomed
      · cases zoomed
        exact ⟨rfl, rfl⟩
      · cases zoomed
  rw [ZoomWish.settle, pans, own.1, own.2]

end ImageClip

namespace Scene

variable (scene : Scene) (render : RenderSettings)

/-- The clips that are shown and zoomed. -/
def zoomedClips : List ImageClip := (scene.shownImages render).filter fun clip => clip.Zooms scene

/-- The clips whose pan is drawn: the zoomed ones, if the scene draws pans at all. -/
def drawingClips : List ImageClip :=
  if scene.randomizesPan then scene.zoomedClips render else []

/-- The scene without random pans. -/
def withFixedPans : Scene :=
  { scene with kenBurns := scene.kenBurns.map fun d => { d with randomizePan := false } }

/-- The preset that the zoomed clip with some number takes, if a generator is given to the scene. -/
def preset (random : Generator) (number : Nat) : Nat :=
  if scene.randomizesPan then random.nthDraw Filter.panPresets.length number else 0

/-- How many draws are taken for some zoomed clips. -/
def drawsFor (zoomed : Nat) : Nat := if scene.randomizesPan then zoomed else 0

theorem choosePan_eq (random : Generator) :
    scene.choosePan random =
      (scene.preset random 0, random.after Filter.panPresets.length (scene.drawsFor 1)) := by
  rw [choosePan, preset, drawsFor]
  split <;> rfl

theorem preset_after (random : Generator) (m n : Nat) :
    scene.preset (random.after Filter.panPresets.length (scene.drawsFor m)) n =
      scene.preset random (m + n) := by
  rw [preset, preset, drawsFor]
  split
  · exact random.nthDraw_after _ m n
  · rfl

theorem length_drawingClips :
    (scene.drawingClips render).length = scene.drawsFor (scene.zoomedClips render).length := by
  rw [drawingClips, drawsFor]
  split <;> rfl

theorem withFixedPans_eq_self (fixed : scene.randomizesPan = false) :
    scene.withFixedPans = scene := by
  have same : (scene.kenBurns.map fun d => { d with randomizePan := false }) = scene.kenBurns := by
    rw [randomizesPan] at fixed
    cases kenBurns : scene.kenBurns with
    | none => rfl
    | some d =>
      rw [kenBurns, Option.any_some] at fixed
      rw [Option.map_some, ← fixed]
  rw [withFixedPans, same]

theorem randomizesPan_withFixedPans : scene.withFixedPans.randomizesPan = false := by
  rw [randomizesPan, withFixedPans]
  cases scene.kenBurns <;> rfl

theorem zoomWish?_withFixedPans (clip : ImageClip) :
    clip.zoomWish? scene.withFixedPans.kenBurns = clip.zoomWish? scene.kenBurns := by
  rw [withFixedPans]
  unfold ImageClip.zoomWish?
  cases clip.kenBurns <;> cases scene.kenBurns <;> rfl

theorem isZoomed_withFixedPans (clip : ImageClip) :
    clip.isZoomed scene.withFixedPans = clip.isZoomed scene := by
  rw [ImageClip.isZoomed, zoomWish?_withFixedPans, ImageClip.isZoomed]

theorem zoomedClips_withFixedPans :
    scene.withFixedPans.zoomedClips render = scene.zoomedClips render := by
  apply List.filter_congr
  intro clip _
  rw [decide_eq_decide, ImageClip.zooms_iff, ImageClip.zooms_iff, isZoomed_withFixedPans]

end Scene

/-! ## What a graph is without its pans -/

/-- The text of a filter, if it zooms. -/
def Node.zoomText? (node : Node) : Option String :=
  if node.kind = .kenBurns then some node.filter else none

/-- The filter without its text, if it zooms. -/
def Node.panless (node : Node) : Node :=
  if node.kind = .kenBurns then { node with filter := "" } else node

namespace Node

@[simp] theorem inputs_panless (node : Node) : node.panless.inputs = node.inputs := by
  rw [panless]
  split <;> rfl

@[simp] theorem output_panless (node : Node) : node.panless.output = node.output := by
  rw [panless]
  split <;> rfl

@[simp] theorem kind_panless (node : Node) : node.panless.kind = node.kind := by
  rw [panless]
  split <;> rfl

theorem panless_of_ne {node : Node} (other : node.kind ≠ .kenBurns) : node.panless = node :=
  if_neg other

theorem zoomText?_of_ne {node : Node} (other : node.kind ≠ .kenBurns) : node.zoomText? = none :=
  if_neg other

theorem eq_of_panless_eq {node node' : Node} (same : node.panless = node'.panless)
    (text : node.zoomText? = node'.zoomText?) : node = node' := by
  have kind : node.kind = node'.kind := by
    rw [← node.kind_panless, same, node'.kind_panless]
  by_cases zoom : node.kind = .kenBurns
  · obtain ⟨_, _, _, _⟩ := node
    obtain ⟨_, _, _, _⟩ := node'
    simp_all [panless, zoomText?]
  · rwa [panless_of_ne zoom, panless_of_ne (kind ▸ zoom)] at same

theorem panless_relabelled (node : Node) (pads : List Pad) (label : Label) :
    { node with inputs := pads, output := label }.panless =
      { node.panless with inputs := pads, output := label } := by
  rw [panless, panless]
  split <;> rfl

end Node

namespace Graph

/-- The graph without the texts of its zooms. -/
def panless (g : Graph) : Graph := ⟨g.nodes.map Node.panless⟩

/-- The texts of the zooms, in order. -/
def zoomTexts (g : Graph) : List String := g.nodes.filterMap Node.zoomText?

/-- A graph is made of what it is without the texts of its zooms, and of these texts. -/
theorem eq_of_panless_eq {g g' : Graph} (panless : g.panless = g'.panless)
    (zooms : g.zoomTexts = g'.zoomTexts) : g = g' := by
  obtain ⟨nodes⟩ := g
  obtain ⟨nodes'⟩ := g'
  simp only [Graph.panless, Graph.zoomTexts, mk.injEq] at panless zooms ⊢
  induction nodes generalizing nodes' with
  | nil => exact (List.map_eq_nil_iff.mp panless.symm).symm
  | cons node nodes ih =>
    cases nodes' with
    | nil => cases panless
    | cons node' nodes' =>
      obtain ⟨same, rest⟩ := List.cons.inj panless
      have kind : node.kind = node'.kind := by
        rw [← node.kind_panless, same, node'.kind_panless]
      by_cases zoom : node.kind = .kenBurns
      · have text : node.zoomText? = some node.filter := if_pos zoom
        have text' : node'.zoomText? = some node'.filter := if_pos (kind ▸ zoom)
        rw [List.filterMap_cons_some text, List.filterMap_cons_some text'] at zooms
        obtain ⟨filter, zooms⟩ := List.cons.inj zooms
        rw [ih nodes' zooms rest, Node.eq_of_panless_eq same (by rw [text, text', filter])]
      · have text := Node.zoomText?_of_ne zoom
        have text' := Node.zoomText?_of_ne (kind ▸ zoom)
        rw [List.filterMap_cons_none text, List.filterMap_cons_none text'] at zooms
        rw [ih nodes' zooms rest, Node.eq_of_panless_eq same (text.trans text'.symm)]

variable (g : Graph)

@[simp] theorem panless_push (node : Node) : (g.push node).panless = g.panless.push node.panless := by
  simp [panless, push]

@[simp] theorem zoomTexts_push (node : Node) :
    (g.push node).zoomTexts = g.zoomTexts ++ node.zoomText?.toList := by
  cases zoom : node.zoomText? <;> simp [zoomTexts, push, zoom]

theorem outputs_panless : g.panless.outputs = g.outputs := by
  simp [outputs, panless, Function.comp_def]

theorem kinds_panless : g.panless.kinds = g.kinds := by
  simp [kinds, panless, Function.comp_def]

theorem producer?_panless (label : Label) : g.panless.producer? label = g.producer? label := by
  simp [producer?, panless, List.findIdx?_map, Function.comp_def]

theorem renameOutput_panless (source target : Label) :
    g.panless.renameOutput source target = (g.renameOutput source target).map id panless := by
  rw [renameOutput, renameOutput, producer?_panless]
  cases g.producer? source with
  | none => rfl
  | some index =>
    -- Both change the same place, and neither the output nor the inputs of a filter are in its text.
    refine Prod.ext rfl (congrArg Graph.mk (List.ext_getElem? fun i => ?_))
    simp only [panless, List.getElem?_map, List.getElem?_modify, Option.map_map]
    cases g.nodes[i]? with
    | none => rfl
    | some node =>
      by_cases changed : index = i
      · simpa [changed] using (node.panless_relabelled _ _).symm
      · simpa [changed] using (node.panless_relabelled _ node.output).symm

theorem resume_panless : LabelAllocator.resume g.panless = LabelAllocator.resume g := by
  simp only [LabelAllocator.resume, highestOrdinal?, ordinals_eq, outputs_panless]

theorem zoomTexts_renameOutput {g g' : Graph} {source target : Label}
    (renamed : g.renameOutput source target = (true, g')) : g'.zoomTexts = g.zoomTexts := by
  have texts := map_nodes_renameOutput renamed Node.zoomText? (fun _ => rfl) (fun _ => rfl)
  have collected : ∀ nodes : List Node,
      nodes.filterMap Node.zoomText? = (nodes.map Node.zoomText?).filterMap id := by
    intro nodes
    rw [List.filterMap_map]
    rfl
  rw [zoomTexts, collected, texts, ← collected]
  rfl

theorem injectSubtitles_panless {g : Graph} (noSubtitles : .subtitles ∉ g.kinds) (s : Subtitles)
    (path : String) : g.panless.injectSubtitles s path = (g.injectSubtitles s path).panless := by
  have noSubtitles' : .subtitles ∉ g.panless.kinds := by rwa [kinds_panless]
  rw [injectSubtitles, injectSubtitles, find?_eq_none.mpr noSubtitles,
    find?_eq_none.mpr noSubtitles', resume_panless]
  dsimp only
  rw [renameOutput_panless]
  exact (panless_push _ ⟨.subtitles, _, _, _⟩).symm

theorem zoomTexts_injectSubtitles {g : Graph} (noSubtitles : .subtitles ∉ g.kinds) (s : Subtitles)
    (path : String) : (g.injectSubtitles s path).zoomTexts = g.zoomTexts := by
  by_cases finished : .videoOut ∈ g.outputs
  · obtain ⟨g', renamed⟩ := exists_renameOutput finished g.interim
    rw [injectSubtitles_of_renamed (find?_eq_none.mpr noSubtitles) renamed, zoomTexts_push,
      zoomTexts_renameOutput renamed]
    exact List.append_nil _
  · rw [injectSubtitles_of_notMem (find?_eq_none.mpr noSubtitles) finished, zoomTexts_push]
    exact List.append_nil _

end Graph

/-! ## Two drafts side by side -/

namespace Draft

/-- Two drafts are the same without the texts of their zooms. -/
structure Matches (d d' : Draft) : Prop where
  graph : d.graph.panless = d'.graph.panless
  inputs : d.inputs = d'.inputs
  labels : d.labels = d'.labels
  current : d.current = d'.current

variable {d d' : Draft} (scene : Scene) (render : RenderSettings)

theorem background_matches (random other : Generator) :
    (background scene render random).Matches (background scene.withFixedPans render other) := by
  cases located : scene.backdrop? with
  | some path =>
    have located' : scene.withFixedPans.backdrop? = some path := located
    rw [background_of_some located, background_of_some located']
    exact ⟨rfl, rfl, rfl, rfl⟩
  | none =>
    have unlocated : scene.withFixedPans.backdrop? = none := located
    rw [background_of_none located, background_of_none unlocated]
    exact ⟨rfl, rfl, rfl, rfl⟩

/-- Only the text of a zoom tells whether pans are drawn. -/
theorem Matches.sizedNode (same : d.Matches d') {clip : ImageClip} {filter filter' : String}
    (scaled : clip.ScaledBy scene render filter)
    (scaled' : clip.ScaledBy scene.withFixedPans render filter') :
    (d.sizedNode scene clip filter).panless =
      (d'.sizedNode scene.withFixedPans clip filter').panless := by
  cases zoomed : clip.isZoomed scene with
  | true =>
    simp [Draft.sizedNode, Node.panless, ImageClip.scalingKind, ImageClip.scalingLabel, zoomed,
      scene.isZoomed_withFixedPans, same.inputs, same.labels]
  | false =>
    have noWish : clip.zoomWish? scene.kenBurns = none := by
      rwa [ImageClip.isZoomed, Option.isSome_eq_false_iff, Option.isNone_iff_eq_none] at zoomed
    rw [ImageClip.ScaledBy, noWish] at scaled
    rw [ImageClip.ScaledBy, scene.zoomWish?_withFixedPans, noWish] at scaled'
    subst scaled scaled'
    simp [Draft.sizedNode, Node.panless, ImageClip.scalingKind, ImageClip.scalingLabel, zoomed,
      scene.isZoomed_withFixedPans, same.inputs, same.labels]
    rfl

theorem Matches.laidNode (same : d.Matches d') (clip : ImageClip) :
    d.laidNode scene clip = d'.laidNode scene.withFixedPans clip := by
  simp only [Draft.laidNode, ImageClip.scalingLabel, scene.isZoomed_withFixedPans, same.current,
    same.labels]

theorem Matches.addClip (same : d.Matches d') (clip : ImageClip) :
    (d.addClip scene render clip).Matches (d'.addClip scene.withFixedPans render clip) := by
  obtain ⟨filter, random, scaled, equal⟩ := addClip_eq scene render d clip
  obtain ⟨filter', random', scaled', equal'⟩ := addClip_eq scene.withFixedPans render d' clip
  have label : clip.scalingLabel scene.withFixedPans = clip.scalingLabel scene := by
    rw [ImageClip.scalingLabel, scene.isZoomed_withFixedPans, ImageClip.scalingLabel]
  have input : clip.input scene.withFixedPans = clip.input scene := by
    rw [ImageClip.input, scene.isZoomed_withFixedPans, ImageClip.input]
  rw [equal, equal']
  constructor
  · rw [Graph.panless_push, Graph.panless_push, Graph.panless_push, Graph.panless_push, same.graph,
      same.sizedNode scene render scaled scaled', same.laidNode]
  · rw [same.inputs, input]
  · rw [same.labels, label]
  · rw [same.laidNode]

theorem Matches.addText (same : d.Matches d') (cue : TextCue) :
    (d.addText cue).Matches (d'.addText cue) := by
  have drawn : d.drawnNode cue = d'.drawnNode cue := by
    rw [drawnNode, same.current, same.labels, drawnNode]
  rw [addText_eq, addText_eq, drawn]
  constructor
  · rw [Graph.panless_push, Graph.panless_push, same.graph]
  · exact same.inputs
  · rw [same.labels]
  · rfl

theorem Matches.finishVideo (same : d.Matches d') :
    d.finishVideo.panless = d'.finishVideo.panless := by
  have passed : ∀ node, (d.graph.push node).panless = (d'.graph.push node).panless := by
    intro node
    rw [Graph.panless_push, Graph.panless_push, same.graph]
  rw [Draft.finishVideo, Draft.finishVideo, same.current]
  cases d'.current with
  | stream input kind => exact passed _
  | label label =>
    dsimp only
    have renamed := d.graph.renameOutput_panless label .videoOut
    rw [same.graph, d'.graph.renameOutput_panless] at renamed
    generalize d.graph.renameOutput label .videoOut = answer at renamed ⊢
    generalize d'.graph.renameOutput label .videoOut = answer' at renamed ⊢
    obtain ⟨found, g⟩ := answer
    obtain ⟨found', g'⟩ := answer'
    obtain ⟨both, graphs⟩ := Prod.mk.inj renamed
    cases (both : found' = found)
    cases found with
    | true => exact graphs.symm
    | false =>
      simp only [Bool.false_eq_true, if_false]
      rw [Graph.panless_push, Graph.panless_push, graphs]

end Draft

namespace Scene

variable (scene : Scene) (render : RenderSettings) (random other : Generator)

theorem draft_matches :
    (scene.draft render random).Matches (scene.withFixedPans.draft render other) := by
  have clips : ∀ (clips : List ImageClip) {d d' : Draft}, d.Matches d' →
      (clips.foldl (Draft.addClip scene render) d).Matches
        (clips.foldl (Draft.addClip scene.withFixedPans render) d') := by
    intro clips
    induction clips with
    | nil => exact fun same => same
    | cons clip clips ih => exact fun same => ih (same.addClip scene render clip)
  have cues : ∀ (cues : List TextCue) {d d' : Draft}, d.Matches d' →
      (cues.foldl Draft.addText d).Matches (cues.foldl Draft.addText d') := by
    intro cues
    induction cues with
    | nil => exact fun same => same
    | cons cue cues ih => exact fun same => ih (same.addText cue)
  rw [draft_eq, draft_eq]
  exact cues _ (clips _ (Draft.background_matches scene render random other))

/-- Nothing but the texts of zooms depends on whether pans are drawn. -/
theorem compile_matches :
    (scene.compile render random).1.graph.panless =
        (scene.withFixedPans.compile render other).1.graph.panless ∧
      (scene.compile render random).1.inputs =
        (scene.withFixedPans.compile render other).1.inputs ∧
      (scene.compile render random).1.duration =
        (scene.withFixedPans.compile render other).1.duration := by
  have same := scene.draft_matches render random other
  have unsubtitled : (scene.unsubtitled render random).panless =
      (scene.withFixedPans.unsubtitled render other).panless := by
    rw [Scene.unsubtitled, Scene.unsubtitled]
    rw [same.inputs, show scene.withFixedPans.heardTracks = scene.heardTracks from rfl]
    split
    · exact same.finishVideo
    · rw [Graph.panless_push, Graph.panless_push, same.finishVideo]
      rfl
  rw [compile_fst, compile_fst]
  refine ⟨?_, ?_, rfl⟩
  · rw [show scene.withFixedPans.drawnSubtitles? = scene.drawnSubtitles? from rfl]
    cases scene.drawnSubtitles? with
    | none => exact unsubtitled
    | some drawn =>
      dsimp only
      rw [← Graph.injectSubtitles_panless (scene.subtitles_notMem_unsubtitled render random),
        ← Graph.injectSubtitles_panless
          (scene.withFixedPans.subtitles_notMem_unsubtitled render other), unsubtitled]
  · rw [same.inputs]
    rfl

end Scene

/-! ## The texts of zooms -/

namespace Draft

variable (scene : Scene) (render : RenderSettings) (d : Draft) {clip : ImageClip}

theorem addClip_of_zooms (zooms : clip.Zooms scene) :
    (d.addClip scene render clip).graph.zoomTexts =
        d.graph.zoomTexts ++ [clip.zoomText scene render (clip.pans (scene.preset d.random 0))] ∧
      (d.addClip scene render clip).random =
        d.random.after Filter.panPresets.length (scene.drawsFor 1) := by
  obtain ⟨wish, zoomed⟩ := Option.isSome_iff_exists.mp (ImageClip.zooms_iff.mp zooms)
  have text : clip.zoomText scene render (clip.pans (scene.preset d.random 0)) =
      Filter.zoom (wish.settle (scene.preset d.random 0)) clip (clip.sizedWidth scene)
        (clip.sizedHeight scene) render.fps := by
    rw [ImageClip.zoomText, zoomed, ImageClip.settle_zoomWish? zoomed]
  rw [addClip, scaleClip, zoomed, scene.choosePan_eq, text]
  refine ⟨?_, rfl⟩
  simp [addNode, addInput, Node.zoomText?, ImageClip.sizedWidth, ImageClip.sizedHeight]

theorem addClip_of_still (still : ¬ clip.Zooms scene) :
    (d.addClip scene render clip).graph.zoomTexts = d.graph.zoomTexts ∧
      (d.addClip scene render clip).random = d.random := by
  have noWish : clip.zoomWish? scene.kenBurns = none := by
    rwa [ImageClip.zooms_iff, ImageClip.isZoomed, Option.not_isSome_iff_eq_none] at still
  rw [addClip, scaleClip, noWish]
  exact ⟨by simp [addNode, addInput, Node.zoomText?], rfl⟩

/-- Clips are zoomed with one preset after the other. -/
theorem addClips_zooms (clips : List ImageClip) :
    (clips.foldl (addClip scene render) d).graph.zoomTexts =
        d.graph.zoomTexts ++ (clips.filter fun clip => clip.Zooms scene).mapIdx (fun number clip =>
          clip.zoomText scene render (clip.pans (scene.preset d.random number))) ∧
      (clips.foldl (addClip scene render) d).random =
        d.random.after Filter.panPresets.length
          (scene.drawsFor (clips.filter fun clip => clip.Zooms scene).length) := by
  induction clips generalizing d with
  | nil =>
    refine ⟨by simp, ?_⟩
    rw [Scene.drawsFor]
    split <;> rfl
  | cons clip clips ih =>
    obtain ⟨texts, random⟩ := ih (d.addClip scene render clip)
    rw [List.foldl_cons, texts, random]
    by_cases zooms : clip.Zooms scene
    · -- The clip takes the first preset, and those behind it count on from the second one.
      obtain ⟨text, drawn⟩ := addClip_of_zooms scene render d zooms
      rw [List.filter_cons_of_pos (by simpa using zooms), text, drawn]
      constructor
      · simp [List.mapIdx_cons, scene.preset_after, Nat.add_comm 1]
      · rw [Generator.after_after, List.length_cons, Scene.drawsFor, Scene.drawsFor, Scene.drawsFor]
        split
        · rw [Nat.add_comm]
        · rfl
    · obtain ⟨text, drawn⟩ := addClip_of_still scene render d zooms
      rw [List.filter_cons_of_neg (by simpa using zooms), text, drawn]
      exact ⟨rfl, rfl⟩

theorem addTexts_zooms (cues : List TextCue) :
    (cues.foldl addText d).graph.zoomTexts = d.graph.zoomTexts ∧
      (cues.foldl addText d).random = d.random := by
  induction cues generalizing d with
  | nil => exact ⟨rfl, rfl⟩
  | cons cue cues ih =>
    obtain ⟨texts, random⟩ := ih (d.addText cue)
    rw [List.foldl_cons, texts, random, addText_eq]
    exact ⟨by simp [drawnNode, Node.zoomText?], rfl⟩

theorem Plain.zoomTexts_finishVideo {d : Draft} (plain : d.Plain) :
    d.finishVideo.zoomTexts = d.graph.zoomTexts := by
  rcases plain.finishVideo with ⟨label, -, -, renamed⟩ | ⟨-, -, passed⟩
  · exact Graph.zoomTexts_renameOutput renamed
  · rw [passed, Graph.zoomTexts_push]
    exact List.append_nil _

end Draft

namespace Scene

variable (scene : Scene) (render : RenderSettings) (random : Generator)

/-- The zooms of a scene have the presets in order, and the generator has taken as many draws. -/
theorem compile_zooms :
    (scene.compile render random).1.graph.zoomTexts =
        (scene.zoomedClips render).mapIdx (fun number clip =>
          clip.zoomText scene render (clip.pans (scene.preset random number))) ∧
      (scene.compile render random).2 =
        random.after Filter.panPresets.length (scene.drawingClips render).length := by
  have start : (Draft.background scene render random).graph.zoomTexts = [] ∧
      (Draft.background scene render random).random = random := by
    cases located : scene.backdrop? with
    | some path => rw [Draft.background_of_some located]; exact ⟨rfl, rfl⟩
    | none => rw [Draft.background_of_none located]; exact ⟨rfl, rfl⟩
  obtain ⟨texts, drawn⟩ := Draft.addClips_zooms scene render (Draft.background scene render random)
    (scene.shownImages render)
  obtain ⟨texts', drawn'⟩ := Draft.addTexts_zooms
    ((scene.shownImages render).foldl (Draft.addClip scene render)
      (Draft.background scene render random)) scene.shownTexts
  rw [start.2] at texts drawn
  constructor
  · -- What is done behind the layers adds no zoom and leaves the texts of filters alone.
    have unsubtitled : (scene.unsubtitled render random).zoomTexts =
        (scene.draft render random).graph.zoomTexts := by
      rw [Scene.unsubtitled]
      split
      · exact (scene.draft_plain render random).zoomTexts_finishVideo
      · rw [Graph.zoomTexts_push, (scene.draft_plain render random).zoomTexts_finishVideo]
        exact List.append_nil _
    have all : (scene.compile render random).1.graph.zoomTexts =
        (scene.unsubtitled render random).zoomTexts := by
      rw [compile_fst]
      cases scene.drawnSubtitles? with
      | none => rfl
      | some drawn =>
        exact Graph.zoomTexts_injectSubtitles (scene.subtitles_notMem_unsubtitled render random) _ _
    rw [all, unsubtitled, draft_eq, texts', texts, start.1]
    rfl
  · rw [length_drawingClips, zoomedClips, ← drawn, ← drawn', compile_snd, draft_eq]

/-- Without random pans every zoom has the first preset. -/
theorem compile_withFixedPans_zooms :
    (scene.withFixedPans.compile render random).1.graph.zoomTexts =
      (scene.zoomedClips render).map fun clip => clip.zoomText scene render (clip.pans 0) := by
  have text : ∀ clip : ImageClip, ∀ pans,
      clip.zoomText scene.withFixedPans render pans = clip.zoomText scene render pans := by
    intro clip pans
    rw [ImageClip.zoomText, zoomWish?_withFixedPans]
    rfl
  have first : ∀ number, scene.withFixedPans.preset random number = 0 := by
    intro number
    rw [preset, randomizesPan_withFixedPans]
    rfl
  rw [(scene.withFixedPans.compile_zooms render random).1, zoomedClips_withFixedPans]
  apply List.ext_getElem?
  intro number
  simp [text, first]

end Scene

/-! ## Scenes one after the other -/

namespace Scene

variable (render : RenderSettings)

/-- The generator after some scenes. -/
def generatorAfter (random : Generator) (scenes : List Scene) : Generator :=
  scenes.foldl (fun random scene => (scene.compile render random).2) random

theorem compileAll_append (random : Generator) (scenes scenes' : List Scene) :
    compileAll render random (scenes ++ scenes') =
      compileAll render random scenes ++
        compileAll render (generatorAfter render random scenes) scenes' := by
  induction scenes generalizing random with
  | nil => rfl
  | cons scene scenes ih => exact congrArg ((scene.compile render random).1 :: ·) (ih _)

theorem length_compileAll (random : Generator) (scenes : List Scene) :
    (compileAll render random scenes).length = scenes.length := by
  induction scenes generalizing random with
  | nil => rfl
  | cons scene scenes ih => exact congrArg (· + 1) (ih _)

theorem generatorAfter_eq (random : Generator) (scenes : List Scene) :
    generatorAfter render random scenes =
      random.after Filter.panPresets.length (scenes.flatMap (·.drawingClips render)).length := by
  induction scenes generalizing random with
  | nil => rfl
  | cons scene scenes ih =>
    rw [generatorAfter, List.foldl_cons, ← generatorAfter, ih,
      (scene.compile_zooms render random).2, Generator.after_after, List.flatMap_cons,
      List.length_append]

end Scene

/-- Two programs for a scene are the same but for the pans of its zooms.  These take one preset
    after the other in the one program, and all the first preset in the other. -/
structure Program.PannedBy (scene : Scene) (render : RenderSettings) (presets : Nat → Nat)
    (program fixed : Program) : Prop where
  inputs : program.inputs = fixed.inputs
  duration : program.duration = fixed.duration
  graph : program.graph.panless = fixed.graph.panless
  zooms : program.graph.zoomTexts = (scene.zoomedClips render).mapIdx fun number clip =>
    clip.zoomText scene render (clip.pans (presets number))
  fixedZooms : fixed.graph.zoomTexts = (scene.zoomedClips render).map fun clip =>
    clip.zoomText scene render (clip.pans 0)

/-- Programs without other presets than the first one are the same. -/
theorem Program.PannedBy.eq {scene : Scene} {render : RenderSettings} {program fixed : Program}
    (same : PannedBy scene render (fun _ => 0) program fixed) : program = fixed := by
  have zooms : program.graph.zoomTexts = fixed.graph.zoomTexts := by
    rw [same.zooms, same.fixedZooms]
    apply List.ext_getElem?
    intro number
    simp
  have graph := Graph.eq_of_panless_eq same.graph zooms
  obtain ⟨_, _, _⟩ := program
  obtain ⟨_, _, _⟩ := fixed
  cases same.inputs
  cases same.duration
  cases graph
  rfl

namespace Scene

theorem compile_pannedBy (scene : Scene) (render : RenderSettings) (random other : Generator) :
    Program.PannedBy scene render (scene.preset random) (scene.compile render random).1
      (scene.withFixedPans.compile render other).1 := by
  obtain ⟨graph, inputs, duration⟩ := scene.compile_matches render random other
  exact ⟨inputs, duration, graph, (scene.compile_zooms render random).1,
    scene.compile_withFixedPans_zooms render other⟩

/-- Scenes are compiled one after the other with the generator of a seed, which gives one draw for
    each clip whose pan is drawn.  The program of a scene differs from the one without random pans in
    the pans of these clips, each of which takes its draw, counted over all scenes up to it. -/
theorem compileAll_pans (render : RenderSettings) (seed : UInt64) (scenes : List Scene) :
    (compileAll render (.ofSeed seed) scenes).length = scenes.length ∧
      generatorAfter render (.ofSeed seed) scenes =
        (Generator.ofSeed seed).after Filter.panPresets.length
          (scenes.flatMap (·.drawingClips render)).length ∧
      (∀ number, (Generator.ofSeed seed).nthDraw Filter.panPresets.length number < 5) ∧
      ∀ before scene later, scenes = before ++ scene :: later →
        ∃ program, (compileAll render (.ofSeed seed) scenes)[before.length]? = some program ∧
          program = (scene.compile render (generatorAfter render (.ofSeed seed) before)).1 ∧
          ∀ other,
            (scene.randomizesPan = true →
              program.PannedBy scene render
                (fun number => (Generator.ofSeed seed).nthDraw Filter.panPresets.length
                  ((before.flatMap (·.drawingClips render)).length + number))
                (scene.withFixedPans.compile render other).1) ∧
            (scene.randomizesPan = false →
              program = (scene.withFixedPans.compile render other).1) := by
  refine ⟨length_compileAll render _ scenes, generatorAfter_eq render _ scenes,
    Generator.nthDraw_lt _ _, ?_⟩
  rintro before scene later rfl
  have there : (compileAll render (.ofSeed seed) (before ++ scene :: later))[before.length]? =
      some (scene.compile render (generatorAfter render (.ofSeed seed) before)).1 := by
    rw [compileAll_append, List.getElem?_append_right (Nat.le_of_eq (length_compileAll ..)),
      length_compileAll, Nat.sub_self]
    rfl
  refine ⟨_, there, rfl, fun other => ?_⟩
  have panned := scene.compile_pannedBy render (generatorAfter render (.ofSeed seed) before) other
  rw [generatorAfter_eq] at panned ⊢
  constructor
  · intro randomizes
    have presets : scene.preset ((Generator.ofSeed seed).after Filter.panPresets.length
        (before.flatMap (·.drawingClips render)).length) =
        fun number => (Generator.ofSeed seed).nthDraw Filter.panPresets.length
          ((before.flatMap (·.drawingClips render)).length + number) := by
      funext number
      rw [preset, if_pos randomizes, Generator.nthDraw_after]
    rwa [presets] at panned
  · intro fixed
    have presets : ∀ random, scene.preset random = fun _ => 0 := by
      intro random
      funext number
      rw [preset, if_neg (Bool.eq_false_iff.mp fixed)]
    rw [presets] at panned
    exact panned.eq

/-- Two zoomed clips, the first of which says how it is panned along one axis. -/
def panned : Scene :=
  { Sample.layeredScene with
    images :=
      [{ Sample.clip "/media/a.png" 0 3 with
          kenBurns := some ⟨KenBurns.defaultZoomRate, some "iw/4", none, none, true⟩ },
       Sample.clip "/media/b.png" 1 2]
    kenBurns := some ⟨true, KenBurns.defaultZoomRate, KenBurns.defaultPrescaleWidth, true⟩ }

theorem compileAll_pans_thrice :
    panned.zoomedClips .standard = panned.images ∧
      Sample.layeredScene.drawingClips .standard = [] ∧
      ∀ seed, ∃ program,
        (compileAll .standard (.ofSeed seed) [panned, Sample.layeredScene, panned])[2]? =
            some program ∧
          program.graph.zoomTexts = panned.images.mapIdx fun number clip =>
            clip.zoomText panned .standard
              (clip.pans ((Generator.ofSeed seed).nthDraw Filter.panPresets.length (2 + number))) := by
  have zoomed : panned.zoomedClips .standard = panned.images := by decide +kernel
  have drawing : panned.drawingClips .standard = panned.images := zoomed
  have still : Sample.layeredScene.drawingClips .standard = [] := rfl
  refine ⟨zoomed, still, fun seed => ?_⟩
  obtain ⟨-, -, -, each⟩ :=
    compileAll_pans .standard seed [panned, Sample.layeredScene, panned]
  obtain ⟨program, there, -, same⟩ := each [panned, Sample.layeredScene] panned [] rfl
  refine ⟨program, there, ?_⟩
  have zooms := ((same (.ofSeed seed)).1 rfl).zooms
  have before : ([panned, Sample.layeredScene].flatMap (·.drawingClips .standard)).length = 2 := by
    rw [List.flatMap_cons, List.flatMap_cons, drawing, still]
    rfl
  rw [zoomed, before] at zooms
  exact zooms

end Scene

end Compositor
