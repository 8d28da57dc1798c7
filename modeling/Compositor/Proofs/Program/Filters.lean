import Compositor.Proofs.Filter.Labels
import Compositor.Proofs.Filter.Wiring
import Compositor.Proofs.Program.Drafts

/-! # The filters of compiled scenes

Which filters a scene is compiled to, in order, and whether the finished video and the
finished audio are among their outputs.  Nothing here depends on how many labels are
taken: renaming an output keeps the filters, and a numbered label is never one of the
two finished outputs.
-/

namespace Compositor

/-! ## Kinds of filters -/

namespace Graph

def kinds (g : Graph) : List NodeKind := g.nodes.map Node.kind

@[simp] theorem kinds_push (g : Graph) (node : Node) : (g.push node).kinds = g.kinds ++ [node.kind] := by
  simp [kinds, push]

theorem kinds_renameOutput {g g' : Graph} {source target : Label}
    (renamed : g.renameOutput source target = (true, g')) : g'.kinds = g.kinds :=
  map_nodes_renameOutput renamed Node.kind (fun _ => rfl) (fun _ => rfl)

theorem find?_eq_none {g : Graph} {kind : NodeKind} : g.find? kind = none ↔ kind ∉ g.kinds := by
  rw [find?, List.findIdx?_eq_none_iff, kinds, List.mem_map]
  constructor
  · rintro absent ⟨node, mem, rfl⟩
    have differs := absent node mem
    rw [beq_self_eq_true] at differs
    cases differs
  · intro absent node mem
    exact beq_eq_false_iff_ne.mpr fun same => absent ⟨node, mem, same⟩

theorem kinds_injectSubtitles {g : Graph} (noSubtitles : .subtitles ∉ g.kinds) (s : Subtitles)
    (path : String) : (g.injectSubtitles s path).kinds = g.kinds ++ [.subtitles] := by
  by_cases finished : .videoOut ∈ g.outputs
  · obtain ⟨g', renamed⟩ := exists_renameOutput finished g.interim
    rw [injectSubtitles_of_renamed (find?_eq_none.mpr noSubtitles) renamed, kinds_push,
      kinds_renameOutput renamed]
  · rw [injectSubtitles_of_notMem (find?_eq_none.mpr noSubtitles) finished, kinds_push]

/-- Drawing subtitles for the first time leaves all outputs but two alone. -/
theorem mem_outputs_injectSubtitles {g : Graph} (noSubtitles : .subtitles ∉ g.kinds) (s : Subtitles)
    (path : String) {label : Label} (notVideo : label ≠ .videoOut)
    (notInterim : label ≠ g.interim) :
    label ∈ (g.injectSubtitles s path).outputs ↔ label ∈ g.outputs := by
  by_cases finished : .videoOut ∈ g.outputs
  · obtain ⟨g', renamed⟩ := exists_renameOutput finished g.interim
    rw [injectSubtitles_of_renamed (find?_eq_none.mpr noSubtitles) renamed, outputs_push,
      List.mem_append, List.mem_singleton, mem_outputs_renameOutput renamed notVideo notInterim]
    exact or_iff_left notVideo
  · rw [injectSubtitles_of_notMem (find?_eq_none.mpr noSubtitles) finished, outputs_push,
      List.mem_append, List.mem_singleton]
    exact or_iff_left notVideo

end Graph

/-! ## Drafts -/

/-- The picture so far is the first input as long as there is no filter, and the output
    of a filter from then on.  All outputs have numbered labels, which are not those
    before subtitles. -/
structure Draft.Plain (d : Draft) : Prop where
  numbered : ∀ label ∈ d.graph.outputs, ∃ kind n,
    label = .numbered kind n ∧ kind ≠ .beforeSubtitles
  current : (d.graph = .empty ∧ d.current = .stream 0 .video) ∨
    ∃ label ∈ d.graph.outputs, d.current = .label label

/-- What the filters of the layers are for: one sizes the background image, two show each
    clip, and one draws each cue. -/
def Scene.drawingKinds (scene : Scene) (render : RenderSettings) : List NodeKind :=
  (scene.backdrop?.map fun _ => NodeKind.scale).toList
    ++ (scene.shownImages render).flatMap (fun clip => [clip.scalingKind scene, .overlay])
    ++ scene.shownTexts.map fun _ => .drawText

theorem ImageClip.scalingLabel_ne (clip : ImageClip) (scene : Scene) :
    clip.scalingLabel scene ≠ .beforeSubtitles := by
  rw [scalingLabel]
  split <;> decide

namespace Draft

theorem background_plain (scene : Scene) (render : RenderSettings) (random : Generator) :
    (background scene render random).Plain := by
  cases located : scene.backdrop? with
  | some path =>
    rw [background_of_some located]
    refine ⟨?_, .inr ⟨_, by simp, rfl⟩⟩
    intro label mem
    rw [Graph.outputs_push] at mem
    exact ⟨.scaledImage, _, List.mem_singleton.mp mem, by decide⟩
  | none =>
    rw [background_of_none located]
    exact ⟨fun _ mem => absurd mem List.not_mem_nil, .inl ⟨rfl, rfl⟩⟩

theorem Plain.addClip {d : Draft} (plain : d.Plain) (scene : Scene) (render : RenderSettings)
    (clip : ImageClip) : (d.addClip scene render clip).Plain := by
  obtain ⟨filter, random, -, equal⟩ := addClip_eq scene render d clip
  rw [equal]
  refine ⟨?_, .inr ⟨_, by simp, rfl⟩⟩
  intro label mem
  simp only [Graph.outputs_push, List.mem_append, List.mem_singleton] at mem
  rcases mem with (old | rfl) | rfl
  · exact plain.numbered label old
  · exact ⟨_, _, rfl, clip.scalingLabel_ne scene⟩
  · exact ⟨.overlay, _, rfl, by decide⟩

theorem Plain.addText {d : Draft} (plain : d.Plain) (cue : TextCue) : (d.addText cue).Plain := by
  rw [addText_eq]
  refine ⟨?_, .inr ⟨_, by simp, rfl⟩⟩
  intro label mem
  simp only [Graph.outputs_push, List.mem_append, List.mem_singleton] at mem
  rcases mem with old | rfl
  · exact plain.numbered label old
  · exact ⟨.text, _, rfl, by decide⟩

theorem addClips_plain {d : Draft} (plain : d.Plain) (scene : Scene) (render : RenderSettings)
    (clips : List ImageClip) :
    (clips.foldl (addClip scene render) d).Plain ∧
      (clips.foldl (addClip scene render) d).graph.kinds =
        d.graph.kinds ++ clips.flatMap fun clip => [clip.scalingKind scene, .overlay] := by
  induction clips generalizing d with
  | nil => exact ⟨plain, by simp⟩
  | cons clip clips inductionHypothesis =>
    obtain ⟨plain', kinds'⟩ := inductionHypothesis (plain.addClip scene render clip)
    obtain ⟨filter, random, -, equal⟩ := addClip_eq scene render d clip
    refine ⟨plain', ?_⟩
    rw [List.foldl_cons, kinds', equal]
    simp [sizedNode, laidNode]

theorem addTexts_plain {d : Draft} (plain : d.Plain) (cues : List TextCue) :
    (cues.foldl addText d).Plain ∧
      (cues.foldl addText d).graph.kinds = d.graph.kinds ++ cues.map fun _ => .drawText := by
  induction cues generalizing d with
  | nil => exact ⟨plain, by simp⟩
  | cons cue cues inductionHypothesis =>
    obtain ⟨plain', kinds'⟩ := inductionHypothesis (plain.addText cue)
    refine ⟨plain', ?_⟩
    rw [List.foldl_cons, kinds', addText_eq]
    simp [drawnNode]

end Draft

namespace Scene

variable (scene : Scene) (render : RenderSettings) (random : Generator)

theorem draft_plain : (scene.draft render random).Plain := by
  rw [draft_eq]
  exact (Draft.addTexts_plain (Draft.addClips_plain
    (Draft.background_plain scene render random) scene render _).1 _).1

theorem videoOut_notMem_draft : .videoOut ∉ (scene.draft render random).graph.outputs := by
  intro mem
  obtain ⟨kind, n, equal, -⟩ := (scene.draft_plain render random).numbered _ mem
  exact Label.numbered_ne_videoOut kind n equal.symm

theorem kinds_draft : (scene.draft render random).graph.kinds = scene.drawingKinds render := by
  have start : (Draft.background scene render random).graph.kinds =
      (scene.backdrop?.map fun _ => NodeKind.scale).toList := by
    cases located : scene.backdrop? with
    | some path => rw [Draft.background_of_some located]; rfl
    | none => rw [Draft.background_of_none located]; rfl
  obtain ⟨plain, kinds⟩ := Draft.addClips_plain (Draft.background_plain scene render random)
    scene render (scene.shownImages render)
  obtain ⟨-, kinds'⟩ := Draft.addTexts_plain plain scene.shownTexts
  rw [draft_eq, kinds', kinds, start]
  rfl

end Scene

/-! ## Finishing -/

/-- The last picture becomes the finished video: its label is renamed, or it is passed
    through if there is no filter at all. -/
theorem Draft.Plain.finishVideo {d : Draft} (plain : d.Plain) :
    (∃ label ∈ d.graph.outputs, d.current = .label label ∧
        d.graph.renameOutput label .videoOut = (true, d.finishVideo)) ∨
      (d.graph = .empty ∧ d.current = .stream 0 .video ∧
        d.finishVideo = d.graph.push ⟨.passThrough, [.stream 0 .video], "null", .videoOut⟩) := by
  rcases plain.current with ⟨none, current⟩ | ⟨label, mem, current⟩
  · refine .inr ⟨none, current, ?_⟩
    rw [Draft.finishVideo, current]
    rfl
  · obtain ⟨g, renamed⟩ := Graph.exists_renameOutput mem .videoOut
    refine .inl ⟨label, mem, current, ?_⟩
    rw [Draft.finishVideo, current]
    simp only [renamed, if_true]

namespace Scene

variable (scene : Scene) (render : RenderSettings) (random : Generator)

/-- What all filters of a compiled scene are for, in order. -/
def filterKinds : List NodeKind :=
  (if scene.drawingKinds render = [] then [.passThrough] else scene.drawingKinds render)
    ++ (if scene.heardTracks.isEmpty then [] else [.audioMix])
    ++ (scene.drawnSubtitles?.map fun _ => NodeKind.subtitles).toList

theorem kinds_finishVideo : (scene.draft render random).finishVideo.kinds =
    if scene.drawingKinds render = [] then [.passThrough] else scene.drawingKinds render := by
  have drawn := scene.kinds_draft render random
  rcases (scene.draft_plain render random).finishVideo with
    ⟨label, mem, -, renamed⟩ | ⟨none, -, passed⟩
  · rw [Graph.kinds_renameOutput renamed, drawn, if_neg]
    intro nothing
    rw [nothing, Graph.kinds, List.map_eq_nil_iff] at drawn
    rw [Graph.outputs, drawn] at mem
    cases mem
  · rw [none] at drawn
    rw [passed, none, ← drawn]
    rfl

theorem kinds_unsubtitled : (scene.unsubtitled render random).kinds =
    (if scene.drawingKinds render = [] then [.passThrough] else scene.drawingKinds render)
      ++ if scene.heardTracks.isEmpty then [] else [.audioMix] := by
  rw [unsubtitled]
  split
  · rw [kinds_finishVideo, List.append_nil]
  · rw [Graph.kinds_push, kinds_finishVideo]
    rfl

theorem mem_drawingKinds {kind : NodeKind} (mem : kind ∈ scene.drawingKinds render) :
    kind = .scale ∨ kind = .kenBurns ∨ kind = .overlay ∨ kind = .drawText := by
  simp only [drawingKinds, List.mem_append, Option.mem_toList, Option.map_eq_some_iff,
    List.mem_flatMap, List.mem_map, List.mem_cons, List.not_mem_nil, or_false] at mem
  rcases mem with (⟨_, _, rfl⟩ | ⟨clip, _, rfl | rfl⟩) | ⟨_, _, rfl⟩
  · exact .inl rfl
  · rw [ImageClip.scalingKind]
    split
    · exact .inr (.inl rfl)
    · exact .inl rfl
  · exact .inr (.inr (.inl rfl))
  · exact .inr (.inr (.inr rfl))

theorem drawingKinds_eq_nil : scene.drawingKinds render = [] ↔
    scene.backdrop? = none ∧ scene.shownImages render = [] ∧ scene.shownTexts = [] := by
  rw [drawingKinds, List.append_eq_nil_iff, List.append_eq_nil_iff, List.map_eq_nil_iff, and_assoc]
  have backdrop : (scene.backdrop?.map fun _ => NodeKind.scale).toList = [] ↔
      scene.backdrop? = none := by
    cases scene.backdrop? <;> simp
  have images : ((scene.shownImages render).flatMap fun clip => [clip.scalingKind scene, .overlay]) = []
      ↔ scene.shownImages render = [] := by
    cases scene.shownImages render <;> simp
  rw [backdrop, images]

theorem subtitles_notMem_unsubtitled : .subtitles ∉ (scene.unsubtitled render random).kinds := by
  rw [kinds_unsubtitled, List.mem_append]
  rintro (mem | mem)
  · split at mem
    · simp at mem
    · rcases scene.mem_drawingKinds render mem with equal | equal | equal | equal <;> cases equal
  · split at mem <;> simp at mem

/-- The filters of a compiled scene are those of its layers, or a single one that passes
    the background through, then the mix of the heard tracks, then the subtitles. -/
theorem kinds_compile : (scene.compile render random).1.graph.kinds = scene.filterKinds render := by
  rw [compile_fst, filterKinds, ← scene.kinds_unsubtitled render random]
  cases scene.drawnSubtitles? with
  | none => simp
  | some drawn =>
    exact Graph.kinds_injectSubtitles (scene.subtitles_notMem_unsubtitled render random) _ _

theorem passThrough_mem_compile :
    .passThrough ∈ (scene.compile render random).1.graph.kinds ↔
      scene.backdrop? = none ∧ scene.shownImages render = [] ∧ scene.shownTexts = [] := by
  rw [kinds_compile, filterKinds, ← drawingKinds_eq_nil]
  by_cases nothing : scene.drawingKinds render = []
  · simp [nothing]
  · simp only [nothing, if_false, iff_false, List.mem_append, not_or]
    refine ⟨⟨?_, ?_⟩, ?_⟩
    · intro mem
      rcases scene.mem_drawingKinds render mem with equal | equal | equal | equal <;> cases equal
    · split <;> simp
    · simp

theorem audioMix_mem_compile : .audioMix ∈ (scene.compile render random).1.graph.kinds ↔
    ¬ scene.heardTracks.isEmpty = true := by
  have drawn : .audioMix ∉ scene.drawingKinds render := by
    intro mem
    rcases scene.mem_drawingKinds render mem with equal | equal | equal | equal <;> cases equal
  have layers : .audioMix ∉
      if scene.drawingKinds render = [] then [.passThrough] else scene.drawingKinds render := by
    split
    · simp
    · exact drawn
  rw [kinds_compile, filterKinds, List.mem_append, List.mem_append, or_iff_right layers]
  by_cases silent : scene.heardTracks.isEmpty = true
  · simp [silent]
  · simp [silent]

/-! ## Finished outputs -/

theorem videoOut_mem_finishVideo : .videoOut ∈ (scene.draft render random).finishVideo.outputs := by
  rcases (scene.draft_plain render random).finishVideo with
    ⟨label, -, -, renamed⟩ | ⟨-, -, passed⟩
  · exact Graph.target_mem_outputs renamed
  · rw [passed, Graph.outputs_push]
    simp

theorem videoOut_mem_unsubtitled : .videoOut ∈ (scene.unsubtitled render random).outputs := by
  have mem := scene.videoOut_mem_finishVideo render random
  rw [unsubtitled]
  split
  · exact mem
  · rw [Graph.outputs_push]
    exact List.mem_append_left _ mem

/-- Apart from the finished video, all outputs have labels of the layers. -/
theorem mem_outputs_finishVideo {label : Label}
    (mem : label ∈ (scene.draft render random).finishVideo.outputs) :
    label = .videoOut ∨ ∃ kind n, label = .numbered kind n ∧ kind ≠ .beforeSubtitles := by
  have plain := scene.draft_plain render random
  by_cases video : label = .videoOut
  · exact .inl video
  · refine .inr (plain.numbered label ?_)
    rcases plain.finishVideo with ⟨source, sourceMem, -, renamed⟩ | ⟨-, -, passed⟩
    · by_cases same : label = source
      · exact same ▸ sourceMem
      · exact (Graph.mem_outputs_renameOutput renamed same video).mp mem
    · rw [passed, Graph.outputs_push, List.mem_append, List.mem_singleton] at mem
      exact mem.resolve_right video

/-- There is a finished audio exactly if there is something to hear. -/
theorem audioOut_mem_compile : .audioOut ∈ (scene.compile render random).1.graph.outputs ↔
    ¬ scene.heardTracks.isEmpty = true := by
  have silent : .audioOut ∉ (scene.draft render random).finishVideo.outputs := by
    intro mem
    rcases scene.mem_outputs_finishVideo render random mem with video | ⟨kind, n, equal, -⟩
    · exact Label.audioOut_ne_videoOut video
    · exact Label.numbered_ne_audioOut kind n equal.symm
  have mixed : .audioOut ∈ (scene.unsubtitled render random).outputs ↔
      ¬ scene.heardTracks.isEmpty = true := by
    rw [unsubtitled]
    split
    · rename_i nothing
      simp [silent, nothing]
    · rename_i something
      simp [something, mixNode]
  rw [compile_fst, ← mixed]
  cases scene.drawnSubtitles? with
  | none => rfl
  | some drawn =>
    exact Graph.mem_outputs_injectSubtitles (scene.subtitles_notMem_unsubtitled render random) _ _
      Label.audioOut_ne_videoOut (Label.numbered_ne_audioOut _ _).symm

end Scene

end Compositor
