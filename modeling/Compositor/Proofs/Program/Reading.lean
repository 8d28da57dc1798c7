import Compositor.Proofs.Program.Filters
import Compositor.Proofs.Program.Quotes
import Compositor.Rehearsal.Samples

/-! # Reading compiled programs

The program of a compiled scene is read back as the filters of its graph.  Cue texts, font
files, file names and the colours of subtitles may be what they like.  The colours of cues and
the pans of zooms are written as they come, so the scene has to be calm there; a colour with a
semicolon in it puts a filter of its own into the program.
-/

namespace Compositor

/-! ## Clear graphs -/

namespace Label

theorem isWord_numbered (kind : LabelKind) (n : Nat) : (numbered kind n).IsWord where
  alphanumeric := by
    have stem : kind.stem.toList.all Char.isAlphanum = true := by cases kind <;> rfl
    rw [toList_numbered]
    refine List.forall_mem_append.mpr ⟨List.all_eq_true.mp stem, ?_⟩
    intro c mem
    have digit := Nat.isDigit_of_mem_toDigits (by decide) (by decide) mem
    simp [Char.isAlphanum, digit]
  begins := by
    rw [head_toList_numbered]
    cases kind <;> exact fun _ first => by cases first; rfl

theorem isWord_of_checks {label : Label} {first : Char} {rest : List Char}
    (name : label.name.toList = first :: rest) (letters : (first :: rest).all Char.isAlphanum = true)
    (noDigit : first.isDigit = false) : label.IsWord where
  alphanumeric := name ▸ List.all_eq_true.mp letters
  begins := by
    rw [name]
    rintro _ ⟨rfl⟩
    exact noDigit

theorem isWord_videoOut : videoOut.IsWord := isWord_of_checks rfl rfl rfl

theorem isWord_audioOut : audioOut.IsWord := isWord_of_checks rfl rfl rfl

end Label

theorem Pad.IsWord.rename {pad : Pad} {source target : Label} (word : pad.IsWord)
    (targetWord : target.IsWord) : (pad.rename source target).IsWord := by
  cases pad with
  | stream input kind => trivial
  | label l =>
    simp only [Pad.rename, IsWord]
    split
    · exact targetWord
    · exact word

namespace Graph

def IsClear (g : Graph) : Prop := ∀ node ∈ g.nodes, node.IsClear

theorem isClear_empty : empty.IsClear := fun _ mem => absurd mem List.not_mem_nil

namespace IsClear

variable {g g' : Graph}

theorem push (clear : g.IsClear) {node : Node} (clearNode : node.IsClear) :
    (g.push node).IsClear :=
  List.forall_mem_append.mpr ⟨clear, List.forall_mem_singleton.mpr clearNode⟩

theorem modify (clear : g.IsClear) (index : Nat) {f : Node → Node}
    (change : ∀ node, node.IsClear → (f node).IsClear) :
    IsClear ⟨g.nodes.modify index f⟩ := by
  intro node mem
  obtain ⟨i, found⟩ := List.mem_iff_getElem?.mp mem
  rw [List.getElem?_modify] at found
  cases old : g.nodes[i]? with
  | none =>
    rw [old] at found
    cases found
  | some before =>
    rw [old] at found
    have clearBefore := clear before (List.mem_of_getElem? old)
    by_cases same : index = i
    · simp only [same, if_true, Option.map_eq_map, Option.map_some, Option.some.injEq] at found
      exact found ▸ change before clearBefore
    · simp only [same, if_false, Option.map_eq_map, Option.map_some, Option.some.injEq] at found
      exact found ▸ clearBefore

theorem rename (clear : g.IsClear) {source target : Label} (word : target.IsWord)
    (renamed : g.renameOutput source target = (true, g')) : g'.IsClear := by
  obtain ⟨index, -, nodes⟩ := renameOutput_eq_true renamed
  have outputs := clear.modify index (f := fun n => { n with output := target })
    fun node clearNode => ⟨clearNode.inputs, clearNode.filter, clearNode.calm, word⟩
  intro node mem
  rw [nodes] at mem
  obtain ⟨before, memBefore, rfl⟩ := List.mem_map.mp mem
  have clearBefore := outputs before memBefore
  refine ⟨?_, clearBefore.filter, clearBefore.calm, clearBefore.output⟩
  intro pad input
  obtain ⟨old, oldInput, rfl⟩ := List.mem_map.mp input
  exact (clearBefore.inputs old oldInput).rename word

end IsClear

end Graph

/-- A text that begins with a filter's name is not empty. -/
theorem append_ne_empty {a b : String} (filled : a ≠ "") : a ++ b ≠ "" := by simp [filled]

theorem Filter.fillCrop_ne_empty (width height : Nat) : fillCrop width height ≠ "" := by
  unfold fillCrop
  repeat apply append_ne_empty
  decide

theorem Subtitles.filter_ne_empty (s : Subtitles) (path : String) : s.filter path ≠ "" := by
  unfold filter
  repeat apply append_ne_empty
  decide

/-- Subtitles leave a graph clear, wherever their file is. -/
theorem Graph.IsClear.injectSubtitles {g : Graph} (clear : g.IsClear) (s : Subtitles)
    (path : String) : (g.injectSubtitles s path).IsClear := by
  have drawn : ∀ pad : Pad, pad.IsWord →
      Node.IsClear ⟨.subtitles, [pad], s.filter path, Label.videoOut⟩ := fun pad word =>
    ⟨by simpa using word, s.filter_ne_empty path, s.calm_filter path, Label.isWord_videoOut⟩
  cases found : g.find? .subtitles with
  | some index =>
    -- Subtitles that are there already keep their place and get a new text.
    rw [Graph.injectSubtitles, found]
    exact clear.modify _ fun node clearNode =>
      ⟨clearNode.inputs, s.filter_ne_empty path, s.calm_filter path, clearNode.output⟩
  | none =>
    by_cases finished : .videoOut ∈ g.outputs
    · obtain ⟨g', renamed⟩ := exists_renameOutput finished g.interim
      rw [injectSubtitles_of_renamed found renamed]
      have word : g.interim.IsWord := Label.isWord_numbered _ _
      exact (clear.rename word renamed).push (drawn _ word)
    · rw [injectSubtitles_of_notMem found finished]
      exact clear.push (drawn _ trivial)

/-! ## Drafts -/

structure Draft.IsClear (d : Draft) : Prop where
  graph : d.graph.IsClear
  current : d.current.IsWord

/-- The pans that the clip gives itself are calm where they are written, between quotes. -/
def ImageClip.HasCalmPans (clip : ImageClip) : Prop :=
  ∀ k ∈ clip.kenBurns, k.enabled = true →
    (∀ pan ∈ k.panX, Calm .inside pan.toList .inside) ∧
    ∀ pan ∈ k.panY, Calm .inside pan.toList .inside

/-- Where a scene writes into the program as it comes, it is calm. -/
structure Scene.IsCalm (scene : Scene) (render : RenderSettings) : Prop where
  colors : ∀ cue ∈ scene.shownTexts, cue.HasCalmColors
  pans : ∀ clip ∈ scene.shownImages render, clip.HasCalmPans

theorem Filter.isInert_panPresets (preset : Nat) :
    IsInert (panPresets.getD preset ("0", "0")).1 ∧ IsInert (panPresets.getD preset ("0", "0")).2 := by
  have presets : ∀ p ∈ panPresets, IsInert p.1 ∧ IsInert p.2 := by decide
  rw [List.getD_eq_getElem?_getD]
  cases found : panPresets[preset]? with
  | none => exact ⟨.literal rfl, .literal rfl⟩
  | some p => exact presets p (List.mem_of_getElem? found)

/-- A wish has the pans of the clip, or none. -/
theorem ImageClip.HasCalmPans.settle {clip : ImageClip} (pans : clip.HasCalmPans)
    {defaults : Option KenBurnsDefaults} {wish : ZoomWish}
    (wished : clip.zoomWish? defaults = some wish) (preset : Nat) :
    Calm .inside (wish.settle preset).panX.toList .inside ∧
      Calm .inside (wish.settle preset).panY.toList .inside := by
  have own : (∀ pan ∈ wish.panX, Calm .inside pan.toList .inside) ∧
      ∀ pan ∈ wish.panY, Calm .inside pan.toList .inside := by
    cases given : clip.kenBurns with
    | some k =>
      simp only [zoomWish?, given] at wished
      split at wished
      · next enabled =>
        cases wished
        exact pans k given enabled
      · cases wished
    | none =>
      cases defaults with
      | none => simp [zoomWish?, given] at wished
      | some d =>
        simp only [zoomWish?, given] at wished
        split at wished
        · cases wished
          simp
        · cases wished
  obtain ⟨presetX, presetY⟩ := Filter.isInert_panPresets preset
  constructor
  · simp only [ZoomWish.settle]
    cases given : wish.panX with
    | none => exact .inside presetX
    | some pan => exact own.1 pan given
  · simp only [ZoomWish.settle]
    cases given : wish.panY with
    | none => exact .inside presetY
    | some pan => exact own.2 pan given

theorem ImageClip.HasCalmPans.scaled {clip : ImageClip} (pans : clip.HasCalmPans) {scene : Scene}
    {render : RenderSettings} {filter : String} (scaled : clip.ScaledBy scene render filter) :
    filter ≠ "" ∧ Calm .outside filter.toList .outside := by
  rw [ScaledBy] at scaled
  split at scaled
  · next wish wished =>
    obtain ⟨preset, rfl⟩ := scaled
    obtain ⟨x, y⟩ := pans.settle wished preset
    refine ⟨?_, Filter.calm_zoom x y clip _ _ _⟩
    unfold Filter.zoom
    repeat apply append_ne_empty
    decide
  · rw [scaled, stillFilter]
    split
    · exact ⟨Filter.fillCrop_ne_empty _ _, .outside (Filter.isInert_fillCrop _ _)⟩
    · refine ⟨?_, .outside (Filter.isInert_stretch _ _)⟩
      unfold Filter.stretch
      repeat apply append_ne_empty
      decide

namespace Draft

theorem background_isClear (scene : Scene) (render : RenderSettings) (random : Generator) :
    (background scene render random).IsClear := by
  cases located : scene.backdrop? with
  | some path =>
    rw [background_of_some located]
    refine ⟨Graph.isClear_empty.push ⟨?_, Filter.fillCrop_ne_empty _ _,
      .outside (Filter.isInert_fillCrop _ _), Label.isWord_numbered _ _⟩, Label.isWord_numbered _ _⟩
    exact List.forall_mem_singleton.mpr trivial
  | none =>
    rw [background_of_none located]
    exact ⟨Graph.isClear_empty, trivial⟩

namespace IsClear

variable {d : Draft} {scene : Scene} {render : RenderSettings}

theorem addClip (clear : d.IsClear) {clip : ImageClip} (pans : clip.HasCalmPans) :
    (d.addClip scene render clip).IsClear := by
  obtain ⟨filter, random, scaled, equal⟩ := addClip_eq scene render d clip
  obtain ⟨filled, calm⟩ := pans.scaled scaled
  rw [equal]
  refine ⟨(clear.graph.push ⟨?_, filled, calm, Label.isWord_numbered _ _⟩).push
    ⟨?_, ?_, Filter.calm_overlay _ _ clip, Label.isWord_numbered _ _⟩, Label.isWord_numbered _ _⟩
  · exact List.forall_mem_singleton.mpr trivial
  · exact List.forall_mem_cons.mpr
      ⟨clear.current, List.forall_mem_singleton.mpr (Label.isWord_numbered _ _)⟩
  · simp only [laidNode]
    unfold Filter.overlay
    repeat apply append_ne_empty
    decide

theorem addText (clear : d.IsClear) {cue : TextCue} (colors : cue.HasCalmColors) :
    (d.addText cue).IsClear := by
  rw [addText_eq]
  refine ⟨clear.graph.push ⟨?_, ?_, Filter.calm_drawText colors, Label.isWord_numbered _ _⟩,
    Label.isWord_numbered _ _⟩
  · exact List.forall_mem_singleton.mpr clear.current
  · exact append_ne_empty (by decide)

theorem addClips (clear : d.IsClear) {clips : List ImageClip}
    (pans : ∀ clip ∈ clips, clip.HasCalmPans) :
    (clips.foldl (Draft.addClip scene render) d).IsClear := by
  induction clips generalizing d with
  | nil => exact clear
  | cons clip clips ih =>
    exact ih (clear.addClip (pans clip (by simp))) fun other mem => pans other (by simp [mem])

theorem addTexts (clear : d.IsClear) {cues : List TextCue}
    (colors : ∀ cue ∈ cues, cue.HasCalmColors) : (cues.foldl Draft.addText d).IsClear := by
  induction cues generalizing d with
  | nil => exact clear
  | cons cue cues ih =>
    exact ih (clear.addText (colors cue (by simp))) fun other mem => colors other (by simp [mem])

theorem finishVideo (clear : d.IsClear) : d.finishVideo.IsClear := by
  have filled : "null" ≠ "" := by decide
  have calm : Calm .outside "null".toList .outside := by decide
  have passed : (d.graph.push ⟨.passThrough, [d.current], "null", Label.videoOut⟩).IsClear :=
    clear.graph.push
      ⟨List.forall_mem_singleton.mpr clear.current, filled, calm, Label.isWord_videoOut⟩
  rw [Draft.finishVideo]
  cases current : d.current with
  | stream input kind =>
    rw [current] at passed
    exact passed
  | label label =>
    rw [current] at passed
    dsimp only
    by_cases mem : label ∈ d.graph.outputs
    · obtain ⟨g, renamed⟩ := Graph.exists_renameOutput mem .videoOut
      rw [renamed]
      exact clear.graph.rename Label.isWord_videoOut renamed
    · rw [Graph.renameOutput_of_notMem mem]
      exact passed

end IsClear

end Draft

/-! ## Scenes -/

namespace Scene

variable {scene : Scene} {render : RenderSettings}

theorem IsCalm.draft (calm : scene.IsCalm render) (random : Generator) :
    (scene.draft render random).IsClear := by
  rw [draft_eq]
  exact ((Draft.background_isClear scene render random).addClips calm.pans).addTexts calm.colors

theorem isClear_mixNode (scene : Scene) (firstInput : Nat) : (scene.mixNode firstInput).IsClear where
  inputs := by
    intro pad mem
    obtain ⟨i, -, rfl⟩ := List.mem_map.mp mem
    trivial
  filter := by
    simp only [mixNode]
    unfold Filter.mix
    repeat apply append_ne_empty
    decide
  calm := by
    apply Filter.calm_mix
    intro weight mem
    obtain ⟨track, -, rfl⟩ := List.mem_map.mp mem
    exact Double.isInert_numeralText _
  output := Label.isWord_audioOut

theorem IsCalm.compile (calm : scene.IsCalm render) (random : Generator) :
    (scene.compile render random).1.graph.IsClear := by
  have unsubtitled : (scene.unsubtitled render random).IsClear := by
    rw [Scene.unsubtitled]
    split
    · exact (calm.draft random).finishVideo
    · exact (calm.draft random).finishVideo.push (scene.isClear_mixNode _)
  rw [compile_fst]
  cases scene.drawnSubtitles? with
  | none => exact unsubtitled
  | some drawn => exact unsubtitled.injectSubtitles drawn.1 drawn.2

/-- The program of a scene is read as the filters of its graph, one for one and in order, with
    the same pads, texts and labels: for all cue texts, font files, subtitle files and subtitle
    colours, and for all cue colours and pans that are calm where they are written. -/
theorem compile_readProgram (scene : Scene) (render : RenderSettings) (random : Generator)
    (calm : scene.IsCalm render) :
    readProgram (scene.compile render random).1.graph.program =
      some ((scene.compile render random).1.graph.nodes.map Node.clause) := by
  refine Graph.readProgram_program ?_ (calm.compile random)
  intro nothing
  have kinds := scene.kinds_compile render random
  rw [Graph.kinds, nothing, filterKinds] at kinds
  split at kinds
  · cases kinds
  · next drawn =>
    have layers := (List.append_eq_nil_iff.mp (List.append_eq_nil_iff.mp kinds.symm).1).1
    exact drawn layers

/-- The colour of a cue ends the filter that draws it and begins another one: a program with one
    filter is read as two. -/
theorem compile_readProgram_forged :
    let cue := { TextCue.plain "a" 0 1 with color := "white[a];[a]null" }
    let graph := (({ Sample.emptyScene 6 with texts := [cue] } : Scene).compile .standard
      (.ofSeed 7)).1.graph
    graph.nodes.map Node.clause = [⟨[.stream 0 .video], Filter.drawText cue, .videoOut⟩] ∧
      readProgram graph.program = some
        [⟨[.stream 0 .video], "drawtext=text='a':fontsize=48:fontcolor=white", ⟨"a"⟩⟩,
          ⟨[.label ⟨"a"⟩], "null:x=(w-text_w)/2:y=(h-text_h)/2:enable='between(t,0,1)'", .videoOut⟩] := by
  decide +kernel

/-- Quotes, brackets and semicolons in a text, a font and a file name. -/
theorem compile_readProgram_quoted :
    let cue := { TextCue.plain "'];[a]null[b];" 0 1 with fontFile := some "it's;[x]\\" }
    let scene := { Sample.layeredScene with texts := [cue] }
    scene.IsCalm .standard ∧
      readProgram (scene.compile .standard (.ofSeed 7)).1.graph.program =
        some ((scene.compile .standard (.ofSeed 7)).1.graph.nodes.map Node.clause) := by
  intro cue scene
  have calm : scene.IsCalm .standard := by
    constructor
    · intro shown mem
      have same : shown = cue := List.mem_singleton.mp (List.mem_of_mem_filter mem)
      rw [same]
      exact ⟨by decide, by simp [cue, TextCue.plain]⟩
    · intro clip mem k given _
      have shown : clip ∈ scene.images := List.mem_of_mem_filter (List.mem_of_mem_take mem)
      have noPans : ∀ other ∈ scene.images, ∀ zoom ∈ other.kenBurns,
          zoom.panX = none ∧ zoom.panY = none := by
        simp [scene, Sample.layeredScene, Sample.clip]
      obtain ⟨noX, noY⟩ := noPans clip shown k given
      simp [noX, noY]
  exact ⟨calm, compile_readProgram scene .standard (.ofSeed 7) calm⟩

end Scene

end Compositor
