import Compositor.Proofs.Filter.Wiring
import Compositor.Proofs.Program.Filters
import Compositor.Rehearsal.Samples

/-! # The labels of compiled scenes

Compiling a scene takes labels from an allocator, renames the last picture to the
finished video and, where subtitles are drawn, renames that once more with a label of
another allocator.  Through all of this the graph stays wired: as long as layers are
added, the only loose label is that of the picture so far, and every label is a
numbered one below its counter.

`Scene.compile_labels` draws the conclusions for the finished graph.
-/

namespace Compositor

/-! ## The supply of labels -/

/-- An allocator can hand out labels of the given kinds without an overflow. -/
def LabelAllocator.Room (a : LabelAllocator) (kinds : List LabelKind) : Prop :=
  ∀ kind, a.next kind + kinds.count kind < Label.ordinalLimit

theorem LabelAllocator.Room.one_le {a : LabelAllocator} {kind : LabelKind}
    {kinds : List LabelKind} (room : a.Room (kind :: kinds)) :
    a.next kind + 1 < Label.ordinalLimit := by
  have bound := room kind
  rw [List.count_cons_self] at bound
  omega

theorem LabelAllocator.Room.take {a : LabelAllocator} {kind : LabelKind}
    {kinds : List LabelKind} (room : a.Room (kind :: kinds)) : (a.take kind).2.Room kinds := by
  intro k
  rw [next_take room.one_le]
  have bound := room k
  by_cases same : k = kind
  · subst same
    rw [List.count_cons_self] at bound
    rw [if_pos rfl]
    omega
  · rw [List.count_cons_of_ne (Ne.symm same)] at bound
    rw [if_neg same]
    exact bound

/-- A clip needs a label for its sized picture and one for the picture under it. -/
def ImageClip.labelKinds (clip : ImageClip) (scene : Scene) : List LabelKind :=
  [clip.scalingLabel scene, .overlay]

/-- The kinds of all labels that are taken for a scene, in order. -/
def Scene.labelKinds (scene : Scene) (render : RenderSettings) : List LabelKind :=
  (scene.backdrop?.map fun _ => LabelKind.scaledImage).toList
    ++ (scene.shownImages render).flatMap (·.labelKinds scene)
    ++ scene.shownTexts.map (fun _ => LabelKind.text)
    ++ (scene.drawnSubtitles?.map fun _ => LabelKind.beforeSubtitles).toList

/-! ## Graphs with labels from an allocator -/

/-- A graph that is wired, and whose outputs have labels that an allocator has handed
    out.  Labels before subtitles come from another allocator. -/
structure Graph.Allotted (g : Graph) (a : LabelAllocator) (loose : List Label) : Prop where
  wired : g.Wired loose
  numbered : ∀ label ∈ g.outputs, ∃ kind n,
    label = .numbered kind n ∧ n < a.next kind ∧ kind ≠ .beforeSubtitles

namespace Graph.Allotted

variable {g : Graph} {a : LabelAllocator} {loose : List Label}

theorem next_notMem (allotted : g.Allotted a loose) (kind : LabelKind) :
    (a.take kind).1 ∉ g.outputs := by
  intro mem
  obtain ⟨kind', n, equal, bound, -⟩ := allotted.numbered _ mem
  obtain ⟨rfl, rfl⟩ := Label.numbered_inj.mp equal
  exact Nat.lt_irrefl _ bound

theorem push (node : Node) (kind : LabelKind) (allotted : g.Allotted a (node.reads ++ loose))
    (room : a.next kind + 1 < Label.ordinalLimit) (other : kind ≠ .beforeSubtitles)
    (output : node.output = (a.take kind).1) :
    (g.push node).Allotted (a.take kind).2 (node.output :: loose) where
  wired := allotted.wired.push node (output ▸ allotted.next_notMem kind)
  numbered := by
    intro label mem
    rw [outputs_push, List.mem_append, List.mem_singleton] at mem
    rcases mem with old | rfl
    · obtain ⟨k, n, rfl, bound, notBefore⟩ := allotted.numbered label old
      refine ⟨k, n, rfl, ?_, notBefore⟩
      rw [LabelAllocator.next_take room]
      split
      · rename_i same
        exact same ▸ Nat.lt_succ_of_lt bound
      · exact bound
    · refine ⟨kind, a.next kind, output, ?_, other⟩
      rw [LabelAllocator.next_take room, if_pos rfl]
      exact Nat.lt_succ_self _

end Graph.Allotted

def Draft.loose (d : Draft) : List Label := d.current.label?.toList

/-- The graph of a draft has labels from its allocator, and only the picture so far is
    loose. -/
def Draft.Sound (d : Draft) : Prop := d.graph.Allotted d.labels d.loose

/-! ## The layers -/

theorem Draft.background_sound (scene : Scene) (render : RenderSettings) (random : Generator) :
    (Draft.background scene render random).Sound := by
  have nothing : Graph.empty.Allotted LabelAllocator.fresh [] :=
    ⟨Graph.Wired.empty, fun _ mem => absurd mem List.not_mem_nil⟩
  cases located : scene.backdrop? with
  | some path =>
    rw [background_of_some located]
    exact Graph.Allotted.push _ .scaledImage nothing (by decide) (by decide) rfl
  | none =>
    rw [background_of_none located]
    exact nothing

theorem Draft.background_room (scene : Scene) (render : RenderSettings) (random : Generator)
    {later : List LabelKind}
    (few : ∀ kind, ((scene.backdrop?.map fun _ => LabelKind.scaledImage).toList ++ later).count kind
      < Label.ordinalLimit) :
    (Draft.background scene render random).labels.Room later := by
  have room : LabelAllocator.fresh.Room
      ((scene.backdrop?.map fun _ => LabelKind.scaledImage).toList ++ later) := by
    intro kind
    rw [LabelAllocator.fresh, Nat.zero_add]
    exact few kind
  cases located : scene.backdrop? with
  | some path =>
    rw [background_of_some located]
    rw [located] at room
    exact room.take
  | none =>
    rw [background_of_none located]
    rw [located] at room
    exact room

/-- The picture so far is read by the filter that lays the clip over it, together with
    the sized clip. -/
theorem Draft.Sound.addClip {scene : Scene} (render : RenderSettings) {clip : ImageClip}
    {d : Draft} {later : List LabelKind} (sound : d.Sound)
    (room : d.labels.Room (clip.labelKinds scene ++ later)) :
    (d.addClip scene render clip).Sound ∧ (d.addClip scene render clip).labels.Room later := by
  obtain ⟨filter, random, -, equal⟩ := Draft.addClip_eq scene render d clip
  rw [equal]
  have other : clip.scalingLabel scene ≠ .beforeSubtitles := by
    rw [ImageClip.scalingLabel]
    split <;> decide
  have sized := Graph.Allotted.push (d.sizedNode scene clip filter) (clip.scalingLabel scene)
    sound room.one_le other rfl
  have reads : (d.laidNode scene clip).reads = d.loose ++ [(d.sizedNode scene clip filter).output] := by
    rw [Draft.loose, Node.reads, Draft.laidNode]
    cases d.current <;> rfl
  -- Between the two filters both pictures are loose: the sized clip and what is under it.
  have ready : ((d.sizedNode scene clip filter).output :: d.loose).Perm
      ((d.laidNode scene clip).reads ++ []) := by
    rw [reads, List.append_nil]
    exact (List.perm_append_singleton _ _).symm
  have laid := Graph.Allotted.push (d.laidNode scene clip) .overlay
    ⟨sized.wired.perm ready, sized.numbered⟩ room.take.one_le (by decide) rfl
  exact ⟨laid, room.take.take⟩

theorem Draft.Sound.addText (cue : TextCue) {d : Draft} {later : List LabelKind} (sound : d.Sound)
    (room : d.labels.Room (.text :: later)) :
    (d.addText cue).Sound ∧ (d.addText cue).labels.Room later := by
  rw [Draft.addText_eq]
  have reads : (d.drawnNode cue).reads = d.loose := by
    rw [Draft.loose, Node.reads, Draft.drawnNode]
    cases d.current <;> rfl
  have ready : d.graph.Allotted d.labels ((d.drawnNode cue).reads ++ []) := by
    rw [reads, List.append_nil]
    exact sound
  exact ⟨ready.push _ .text room.one_le (by decide) rfl, room.take⟩

theorem Draft.Sound.addClips {scene : Scene} {render : RenderSettings} {clips : List ImageClip}
    {d : Draft} {later : List LabelKind} (sound : d.Sound)
    (room : d.labels.Room (clips.flatMap (·.labelKinds scene) ++ later)) :
    (clips.foldl (Draft.addClip scene render) d).Sound ∧
      (clips.foldl (Draft.addClip scene render) d).labels.Room later := by
  induction clips generalizing d with
  | nil => exact ⟨sound, room⟩
  | cons clip clips inductionHypothesis =>
    rw [List.flatMap_cons, List.append_assoc] at room
    obtain ⟨sound', room'⟩ := sound.addClip render room
    exact inductionHypothesis sound' room'

theorem Draft.Sound.addTexts {cues : List TextCue} {d : Draft} {later : List LabelKind}
    (sound : d.Sound) (room : d.labels.Room (cues.map (fun _ => LabelKind.text) ++ later)) :
    (cues.foldl Draft.addText d).Sound ∧ (cues.foldl Draft.addText d).labels.Room later := by
  induction cues generalizing d with
  | nil => exact ⟨sound, room⟩
  | cons cue cues inductionHypothesis =>
    obtain ⟨sound', room'⟩ := sound.addText cue room
    exact inductionHypothesis sound' room'

/-- After all layers only the last picture is loose. -/
theorem Scene.draft_sound {scene : Scene} {render : RenderSettings}
    (few : ∀ kind, (scene.labelKinds render).count kind < Label.ordinalLimit)
    (random : Generator) : (scene.draft render random).Sound := by
  simp only [Scene.labelKinds, List.append_assoc] at few
  have sound := Draft.background_sound scene render random
  have room := Draft.background_room scene render random few
  obtain ⟨sound, room⟩ := sound.addClips room
  rw [draft_eq]
  exact (sound.addTexts room).1

/-! ## The finished graph -/

namespace Scene

variable {scene : Scene} {render : RenderSettings} (random : Generator)

theorem finishVideo_wired (few : ∀ kind, (scene.labelKinds render).count kind < Label.ordinalLimit) :
    (scene.draft render random).finishVideo.Wired [.videoOut] := by
  have wired := (scene.draft_sound few random).wired
  rcases (scene.draft_plain render random).finishVideo with
    ⟨label, -, current, renamed⟩ | ⟨none, current, passed⟩
  · rw [Draft.loose, current] at wired
    obtain ⟨renamed', wired'⟩ := wired.rename (scene.videoOut_notMem_draft render random)
    rw [(Prod.mk.inj (renamed.symm.trans renamed')).2]
    exact wired'
  · rw [passed, none]
    exact Graph.Wired.empty.push _ List.not_mem_nil

def finishedLabels (scene : Scene) : List Label :=
  .videoOut :: if scene.heardTracks.isEmpty then [] else [.audioOut]

theorem unsubtitled_wired
    (few : ∀ kind, (scene.labelKinds render).count kind < Label.ordinalLimit) :
    (scene.unsubtitled render random).Wired scene.finishedLabels := by
  have wired := scene.finishVideo_wired random few
  rw [unsubtitled, finishedLabels]
  by_cases silent : scene.heardTracks.isEmpty = true
  · rw [if_pos silent, if_pos silent]
    exact wired
  · rw [if_neg silent, if_neg silent]
    have reads : (scene.mixNode (scene.draft render random).inputs.length).reads = [] := by
      rw [Node.reads, mixNode, List.filterMap_map]
      exact List.filterMap_eq_nil_iff.mpr fun _ _ => rfl
    -- The mix reads streams only, so nothing but its own label changes.
    have new : .audioOut ∉ (scene.draft render random).finishVideo.outputs := by
      intro mem
      rcases scene.mem_outputs_finishVideo render random mem with video | ⟨kind, n, equal, -⟩
      · exact Label.audioOut_ne_videoOut video
      · exact Label.numbered_ne_audioOut kind n equal.symm
    have ready : (scene.draft render random).finishVideo.Wired
        ((scene.mixNode (scene.draft render random).inputs.length).reads ++ [.videoOut]) := by
      rw [reads]
      exact wired
    have mixed := ready.push _ new
    exact mixed.perm (List.Perm.swap _ _ _)

/-- The label before the subtitles is new: all others come from the layers or are
    finished outputs. -/
theorem interim_notMem_unsubtitled :
    (scene.unsubtitled render random).interim ∉ (scene.unsubtitled render random).outputs := by
  rw [Graph.interim, LabelAllocator.take]
  generalize (LabelAllocator.resume (scene.unsubtitled render random)).next .beforeSubtitles = n
  intro mem
  have drawn : .numbered .beforeSubtitles n ∈ (scene.draft render random).finishVideo.outputs := by
    rw [unsubtitled] at mem
    split at mem
    · exact mem
    · rw [Graph.outputs_push, List.mem_append, List.mem_singleton] at mem
      exact mem.resolve_right (Label.numbered_ne_audioOut _ _)
  rcases scene.mem_outputs_finishVideo render random drawn with video | ⟨kind, m, equal, other⟩
  · exact Label.numbered_ne_videoOut _ _ video
  · exact other (Label.numbered_inj.mp equal).1.symm

theorem compile_wired (few : ∀ kind, (scene.labelKinds render).count kind < Label.ordinalLimit) :
    (scene.compile render random).1.graph.Wired scene.finishedLabels := by
  have wired := scene.unsubtitled_wired random few
  rw [compile_fst]
  cases scene.drawnSubtitles? with
  | none => exact wired
  | some drawn =>
    exact wired.injectSubtitles
      (Graph.find?_eq_none.mpr (scene.subtitles_notMem_unsubtitled render random))
      (scene.interim_notMem_unsubtitled random) drawn.1 drawn.2

/-- The labels of a compiled scene, as long as there are few enough of each kind: no two
    outputs have the same one; what is read is produced by a filter before; every output
    is read once, except for the two finished ones, which are not read; there is one
    finished video, and one finished audio if a track can be opened. -/
theorem compile_labels (scene : Scene) (render : RenderSettings) (random : Generator)
    (few : ∀ kind, (scene.labelKinds render).count kind < Label.ordinalLimit) :
    let g := (scene.compile render random).1.graph
    g.outputs.Nodup ∧
    g.ReadsEarlier ∧
    (∀ label ∈ g.outputs, label ≠ .videoOut → label ≠ .audioOut → g.reads.count label = 1) ∧
    (.videoOut ∉ g.reads ∧ .audioOut ∉ g.reads) ∧
    g.outputs.count .videoOut = 1 ∧
    g.outputs.count .audioOut ≤ 1 ∧
    (.audioOut ∈ g.outputs ↔ ∃ track ∈ scene.audio, track.source.location?.isSome = true) := by
  intro g
  have wired : g.Wired scene.finishedLabels := scene.compile_wired random few
  have video : .videoOut ∈ scene.finishedLabels := List.mem_cons_self
  have audio : .audioOut ∈ g.outputs ↔ ¬ scene.heardTracks.isEmpty = true :=
    scene.audioOut_mem_compile render random
  -- A label is read as often as it is produced, unless it is loose.
  have counts : ∀ label, g.reads.count label + scene.finishedLabels.count label =
      g.outputs.count label := by
    intro label
    rw [← List.count_append, wired.balanced.count_eq]
  have unread : ∀ label ∈ scene.finishedLabels, label ∉ g.reads := by
    intro label loose mem
    have once := (List.nodup_append.mp wired.reads_loose_nodup).2.2
    exact once label mem label loose rfl
  refine ⟨wired.unique, wired.earlier, ?_, ⟨unread _ video, ?_⟩, ?_, ?_, ?_⟩
  · intro label mem notVideo notAudio
    have balance := counts label
    have notLoose : scene.finishedLabels.count label = 0 := by
      rw [List.count_eq_zero, finishedLabels]
      split <;> simp [notVideo, notAudio]
    rw [List.count_eq_one_of_mem wired.unique mem, notLoose] at balance
    exact balance
  · intro mem
    have produced := wired.mem_outputs.mpr (.inl mem)
    refine unread .audioOut ?_ mem
    rw [finishedLabels, if_neg (audio.mp produced)]
    exact List.mem_cons_of_mem _ List.mem_cons_self
  · exact List.count_eq_one_of_mem wired.unique (wired.mem_outputs.mpr (.inr video))
  · exact List.nodup_iff_count_le_one.mp wired.unique _
  · rw [audio, heardTracks, List.isEmpty_iff, List.filterMap_eq_nil_iff]
    simp only [Option.map_eq_none_iff, not_forall, Option.isSome_iff_ne_none, exists_prop]

/-- The sample scene with a layer of every kind. -/
theorem compile_labels_sample :
    (∀ kind, (Sample.layeredScene.labelKinds .standard).count kind < Label.ordinalLimit) ∧
    let g := (Sample.layeredScene.compile .standard (.ofSeed 7)).1.graph
    (∀ label ∈ g.outputs, label ≠ .videoOut → label ≠ .audioOut → g.reads.count label = 1) ∧
    .audioOut ∈ g.outputs := by
  have few : ∀ kind, (Sample.layeredScene.labelKinds .standard).count kind < Label.ordinalLimit := by
    intro kind
    cases kind <;> decide +kernel
  have labels := compile_labels Sample.layeredScene .standard (.ofSeed 7) few
  exact ⟨few, labels.2.2.1, labels.2.2.2.2.2.2.mpr ⟨Sample.music "/media/music.mp3", by decide +kernel⟩⟩

end Scene

end Compositor
