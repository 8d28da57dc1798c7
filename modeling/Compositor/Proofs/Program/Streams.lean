import Compositor.Proofs.Program.Filters
import Mathlib.Data.List.Perm.Basic

/-! # The streams of compiled scenes

Filters read streams of the inputs by their index.  While layers are added, the streams
that are read, together with the picture so far as long as that is a stream, are those of
all inputs, one of each: an input gets the next index, and the filter that reads it is
added with it.  Nothing here depends on labels.
-/

namespace Compositor

/-- The stream that the pad reads, if it reads one. -/
def Pad.stream? : Pad → Option (Nat × StreamKind)
  | stream input kind => some (input, kind)
  | label _ => none

def Node.streams (node : Node) : List (Nat × StreamKind) := node.inputs.filterMap Pad.stream?

/-- The kind of stream that an input is there for. -/
def Input.streamKind : Input → StreamKind
  | audio _ _ => .audio
  | generated _ | loopedImage _ _ | stillImage _ => .video

/-- The streams of some inputs whose indices start at a given one. -/
def Input.streamsFrom (first : Nat) (inputs : List Input) : List (Nat × StreamKind) :=
  (inputs.zipIdx first).map fun numbered => (numbered.2, numbered.1.streamKind)

namespace Graph

/-- The streams that are read, each as often as it is read. -/
def streams (g : Graph) : List (Nat × StreamKind) := g.nodes.flatMap Node.streams

@[simp] theorem streams_push (g : Graph) (node : Node) :
    (g.push node).streams = g.streams ++ node.streams := by
  simp [streams, push]

theorem streams_renameOutput {g g' : Graph} {source target : Label}
    (renamed : g.renameOutput source target = (true, g')) : g'.streams = g.streams := by
  have kept : g'.nodes.map Node.streams = g.nodes.map Node.streams := by
    apply map_nodes_renameOutput renamed Node.streams (fun _ => rfl)
    intro node
    simp only [Node.streams, List.filterMap_map]
    congr 1
    funext pad
    cases pad <;> rfl
  rw [streams, streams, List.flatMap_def, List.flatMap_def, kept]

/-- Drawing subtitles over a finished video reads no stream. -/
theorem streams_injectSubtitles {g : Graph} (noSubtitles : .subtitles ∉ g.kinds)
    (finished : .videoOut ∈ g.outputs) (s : Subtitles) (path : String) :
    (g.injectSubtitles s path).streams = g.streams := by
  obtain ⟨g', renamed⟩ := exists_renameOutput finished g.interim
  rw [injectSubtitles_of_renamed (find?_eq_none.mpr noSubtitles) renamed, streams_push,
    streams_renameOutput renamed]
  exact List.append_nil _

end Graph

/-! ## Streams of inputs -/

namespace Input

theorem streamsFrom_append (first : Nat) (inputs more : List Input) :
    streamsFrom first (inputs ++ more) =
      streamsFrom first inputs ++ streamsFrom (first + inputs.length) more := by
  rw [streamsFrom, List.zipIdx_append, List.map_append]
  rfl

theorem streamsFrom_of_kind {inputs : List Input} {kind : StreamKind}
    (same : ∀ input ∈ inputs, input.streamKind = kind) (first : Nat) :
    streamsFrom first inputs = (List.range' first inputs.length).map fun k => (k, kind) := by
  induction inputs generalizing first with
  | nil => rfl
  | cons input inputs inductionHypothesis =>
    have head := same input List.mem_cons_self
    have tail := inductionHypothesis (fun i mem => same i (List.mem_cons_of_mem _ mem)) (first + 1)
    rw [streamsFrom, List.zipIdx_cons, List.map_cons, List.length_cons, List.range'_succ,
      List.map_cons, head, ← tail]
    rfl

theorem le_of_mem_streamsFrom {inputs : List Input} {first : Nat} {stream : Nat × StreamKind}
    (mem : stream ∈ streamsFrom first inputs) :
    first ≤ stream.1 ∧ stream.1 < first + inputs.length := by
  obtain ⟨numbered, numberedMem, rfl⟩ := List.mem_map.mp mem
  exact ⟨List.le_snd_of_mem_zipIdx numberedMem, List.snd_lt_add_of_mem_zipIdx numberedMem⟩

/-- Each index is there once, with the kind of its input. -/
theorem filter_streamsFrom {inputs : List Input} {k : Nat} {input : Input}
    (declared : inputs[k]? = some input) (first : Nat) :
    (streamsFrom first inputs).filter (fun stream => stream.1 == first + k) =
      [(first + k, input.streamKind)] := by
  induction inputs generalizing first k with
  | nil => cases declared
  | cons head inputs inductionHypothesis =>
    have split : streamsFrom first (head :: inputs) =
        (first, head.streamKind) :: streamsFrom (first + 1) inputs := rfl
    rw [split]
    cases k with
    | zero =>
      obtain rfl := Option.some.inj declared
      -- All later streams have greater indices.
      have later : (streamsFrom (first + 1) inputs).filter (fun stream => stream.1 == first) = [] := by
        rw [List.filter_eq_nil_iff]
        intro stream mem same
        have behind := (le_of_mem_streamsFrom mem).1
        rw [beq_iff_eq.mp same] at behind
        exact Nat.not_succ_le_self first behind
      rw [Nat.add_zero, List.filter_cons, if_pos (beq_self_eq_true first), later]
    | succ k =>
      have other : ¬ ((first, head.streamKind).1 == first + (k + 1)) = true := by
        rw [beq_iff_eq]
        omega
      have next := inductionHypothesis declared (first + 1)
      rw [Nat.add_assoc, Nat.add_comm 1 k] at next
      rw [List.filter_cons, if_neg other, next]

end Input

/-! ## Drafts -/

theorem Scene.streamKind_backgroundInput (scene : Scene) (render : RenderSettings) :
    (scene.backgroundInput render).streamKind = .video := by
  rw [backgroundInput]
  split <;> rfl

theorem ImageClip.streamKind_input (clip : ImageClip) (scene : Scene) :
    (clip.input scene).streamKind = .video := by
  rw [input]
  split <;> rfl

namespace Draft

/-- The filters read the streams of all inputs, each once, except for the picture so far
    if that is a stream. -/
def ReadsAll (d : Draft) : Prop :=
  (d.graph.streams ++ d.current.stream?.toList).Perm (Input.streamsFrom 0 d.inputs)

theorem background_readsAll (scene : Scene) (render : RenderSettings) (random : Generator) :
    (background scene render random).ReadsAll := by
  have single : Input.streamsFrom 0 [scene.backgroundInput render] = [(0, .video)] := by
    rw [← scene.streamKind_backgroundInput render]
    rfl
  cases located : scene.backdrop? with
  | some path =>
    rw [background_of_some located, ReadsAll, single]
    exact List.Perm.refl _
  | none =>
    rw [background_of_none located, ReadsAll, single]
    exact List.Perm.refl _

theorem ReadsAll.addClip {d : Draft} (readsAll : d.ReadsAll) (scene : Scene)
    (render : RenderSettings) (clip : ImageClip) : (d.addClip scene render clip).ReadsAll := by
  obtain ⟨filter, random, -, equal⟩ := addClip_eq scene render d clip
  have sized : (d.sizedNode scene clip filter).streams = [(d.inputs.length, .video)] := rfl
  have laid : (d.laidNode scene clip).streams = d.current.stream?.toList := by
    rw [Node.streams, laidNode]
    cases d.current <;> rfl
  have declared : Input.streamsFrom 0 (d.inputs ++ [clip.input scene]) =
      Input.streamsFrom 0 d.inputs ++ [(d.inputs.length, .video)] := by
    rw [Input.streamsFrom_append, Nat.zero_add, ← clip.streamKind_input scene]
    rfl
  rw [equal, ReadsAll, declared]
  simp only [Graph.streams_push, sized, laid, Pad.stream?, Option.toList_none, List.append_nil]
  -- The clip's stream moves behind that of the picture so far.
  have moved : (d.graph.streams ++ [(d.inputs.length, StreamKind.video)] ++ d.current.stream?.toList).Perm
      (d.graph.streams ++ d.current.stream?.toList ++ [(d.inputs.length, StreamKind.video)]) := by
    rw [List.append_assoc, List.append_assoc]
    exact List.perm_append_comm.append_left _
  exact moved.trans (readsAll.append_right _)

theorem ReadsAll.addText {d : Draft} (readsAll : d.ReadsAll) (cue : TextCue) :
    (d.addText cue).ReadsAll := by
  have drawn : (d.drawnNode cue).streams = d.current.stream?.toList := by
    rw [Node.streams, drawnNode]
    cases d.current <;> rfl
  rw [addText_eq, ReadsAll]
  simp only [Graph.streams_push, drawn, Pad.stream?, Option.toList_none, List.append_nil]
  exact readsAll

end Draft

theorem Scene.draft_readsAll (scene : Scene) (render : RenderSettings) (random : Generator) :
    (scene.draft render random).ReadsAll := by
  have clips : ∀ (shown : List ImageClip) (d : Draft), d.ReadsAll →
      (shown.foldl (Draft.addClip scene render) d).ReadsAll := by
    intro shown
    induction shown with
    | nil => exact fun _ readsAll => readsAll
    | cons clip shown inductionHypothesis =>
      exact fun d readsAll => inductionHypothesis _ (readsAll.addClip scene render clip)
  have cues : ∀ (shown : List TextCue) (d : Draft), d.ReadsAll →
      (shown.foldl Draft.addText d).ReadsAll := by
    intro shown
    induction shown with
    | nil => exact fun _ readsAll => readsAll
    | cons cue shown inductionHypothesis =>
      exact fun d readsAll => inductionHypothesis _ (readsAll.addText cue)
  rw [draft_eq]
  exact cues _ _ (clips _ _ (Draft.background_readsAll scene render random))

/-! ## Compiled scenes -/

namespace Scene

variable (scene : Scene) (render : RenderSettings) (random : Generator)

theorem streams_finishVideo : (scene.draft render random).finishVideo.streams.Perm
    (Input.streamsFrom 0 (scene.draft render random).inputs) := by
  have readsAll := scene.draft_readsAll render random
  rw [Draft.ReadsAll] at readsAll
  rcases (scene.draft_plain render random).finishVideo with
    ⟨label, -, current, renamed⟩ | ⟨-, current, passed⟩
  · rw [current, Pad.stream?, Option.toList_none, List.append_nil] at readsAll
    rw [Graph.streams_renameOutput renamed]
    exact readsAll
  · rw [current] at readsAll
    rw [passed, Graph.streams_push]
    exact readsAll

/-- A compiled scene reads the streams of its inputs, each of them once. -/
theorem streams_compile : (scene.compile render random).1.graph.streams.Perm
    (Input.streamsFrom 0 (scene.compile render random).1.inputs) := by
  have drawn := scene.streams_finishVideo render random
  have audio : ∀ input ∈ scene.heardTracks.map (fun track => track.1.input track.2),
      input.streamKind = .audio := by
    intro input mem
    obtain ⟨track, -, rfl⟩ := List.mem_map.mp mem
    rfl
  -- The mix starts to read where the inputs of the layers end.
  have mixed : (scene.mixNode (scene.draft render random).inputs.length).streams =
      Input.streamsFrom (scene.draft render random).inputs.length
        (scene.heardTracks.map fun track => track.1.input track.2) := by
    rw [Input.streamsFrom_of_kind audio, List.length_map, Node.streams, mixNode,
      List.filterMap_map, ← List.filterMap_eq_map]
    rfl
  have unsubtitled : (scene.unsubtitled render random).streams.Perm
      (Input.streamsFrom 0 (scene.compile render random).1.inputs) := by
    rw [compile_fst, Input.streamsFrom_append, Nat.zero_add, unsubtitled]
    by_cases silent : scene.heardTracks.isEmpty = true
    · rw [if_pos silent, List.isEmpty_iff.mp silent, List.map_nil, Input.streamsFrom,
        Input.streamsFrom, List.zipIdx_nil, List.map_nil, List.append_nil]
      exact drawn
    · rw [if_neg silent, Graph.streams_push, mixed]
      exact drawn.append_right _
  cases drawnSubtitles : scene.drawnSubtitles? with
  | none =>
    rw [compile_fst, drawnSubtitles] at unsubtitled ⊢
    exact unsubtitled
  | some drawn =>
    have kept := Graph.streams_injectSubtitles (scene.subtitles_notMem_unsubtitled render random)
      (scene.videoOut_mem_unsubtitled render random) drawn.1 drawn.2
    rw [← kept] at unsubtitled
    rw [compile_fst, drawnSubtitles] at unsubtitled ⊢
    exact unsubtitled

end Scene

end Compositor
