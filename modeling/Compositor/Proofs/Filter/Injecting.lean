import Compositor.Proofs.Filter.Resuming
import Compositor.Proofs.Filter.Wiring

/-! # Subtitles in any graph

`Graph.injectSubtitles` is applied to graphs of every origin: their labels may have gaps and
foreign names, and may have been given out by an earlier run.  What it needs is that the graph is
well-formed (`Graph.WellFormed`), that subtitles which are there already stand in a graph with a
finished video, and that the ordinals leave room for one more label.

Then it leaves a well-formed graph with one finished video.  Each filter is where it was and reads
what the same filters as before produce (`Graph.KeptAs`), although one of them has another label.
The interim label is new to the graph, and that is what everything else rests on.
-/

namespace Compositor

/-! ## The interim label -/

theorem Label.ordinalOf?_videoOut (kind : LabelKind) : videoOut.ordinalOf? kind = none := by
  cases kind <;> decide

namespace Graph

/-- No number that a label of the graph bears is so great that the next two do not exist. -/
def HasRoom (g : Graph) : Prop := ∀ kind, ∀ n ∈ g.ordinals kind, n + 2 < Label.ordinalLimit

theorem HasRoom.resumes {g : Graph} (room : g.HasRoom) : g.Resumes [.beforeSubtitles] := by
  refine (resumes_iff (by decide)).mpr fun kind n mem => ?_
  have small := room kind n mem
  have once := List.count_le_length (a := kind) (l := [LabelKind.beforeSubtitles])
  rw [List.length_singleton] at once
  omega

theorem interim_eq {g : Graph} (room : g.HasRoom) :
    ∃ n, g.interim = .numbered .beforeSubtitles n ∧ n + 1 < Label.ordinalLimit :=
  ⟨_, rfl, room.resumes.steps.1⟩

theorem interim_notMem {g : Graph} (room : g.HasRoom) : g.interim ∉ g.outputs :=
  room.resumes.notMem (List.mem_singleton_self _)

/-! ## Well-formed graphs -/

/-- The outputs differ, each label is read behind the filter that produces it, and it is read
    once unless it is a finished output.  The finished video is not read at all. -/
structure WellFormed (g : Graph) : Prop where
  unique : g.outputs.Nodup
  earlier : g.ReadsEarlier
  once : ∀ label, label.isTerminal = false → g.reads.count label ≤ 1
  unread : Label.videoOut ∉ g.reads

theorem ReadsEarlier.subset {g : Graph} (earlier : g.ReadsEarlier) : g.reads ⊆ g.outputs := by
  intro label mem
  obtain ⟨node, nodeMem, read⟩ := List.mem_flatMap.mp mem
  obtain ⟨before, after, nodes⟩ := List.append_of_mem nodeMem
  obtain ⟨producer, producerMem, rfl⟩ := earlier before node after nodes label read
  rw [outputs, nodes]
  exact List.mem_map_of_mem (List.mem_append_left _ producerMem)

namespace WellFormed

variable {g : Graph}

theorem empty : Graph.empty.WellFormed where
  unique := List.nodup_nil
  earlier := .empty
  once := fun _ _ => Nat.zero_le 1
  unread := List.not_mem_nil

/-- A new filter may read what has not been read. -/
theorem push (wellFormed : g.WellFormed) {node : Node} (new : node.output ∉ g.outputs)
    (known : ∀ label ∈ node.reads, label ∈ g.outputs)
    (first : ∀ label ∈ node.reads, label ∉ g.reads)
    (distinct : node.reads.Nodup) (unread : Label.videoOut ∉ node.reads) :
    (g.push node).WellFormed where
  unique := by
    rw [outputs_push]
    exact wellFormed.unique.append (List.nodup_singleton _)
      (List.disjoint_singleton.mpr new)
  earlier := wellFormed.earlier.push known
  once := by
    intro label notTerminal
    have before := wellFormed.once label notTerminal
    rw [reads_push, List.count_append]
    -- A label is read by the filters before or by the new one, never by both.
    by_cases read : label ∈ node.reads
    · rw [List.count_eq_zero_of_not_mem (first label read)]
      have last := List.nodup_iff_count_le_one.mp distinct label
      omega
    · rw [List.count_eq_zero_of_not_mem read]
      omega
  unread := by
    rw [reads_push, List.mem_append]
    exact not_or.mpr ⟨wellFormed.unread, unread⟩

end WellFormed

/-! ## Where pads get their frames -/

/-- What a pad reads: a stream of the engine's inputs or a filter, by its index. -/
inductive Source where
  | stream (input : Nat) (kind : StreamKind)
  | filter (index : Nat)
deriving DecidableEq

/-- What the pad reads in the graph; nothing if it reads a label that no filter produces. -/
def source? (g : Graph) : Pad → Option Source
  | .stream input kind => some (.stream input kind)
  | .label label => (g.producer? label).map .filter

theorem producer?_eq (g : Graph) (label : Label) :
    g.producer? label = g.outputs.findIdx? (· == label) := by
  rw [outputs, List.findIdx?_map]
  rfl

theorem findIdx?_congr {α : Type} {p q : α → Bool} {xs : List α} (same : ∀ x ∈ xs, p x = q x) :
    xs.findIdx? p = xs.findIdx? q := by
  induction xs with
  | nil => rfl
  | cons x xs ih =>
    obtain ⟨here, others⟩ := List.forall_mem_cons.mp same
    rw [List.findIdx?_cons, List.findIdx?_cons, here, ih others]

section Sources

variable {g : Graph}

theorem source?_congr {g' : Graph} (same : g'.outputs = g.outputs) (pad : Pad) :
    g'.source? pad = g.source? pad := by
  cases pad with
  | stream input kind => rfl
  | label label => rw [source?, source?, producer?_eq, producer?_eq, same]

/-- A pad reads the same when labels are replaced, if none of the outputs is confused with the
    label that it reads. -/
theorem source?_relabel_of_apart {f : Label → Label} {pad : Pad}
    (apart : ∀ label ∈ pad.label?, ∀ output ∈ g.outputs, f output = f label → output = label) :
    (g.relabel f).source? (pad.relabel f) = g.source? pad := by
  cases pad with
  | stream input kind => rfl
  | label label =>
    -- The first filter with the label stays the first one with what the label is replaced by.
    have same : ∀ output ∈ g.outputs, (f output == f label) = (output == label) := by
      intro output mem
      rw [Bool.eq_iff_iff, beq_iff_eq, beq_iff_eq]
      exact ⟨apart label rfl output mem, congrArg f⟩
    rw [Pad.relabel, source?, source?, producer?_eq, producer?_eq, outputs_relabel,
      List.findIdx?_map]
    exact congrArg _ (findIdx?_congr same)

theorem source?_relabel {f : Label → Label}
    (injective : ∀ a ∈ g.outputs, ∀ b ∈ g.outputs, f a = f b → a = b) {pad : Pad}
    (known : ∀ label ∈ pad.label?, label ∈ g.outputs) :
    (g.relabel f).source? (pad.relabel f) = g.source? pad :=
  source?_relabel_of_apart fun label read output mem =>
    injective output mem label (known label read)

theorem source?_push (node : Node) {pad : Pad} (known : ∀ label ∈ pad.label?, label ∈ g.outputs) :
    (g.push node).source? pad = g.source? pad := by
  cases pad with
  | stream input kind => rfl
  | label label =>
    obtain ⟨index, found⟩ :=
      Option.isSome_iff_exists.mp (producer?_isSome.mpr (known label rfl))
    rw [producer?_eq] at found
    rw [source?, source?, producer?_eq, producer?_eq, outputs_push, List.findIdx?_append, found,
      Option.some_or]

end Sources

/-- The filter of one graph is a filter of another: it does the same, unless it draws subtitles,
    with what it reads from the same places.  Only a finished video may get another label. -/
structure KeptAs (g g' : Graph) (node node' : Node) : Prop where
  kind : node'.kind = node.kind
  filter : node.kind ≠ .subtitles → node'.filter = node.filter
  sources : node'.inputs.map g'.source? = node.inputs.map g.source?
  output : node.output ≠ .videoOut → node'.output = node.output

/-- What is to be seen without subtitles: the finished video, or else the first input. -/
def finished (g : Graph) : Source :=
  match g.producer? .videoOut with
  | some index => .filter index
  | none => .stream 0 .video

/-- What is left when subtitles with the given filter have been put into a graph. -/
structure Subtitled (g g' : Graph) (filter : String) : Prop where
  wellFormed : g'.WellFormed
  room : ∀ kind, ∀ n ∈ g'.ordinals kind, n + 1 < Label.ordinalLimit
  finishedOnce : g'.outputs.count .videoOut = 1
  drawnOnce : g.count .subtitles ≤ 1 → g'.count .subtitles = 1
  drawn : ∃ node ∈ g'.nodes, node.kind = .subtitles ∧ node.filter = filter
  /-- All filters are still there.  The subtitles are new if there were none, and are drawn over
      what was to be seen then. -/
  kept : ∃ kept added, g'.nodes = kept ++ added ∧ List.Forall₂ (g.KeptAs g') g.nodes kept ∧
    (0 < g.count .subtitles → added = []) ∧
    (g.count .subtitles = 0 → ∃ new, added = [new] ∧ new.kind = .subtitles ∧
      new.filter = filter ∧ new.output = .videoOut ∧ new.inputs.map g'.source? = [some g.finished])

/-! ## Subtitles that are there -/

/-- The pads and the labels of the filters. -/
def wires (g : Graph) : List (List Pad × Label) :=
  g.nodes.map fun node => (node.inputs, node.output)

section Wires

variable {g g' : Graph} (same : g'.wires = g.wires)
include same

theorem outputs_congr : g'.outputs = g.outputs := by
  have ends := congrArg (List.map Prod.snd) same
  rwa [wires, wires, List.map_map, List.map_map] at ends

theorem reads_congr : g'.reads = g.reads := by
  have starts := congrArg (List.flatMap fun wire => wire.1.filterMap Pad.label?) same
  rwa [wires, wires, List.flatMap_map, List.flatMap_map] at starts

theorem ReadsEarlier.congr (earlier : g.ReadsEarlier) : g'.ReadsEarlier := by
  intro before node after split label mem
  rw [wires, split, List.map_append, List.map_cons] at same
  obtain ⟨before', rest, nodes, beforeEqual, restEqual⟩ := List.map_eq_append_iff.mp same.symm
  obtain ⟨node', after', rfl, nodeEqual, -⟩ := List.map_eq_cons_iff.mp restEqual
  rw [Prod.mk.injEq] at nodeEqual
  have mem' : label ∈ node'.reads := by
    rw [Node.reads, nodeEqual.1]
    exact mem
  obtain ⟨producer, producerMem, produces⟩ := earlier before' node' after' nodes label mem'
  -- The filter at the same place in the other graph has the same output.
  have found := List.mem_map_of_mem (f := fun n : Node => (n.inputs, n.output)) producerMem
  rw [beforeEqual] at found
  obtain ⟨producer', producerMem', equal⟩ := List.mem_map.mp found
  exact ⟨producer', producerMem', (Prod.mk.inj equal).2.trans produces⟩

theorem WellFormed.congr (wellFormed : g.WellFormed) : g'.WellFormed where
  unique := outputs_congr same ▸ wellFormed.unique
  earlier := wellFormed.earlier.congr same
  once := reads_congr same ▸ wellFormed.once
  unread := reads_congr same ▸ wellFormed.unread

end Wires

/-- Subtitles that a graph has get a new filter where they are. -/
theorem injectSubtitles_of_find? {g : Graph} {index : Nat} (found : g.find? .subtitles = some index)
    (s : Subtitles) (path : String) :
    ∃ before node after, g.nodes = before ++ node :: after ∧ node.kind = .subtitles ∧
      (g.injectSubtitles s path).nodes =
        before ++ { node with filter := s.filter path } :: after := by
  obtain ⟨bound, isSubtitles, -⟩ := List.findIdx?_eq_some_iff_getElem.mp found
  obtain ⟨before, node, after, nodes, length, changed⟩ :=
    List.exists_of_modify (fun n : Node => { n with filter := s.filter path }) bound
  refine ⟨before, node, after, nodes, ?_, ?_⟩
  · subst length
    simpa [nodes] using isSubtitles
  · rw [injectSubtitles, found]
    exact changed

theorem subtitled_of_find? {g : Graph} (wellFormed : g.WellFormed)
    (finished : .videoOut ∈ g.outputs) (room : g.HasRoom) {index : Nat}
    (found : g.find? .subtitles = some index) (s : Subtitles) (path : String) :
    g.Subtitled (g.injectSubtitles s path) (s.filter path) := by
  obtain ⟨before, node, after, nodes, isSubtitles, changed⟩ := injectSubtitles_of_find? found s path
  generalize g.injectSubtitles s path = g' at changed
  -- Only the text of a filter differs, so that all that depends on pads and labels is the same.
  have same : g'.wires = g.wires := by
    simp [wires, nodes, changed]
  have outputs := outputs_congr same
  have sources : ∀ pads : List Pad, pads.map g'.source? = pads.map g.source? := fun pads =>
    List.map_congr_left fun pad _ => source?_congr outputs pad
  have counts : g'.count .subtitles = g.count .subtitles := by
    simp [count, nodes, changed, List.countP_cons]
  have some : 0 < g.count .subtitles := by
    refine List.countP_pos_iff.mpr ⟨node, ?_, beq_iff_eq.mpr isSubtitles⟩
    rw [nodes]
    exact List.mem_append_right _ List.mem_cons_self
  refine ⟨wellFormed.congr same, ?_, ?_, ?_, ?_, g'.nodes, [], (List.append_nil _).symm, ?_,
    fun _ => rfl, fun none => absurd none (by omega)⟩
  · intro kind n mem
    rw [ordinals_eq, outputs, ← ordinals_eq] at mem
    have small := room kind n mem
    omega
  · rw [outputs]
    exact List.count_eq_one_of_mem wellFormed.unique finished
  · intro atMost
    omega
  · refine ⟨{ node with filter := s.filter path }, ?_, isSubtitles, rfl⟩
    rw [changed]
    exact List.mem_append_right _ List.mem_cons_self
  · have keep : ∀ n : Node, g.KeptAs g' n n := fun n => ⟨rfl, fun _ => rfl, sources _, fun _ => rfl⟩
    have change : g.KeptAs g' node { node with filter := s.filter path } :=
      ⟨rfl, fun other => absurd isSubtitles other, sources _, fun _ => rfl⟩
    rw [nodes, changed]
    exact List.rel_append (List.forall₂_same.mpr fun n _ => keep n)
      (.cons change (List.forall₂_same.mpr fun n _ => keep n))

/-! ## New subtitles -/

/-- The pad that shows what is to be seen without subtitles. -/
def finishedPad (g : Graph) : Pad :=
  if .videoOut ∈ g.outputs then .label g.interim else .stream 0 .video

theorem relabel_eq_self {g : Graph} {f : Label → Label}
    (outputs : ∀ label ∈ g.outputs, f label = label)
    (reads : ∀ label ∈ g.reads, f label = label) : g.relabel f = g := by
  have kept : ∀ node ∈ g.nodes, node.relabel f = node := by
    intro node mem
    have pads : node.inputs.map (Pad.relabel f) = node.inputs := by
      refine (List.map_congr_left fun pad padMem => ?_).trans (List.map_id _)
      cases pad with
      | stream input kind => rfl
      | label label =>
        have read : label ∈ node.reads := List.mem_filterMap.mpr ⟨_, padMem, rfl⟩
        exact congrArg Pad.label (reads label (List.mem_flatMap.mpr ⟨node, mem, read⟩))
    rw [Node.relabel, pads, outputs node.output (List.mem_map_of_mem mem)]
  rw [relabel, List.map_congr_left kept, List.map_id']

/-- In a graph without a finished video there is nothing to be moved to the interim label. -/
theorem injectSubtitles_of_find?_none {g : Graph} (wellFormed : g.WellFormed)
    (noSubtitles : g.find? .subtitles = none) (s : Subtitles) (path : String) :
    g.injectSubtitles s path =
      g.withInterim.push ⟨.subtitles, [g.finishedPad], s.filter path, .videoOut⟩ := by
  by_cases mem : .videoOut ∈ g.outputs
  · rw [finishedPad, if_pos mem]
    exact injectSubtitles_eq_of_mem wellFormed.unique mem noSubtitles s path
  · have unchanged : g.withInterim = g :=
      relabel_eq_self
        (fun label labelMem => if_neg fun equal : label = .videoOut => mem (equal ▸ labelMem))
        (fun label read => if_neg fun equal : label = .videoOut => wellFormed.unread (equal ▸ read))
    rw [injectSubtitles_of_notMem noSubtitles mem, finishedPad, if_neg mem, unchanged]

section NewSubtitles

variable {g : Graph}

/-- The finished video is not read, so that the interim label is not read either. -/
theorem reads_withInterim (wellFormed : g.WellFormed) : g.withInterim.reads = g.reads := by
  rw [withInterim, reads_relabel]
  refine (List.map_congr_left fun label read => ?_).trans (List.map_id _)
  exact if_neg fun equal : label = .videoOut => wellFormed.unread (equal ▸ read)

theorem rename_interim_injOn (room : g.HasRoom) :
    ∀ a ∈ g.outputs, ∀ b ∈ g.outputs, Label.rename .videoOut g.interim a =
      Label.rename .videoOut g.interim b → a = b :=
  Label.rename_injOn _ (interim_notMem room)

theorem WellFormed.withInterim (wellFormed : g.WellFormed) (room : g.HasRoom) :
    g.withInterim.WellFormed where
  unique := by
    rw [Graph.withInterim, outputs_relabel]
    exact List.Nodup.map_on (rename_interim_injOn room) wellFormed.unique
  earlier := wellFormed.earlier.relabel _
  once := reads_withInterim wellFormed ▸ wellFormed.once
  unread := reads_withInterim wellFormed ▸ wellFormed.unread

theorem mem_label?_finishedPad {label : Label} (mem : label ∈ g.finishedPad.label?) :
    label = g.interim ∧ .videoOut ∈ g.outputs := by
  rw [finishedPad] at mem
  split at mem
  · next finished => exact ⟨(Option.some.inj mem).symm, finished⟩
  · cases mem

theorem interim_mem_withInterim (finished : .videoOut ∈ g.outputs) :
    g.interim ∈ g.withInterim.outputs := by
  rw [withInterim, outputs_relabel]
  exact List.mem_map.mpr ⟨_, finished, if_pos rfl⟩

/-- The new subtitles are drawn over what was to be seen without them. -/
theorem source?_finishedPad (room : g.HasRoom) (node : Node) :
    (g.withInterim.push node).source? g.finishedPad = some g.finished := by
  rw [source?_push node fun label mem => ?known]
  case known =>
    obtain ⟨rfl, finished⟩ := mem_label?_finishedPad mem
    exact interim_mem_withInterim finished
  rw [finishedPad, finished]
  split
  · next finished =>
    obtain ⟨index, found⟩ := Option.isSome_iff_exists.mp (producer?_isSome.mpr finished)
    have moved : (.label g.interim : Pad) =
        Pad.relabel (Label.rename .videoOut g.interim) (.label .videoOut) :=
      congrArg Pad.label (if_pos rfl).symm
    rw [withInterim, moved, source?_relabel (rename_interim_injOn room), source?, found]
    · rfl
    · intro label mem
      exact Option.some.inj mem ▸ finished
  · next unfinished =>
    rw [producer?_eq_none.mpr unfinished]
    rfl

/-- A filter reads the same as before, also if its own label was moved. -/
theorem keptAs_withInterim (wellFormed : g.WellFormed) (room : g.HasRoom) (new : Node) {node : Node}
    (mem : node ∈ g.nodes) :
    g.KeptAs (g.withInterim.push new) node
      (node.relabel (Label.rename .videoOut g.interim)) where
  kind := rfl
  filter := fun _ => rfl
  sources := by
    rw [Node.relabel, List.map_map]
    refine List.map_congr_left fun pad padMem => ?_
    have known : ∀ label ∈ pad.label?, label ∈ g.outputs := by
      intro label read
      exact wellFormed.earlier.subset
        (List.mem_flatMap.mpr ⟨node, mem, List.mem_filterMap.mpr ⟨pad, padMem, read⟩⟩)
    rw [Function.comp_apply, source?_push new fun label read => ?moved, withInterim,
      source?_relabel (rename_interim_injOn room) known]
    case moved =>
      cases pad with
      | stream input kind => cases read
      | label label' =>
        rw [← Option.some.inj read, withInterim, outputs_relabel]
        exact List.mem_map_of_mem (known label' rfl)
  output := fun other => if_neg other

theorem ordinals_withInterim (room : g.HasRoom) (kind : LabelKind) :
    ∀ n ∈ g.withInterim.ordinals kind, n + 1 < Label.ordinalLimit := by
  intro n mem
  rw [ordinals_eq, withInterim, outputs_relabel, List.mem_filterMap] at mem
  obtain ⟨label', renamed, bears⟩ := mem
  obtain ⟨label, labelMem, rfl⟩ := List.mem_map.mp renamed
  by_cases finished : label = .videoOut
  · obtain ⟨m, equal, small⟩ := interim_eq room
    rw [Label.rename, if_pos finished, equal] at bears
    by_cases same : .beforeSubtitles = kind
    · subst same
      rw [Label.ordinalOf?_numbered (by omega)] at bears
      exact Option.some.inj bears ▸ small
    · rw [Label.ordinalOf?_numbered_of_ne same] at bears
      cases bears
  · rw [Label.rename, if_neg finished] at bears
    have small := room kind n (by
      rw [ordinals_eq]
      exact List.mem_filterMap.mpr ⟨label, labelMem, bears⟩)
    omega

theorem subtitled_of_find?_none (wellFormed : g.WellFormed) (room : g.HasRoom)
    (noSubtitles : g.find? .subtitles = none) (s : Subtitles) (path : String) :
    g.Subtitled (g.injectSubtitles s path) (s.filter path) := by
  rw [injectSubtitles_of_find?_none wellFormed noSubtitles]
  -- The new filter is opened only where its fields count.
  generalize new : Node.mk .subtitles [g.finishedPad] (s.filter path) .videoOut = node
  have reads : ∀ label ∈ node.reads, label = g.interim ∧ .videoOut ∈ g.outputs := by
    rw [← new]
    intro label read
    obtain ⟨pad, padMem, reads⟩ := List.mem_filterMap.mp read
    rw [List.mem_singleton.mp padMem] at reads
    exact mem_label?_finishedPad reads
  have none : g.count .subtitles = 0 := by
    rw [count, List.countP_eq_zero]
    intro n mem
    rw [List.findIdx?_eq_none_iff.mp noSubtitles n mem]
    exact Bool.false_ne_true
  have last : node ∈ (g.withInterim.push node).nodes :=
    List.mem_append_right _ List.mem_cons_self
  have pushed : (g.withInterim.push node).WellFormed := by
    refine (wellFormed.withInterim room).push ?_ ?_ ?_ ?_ ?_
    · rw [← new]
      exact g.videoOut_notMem_withInterim
    · intro label read
      obtain ⟨rfl, finished⟩ := reads label read
      exact interim_mem_withInterim finished
    · intro label read again
      rw [reads_withInterim wellFormed] at again
      exact interim_notMem room ((reads label read).1 ▸ wellFormed.earlier.subset again)
    · have single : node.reads.length ≤ 1 := by
        rw [← new]
        exact List.length_filterMap_le _ _
      match node.reads, single with
      | [], _ => exact List.nodup_nil
      | [_], _ => exact List.nodup_singleton _
    · intro read
      exact Label.numbered_ne_videoOut _ _ (reads _ read).1.symm
  refine ⟨pushed, ?_, ?_, ?_, ?_, g.withInterim.nodes, [node], rfl, ?_, ?_, ?_⟩
  · intro kind n mem
    rw [ordinals_eq, outputs_push, List.filterMap_append, ← ordinals_eq] at mem
    rcases List.mem_append.mp mem with mem | mem
    · exact ordinals_withInterim room kind n mem
    · rw [← new] at mem
      simp [Label.ordinalOf?_videoOut] at mem
  · refine List.count_eq_one_of_mem pushed.unique ?_
    rw [outputs_push, ← new]
    exact List.mem_append_right _ List.mem_cons_self
  · intro _
    have kinds : g.withInterim.count .subtitles = g.count .subtitles := by
      rw [count, withInterim, relabel, List.countP_map]
      rfl
    rw [count, push, List.countP_append, ← count, kinds, none, ← new]
    rfl
  · exact ⟨node, last, by rw [← new], by rw [← new]⟩
  · rw [withInterim, relabel, List.forall₂_map_right_iff, List.forall₂_same]
    exact fun n mem => keptAs_withInterim wellFormed room node mem
  · intro some
    omega
  · intro _
    refine ⟨node, rfl, by rw [← new], by rw [← new], by rw [← new], ?_⟩
    rw [← source?_finishedPad room node, ← new]
    rfl

end NewSubtitles

/-- Putting subtitles into a well-formed graph leaves a well-formed one with one finished video,
    in which each filter reads what it read before. -/
theorem injectSubtitles_subtitled {g : Graph} (wellFormed : g.WellFormed)
    (beside : 0 < g.count .subtitles → .videoOut ∈ g.outputs) (room : g.HasRoom) (s : Subtitles)
    (path : String) : g.Subtitled (g.injectSubtitles s path) (s.filter path) := by
  cases found : g.find? .subtitles with
  | none => exact subtitled_of_find?_none wellFormed room found s path
  | some index =>
    obtain ⟨bound, isSubtitles, -⟩ := List.findIdx?_eq_some_iff_getElem.mp found
    have some : 0 < g.count .subtitles :=
      List.countP_pos_iff.mpr ⟨_, List.getElem_mem bound, isSubtitles⟩
    exact subtitled_of_find? wellFormed (beside some) room found s path

/-- A graph whose labels have gaps, as an earlier run may leave them. -/
def rewritten : Graph :=
  ((Graph.empty.push ⟨.overlay, [.stream 0 .video, .stream 1 .video], "overlay=0:0",
    .numbered .beforeSubtitles 7⟩).push ⟨.drawText, [.label (.numbered .beforeSubtitles 7)],
      "drawtext=text=a", .videoOut⟩).push ⟨.audioMix, [.stream 1 .audio], "amix", .audioOut⟩

def whiteSubtitles : Subtitles := ⟨.inline "1", 24, "white", .bottom, true, "none"⟩

theorem injectSubtitles_rewritten :
    rewritten.WellFormed ∧ .videoOut ∈ rewritten.outputs ∧ rewritten.HasRoom ∧
      rewritten.Subtitled (rewritten.injectSubtitles whiteSubtitles "/a.srt")
        (whiteSubtitles.filter "/a.srt") ∧
      rewritten.interim = .numbered .beforeSubtitles 8 := by
  have wellFormed : rewritten.WellFormed :=
    ((WellFormed.empty.push (by decide) (by decide) (by decide) (by decide) (by decide)).push
      (by decide) (by decide) (by decide) (by decide) (by decide)).push
        (by decide) (by decide) (by decide) (by decide) (by decide)
  have room : rewritten.HasRoom := by
    intro kind
    cases kind <;> decide
  have finished : .videoOut ∈ rewritten.outputs := by decide
  exact ⟨wellFormed, finished, room,
    injectSubtitles_subtitled wellFormed (fun _ => finished) room _ _, by decide⟩

end Graph

end Compositor
