import Compositor.Proofs.Filter.Wiring
import Mathlib.Logic.Function.Iterate

/-! # Subtitles that are put in again

The first time subtitles get a filter of their own, at the end of the graph and behind a label that
is made for it; from then on only the text of that filter is replaced.  Both come to the same,
because neither the place of the filter nor the labels around it depend on what is drawn.  There is
one graph with a place for subtitles in it (`Graph.exists_slot`), and to put in subtitles is to
write them to that place.  No more than this is needed, so that the graph may be any graph at all.
-/

namespace Compositor

namespace Graph

variable {g g' base : Graph} {kind : NodeKind} {index : Nat}

/-! ## Finding filters by their kind -/

theorem find?_congr (same : g'.nodes.map Node.kind = g.nodes.map Node.kind) :
    g'.find? kind = g.find? kind := by
  have byKind : ∀ h : Graph, h.find? kind = (h.nodes.map Node.kind).findIdx? (· == kind) := by
    intro h
    rw [List.findIdx?_map]
    rfl
  rw [byKind, byKind, same]

theorem find?_renameOutput {source target : Label}
    (renamed : g.renameOutput source target = (true, g')) : g'.find? kind = g.find? kind :=
  find?_congr (map_nodes_renameOutput renamed Node.kind (fun _ => rfl) fun _ => rfl)

theorem find?_setFilter (g : Graph) (index : Nat) (filter : String) :
    (g.setFilter index filter).find? kind = g.find? kind := by
  apply find?_congr
  apply List.ext_getElem?
  intro i
  rw [setFilter, List.getElem?_map, List.getElem?_map, List.getElem?_modify]
  split <;> cases g.nodes[i]? <;> rfl

/-- A filter of a kind that the graph does not have yet is found at the end. -/
theorem find?_push (absent : base.find? kind = none) {node : Node} (isKind : node.kind = kind) :
    (base.push node).find? kind = some base.nodes.length := by
  have here : [node].findIdx? (fun n => n.kind == kind) = some 0 := by
    simp [List.findIdx?_cons, isKind]
  rw [find?, push, List.findIdx?_append, ← find?, absent, here]
  simp

/-! ## Replacing the text of a filter -/

theorem setFilter_setFilter (g : Graph) (index : Nat) (first second : String) :
    (g.setFilter index first).setFilter index second = g.setFilter index second := by
  rw [setFilter, setFilter, setFilter, List.modify_modify_eq]
  rfl

theorem setFilter_push (base : Graph) (node : Node) (filter : String) :
    (base.push node).setFilter base.nodes.length filter =
      base.push { node with filter := filter } := by
  have inside : base.nodes.length < (base.nodes ++ [node]).length := by simp
  rw [setFilter, push, push, List.modify_eq_take_cons_drop inside]
  simp

/-! ## The place of the subtitles -/

/-- Without subtitles in the graph, new ones are put behind filters that do not depend on them. -/
theorem exists_base (absent : g.find? .subtitles = none) :
    ∃ (base : Graph) (pad : Pad), base.find? .subtitles = none ∧
      ∀ (s : Subtitles) (path : String),
        g.injectSubtitles s path = base.push ⟨.subtitles, [pad], s.filter path, .videoOut⟩ := by
  by_cases mem : .videoOut ∈ g.outputs
  · obtain ⟨base, renamed⟩ := exists_renameOutput mem g.interim
    exact ⟨base, .label g.interim, (find?_renameOutput renamed).trans absent,
      injectSubtitles_of_renamed absent renamed⟩
  · exact ⟨g, .stream 0 .video, absent, injectSubtitles_of_notMem absent mem⟩

/-- To put in subtitles is to write to one place of one graph. -/
theorem exists_slot (g : Graph) :
    ∃ (slotted : Graph) (index : Nat), slotted.find? .subtitles = some index ∧
      ∀ (s : Subtitles) (path : String),
        g.injectSubtitles s path = slotted.setFilter index (s.filter path) := by
  cases found : g.find? .subtitles with
  | some index =>
    refine ⟨g, index, found, fun s path => ?_⟩
    rw [injectSubtitles, found]
  | none =>
    obtain ⟨base, pad, absent, pushed⟩ := exists_base found
    refine ⟨base.push ⟨.subtitles, [pad], "", .videoOut⟩, base.nodes.length,
      find?_push absent rfl, fun s path => ?_⟩
    rw [pushed, setFilter_push]

/-- What is in the place already does not matter. -/
theorem injectSubtitles_injectSubtitles (g : Graph) (s s' : Subtitles) (path path' : String) :
    (g.injectSubtitles s path).injectSubtitles s' path' = g.injectSubtitles s' path' := by
  obtain ⟨slotted, index, found, written⟩ := exists_slot g
  have again : (g.injectSubtitles s path).find? .subtitles = some index := by
    rw [written, find?_setFilter, found]
  calc (g.injectSubtitles s path).injectSubtitles s' path'
      = (g.injectSubtitles s path).setFilter index (s'.filter path') := by
        rw [injectSubtitles, again]
    _ = slotted.setFilter index (s'.filter path') := by rw [written, setFilter_setFilter]
    _ = g.injectSubtitles s' path' := (written s' path').symm

/-- The subtitles that were put in last are those that are there, in any graph; and to put in the
    same ones any number of times is to put them in once. -/
theorem injectSubtitles_lastWins (g : Graph) (s s' : Subtitles) (path path' : String) :
    (g.injectSubtitles s path).injectSubtitles s' path' = g.injectSubtitles s' path' ∧
      ∀ n, (fun h : Graph => h.injectSubtitles s path)^[n + 1] g = g.injectSubtitles s path := by
  refine ⟨injectSubtitles_injectSubtitles g s s' path path', fun n => ?_⟩
  induction n with
  | zero => rfl
  | succ n ih => rw [Function.iterate_succ_apply', ih, injectSubtitles_injectSubtitles]

end Graph

end Compositor
