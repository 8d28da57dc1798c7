import Compositor.Proofs.Filter.Wiring

/-! # Walks through filter graphs

A graph is walked from a pad back to the filter that produces it, on to what the first
pad of that filter reads, and so on until a stream is reached.  The filters on the way
are the pictures that are laid over each other, listed from the stream on.

A walk stays what it is when filters are added, and it is carried along when labels are
replaced one to one.
-/

namespace Compositor

namespace Graph

/-- The filter that produces a label: the first one with that output. -/
def maker? (g : Graph) (label : Label) : Option Node := g.nodes.find? fun n => n.output == label

/-- Going back from the pad, always along the first pad of a filter, one visits the
    filters, last of them first, and reaches the source. -/
inductive Walk (g : Graph) : Pad → Pad → List Node → Prop where
  | stream (input : Nat) (kind : StreamKind) : Walk g (.stream input kind) (.stream input kind) []
  | back {label : Label} {maker : Node} {pad source : Pad} {visited : List Node}
      (made : g.maker? label = some maker) (reads : maker.inputs.head? = some pad)
      (walk : Walk g pad source visited) : Walk g (.label label) source (visited ++ [maker])

variable {g : Graph}

/-! ## Producers -/

theorem maker?_output {label : Label} {maker : Node} (made : g.maker? label = some maker) :
    maker ∈ g.nodes ∧ maker.output = label :=
  ⟨List.mem_of_find?_eq_some made, beq_iff_eq.mp (List.find?_some made :)⟩

theorem maker?_mem_outputs {label : Label} {maker : Node} (made : g.maker? label = some maker) :
    label ∈ g.outputs := by
  obtain ⟨mem, rfl⟩ := maker?_output made
  exact List.mem_map_of_mem mem

theorem maker?_push {label : Label} {maker : Node} (made : g.maker? label = some maker)
    (node : Node) : (g.push node).maker? label = some maker := by
  rw [maker?] at made
  rw [maker?, push, List.find?_append, made, Option.some_or]

theorem maker?_push_self {node : Node} (new : node.output ∉ g.outputs) :
    (g.push node).maker? node.output = some node := by
  have absent : g.nodes.find? (fun n => n.output == node.output) = none := by
    rw [List.find?_eq_none]
    intro n mem same
    exact new (beq_iff_eq.mp same ▸ List.mem_map_of_mem mem)
  rw [maker?, push, List.find?_append, absent, Option.none_or, List.find?_singleton,
    beq_self_eq_true, if_pos rfl]

theorem maker?_relabel {f : Label → Label}
    (injective : ∀ a ∈ g.outputs, ∀ b ∈ g.outputs, f a = f b → a = b) {label : Label}
    {maker : Node} (made : g.maker? label = some maker) :
    (g.relabel f).maker? (f label) = some (maker.relabel f) := by
  have labelMem := maker?_mem_outputs made
  obtain ⟨output, before, after, nodes, others⟩ := List.find?_eq_some_iff_append.mp made
  rw [maker?, List.find?_eq_some_iff_append]
  refine ⟨?_, before.map (Node.relabel f), after.map (Node.relabel f), ?_, ?_⟩
  · rw [← beq_iff_eq.mp output]
    exact beq_self_eq_true _
  · rw [relabel, nodes, List.map_append, List.map_cons]
  -- Filters before the producer have other labels, and those stay different.
  · intro renamed renamedMem
    obtain ⟨n, mem, rfl⟩ := List.mem_map.mp renamedMem
    have differs := others n mem
    rw [Bool.not_eq_true', beq_eq_false_iff_ne] at differs ⊢
    intro same
    have nMem : n ∈ g.nodes := by
      rw [nodes]
      exact List.mem_append_left _ mem
    exact differs (injective _ (List.mem_map_of_mem nMem) _ labelMem same)

/-! ## Walks -/

/-- There is only one way back from a pad. -/
theorem Walk.unique {pad source source' : Pad} {visited visited' : List Node}
    (walk : g.Walk pad source visited) (walk' : g.Walk pad source' visited') :
    source' = source ∧ visited' = visited := by
  induction walk generalizing source' visited' with
  | stream input kind =>
    cases walk' with
    | stream => exact ⟨rfl, rfl⟩
  | back made reads walk inductionHypothesis =>
    cases walk' with
    | back made' reads' walk' =>
      obtain rfl := Option.some.inj (made.symm.trans made')
      obtain rfl := Option.some.inj (reads.symm.trans reads')
      obtain ⟨rfl, rfl⟩ := inductionHypothesis walk'
      exact ⟨rfl, rfl⟩

theorem Walk.push {pad source : Pad} {visited : List Node} (walk : g.Walk pad source visited)
    (node : Node) : (g.push node).Walk pad source visited := by
  induction walk with
  | stream input kind => exact .stream input kind
  | back made reads walk inductionHypothesis =>
    exact .back (maker?_push made node) reads inductionHypothesis

/-- A new filter over the picture at the start of a walk is one step more. -/
theorem Walk.push_over {pad source : Pad} {visited : List Node} {node : Node}
    (walk : g.Walk pad source visited) (new : node.output ∉ g.outputs)
    (above : node.inputs.head? = some pad) :
    (g.push node).Walk (.label node.output) source (visited ++ [node]) :=
  .back (maker?_push_self new) above (walk.push node)

theorem Walk.relabel {f : Label → Label}
    (injective : ∀ a ∈ g.outputs, ∀ b ∈ g.outputs, f a = f b → a = b) {pad source : Pad}
    {visited : List Node} (walk : g.Walk pad source visited) :
    (g.relabel f).Walk (pad.relabel f) source (visited.map (Node.relabel f)) := by
  induction walk with
  | stream input kind => exact .stream input kind
  | back made reads walk inductionHypothesis =>
    rw [List.map_append]
    refine .back (maker?_relabel injective made) ?_ inductionHypothesis
    rw [Node.relabel, List.head?_map, reads, Option.map_some]

/-- If the label of the first filter is renamed, that filter is visited under the new one. -/
theorem Walk.rename_first {first : Node} {input : Nat} {kind : StreamKind}
    (starts : g.nodes.head? = some first) (reads : first.inputs = [.stream input kind])
    (target : Label) :
    ∃ g', g.renameOutput first.output target = (true, g') ∧
      g'.Walk (.label target) (.stream input kind) [{ first with output := target }] := by
  obtain ⟨others, nodes⟩ := List.head?_eq_some_iff.mp starts
  -- The first filter is found first, whatever outputs follow.
  have produced : g.producer? first.output = some 0 := by
    rw [producer?, nodes, List.findIdx?_cons, beq_self_eq_true, if_pos rfl]
  refine ⟨_, by rw [renameOutput, produced], ?_⟩
  have unchanged : first.inputs.map (Pad.rename first.output target) = first.inputs := by
    rw [reads]
    rfl
  have made : Graph.maker? ⟨(g.nodes.modify 0 fun n => { n with output := target }).map fun n =>
      { n with inputs := n.inputs.map (Pad.rename first.output target) }⟩ target =
      some { first with output := target } := by
    rw [maker?, nodes, List.modify_zero_cons, List.map_cons, List.find?_cons_of_pos, unchanged]
    exact beq_self_eq_true target
  have walk := Walk.back made (congrArg List.head? reads) (.stream input kind)
  exact walk

end Graph

end Compositor
