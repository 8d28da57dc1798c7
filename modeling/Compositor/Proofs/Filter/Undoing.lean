import Compositor.Proofs.Filter.Injecting

/-! # Renaming keeps the wiring and can be undone

`Graph.renameOutput` touches a producer and every pad that reads it, wherever in the graph they
stand.  If the new label is new to the graph, nothing is connected in another way afterwards
(`Graph.RenamedTo`), and renaming the other way round gives the old graph back.

The outputs have to differ, but the pads are free: a label may be read before it is produced, many
times, or without being produced at all.
-/

namespace Compositor

theorem Label.rename_rename {source target label : Label} (other : label ≠ target) :
    rename target source (rename source target label) = label := by
  by_cases same : label = source
  · rw [rename, rename, if_pos same, if_pos rfl, same]
  · rw [rename, rename, if_neg same, if_neg other]

theorem Pad.relabel_rename (source target : Label) (pad : Pad) :
    pad.relabel (Label.rename source target) =
      if pad = .label source then .label target else pad := by
  cases pad with
  | stream input kind => rfl
  | label label =>
    simp only [relabel, Label.rename, Pad.label.injEq]
    split <;> rfl

namespace Graph

/-- What a renaming does to a filter: only occurrences of the source are replaced, and each pad
    reads the same stream or the same filter as before, or nothing as before. -/
structure NodeRenamedTo (g g' : Graph) (source target : Label) (node node' : Node) : Prop where
  kind : node'.kind = node.kind
  filter : node'.filter = node.filter
  output : node'.output = if node.output = source then target else node.output
  inputs : List.Forall₂
    (fun pad pad' => pad' = (if pad = .label source then .label target else pad) ∧
      g'.source? pad' = g.source? pad)
    node.inputs node'.inputs

/-- What a renaming does to a graph. -/
structure RenamedTo (g g' : Graph) (source target : Label) : Prop where
  unique : g'.outputs.Nodup
  nodes : List.Forall₂ (g.NodeRenamedTo g' source target) g.nodes g'.nodes
  gone : source ∉ g'.outputs ∧ source ∉ g'.reads
  undone : g'.renameOutput target source = (true, g)

variable {g : Graph} {source target : Label}

/-! ## Labels that are new to a graph -/

theorem relabel_relabel (f h : Label → Label) (g : Graph) :
    (g.relabel f).relabel h = g.relabel (h ∘ f) := by
  have pads : ∀ pad : Pad, (pad.relabel f).relabel h = pad.relabel (h ∘ f) := by
    intro pad
    cases pad <;> rfl
  simp only [relabel, Node.relabel, List.map_map, Function.comp_def, pads]
  rfl

/-- A new label can be replaced by the one that it was put in place of. -/
theorem relabel_rename_rename (newOutput : target ∉ g.outputs) (newRead : target ∉ g.reads) :
    (g.relabel (Label.rename source target)).relabel (Label.rename target source) = g := by
  rw [relabel_relabel]
  refine relabel_eq_self (fun label mem => ?_) fun label mem => ?_
  · exact Label.rename_rename fun equal => newOutput (equal ▸ mem)
  · exact Label.rename_rename fun equal => newRead (equal ▸ mem)

/-- A pad reads the same when one label is replaced by a new one, whether its own label is produced
    or not. -/
theorem source?_relabel_rename (newOutput : target ∉ g.outputs) {pad : Pad}
    (other : pad ≠ .label target) :
    (g.relabel (Label.rename source target)).source? (pad.relabel (Label.rename source target)) =
      g.source? pad := by
  refine source?_relabel_of_apart fun label read output mem => ?_
  have readOther : label ≠ target := by
    rintro rfl
    cases pad with
    | stream input kind => cases read
    | label _ => exact other (congrArg Pad.label (Option.some.inj read))
  have producedOther : output ≠ target := fun equal => newOutput (equal ▸ mem)
  have new : target ∉ [output, label] := by simp [producedOther.symm, readOther.symm]
  exact Label.rename_injOn source new _ (by simp) _ (by simp)

theorem relabel_renamedTo (unique : g.outputs.Nodup) (mem : source ∈ g.outputs)
    (newOutput : target ∉ g.outputs) (newRead : target ∉ g.reads) :
    g.RenamedTo (g.relabel (Label.rename source target)) source target := by
  have different : target ≠ source := fun equal => newOutput (equal ▸ mem)
  have unique' : (g.relabel (Label.rename source target)).outputs.Nodup := by
    rw [outputs_relabel]
    exact List.Nodup.map_on (Label.rename_injOn source newOutput) unique
  constructor
  case unique => exact unique'
  case nodes =>
    refine List.forall₂_map_right_iff.mpr (List.forall₂_same.mpr fun node nodeMem => ?_)
    refine ⟨rfl, rfl, rfl, List.forall₂_map_right_iff.mpr (List.forall₂_same.mpr ?_)⟩
    intro pad padMem
    refine ⟨Pad.relabel_rename source target pad, source?_relabel_rename newOutput ?_⟩
    rintro rfl
    exact newRead
      (List.mem_flatMap.mpr ⟨node, nodeMem, List.mem_filterMap.mpr ⟨_, padMem, rfl⟩⟩)
  case gone =>
    refine ⟨source_notMem_relabel different, ?_⟩
    rw [reads_relabel]
    exact Label.notMem_map_rename different g.reads
  case undone =>
    have produced : target ∈ (g.relabel (Label.rename source target)).outputs := by
      rw [outputs_relabel]
      exact List.mem_map.mpr ⟨source, mem, if_pos rfl⟩
    rw [renameOutput_eq_relabel unique' produced, relabel_rename_rename newOutput newRead]

/-! ## Renaming -/

/-- An output can be renamed exactly if it is there, and otherwise the graph stays as it is.  To a
    new label it is renamed without a change of the wiring, and the renaming can be undone. -/
theorem renameOutput_renamedTo (g : Graph) (source target : Label) (unique : g.outputs.Nodup)
    (newOutput : target ∉ g.outputs) (newRead : target ∉ g.reads) :
    let answer := g.renameOutput source target
    (answer.1 = true ↔ ∃ node ∈ g.nodes, node.output = source) ∧
      (answer.1 = false → answer.2 = g) ∧
      (answer.1 = true → g.RenamedTo answer.2 source target) := by
  intro answer
  have there : answer.1 = true ↔ source ∈ g.outputs := renameOutput_fst
  refine ⟨?_, fun failed => ?_, fun renamed => ?_⟩
  · rw [there, outputs, List.mem_map]
  · have absent : source ∉ g.outputs := fun mem =>
      Bool.false_ne_true (failed.symm.trans (there.mpr mem))
    exact congrArg Prod.snd (renameOutput_of_notMem absent target)
  · have mem := there.mp renamed
    have relabelled : answer.2 = g.relabel (Label.rename source target) :=
      congrArg Prod.snd (renameOutput_eq_relabel unique mem target)
    rw [relabelled]
    exact relabel_renamedTo unique mem newOutput newRead

/-- The label is read before it is produced, twice by one filter, and again by another one that also
    reads a label which nothing produces. -/
theorem renameOutput_renamedTo_forward :
    let g : Graph :=
      ⟨[⟨.overlay, [.label ⟨"img0"⟩, .label ⟨"img0"⟩], "overlay=0:0", ⟨"ov0"⟩⟩,
        ⟨.scale, [.stream 1 .video], "scale=640:360", ⟨"img0"⟩⟩,
        ⟨.overlay, [.label ⟨"missing"⟩, .label ⟨"img0"⟩], "overlay=1:1", ⟨"outv"⟩⟩]⟩
    let g' : Graph :=
      ⟨[⟨.overlay, [.label ⟨"img9"⟩, .label ⟨"img9"⟩], "overlay=0:0", ⟨"ov0"⟩⟩,
        ⟨.scale, [.stream 1 .video], "scale=640:360", ⟨"img9"⟩⟩,
        ⟨.overlay, [.label ⟨"missing"⟩, .label ⟨"img9"⟩], "overlay=1:1", ⟨"outv"⟩⟩]⟩
    g.outputs.Nodup ∧ ⟨"img9"⟩ ∉ g.outputs ∧ ⟨"img9"⟩ ∉ g.reads ∧
      g.renameOutput ⟨"img0"⟩ ⟨"img9"⟩ = (true, g') ∧ g.RenamedTo g' ⟨"img0"⟩ ⟨"img9"⟩ := by
  intro g g'
  have unique : g.outputs.Nodup := by decide
  have newOutput : ⟨"img9"⟩ ∉ g.outputs := by decide
  have newRead : ⟨"img9"⟩ ∉ g.reads := by decide
  have renamed : g.renameOutput ⟨"img0"⟩ ⟨"img9"⟩ = (true, g') := by decide
  have moved := (renameOutput_renamedTo g ⟨"img0"⟩ ⟨"img9"⟩ unique newOutput newRead).2.2
  rw [renamed] at moved
  exact ⟨unique, newOutput, newRead, renamed, moved rfl⟩

end Graph

end Compositor
