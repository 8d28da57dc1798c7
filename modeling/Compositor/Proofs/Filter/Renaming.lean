import Compositor.Filter.Graph
import Mathlib.Data.List.Nodup

/-! # Renaming the outputs of filter graphs

What a graph reads and produces, and what `Graph.renameOutput` does to it.  Renaming
touches one output and the pads that read it; in a graph whose outputs differ it
amounts to replacing one label by another throughout, which is `Graph.relabel`.
-/

namespace Compositor

/-! ## What is read and what is produced -/

/-- The labels that a filter reads, one for each pad. -/
def Node.reads (node : Node) : List Label := node.inputs.filterMap Pad.label?

namespace Graph

def outputs (g : Graph) : List Label := g.nodes.map Node.output

/-- The labels that are read, each as often as it is read. -/
def reads (g : Graph) : List Label := g.nodes.flatMap Node.reads

@[simp] theorem outputs_push (g : Graph) (node : Node) :
    (g.push node).outputs = g.outputs ++ [node.output] := by
  simp [outputs, push]

@[simp] theorem reads_push (g : Graph) (node : Node) :
    (g.push node).reads = g.reads ++ node.reads := by
  simp [reads, push]

end Graph

/-! ## Renaming labels -/

/-- The pad with its label replaced. -/
def Pad.relabel (f : Label → Label) : Pad → Pad
  | label l => label (f l)
  | stream input kind => stream input kind

def Node.relabel (f : Label → Label) (node : Node) : Node :=
  { node with inputs := node.inputs.map (Pad.relabel f), output := f node.output }

/-- The label that stands in the place of another one, which is to be renamed. -/
def Label.rename (source target label : Label) : Label := if label = source then target else label

theorem Node.reads_relabel (f : Label → Label) (node : Node) :
    (node.relabel f).reads = node.reads.map f := by
  simp only [reads, relabel, List.filterMap_map, List.map_filterMap]
  congr 1
  funext pad
  cases pad <;> rfl

theorem Label.rename_injOn (source : Label) {target : Label} {labels : List Label}
    (new : target ∉ labels) : ∀ a ∈ labels, ∀ b ∈ labels,
      rename source target a = rename source target b → a = b := by
  intro a memA b memB equal
  by_cases sameA : a = source <;> by_cases sameB : b = source
  · rw [sameA, sameB]
  · rw [rename, rename, if_pos sameA, if_neg sameB] at equal
    exact absurd (equal ▸ memB) new
  · rw [rename, rename, if_neg sameA, if_pos sameB] at equal
    exact absurd (equal ▸ memA) new
  · rwa [rename, rename, if_neg sameA, if_neg sameB] at equal

/-- A label that was renamed is gone. -/
theorem Label.notMem_map_rename {source target : Label} (different : target ≠ source)
    (labels : List Label) : source ∉ labels.map (rename source target) := by
  intro mem
  obtain ⟨label, -, equal⟩ := List.mem_map.mp mem
  by_cases same : label = source
  · rw [rename, if_pos same] at equal
    exact different equal
  · rw [rename, if_neg same] at equal
    exact same equal

namespace Graph

def relabel (f : Label → Label) (g : Graph) : Graph := ⟨g.nodes.map (Node.relabel f)⟩

@[simp] theorem outputs_relabel (f : Label → Label) (g : Graph) :
    (g.relabel f).outputs = g.outputs.map f := by
  simp [outputs, relabel, Function.comp_def, Node.relabel]

@[simp] theorem reads_relabel (f : Label → Label) (g : Graph) :
    (g.relabel f).reads = g.reads.map f := by
  simp [reads, relabel, List.flatMap_map, List.map_flatMap, Node.reads_relabel]

theorem source_notMem_relabel {g : Graph} {source target : Label} (different : target ≠ source) :
    source ∉ (g.relabel (Label.rename source target)).outputs := by
  rw [outputs_relabel]
  exact Label.notMem_map_rename different g.outputs

/-- What renaming an output does to the list of filters. -/
theorem renameOutput_eq_true {g g' : Graph} {source target : Label}
    (renamed : g.renameOutput source target = (true, g')) :
    ∃ index, g.producer? source = some index ∧
      g'.nodes = (g.nodes.modify index fun n => { n with output := target }).map fun n =>
        { n with inputs := n.inputs.map (Pad.rename source target) } := by
  rw [renameOutput] at renamed
  cases found : g.producer? source with
  | none =>
    rw [found] at renamed
    cases renamed
  | some index =>
    rw [found] at renamed
    cases renamed
    exact ⟨index, rfl, rfl⟩

/-- Whatever does not depend on labels stays as it is when an output is renamed. -/
theorem map_nodes_renameOutput {α : Type} {g g' : Graph} {source target : Label}
    (renamed : g.renameOutput source target = (true, g')) (f : Node → α)
    (ofOutput : ∀ node : Node, f { node with output := target } = f node)
    (ofInputs : ∀ node : Node,
      f { node with inputs := node.inputs.map (Pad.rename source target) } = f node) :
    g'.nodes.map f = g.nodes.map f := by
  obtain ⟨index, -, nodes⟩ := renameOutput_eq_true renamed
  rw [nodes, List.map_map]
  -- f does not see which labels are read, so only the change of the output is left.
  have unread : (f ∘ fun n : Node => { n with inputs := n.inputs.map (Pad.rename source target) }) = f :=
    funext ofInputs
  rw [unread]
  apply List.ext_getElem?
  intro i
  rw [List.getElem?_map, List.getElem?_map, List.getElem?_modify]
  split
  · cases g.nodes[i]? with
    | none => rfl
    | some node => exact congrArg some (ofOutput node)
  · cases g.nodes[i]? <;> rfl

theorem outputs_renameOutput {g g' : Graph} {source target : Label}
    (renamed : g.renameOutput source target = (true, g')) :
    ∃ index, g.producer? source = some index ∧
      g'.outputs = g.outputs.modify index fun _ => target := by
  obtain ⟨index, found, nodes⟩ := renameOutput_eq_true renamed
  refine ⟨index, found, ?_⟩
  rw [outputs, nodes, List.map_map, outputs]
  apply List.ext_getElem?
  intro i
  rw [List.getElem?_map, List.getElem?_modify, List.getElem?_modify, List.getElem?_map]
  by_cases same : index = i
  · cases g.nodes[i]? <;> simp [same]
  · cases g.nodes[i]? <;> simp [same]

theorem getElem?_of_producer? {g : Graph} {label : Label} {index : Nat}
    (found : g.producer? label = some index) : g.outputs[index]? = some label := by
  obtain ⟨bound, produces, -⟩ := List.findIdx?_eq_some_iff_getElem.mp found
  rw [outputs, List.getElem?_map, List.getElem?_eq_getElem bound]
  exact congrArg some (beq_iff_eq.mp produces)

theorem producer?_isSome {g : Graph} {label : Label} :
    (g.producer? label).isSome = true ↔ label ∈ g.outputs := by
  simp [producer?, List.findIdx?_isSome, outputs]

theorem producer?_eq_none {g : Graph} {label : Label} :
    g.producer? label = none ↔ label ∉ g.outputs := by
  rw [← producer?_isSome, Option.not_isSome_iff_eq_none]

theorem exists_renameOutput {g : Graph} {source : Label} (mem : source ∈ g.outputs)
    (target : Label) : ∃ g', g.renameOutput source target = (true, g') := by
  obtain ⟨index, found⟩ := Option.isSome_iff_exists.mp (producer?_isSome.mpr mem)
  exact ⟨_, by rw [renameOutput, found]⟩

/-- Without such an output nothing changes. -/
theorem renameOutput_of_notMem {g : Graph} {source : Label} (absent : source ∉ g.outputs)
    (target : Label) : g.renameOutput source target = (false, g) := by
  rw [renameOutput, producer?_eq_none.mpr absent]

theorem renameOutput_fst {g : Graph} {source target : Label} :
    (g.renameOutput source target).1 = true ↔ source ∈ g.outputs := by
  by_cases mem : source ∈ g.outputs
  · obtain ⟨g', renamed⟩ := exists_renameOutput mem target
    exact iff_of_true (congrArg Prod.fst renamed) mem
  · rw [renameOutput_of_notMem mem]
    exact iff_of_false Bool.false_ne_true mem

theorem target_mem_outputs {g g' : Graph} {source target : Label}
    (renamed : g.renameOutput source target = (true, g')) : target ∈ g'.outputs := by
  obtain ⟨index, found, outputs⟩ := outputs_renameOutput renamed
  have produced := getElem?_of_producer? found
  refine List.mem_iff_getElem?.mpr ⟨index, ?_⟩
  rw [outputs, List.getElem?_modify, produced]
  simp

/-- Other outputs neither come nor go when an output is renamed. -/
theorem mem_outputs_renameOutput {g g' : Graph} {source target label : Label}
    (renamed : g.renameOutput source target = (true, g')) (notSource : label ≠ source)
    (notTarget : label ≠ target) : label ∈ g'.outputs ↔ label ∈ g.outputs := by
  obtain ⟨index, found, outputs⟩ := outputs_renameOutput renamed
  have produced := getElem?_of_producer? found
  rw [outputs, List.mem_iff_getElem?, List.mem_iff_getElem?]
  constructor
  -- The index that changed holds the target, so the label occurs at another one.
  · rintro ⟨i, occurs⟩
    refine ⟨i, ?_⟩
    rw [List.getElem?_modify] at occurs
    by_cases same : index = i
    · subst same
      rw [produced] at occurs
      simp at occurs
      exact absurd occurs.symm notTarget
    · simpa [same] using occurs
  · rintro ⟨i, occurs⟩
    refine ⟨i, ?_⟩
    rw [List.getElem?_modify]
    have different : index ≠ i := by
      rintro rfl
      rw [produced] at occurs
      exact notSource (Option.some.inj occurs).symm
    simpa [different] using occurs

/-- Renaming an output of a graph whose outputs differ replaces that label everywhere. -/
theorem renameOutput_eq_relabel {g : Graph} {source : Label} (unique : g.outputs.Nodup)
    (mem : source ∈ g.outputs) (target : Label) :
    g.renameOutput source target = (true, g.relabel (Label.rename source target)) := by
  cases found : g.producer? source with
  | none => exact absurd mem (producer?_eq_none.mp found)
  | some index =>
    obtain ⟨bound, produces, -⟩ := List.findIdx?_eq_some_iff_getElem.mp found
    have produces' : g.nodes[index].output = source := beq_iff_eq.mp produces
    simp only [renameOutput, found]
    congr 2
    apply List.ext_getElem
    · simp
    · intro i boundL boundR
      have inputsEqual : ∀ n : Node, n.inputs.map (Pad.rename source target) =
          n.inputs.map (Pad.relabel (Label.rename source target)) := by
        intro n
        apply List.map_congr_left
        intro pad _
        cases pad <;> rfl
      have boundI : i < g.nodes.length := by simpa using boundR
      simp only [List.getElem_map, List.getElem_modify, Node.relabel, inputsEqual]
      -- Outputs differ, so only the filter that was found has the source as its output.
      by_cases same : index = i
      · subst same
        simp [Label.rename, produces']
      · have different : g.nodes[i].output ≠ source := by
          intro equal
          apply same
          have produced : g.outputs[index]? = some source := by
            rw [outputs, List.getElem?_map, List.getElem?_eq_getElem bound, Option.map_some, produces']
          have produced' : g.outputs[i]? = some source := by
            rw [outputs, List.getElem?_map, List.getElem?_eq_getElem boundI, Option.map_some, equal]
          have inside : index < g.outputs.length := (List.getElem?_eq_some_iff.mp produced).1
          exact (List.getElem?_inj inside unique).mp (produced.trans produced'.symm)
        simp [same, Label.rename, different]

end Graph

end Compositor
