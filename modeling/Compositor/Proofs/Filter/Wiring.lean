import Compositor.Filter.Subtitles
import Compositor.Proofs.Filter.Labels
import Compositor.Proofs.Filter.Renaming
import Mathlib.Data.List.Perm.Basic

/-! # The wiring of filter graphs

A graph is wired when its outputs have different labels, every label is read behind
the filter that produces it, and the labels read, together with some labels that are
*loose*, are the outputs, each as often as it occurs there.  A label is thus an end of
one wire: adding a filter uses up loose labels and leaves its own output loose, and
renaming an output moves the wire along.

`Wired.push`, `Wired.rename` and `Wired.injectSubtitles` say so for the three changes
of a graph.
-/

namespace Compositor

namespace Graph

/-- Every label that a filter reads is produced by a filter before it. -/
def ReadsEarlier (g : Graph) : Prop :=
  ∀ before node after, g.nodes = before ++ node :: after →
    ∀ label ∈ node.reads, ∃ producer ∈ before, producer.output = label

/-- The graph is wired, up to labels that are still to be read. -/
structure Wired (g : Graph) (loose : List Label) : Prop where
  unique : g.outputs.Nodup
  earlier : g.ReadsEarlier
  balanced : (g.reads ++ loose).Perm g.outputs

theorem ReadsEarlier.empty : Graph.empty.ReadsEarlier := by
  intro before node after split
  cases before <;> cases split

theorem ReadsEarlier.push {g : Graph} (earlier : g.ReadsEarlier) {node : Node}
    (known : ∀ label ∈ node.reads, label ∈ g.outputs) : (g.push node).ReadsEarlier := by
  intro before m after split label mem
  rcases List.eq_nil_or_concat after with rfl | ⟨after', last, rfl⟩
  · -- The filter in question is the new one.
    have ends : g.nodes = before ∧ node = m := by
      simpa [Graph.push] using split
    obtain ⟨rfl, rfl⟩ := ends
    simpa [outputs] using known label mem
  · have ends : g.nodes = before ++ m :: after' ∧ node = last := by
      have split' : g.nodes ++ [node] = (before ++ m :: after') ++ [last] := by
        simpa [Graph.push] using split
      exact ⟨List.append_inj_left' split' rfl, List.singleton_inj.mp (List.append_inj_right' split' rfl)⟩
    exact earlier before m after' ends.1 label mem

theorem ReadsEarlier.relabel {g : Graph} (earlier : g.ReadsEarlier) (f : Label → Label) :
    (g.relabel f).ReadsEarlier := by
  intro before node after split label mem
  obtain ⟨before', rest, nodes, rfl, restEqual⟩ := List.map_eq_append_iff.mp split
  obtain ⟨node', after', rfl, rfl, rfl⟩ := List.map_eq_cons_iff.mp restEqual
  rw [Node.reads_relabel] at mem
  obtain ⟨label', mem', rfl⟩ := List.mem_map.mp mem
  obtain ⟨producer, producerMem, rfl⟩ := earlier before' node' after' nodes label' mem'
  exact ⟨producer.relabel f, List.mem_map_of_mem producerMem, rfl⟩

namespace Wired

variable {g : Graph} {loose : List Label}

theorem empty : Graph.empty.Wired [] where
  unique := List.nodup_nil
  earlier := .empty
  balanced := List.Perm.refl []

theorem perm (wired : g.Wired loose) {loose' : List Label} (perm : loose.Perm loose') :
    g.Wired loose' :=
  ⟨wired.unique, wired.earlier, (perm.symm.append_left g.reads).trans wired.balanced⟩

theorem mem_outputs (wired : g.Wired loose) {label : Label} :
    label ∈ g.outputs ↔ label ∈ g.reads ∨ label ∈ loose := by
  rw [← wired.balanced.mem_iff, List.mem_append]

/-- No label is read twice, and nothing reads a loose one. -/
theorem reads_loose_nodup (wired : g.Wired loose) : (g.reads ++ loose).Nodup :=
  wired.balanced.nodup_iff.mpr wired.unique

/-- A new filter uses up the labels that it reads and leaves its output loose. -/
theorem push (node : Node) (wired : g.Wired (node.reads ++ loose))
    (new : node.output ∉ g.outputs) : (g.push node).Wired (node.output :: loose) where
  unique := by
    rw [outputs_push, List.nodup_append]
    refine ⟨wired.unique, List.nodup_singleton _, ?_⟩
    intro label mem other memOther equal
    rw [List.mem_singleton.mp memOther] at equal
    exact new (equal ▸ mem)
  earlier := by
    apply wired.earlier.push
    intro label mem
    exact wired.mem_outputs.mpr (.inr (List.mem_append_left _ mem))
  balanced := by
    rw [outputs_push, reads_push, List.append_assoc]
    -- What the filter reads was loose before, and its output is loose now.
    have moved : (node.reads ++ node.output :: loose).Perm ((node.reads ++ loose) ++ [node.output]) := by
      rw [List.append_assoc]
      exact (List.perm_append_singleton _ _).symm.append_left node.reads
    have grown := wired.balanced.append_right [node.output]
    rw [List.append_assoc] at grown
    exact (moved.append_left g.reads).trans grown

theorem relabel (wired : g.Wired loose) {f : Label → Label}
    (injective : ∀ a ∈ g.outputs, ∀ b ∈ g.outputs, f a = f b → a = b) :
    (g.relabel f).Wired (loose.map f) where
  unique := by
    rw [outputs_relabel]
    exact List.Nodup.map_on injective wired.unique
  earlier := wired.earlier.relabel f
  balanced := by
    rw [outputs_relabel, reads_relabel, ← List.map_append]
    exact wired.balanced.map f

/-- A loose output is renamed to a new label, which is loose then. -/
theorem rename {source target : Label} (wired : g.Wired (source :: loose))
    (new : target ∉ g.outputs) :
    g.renameOutput source target = (true, g.relabel (Label.rename source target)) ∧
      (g.relabel (Label.rename source target)).Wired (target :: loose) := by
  have mem : source ∈ g.outputs := wired.mem_outputs.mpr (.inr List.mem_cons_self)
  refine ⟨renameOutput_eq_relabel wired.unique mem target, ?_⟩
  have relabelled := wired.relabel (Label.rename_injOn source new)
  have once := (List.nodup_append.mp wired.reads_loose_nodup).2.1
  have others : loose.map (Label.rename source target) = loose := by
    conv_rhs => rw [← List.map_id loose]
    apply List.map_congr_left
    intro label labelMem
    have different : label ≠ source := by
      rintro rfl
      exact (List.nodup_cons.mp once).1 labelMem
    exact if_neg different
  rw [List.map_cons, others, Label.rename, if_pos rfl] at relabelled
  exact relabelled

end Wired

/-! ## Subtitles -/

/-- The label between the finished video of a graph and its subtitles. -/
def interim (g : Graph) : Label := ((LabelAllocator.resume g).take .beforeSubtitles).1

/-- The graph with its finished video moved to the interim label. -/
def withInterim (g : Graph) : Graph := g.relabel (Label.rename Label.videoOut g.interim)

theorem videoOut_notMem_withInterim (g : Graph) : .videoOut ∉ g.withInterim.outputs :=
  source_notMem_relabel (Label.numbered_ne_videoOut _ _)

/-- New subtitles are drawn over the finished video, which is moved to the interim label. -/
theorem injectSubtitles_of_renamed {g g' : Graph} (noSubtitles : g.find? .subtitles = none)
    (renamed : g.renameOutput .videoOut g.interim = (true, g')) (s : Subtitles) (path : String) :
    g.injectSubtitles s path =
      g'.push ⟨.subtitles, [.label g.interim], s.filter path, .videoOut⟩ := by
  rw [interim] at renamed
  rw [injectSubtitles, noSubtitles]
  simp only [renamed]
  rfl

/-- Without a finished video they are drawn over the first input. -/
theorem injectSubtitles_of_notMem {g : Graph} (noSubtitles : g.find? .subtitles = none)
    (unfinished : .videoOut ∉ g.outputs) (s : Subtitles) (path : String) :
    g.injectSubtitles s path =
      g.push ⟨.subtitles, [.stream 0 .video], s.filter path, .videoOut⟩ := by
  rw [injectSubtitles, noSubtitles]
  simp only [renameOutput_of_notMem unfinished]
  rfl

def subtitlesNode (g : Graph) (s : Subtitles) (path : String) : Node :=
  ⟨.subtitles, [.label g.interim], s.filter path, Label.videoOut⟩

/-- In a graph without subtitles the finished video is moved to the interim label, and
    the subtitles are drawn over it. -/
theorem injectSubtitles_eq_of_mem {g : Graph} (unique : g.outputs.Nodup)
    (mem : Label.videoOut ∈ g.outputs) (noSubtitles : g.find? .subtitles = none)
    (s : Subtitles) (path : String) :
    g.injectSubtitles s path = g.withInterim.push (g.subtitlesNode s path) :=
  injectSubtitles_of_renamed noSubtitles (renameOutput_eq_relabel unique mem g.interim) s path

theorem Wired.injectSubtitles_eq {g : Graph} {loose : List Label}
    (wired : g.Wired (Label.videoOut :: loose)) (noSubtitles : g.find? .subtitles = none)
    (s : Subtitles) (path : String) :
    g.injectSubtitles s path = g.withInterim.push (g.subtitlesNode s path) :=
  injectSubtitles_eq_of_mem wired.unique (wired.mem_outputs.mpr (.inr List.mem_cons_self))
    noSubtitles s path

/-- Drawing subtitles keeps a graph wired, with the finished video loose again. -/
theorem Wired.injectSubtitles {g : Graph} {loose : List Label}
    (wired : g.Wired (Label.videoOut :: loose)) (noSubtitles : g.find? .subtitles = none)
    (new : g.interim ∉ g.outputs) (s : Subtitles) (path : String) :
    (g.injectSubtitles s path).Wired (Label.videoOut :: loose) := by
  rw [wired.injectSubtitles_eq noSubtitles]
  have moved : g.withInterim.Wired (g.interim :: loose) := (wired.rename new).2
  exact Wired.push (g.subtitlesNode s path) moved g.videoOut_notMem_withInterim

end Graph

end Compositor
