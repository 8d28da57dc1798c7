import Compositor.Filter.Label

/-! # Filter graphs

A filter graph is a list of filters.  Each reads some pads, which are streams of
the engine's inputs or outputs of other filters, and has one labelled output.
All changes are made on the list; `Graph.program` turns it into the engine's
text at the very end.
-/

namespace Compositor

/-- The two kinds of streams. -/
inductive StreamKind where
  | video
  | audio
deriving DecidableEq

/-- What a filter reads. -/
inductive Pad where
  /-- A stream of the input with the given index. -/
  | stream (input : Nat) (kind : StreamKind)
  /-- The output of another filter. -/
  | label (label : Label)
deriving DecidableEq

namespace Pad

/-- The label that the pad reads, if it reads one. -/
def label? : Pad → Option Label
  | label l => some l
  | stream _ _ => none

/-- The pad as it is written in a program. -/
def text : Pad → String
  | stream input .video => s!"[{input}:v]"
  | stream input .audio => s!"[{input}:a]"
  | label l => l.text

/-- The pad, with one label replaced by another. -/
def rename (source target : Label) : Pad → Pad
  | label l => label (if l = source then target else l)
  | stream input kind => stream input kind

end Pad

/-- What a filter is for. -/
inductive NodeKind where
  | scale
  | kenBurns
  | overlay
  | drawText
  | subtitles
  | passThrough
  | audioMix
deriving DecidableEq

/-- A filter of a graph. -/
structure Node where
  kind : NodeKind
  inputs : List Pad
  /-- The filter with its options, in the engine's language. -/
  filter : String
  output : Label
deriving DecidableEq

/-- The filter as it is written in a program. -/
def Node.text (node : Node) : String :=
  String.join (node.inputs.map Pad.text) ++ node.filter ++ node.output.text

/-- A list of filters. -/
structure Graph where
  nodes : List Node
deriving DecidableEq

namespace Graph

/-- The graph without filters. -/
def empty : Graph := ⟨[]⟩

/-- Adds a filter at the end. -/
def push (g : Graph) (node : Node) : Graph := ⟨g.nodes ++ [node]⟩

/-- The index of the first filter with the given output. -/
def producer? (g : Graph) (label : Label) : Option Nat :=
  g.nodes.findIdx? fun n => n.output == label

/-- How many filters of a kind there are. -/
def count (g : Graph) (kind : NodeKind) : Nat := g.nodes.countP fun n => n.kind == kind

/-- The index of the first filter of a kind. -/
def find? (g : Graph) (kind : NodeKind) : Option Nat := g.nodes.findIdx? fun n => n.kind == kind

/-- Replaces the text of the filter at an index. -/
def setFilter (g : Graph) (index : Nat) (filter : String) : Graph :=
  ⟨g.nodes.modify index fun n => { n with filter := filter }⟩

/-- Gives a new label to the first filter with the given output and to every pad
    that reads it.  The answer says whether there is such a filter; if there is
    none nothing changes. -/
def renameOutput (g : Graph) (source target : Label) : Bool × Graph :=
  match g.producer? source with
  | none => (false, g)
  | some index =>
    (true,
      ⟨(g.nodes.modify index fun n => { n with output := target }).map fun n =>
        { n with inputs := n.inputs.map (Pad.rename source target) }⟩)

/-- The ordinals of the outputs of a kind. -/
def ordinals (g : Graph) (kind : LabelKind) : List Nat :=
  g.nodes.filterMap fun n => n.output.ordinalOf? kind

/-- The greatest ordinal of the outputs of a kind. -/
def highestOrdinal? (g : Graph) (kind : LabelKind) : Option Nat := (g.ordinals kind).max?

/-- The graph as the engine reads it. -/
def program (g : Graph) : String := String.intercalate ";" (g.nodes.map Node.text)

end Graph

/-- An allocator whose labels come after all of a graph. -/
def LabelAllocator.resume (g : Graph) : LabelAllocator where
  next kind :=
    match g.highestOrdinal? kind with
    | some n => (n + 1) % Label.ordinalLimit
    | none => 0

end Compositor
