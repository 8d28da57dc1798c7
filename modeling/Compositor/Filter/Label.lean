import Compositor.Text.Blank

/-! # Labels of filter outputs

Every filter of a graph names its output by a label, and other filters read it by
that label.  Two labels are fixed: the finished video and the finished audio.
The others are numbered by an allocator, which keeps a counter for each kind.
-/

namespace Compositor

/-- The name of a filter's output. -/
structure Label where
  name : String
deriving DecidableEq

/-- What the output of a numbered label is. -/
inductive LabelKind where
  | scaledImage
  | overlay
  | text
  | kenBurns
  | beforeSubtitles
deriving DecidableEq

namespace LabelKind

/-- All kinds. -/
def all : List LabelKind := [scaledImage, overlay, text, kenBurns, beforeSubtitles]

/-- What stands before the ordinal in a label of the kind. -/
def stem : LabelKind → String
  | scaledImage => "img"
  | overlay => "ov"
  | text => "txt"
  | kenBurns => "kb"
  | beforeSubtitles => "presub"

end LabelKind

namespace Label

/-- The finished video. -/
def videoOut : Label := ⟨"outv"⟩

/-- The finished audio. -/
def audioOut : Label := ⟨"outa"⟩

/-- The label is one of the two finished outputs. -/
def isTerminal (label : Label) : Bool := label == videoOut || label == audioOut

/-- Ordinals are words of thirty-two bits. -/
def ordinalLimit : Nat := Nat.pow 2 32

/-- The numbered label of a kind. -/
def numbered (kind : LabelKind) (ordinal : Nat) : Label := ⟨kind.stem ++ toString ordinal⟩

/-- The value of a non-empty list of decimal digits. -/
def ordinal? (cs : List Char) : Option Nat :=
  if cs.isEmpty || !cs.all Char.isDigit then none
  else
    let n := Nat.ofDigitChars 10 cs 0
    if n < ordinalLimit then some n else none

/-- The ordinal of a label of the given kind. -/
def ordinalOf? (kind : LabelKind) (label : Label) : Option Nat :=
  let stem := kind.stem.toList
  let cs := label.name.toList
  if stem.isPrefixOf cs then ordinal? (cs.drop stem.length) else none

/-- The kind and ordinal of a label that has the form of a numbered one.  No stem
    is the beginning of another, so at most one kind fits. -/
def parse? (label : Label) : Option (LabelKind × Nat) :=
  LabelKind.all.findSome? fun kind => (label.ordinalOf? kind).map fun n => (kind, n)

/-- The label as it is written in a program. -/
def text (label : Label) : String := "[" ++ label.name ++ "]"

end Label

/-- Hands out numbered labels: for each kind the next ordinal. -/
structure LabelAllocator where
  next : LabelKind → Nat

namespace LabelAllocator

/-- Nothing handed out yet. -/
def fresh : LabelAllocator := ⟨fun _ => 0⟩

/-- The next label of a kind, and the allocator after it is handed out. -/
def take (a : LabelAllocator) (kind : LabelKind) : Label × LabelAllocator :=
  (Label.numbered kind (a.next kind),
    ⟨fun k => if k = kind then (a.next kind + 1) % Label.ordinalLimit else a.next k⟩)

end LabelAllocator

end Compositor
