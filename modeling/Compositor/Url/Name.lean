import Compositor.Text.Split
import Compositor.Url.Name.Direction
import Compositor.Url.Name.Joiner
import Compositor.Url.Name.Mapping
import Compositor.Url.Punycode

/-! # Names of hosts

A name is a list of labels with dots between them.  It may be written with characters
of any script, in one of several ways; its canonical text is ASCII.  To get it each
character is replaced by what it stands for, the text is put into the composed normal
form, and each label outside ASCII is written in Punycode after a mark.  A label that
has this mark already must be what would have been written.
-/

namespace Compositor.HostName

/-- What starts a label in Punycode. -/
def mark : List Char := "xn--".toList

/-- The longest label that is written in Punycode. -/
def longestLabel : Nat := 1000

/-- The longest text in Punycode that is read. -/
def longestCode : Nat := 2000

/-- The characters are all ASCII. -/
def isAscii (cs : List Char) : Bool := cs.all fun c => decide (c.toNat < 0x80)

/-- The text of a name with each character replaced by what it stands for, in the
    composed normal form. -/
def canonical? (cs : List Char) : Option (List Char) := do
  let targets ← cs.mapM target?
  pure (Text.normalForm targets.flatten)

/-- A label outside ASCII that can be part of a name. -/
def isLabel (label : List Char) : Bool :=
  label.all isOwnTarget && Text.normalForm label == label && joinersFit [] label
    && (match label with
      | c :: _ => !Text.isMark c
      | [] => true)

/-- A label as it is read, and as it is written. -/
structure Label where
  shown : List Char
  written : List Char

/-- Reads a label. -/
def label? (cs : List Char) : Option Label :=
  if mark.isPrefixOf cs then
    let code := cs.drop mark.length
    if longestCode < code.length then none
    else
      (Punycode.decode? code).bind fun shown =>
        if isAscii shown || mark.isPrefixOf shown || !isLabel shown then none
        else some ⟨shown, cs⟩
  else if isAscii cs then some ⟨cs, cs⟩
  else if isLabel cs && decide (cs.length ≤ longestLabel) then
    some ⟨cs, mark ++ Punycode.encode cs⟩
  else none

/-- The canonical text of a name. -/
def toAscii? (cs : List Char) : Option (List Char) := do
  let text ← canonical? cs
  let labels ← (Text.splitOn '.' text).mapM label?
  if isBidirectional (labels.map Label.shown) && !labels.all (fun l => runsOneWay l.shown) then
    none
  else pure ((labels.map Label.written).intersperse ['.']).flatten

end Compositor.HostName
