import Compositor.Text.Hex
import Compositor.Text.Split

/-! # Network addresses

An address is a number of thirty-two bits, written as four decimal bytes, or eight
pieces of sixteen bits, written in hexadecimal with colons between them.  In the
long form two colons stand for pieces that are zero, and the last two pieces may be
written as four decimal bytes.
-/

namespace Compositor

/-- A network address. -/
inductive Address where
  | short (value : Nat)
  | long (pieces : List Nat)
deriving DecidableEq

namespace Address

open Text (splitOn valueOf?)

/-! ## Reading -/

/-- A decimal byte without needless zeros. -/
def byte? (cs : List Char) : Option Nat :=
  if cs.isEmpty || 3 < cs.length || (cs.head? == some '0' && 1 < cs.length) then none
  else (valueOf? 10 cs).bind fun n => if n ≤ 255 then some n else none

/-- Four decimal bytes. -/
def bytes? (cs : List Char) : Option (Nat × Nat × Nat × Nat) := do
  match ← (splitOn '.' cs).mapM byte? with
  | [a, b, c, d] => some (a, b, c, d)
  | _ => none

/-- The value of an address in the short form. -/
def shortValue? (cs : List Char) : Option Nat :=
  (bytes? cs).map fun (a, b, c, d) => ((a * 256 + b) * 256 + c) * 256 + d

/-- A piece: up to four hexadecimal digits. -/
def piece? (cs : List Char) : Option Nat :=
  if cs.isEmpty || 4 < cs.length then none else valueOf? 16 cs

/-- Pieces between colons, the last two of which may be four bytes. -/
def pieces? (cs : List Char) : Option (List Nat) :=
  if cs.isEmpty then some []
  else
    let parts := splitOn ':' cs
    match parts.getLast? with
    | none => none
    | some last =>
      if last.contains '.' then do
        let front ← parts.dropLast.mapM piece?
        let (a, b, c, d) ← bytes? last
        pure (front ++ [a * 256 + b, c * 256 + d])
      else parts.mapM piece?

/-- The text before and after the first two colons that stand together. -/
def splitGap (before : List Char) : List Char → Option (List Char × List Char)
  | ':' :: ':' :: rest => some (before.reverse, rest)
  | c :: rest => splitGap (c :: before) rest
  | [] => none

/-- The pieces of an address in the long form.  A gap stands for one zero at
    least. -/
def longPieces? (cs : List Char) : Option (List Nat) :=
  match splitGap [] cs with
  | none => do
    let ps ← pieces? cs
    if ps.length = 8 then some ps else none
  | some (before, after) => do
    let front ← pieces? before
    let back ← pieces? after
    if before.contains '.' then none
    else if front.length + back.length ≤ 7 then
      some (front ++ List.replicate (8 - front.length - back.length) 0 ++ back)
    else none

/-- Reads an address in either form. -/
def parse? (s : String) : Option Address :=
  match shortValue? s.toList with
  | some n => some (.short n)
  | none => (longPieces? s.toList).map .long

/-! ## Writing -/

/-- The short form. -/
def shortText (n : Nat) : String :=
  ".".intercalate
    ([n / Nat.pow 256 3, n / Nat.pow 256 2 % 256, n / 256 % 256, n % 256].map fun b => toString b)

/-- The number of zeros at the start. -/
def leadingZeros (ps : List Nat) : Nat := (ps.takeWhile (· == 0)).length

/-- Start and length of the longest run of zeros, the first one of several. -/
def longestGap (ps : List Nat) : Nat × Nat :=
  (List.range ps.length).foldl
    (fun best i =>
      let n := leadingZeros (ps.drop i)
      if best.2 < n then (i, n) else best)
    (0, 0)

/-- Pieces with colons between them. -/
def joinPieces (ps : List Nat) : String :=
  ":".intercalate (ps.map fun n => String.ofList (Nat.toDigits 16 n))

/-- The long form, in which the longest run of at least two zeros is left out. -/
def longText (ps : List Nat) : String :=
  let (start, length) := longestGap ps
  if length < 2 then joinPieces ps
  else joinPieces (ps.take start) ++ "::" ++ joinPieces (ps.drop (start + length))

/-- The canonical text.  A long address that stands for a short one shows it. -/
def text : Address → String
  | short n => shortText n
  | long [0, 0, 0, 0, 0, 0xFFFF, a, b] => "::ffff:" ++ shortText (a * 65536 + b)
  | long ps => longText ps

end Address

end Compositor
