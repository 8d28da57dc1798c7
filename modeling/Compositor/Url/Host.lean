import Compositor.Text.Blank
import Compositor.Url.Address
import Compositor.Url.Name
import Compositor.Url.Percent

/-! # Hosts of URLs

A host is a name, an address of four bytes or an address of eight pieces, and has
one canonical text.  A name whose last label is a number has to be an address of
four bytes.
-/

namespace Compositor.Host

open Text (splitOn valueOf?)

/-! ## Names that are addresses -/

/-- A number of an address: decimal, octal after a zero, hexadecimal after `0x`. -/
def number? : List Char → Option Nat
  | [] => none
  | '0' :: 'x' :: ds => valueOf? 16 ds
  | '0' :: 'X' :: ds => valueOf? 16 ds
  | '0' :: d :: ds => valueOf? 8 (d :: ds)
  | ds => valueOf? 10 ds

/-- The labels of a name without the empty one after a last dot. -/
def labels (name : List Char) : List (List Char) :=
  let pieces := splitOn '.' name
  if pieces.getLast? == some [] && pieces.length > 1 then pieces.dropLast else pieces

/-- The last label of the name is a number. -/
def endsInNumber (name : List Char) : Bool :=
  match (labels name).getLast? with
  | some last => (!last.isEmpty && last.all Char.isDigit) || (number? last).isSome
  | none => false

/-- The value of an address: all numbers but the last are bytes, and the last one
    fills what is left. -/
def addressOf? (parts : List Nat) : Option Nat :=
  match parts.getLast? with
  | none => none
  | some last =>
    let bytes := parts.dropLast
    if 3 < bytes.length || bytes.any (fun b => decide (255 < b)) then none
    else if Nat.pow 256 (4 - bytes.length) ≤ last then none
    else
      some <|
        bytes.foldr (fun b (acc : Nat × Nat) => (acc.1 + b * acc.2, acc.2 * 256))
          (last, Nat.pow 256 (4 - bytes.length)) |>.1

/-- The address of a name that ends in a number. -/
def address? (name : List Char) : Option Nat := do
  let parts ← (labels name).mapM number?
  addressOf? parts

/-! ## Hosts -/

/-- Characters that cannot be part of any host. -/
def isForbidden (c : Char) : Bool :=
  ['\x00', '\t', '\n', '\r', ' ', '#', '/', ':', '<', '>', '?', '@', '[', '\\', ']', '^',
    '|'].contains c

/-- Characters that cannot be part of a name. -/
def isForbiddenInName (c : Char) : Bool :=
  isForbidden c || decide (c.toNat < 0x20) || c == '%' || decide (0x7F ≤ c.toNat)

/-- The canonical text of a host in brackets. -/
def bracketed? (cs : List Char) : Option String :=
  match cs.getLast? with
  | some ']' => (Address.longPieces? cs.dropLast).map fun ps => "[" ++ Address.longText ps ++ "]"
  | _ => none

/-- The canonical text of the host of a web URL. -/
def ofSpecial? (cs : List Char) : Option String :=
  match cs with
  | '[' :: rest => bracketed? rest
  | _ =>
    (Text.decode? (Percent.decode (Text.utf8 (String.ofList cs)))).bind fun written =>
      (HostName.toAscii? written.toList).bind fun name =>
        if name.isEmpty || name.any isForbiddenInName then none
        else if endsInNumber name then (address? name).map Address.shortText
        else some (String.ofList name)

/-- The canonical text of the host of another URL. -/
def ofPlain? (cs : List Char) : Option String :=
  match cs with
  | '[' :: rest => bracketed? rest
  | _ =>
    if cs.any isForbidden then none else some (String.ofList (Percent.encode Percent.inAny cs))

end Compositor.Host
