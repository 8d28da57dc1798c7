import Compositor.Json.Token

/-! # Writing JSON

Writes a data value without blanks between its tokens.  A real number always has
a point or an exponent, so that reading the text back keeps real and whole numbers
apart.  JSON has no text for what is not a finite number: it is written as `null`.
-/

namespace Compositor.Json

/-- A character inside a string. -/
def writeChar (c : Char) : List Char :=
  if c == '"' then ['\\', '"']
  else if c == '\\' then ['\\', '\\']
  else if c == '\x08' then ['\\', 'b']
  else if c == '\x0c' then ['\\', 'f']
  else if c == '\n' then ['\\', 'n']
  else if c == '\r' then ['\\', 'r']
  else if c == '\t' then ['\\', 't']
  else if c.toNat < 0x20 then
    ['\\', 'u', '0', '0', Text.lowerHex (c.toNat / 16), Text.lowerHex (c.toNat % 16)]
  else [c]

/-- A string with its quotes. -/
def writeString (s : String) : List Char := '"' :: (s.toList.flatMap writeChar ++ ['"'])

/-- A whole number. -/
def writeInteger (i : Int) : List Char :=
  if i < 0 then '-' :: Nat.toDigits 10 i.natAbs else Nat.toDigits 10 i.natAbs

/-- A positive real number.  It is written in positional notation, always with a
    point, from `10 ^ (-5)` up to `10 ^ 16`, and with an exponent elsewhere. -/
def writeDecimal (d : Decimal) : List Char :=
  let digits := Nat.toDigits 10 d.digits
  let point : Int := digits.length + d.exponent
  if -5 < point ∧ point ≤ 16 then
    if d.exponent < 0 then d.layout else d.layout ++ ['.', '0']
  else
    let fraction := if digits.length = 1 then [] else '.' :: digits.drop 1
    digits.take 1 ++ fraction ++ 'e' :: writeInteger (point - 1)

/-- A real number. -/
def writeReal (x : Double) : List Char :=
  if x.isFinite then
    let size := if x.isZero then "0.0".toList else writeDecimal (Double.shortest x.place)
    if x.negative then '-' :: size else size
  else "null".toList

mutual
/-- A data value. -/
def write : Datum → List Char
  | .null => "null".toList
  | .bool true => "true".toList
  | .bool false => "false".toList
  | .integer i => writeInteger i
  | .real x => writeReal x
  | .text s => writeString s
  | .list items => '[' :: (writeItems items ++ [']'])
  | .record members => '{' :: (writeMembers members ++ ['}'])
  | .unreadable => "null".toList
  | .broken => "null".toList
termination_by structural d => d

/-- The items of a list, with commas between them. -/
def writeItems : List Datum → List Char
  | [] => []
  | [d] => write d
  | d :: ds => write d ++ ',' :: writeItems ds
termination_by structural ds => ds

/-- The members of a record, with commas between them. -/
def writeMembers : List (Option String × Datum) → List Char
  | [] => []
  | [m] => writeMember m
  | m :: ms => writeMember m ++ ',' :: writeMembers ms
termination_by structural ms => ms

/-- A member of a record. -/
def writeMember : Option String × Datum → List Char
  | (name, d) => writeString (name.getD "") ++ ':' :: write d
termination_by structural m => m
end

/-- The text of a data value. -/
def encode (d : Datum) : String := String.ofList (write d)

end Compositor.Json
