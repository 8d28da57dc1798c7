import Compositor.Text.Hex
import Compositor.Text.Utf8

/-! # Percent-encoding

In a URL a byte can be written as a percent sign and two hexadecimal digits.
Which characters have to be written so depends on the part of the URL.
-/

namespace Compositor.Percent

/-- A byte as a percent sign and two digits. -/
def encodeByte (b : UInt8) : List Char :=
  ['%', Text.upperHex (b.toNat / 16), Text.upperHex (b.toNat % 16)]

/-- A text in which the characters of a class are encoded. -/
def encode (reserved : Char → Bool) (cs : List Char) : List Char :=
  cs.flatMap fun c =>
    if reserved c then (String.utf8EncodeChar c).flatMap encodeByte else [c]

/-- The value of a hexadecimal digit that is a byte. -/
def digit? (b : UInt8) : Option Nat :=
  if b < 0x80 then Text.hexValue? (Char.ofNat b.toNat) else none

/-- The bytes of an encoded text.  A percent sign without two digits after it
    stands for itself. -/
def decode : List UInt8 → List UInt8
  | [] => []
  | [a] => [a]
  | [a, b] => [a, b]
  | a :: b :: c :: rest =>
    if a = 0x25 then
      match digit? b, digit? c with
      | some m, some n => UInt8.ofNat (m * 16 + n) :: decode rest
      | _, _ => a :: decode (b :: c :: rest)
    else a :: decode (b :: c :: rest)

/-! ## Classes of characters -/

/-- Control characters and all that is not ASCII. -/
def inAny (c : Char) : Bool := decide (c.toNat < 0x20) || decide (0x7F ≤ c.toNat)

/-- Encoded in a fragment. -/
def inFragment (c : Char) : Bool :=
  inAny c || c == ' ' || c == '"' || c == '<' || c == '>' || c == '`'

/-- Encoded in a path. -/
def inPath (c : Char) : Bool :=
  inFragment c || c == '#' || c == '?' || c == '{' || c == '}'

/-- Encoded in a query. -/
def inQuery (c : Char) : Bool :=
  inAny c || c == ' ' || c == '"' || c == '#' || c == '<' || c == '>'

/-- Encoded in a query of a web scheme. -/
def inSpecialQuery (c : Char) : Bool := inQuery c || c == '\''

/-- Encoded in a user name or a password. -/
def inUserinfo (c : Char) : Bool :=
  inPath c || c == '/' || c == ':' || c == ';' || c == '=' || c == '@' || c == '[' || c == '\\'
    || c == ']' || c == '^' || c == '|'

end Compositor.Percent
