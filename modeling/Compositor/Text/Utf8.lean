/-! # Text and bytes

Texts are written as UTF-8.  Reading bytes that are not well formed is lossy:
each longest part that could have been the start of a character, and each byte
that could not, is read as one replacement character.

Decoding is an automaton over the bytes.  Its state is the number of bytes that
are still missing from a character, the range of the next one and the value so
far; the range is narrower than usual after some first bytes, which keeps out
overlong forms, halves of surrogate pairs and values past the last code point.
-/

namespace Compositor.Text

/-- The bytes of a text. -/
def utf8 (s : String) : List UInt8 := s.toList.flatMap String.utf8EncodeChar

/-- A character that has begun but is not complete. -/
structure Unfinished where
  /-- How many bytes are missing. -/
  missing : Nat
  /-- The least value of the next byte. -/
  low : UInt8
  /-- The greatest value of the next byte. -/
  high : UInt8
  /-- The value of the bytes so far. -/
  value : Nat

/-- What a byte means that starts a character: a character by itself, the start of
    a longer one, or nothing. -/
inductive FirstByte where
  | complete (c : Char)
  | start (u : Unfinished)
  | invalid

/-- Classifies a byte that starts a character. -/
def firstByte (b : UInt8) : FirstByte :=
  if b < 0x80 then .complete (Char.ofNat b.toNat)
  else if b < 0xC2 then .invalid
  else if b < 0xE0 then .start ⟨1, 0x80, 0xBF, b.toNat - 0xC0⟩
  else if b = 0xE0 then .start ⟨2, 0xA0, 0xBF, 0⟩
  else if b = 0xED then .start ⟨2, 0x80, 0x9F, 13⟩
  else if b < 0xF0 then .start ⟨2, 0x80, 0xBF, b.toNat - 0xE0⟩
  else if b = 0xF0 then .start ⟨3, 0x90, 0xBF, 0⟩
  else if b < 0xF4 then .start ⟨3, 0x80, 0xBF, b.toNat - 0xF0⟩
  else if b = 0xF4 then .start ⟨3, 0x80, 0x8F, 4⟩
  else .invalid

/-- Reads bytes, where a character may have begun.  Each part that is not well
    formed is read as nothing. -/
def decodeFrom (state : Option Unfinished) : List UInt8 → List (Option Char)
  | [] =>
    match state with
    | none => []
    | some _ => [none]
  | b :: bs =>
    match state with
    | none => start b bs
    | some u =>
      if u.low ≤ b ∧ b ≤ u.high then
        let value := u.value * 64 + (b.toNat - 0x80)
        if u.missing = 1 then some (Char.ofNat value) :: decodeFrom none bs
        else decodeFrom (some ⟨u.missing - 1, 0x80, 0xBF, value⟩) bs
      else none :: start b bs
where
  /-- Reads a byte that starts a character, and what follows it. -/
  start (b : UInt8) (bs : List UInt8) : List (Option Char) :=
    match firstByte b with
    | .complete c => some c :: decodeFrom none bs
    | .start u => decodeFrom (some u) bs
    | .invalid => none :: decodeFrom none bs

/-- The text of bytes, with replacement characters where they are not well
    formed. -/
def decodeLossy (bs : List UInt8) : String :=
  String.ofList ((decodeFrom none bs).map fun c => c.getD '\uFFFD')

/-- The text of bytes, if they are well formed. -/
def decode? (bs : List UInt8) : Option String :=
  let cs := decodeFrom none bs
  if cs.all Option.isSome then some (String.ofList (cs.filterMap id)) else none

end Compositor.Text
