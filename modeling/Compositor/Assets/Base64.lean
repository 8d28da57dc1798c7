/-! # Base64

Bytes are written with the sixty-four symbols of the standard alphabet, three
bytes as four symbols.  The last one or two bytes give two or three symbols, which
are filled up to four with the padding sign, and the bits that are left over are
zero.  Reading accepts exactly what writing gives.

A refusal names the first fault.  One fault is looked for before all others: a
single byte after the last full group that is no symbol.
-/

namespace Compositor.Base64

/-- Why a text is not the Base64 form of bytes.  Offsets count bytes. -/
inductive Error where
  /-- A byte that cannot stand at its place. -/
  | invalidSymbol (byte : UInt8) (offset : Nat)
  /-- The last group ends too early to denote a byte. -/
  | invalidLength (length : Nat)
  /-- The last group is not filled up to four. -/
  | invalidPadding
  /-- The bits that are left over are not zero. -/
  | invalidLastSymbol (byte : UInt8) (offset : Nat)
deriving DecidableEq

/-- The error's text. -/
def Error.message : Error → String
  | invalidSymbol byte offset =>
    "Invalid symbol " ++ toString byte.toNat ++ ", offset " ++ toString offset ++ "."
  | invalidLength length => "Invalid input length: " ++ toString length
  | invalidPadding => "Invalid padding"
  | invalidLastSymbol byte offset =>
    "Invalid last symbol " ++ toString byte.toNat ++ ", offset " ++ toString offset ++ "."

/-- A way of reading Base64. -/
abbrev Engine : Type := List UInt8 → Except Error (List UInt8)

/-! ## The alphabet -/

/-- The padding sign. -/
def padding : UInt8 := 61

/-- The value of a symbol. -/
def value? (b : UInt8) : Option Nat :=
  let n := b.toNat
  if 65 ≤ n ∧ n ≤ 90 then some (n - 65)
  else if 97 ≤ n ∧ n ≤ 122 then some (n - 97 + 26)
  else if 48 ≤ n ∧ n ≤ 57 then some (n - 48 + 52)
  else if n = 43 then some 62
  else if n = 47 then some 63
  else none

/-- The symbol of a value below sixty-four. -/
def symbol (v : Nat) : UInt8 :=
  if v < 26 then UInt8.ofNat (v + 65)
  else if v < 52 then UInt8.ofNat (v - 26 + 97)
  else if v < 62 then UInt8.ofNat (v - 52 + 48)
  else if v = 62 then 43
  else 47

/-! ## Writing -/

/-- The Base64 form of bytes. -/
def encode : List UInt8 → List UInt8
  | [] => []
  | [a] => [symbol (a.toNat / 4), symbol (a.toNat % 4 * 16), padding, padding]
  | [a, b] =>
    [symbol (a.toNat / 4), symbol (a.toNat % 4 * 16 + b.toNat / 16), symbol (b.toNat % 16 * 4),
      padding]
  | a :: b :: c :: rest =>
    symbol (a.toNat / 4) :: symbol (a.toNat % 4 * 16 + b.toNat / 16)
      :: symbol (b.toNat % 16 * 4 + c.toNat / 64) :: symbol (c.toNat % 64) :: encode rest

/-! ## Reading -/

/-- The value of a byte that must be a symbol. -/
def valueAt (offset : Nat) (b : UInt8) : Except Error Nat :=
  match value? b with
  | some v => .ok v
  | none => .error (.invalidSymbol b offset)

/-- The first byte of a group. -/
def byte1 (a b : Nat) : UInt8 := UInt8.ofNat (a * 4 + b / 16)

/-- The second byte of a group. -/
def byte2 (b c : Nat) : UInt8 := UInt8.ofNat (b % 16 * 16 + c / 4)

/-- The third byte of a group. -/
def byte3 (c d : Nat) : UInt8 := UInt8.ofNat (c % 4 * 64 + d)

/-- The symbols of the last group and the number of its padding signs.  A padding
    sign can stand only after two symbols, and after it only padding signs.  What
    else comes after it makes it the fault. -/
def lastSymbols (offset : Nat) (symbols : List Nat) (paddings : Nat) :
    List UInt8 → Except Error (List Nat × Nat)
  | [] => .ok (symbols, paddings)
  | b :: bs =>
    if b = padding then
      if symbols.length < 2 then .error (.invalidSymbol b (offset + symbols.length))
      else lastSymbols offset symbols (paddings + 1) bs
    else if 0 < paddings then .error (.invalidSymbol padding (offset + symbols.length))
    else
      match valueAt (offset + symbols.length) b with
      | .ok v => lastSymbols offset (symbols ++ [v]) paddings bs
      | .error e => .error e

/-- Reads the last group. -/
def decodeLast (offset : Nat) (bs : List UInt8) : Except Error (List UInt8) :=
  if bs.isEmpty then .ok []
  else do
    let (symbols, paddings) ← lastSymbols offset [] 0 bs
    -- One symbol has six bits, which are too few for a byte.
    if symbols.length < 2 then throw (.invalidLength (offset + symbols.length))
    else if symbols.length + paddings ≠ 4 then throw .invalidPadding
    else
      match symbols with
      | [a, b] =>
        -- Two symbols have twelve bits; the last four are left over.
        if b % 16 = 0 then pure [byte1 a b]
        else throw (.invalidLastSymbol (symbol b) (offset + 1))
      | [a, b, c] =>
        -- Three symbols have eighteen bits; the last two are left over.
        if c % 4 = 0 then pure [byte1 a b, byte2 b c]
        else throw (.invalidLastSymbol (symbol c) (offset + 2))
      | [a, b, c, d] => pure [byte1 a b, byte2 b c, byte3 c d]
      | _ => throw .invalidPadding

/-- Reads groups of four; the last group is what is left when no more than four
    bytes are. -/
def decodeFrom (offset : Nat) : List UInt8 → Except Error (List UInt8)
  | a :: b :: c :: d :: e :: rest => do
    let a ← valueAt offset a
    let b ← valueAt (offset + 1) b
    let c ← valueAt (offset + 2) c
    let d ← valueAt (offset + 3) d
    let bytes ← decodeFrom (offset + 4) (e :: rest)
    pure (byte1 a b :: byte2 b c :: byte3 c d :: bytes)
  | last => decodeLast offset last

/-- A single byte after the last full group that is no symbol, which no other
    fault takes precedence over. -/
def strayByte? (bs : List UInt8) : Option Error :=
  match bs.getLast? with
  | some b =>
    if bs.length % 4 = 1 ∧ b ≠ padding ∧ (value? b).isNone then
      some (.invalidSymbol b (bs.length - 1))
    else none
  | none => none

/-- The bytes of a Base64 text. -/
def decode : Engine := fun bs =>
  match strayByte? bs with
  | some e => .error e
  | none => decodeFrom 0 bs

end Compositor.Base64
