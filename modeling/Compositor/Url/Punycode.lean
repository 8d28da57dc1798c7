/-! # Punycode

A label of any characters is written with letters, digits and hyphens: first its
ASCII characters with a hyphen after them, then the others, each as the number of
places that are passed on the way to it.  A place is a code point together with a
position in the label so far, and places are taken in order, code points first.
A number is written in digits of growing weight, and what weight the next number
starts with depends on the numbers before it.
-/

namespace Compositor.Punycode

/-! ## Digits -/

/-- The value of a digit: letters, then digits. -/
def digit? (c : Char) : Option Nat :=
  if 'a' ≤ c ∧ c ≤ 'z' then some (c.toNat - 'a'.toNat)
  else if '0' ≤ c ∧ c ≤ '9' then some (c.toNat - '0'.toNat + 26)
  else none

/-- The digit of a value. -/
def digitOf (n : Nat) : Char :=
  if n < 26 then Char.ofNat ('a'.toNat + n) else Char.ofNat ('0'.toNat + (n - 26))

/-- The number of digits. -/
def base : Nat := 36

/-- A digit below the threshold ends its number. -/
def threshold (bias position : Nat) : Nat := max 1 (min 26 (position - bias))

theorem one_le_threshold (bias position : Nat) : 1 ≤ threshold bias position := by
  simp only [threshold]
  omega

/-- How often a number is divided before it is small, times the number of digits,
    and what is left of it. -/
def shrink (n position : Nat) : Nat × Nat :=
  if 455 < n then shrink (n / 35) (position + base) else (position, n)
termination_by n

/-- The bias after a number, of which so many have been written. -/
def adapt (number count : Nat) (isFirst : Bool) : Nat :=
  let scaled := if isFirst then number / 700 else number / 2
  let (position, rest) := shrink (scaled + scaled / count) 0
  position + base * rest / (rest + 38)

/-- The bias before the first number. -/
def firstBias : Nat := 72

/-! ## Reading -/

/-- A number being read. -/
structure Reading where
  bias : Nat
  position : Nat
  weight : Nat
  value : Nat

/-- A number of which nothing is read. -/
def Reading.start (bias : Nat) : Reading := ⟨bias, base, 1, 0⟩

/-- The numbers that digits stand for, in a label with so many characters. -/
def numbersFrom? (r : Reading) (isFirst : Bool) (count : Nat) : List Char → Option (List Nat)
  | [] => if r.position = base then some [] else none
  | c :: cs => do
    let d ← digit? c
    let value := r.value + d * r.weight
    let limit := threshold r.bias r.position
    if d < limit then
      let rest ← numbersFrom? (.start (adapt value (count + 1) isFirst)) false (count + 1) cs
      pure (value :: rest)
    else
      numbersFrom? ⟨r.bias, r.position + base, r.weight * (base - limit), value⟩ isFirst count cs

/-- The label with the characters put in that numbers stand for, from a place on. -/
def insertAll? (label : List Char) (code position : Nat) : List Nat → Option (List Char)
  | [] => some label
  | number :: rest =>
    let width := label.length + 1
    let code' := code + (position + number) / width
    let position' := (position + number) % width
    if code'.isValidChar then
      insertAll? (label.take position' ++ Char.ofNat code' :: label.drop position') code'
        (position' + 1) rest
    else none

/-- The ASCII characters before the last hyphen, and the digits after it. -/
def splitLast (cs : List Char) : List Char × List Char :=
  match cs.reverse.span (· != '-') with
  | (_, []) => ([], cs)
  -- A hyphen at the start is no hyphen between two parts.
  | (_, [_]) => ([], cs)
  | (digits, _ :: front) => (front.reverse, digits.reverse)

/-- The first code point outside ASCII. -/
def firstCode : Nat := 0x80

/-- The label that a text stands for. -/
def decode? (cs : List Char) : Option (List Char) := do
  let (front, digits) := splitLast cs
  let numbers ← numbersFrom? (.start firstBias) true front.length digits
  insertAll? front firstCode 0 numbers

/-! ## Writing -/

/-- The digits of a number. -/
def digitsOf (bias position n : Nat) : List Char :=
  let limit := threshold bias position
  if n < limit then [digitOf n]
  else
    digitOf (limit + (n - limit) % (base - limit))
      :: digitsOf bias (position + base) ((n - limit) / (base - limit))
termination_by n
decreasing_by
  have := one_le_threshold bias position
  exact Nat.lt_of_le_of_lt (Nat.div_le_self _ _) (by omega)

/-- A label being written: the digits so far, the bias, the number of characters
    that are written, whether none of them has a number, and the number of places
    passed. -/
structure Writing where
  digits : List Char
  bias : Nat
  count : Nat
  isFirst : Bool
  passed : Nat

/-- Goes past one character of the label on the way to a code point. -/
def Writing.pass (code : Nat) (w : Writing) (c : Char) : Writing :=
  if c.toNat < code then { w with passed := w.passed + 1 }
  else if c.toNat = code then
    { digits := w.digits ++ digitsOf w.bias base w.passed
      bias := adapt w.passed (w.count + 1) w.isFirst
      count := w.count + 1, isFirst := false, passed := 0 }
  else w

/-- Writes the characters of the code points given, from a code point on. -/
def writeFrom (label : List Char) (w : Writing) (code : Nat) : List Nat → Writing
  | [] => w
  | next :: rest =>
    let w := { w with passed := w.passed + (next - code) * (w.count + 1) }
    let w := label.foldl (Writing.pass next) w
    writeFrom label { w with passed := w.passed + 1 } (next + 1) rest

/-- The text of a label. -/
def encode (label : List Char) : List Char :=
  let plain := label.filter fun c => decide (c.toNat < firstCode)
  let codes := (label.map Char.toNat).filter fun n => decide (firstCode ≤ n)
  let front := if plain.isEmpty then [] else plain ++ ['-']
  front
    ++ (writeFrom label ⟨[], firstBias, plain.length, true, 0⟩ firstCode
        (codes.mergeSort (fun a b => decide (a ≤ b))).eraseDups).digits

end Compositor.Punycode
