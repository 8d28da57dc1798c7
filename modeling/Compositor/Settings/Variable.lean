import Compositor.Datum.Merge
import Compositor.Text.Blank
import Compositor.Toml.Scan

/-! # Values of environment variables

The value of a variable is read as data: a truth value, a number, a text in double
quotes, a character in single quotes, a list in brackets or a record in braces.
Quotes can be left out where a text has no brackets, braces and commas.  A value that
cannot be read so is a text as it stands.
-/

namespace Compositor.Variable

open Toml (Scan)

/-! ## Characters -/

/-- White space between the parts of a value. -/
def isSpace (c : Char) : Bool :=
  c == ' ' || c == '\t' || c == '\n' || c == '\x0c' || c == '\r'

/-- Drops white space. -/
def skipSpace (cs : List Char) : List Char := cs.dropWhile isSpace

/-- A character that ends a text without quotes. -/
def isSeparator (c : Char) : Bool :=
  c == ',' || c == '[' || c == ']' || c == '\x7b' || c == '\x7d'

/-- A character of a name without quotes. -/
def isNameChar (c : Char) : Bool := c.isAlphanum || c == '_' || c == '-'

/-! ## Numbers -/

/-- A whole number of digits. -/
def natural? (cs : List Char) : Option Nat :=
  if cs.isEmpty then none else Text.valueOf? 10 cs

/-- A whole number with or without a sign. -/
def integer? : List Char → Option Int
  | '+' :: cs => (natural? cs).map fun n => (n : Int)
  | '-' :: cs => (natural? cs).map fun n => -(n : Int)
  | cs => (natural? cs).map fun n => (n : Int)

/-- A number with a point and perhaps an exponent. -/
def real? (cs : List Char) : Option Double := do
  let (negative, cs) := Toml.sign cs
  let (whole, rest) := cs.span Char.isDigit
  match rest with
  | '.' :: rest =>
    let (places, rest) := rest.span Char.isDigit
    if whole.isEmpty && places.isEmpty then none
    else
      let exponent ← match rest with
        | [] => some 0
        | e :: rest => if e == 'e' || e == 'E' then integer? rest else none
      some (.ofDecimal negative (Text.decimalValue (whole ++ places)) (exponent - places.length))
  | _ => none

/-- What a text without quotes is read as. -/
def plain (cs : List Char) : Datum :=
  let cs := Text.trimChars cs
  match real? cs with
  | some x => .real x
  | none =>
    match integer? cs with
    | some i =>
      if -(Nat.pow 2 63) ≤ i ∧ i < Nat.pow 2 64 then .integer i else .text (String.ofList cs)
    | none => .text (String.ofList cs)

/-! ## Values -/

/-- A text in double quotes. -/
def quoted? : Scan String
  | '"' :: cs => Toml.basicBody (cs.length + 1) [] cs
  | _ => none

/-- A name of a member. -/
def name? (cs : List Char) : Option (String × List Char) :=
  match cs with
  | '"' :: _ => quoted? cs
  | _ =>
    match cs.span isNameChar with
    | ([], _) => none
    | (name, rest) => some (String.ofList name, rest)

/-- The items of a list after its opening bracket.  A comma may follow the last
    one. -/
def items (value : Scan Datum) : Nat → Scan (List Datum)
  | 0, _ => none
  | _ + 1, ']' :: rest => some ([], rest)
  | fuel + 1, cs => do
    let (d, rest) ← value cs
    match rest with
    | ',' :: rest => (items value fuel rest).map fun r => (d :: r.1, r.2)
    | ']' :: rest => some ([d], rest)
    | _ => none

/-- The members of a record after its opening brace, added to those before.  A comma
    may follow the last one; of two members of one name the later one counts. -/
def members (value : Scan Datum) :
    Nat → List (Option String × Datum) → Scan (List (Option String × Datum))
  | 0, _, _ => none
  | _ + 1, done, '\x7d' :: rest => some (done, rest)
  | fuel + 1, done, cs => do
    let (name, rest) ← name? (skipSpace cs)
    match skipSpace rest with
    | '=' :: rest => do
      let (d, rest) ← value rest
      let done := Datum.setMember (some name) (fun _ => d) done
      match rest with
      | ',' :: rest => members value fuel done rest
      | '\x7d' :: rest => some (done, rest)
      | _ => none
    | _ => none

/-- What a value starts with, without white space around it. -/
def core? (value : Scan Datum) (cs : List Char) : Option (Datum × List Char) :=
  match cs with
  | 't' :: 'r' :: 'u' :: 'e' :: rest => some (.bool true, rest)
  | 'f' :: 'a' :: 'l' :: 's' :: 'e' :: rest => some (.bool false, rest)
  | '[' :: rest => (items value (rest.length + 1) rest).map fun r => (.list r.1, r.2)
  | '\x7b' :: rest =>
    (members value (rest.length + 1) [] rest).map fun r => (.record r.1, r.2)
  | '"' :: _ => (quoted? cs).map fun r => (.text r.1, r.2)
  | '\'' :: c :: '\'' :: rest => some (.text c.toString, rest)
  | '\'' :: _ => none
  | _ =>
    let (text, rest) := cs.span fun c => !isSeparator c
    some (plain text, rest)

/-- A value with white space around it, nested less than `depth` deep. -/
def value? : Nat → Scan Datum
  | 0, _ => none
  | depth + 1, cs => (core? (value? depth) (skipSpace cs)).map fun r => (r.1, skipSpace r.2)

/-- What the value of a variable is read as. -/
def read (s : String) : Datum :=
  let cs := s.toList
  -- Each level of nesting takes a character.
  match value? (cs.length + 1) cs with
  | some (d, []) => d
  | _ => .text s

end Compositor.Variable
