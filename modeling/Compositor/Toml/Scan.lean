import Compositor.Datum.Basic
import Compositor.Text.Hex

/-! # Pieces of a TOML text

A scanner takes a piece off the front of a text, or refuses it.  This module has
the scanners for blanks, comments, strings, keys and scalars.

The grammar is that of TOML 1.0.  Dates and times are checked but mean nothing to
this program: a date is read as a record with its text.
-/

namespace Compositor.Toml

/-- Takes a piece off the front of a text. -/
abbrev Scan (α : Type) : Type := List Char → Option (α × List Char)

/-! ## Blanks and comments -/

/-- A blank within a line. -/
def isBlank (c : Char) : Bool := c == ' ' || c == '\t'

/-- Drops the blanks at the front. -/
def skipBlanks (cs : List Char) : List Char := cs.dropWhile isBlank

/-- A control character that may not stand in a comment or a string. -/
def isControl (c : Char) : Bool := (decide (c.toNat < 0x20) && c != '\t') || c.toNat == 0x7F

/-- A line end, if there is one at the front. -/
def lineEnd? : List Char → Option (List Char)
  | '\n' :: cs => some cs
  | '\r' :: '\n' :: cs => some cs
  | _ => none

/-- Drops a comment, up to the end of its line. -/
def skipComment : List Char → List Char
  | '#' :: cs => cs.dropWhile fun c => !isControl c
  | cs => cs

/-- What may follow a complete entry on its line: blanks, a comment and the line
    end, or the end of the text. -/
def restOfLine? (cs : List Char) : Option (List Char) :=
  match skipComment (skipBlanks cs) with
  | [] => some []
  | cs => lineEnd? cs

/-- Drops blanks, comments and line ends.  Each round drops a line end. -/
def skipLines : Nat → List Char → List Char
  | 0, cs => cs
  | fuel + 1, cs =>
    let cs := skipComment (skipBlanks cs)
    match lineEnd? cs with
    | some rest => skipLines fuel rest
    | none => cs

/-- Drops blanks, comments and line ends. -/
def skipSpace (cs : List Char) : List Char := skipLines (cs.length + 1) cs

/-! ## Strings -/

/-- The character of a hexadecimal code. -/
def codeChar? (digits : List Char) : Option Char := do
  let n ← digits.foldlM (fun n c => (Text.hexValue? c).map fun d => n * 16 + d) 0
  if h : n.isValidChar then some (Char.ofNatAux n h) else none

/-- A character after a backslash. -/
def escape? : Scan Char
  | 'b' :: cs => some ('\x08', cs)
  | 't' :: cs => some ('\t', cs)
  | 'n' :: cs => some ('\n', cs)
  | 'f' :: cs => some ('\x0c', cs)
  | 'r' :: cs => some ('\r', cs)
  | '"' :: cs => some ('"', cs)
  | '\\' :: cs => some ('\\', cs)
  | 'u' :: cs =>
    if cs.length < 4 then none else (codeChar? (cs.take 4)).map fun c => (c, cs.drop 4)
  | 'U' :: cs =>
    if cs.length < 8 then none else (codeChar? (cs.take 8)).map fun c => (c, cs.drop 8)
  | _ => none

/-- The rest of a string in double quotes. -/
def basicBody : Nat → List Char → Scan String
  | 0, _, _ => none
  | _ + 1, _, [] => none
  | fuel + 1, done, c :: cs =>
    if c == '"' then some (String.ofList done.reverse, cs)
    else if c == '\\' then (escape? cs).bind fun r => basicBody fuel (r.1 :: done) r.2
    else if isControl c then none
    else basicBody fuel (c :: done) cs

/-- The rest of a string in single quotes. -/
def literalBody (cs : List Char) : Option (String × List Char) :=
  match cs.span fun c => c != '\'' && !isControl c with
  | (s, '\'' :: rest) => some (String.ofList s, rest)
  | _ => none

/-- Three quotes that end a string of several lines, with the quotes before them
    that belong to it. -/
def closing? (quote : Char) (cs : List Char) : Option (List Char × List Char) :=
  let quotes := cs.takeWhile (· == quote)
  if quotes.length < 3 then none
  else
    let extra := Nat.min (quotes.length - 3) 2
    some (quotes.take extra, cs.drop (extra + 3))

/-- Drops the blanks and line ends after a backslash that ends a line. -/
def skipFold : Nat → List Char → List Char
  | 0, cs => cs
  | fuel + 1, cs =>
    let cs := skipBlanks cs
    match lineEnd? cs with
    | some rest => skipFold fuel rest
    | none => cs

/-- The rest of a string of several lines.  A line end is a line feed however it is
    written. -/
def longBody (quote : Char) : Nat → List Char → Scan String
  | 0, _, _ => none
  | fuel + 1, done, cs =>
    match closing? quote cs with
    | some (extra, rest) => some (String.ofList (done.reverse ++ extra), rest)
    | none =>
      match cs with
      | [] => none
      | c :: rest =>
        match lineEnd? cs with
        | some rest => longBody quote fuel ('\n' :: done) rest
        | none =>
          if c == '\\' && quote == '"' then
            match lineEnd? (skipBlanks rest) with
            | some _ => longBody quote fuel done (skipFold rest.length rest)
            | none => (escape? rest).bind fun r => longBody quote fuel (r.1 :: done) r.2
          else if isControl c then none
          else longBody quote fuel (c :: done) rest

/-- A string, in any of the four notations. -/
def string? : Scan String
  | '"' :: '"' :: '"' :: cs =>
    let cs := (lineEnd? cs).getD cs
    longBody '"' (cs.length + 1) [] cs
  | '\'' :: '\'' :: '\'' :: cs =>
    let cs := (lineEnd? cs).getD cs
    longBody '\'' (cs.length + 1) [] cs
  | '"' :: cs => basicBody (cs.length + 1) [] cs
  | '\'' :: cs => literalBody cs
  | _ => none

/-! ## Keys -/

/-- A character of a key without quotes. -/
def isKeyChar (c : Char) : Bool := c.isAlphanum || c == '-' || c == '_'

/-- One part of a key. -/
def simpleKey? (cs : List Char) : Option (String × List Char) :=
  match cs with
  | '"' :: cs => basicBody (cs.length + 1) [] cs
  | '\'' :: cs => literalBody cs
  | _ =>
    match cs.span isKeyChar with
    | ([], _) => none
    | (name, rest) => some (String.ofList name, rest)

/-- A key: parts with dots between them, and blanks around the parts. -/
def keyParts : Nat → Scan (List String)
  | 0, _ => none
  | fuel + 1, cs => do
    let (name, rest) ← simpleKey? (skipBlanks cs)
    match skipBlanks rest with
    | '.' :: rest => (keyParts fuel rest).map fun r => (name :: r.1, r.2)
    | rest => some ([name], rest)

/-- The most parts of a key, less one. -/
def keyLimit : Nat := 79

/-- A key. -/
def key? (cs : List Char) : Option (List String × List Char) := keyParts keyLimit cs

/-! ## Numbers -/

/-- Digits with single underscores between them. -/
def digits? (isDigit : Char → Bool) (cs : List Char) : Option (List Char × List Char) :=
  let (text, rest) := cs.span fun c => isDigit c || c == '_'
  let adjacent := (text.zip (text.drop 1)).any fun p => p.1 == '_' && p.2 == '_'
  if text.isEmpty || text.head? == some '_' || text.getLast? == some '_' || adjacent then none
  else some (text.filter (· != '_'), rest)

/-- An integer that fits into sixty-four bits. -/
def fitting? (i : Int) : Option Datum :=
  if -(Nat.pow 2 63) ≤ i ∧ i < Nat.pow 2 63 then some (.integer i) else none

/-- An integer to another base than ten. -/
def basedInteger? : Scan Datum
  | '0' :: 'x' :: cs => based 16 Text.isHexDigit cs
  | '0' :: 'o' :: cs => based 8 (fun c => '0' ≤ c && c ≤ '7') cs
  | '0' :: 'b' :: cs => based 2 (fun c => c == '0' || c == '1') cs
  | _ => none
where
  /-- The digits of such an integer. -/
  based (base : Nat) (isDigit : Char → Bool) (cs : List Char) : Option (Datum × List Char) := do
    let (ds, rest) ← digits? isDigit cs
    let n ← Text.valueOf? base ds
    let d ← fitting? n
    pure (d, rest)

/-- A sign, if there is one; the value is whether it is negative. -/
def sign : List Char → Bool × List Char
  | '-' :: cs => (true, cs)
  | '+' :: cs => (false, cs)
  | cs => (false, cs)

/-- The digits after a point, if there is one. -/
def fraction? : Scan (Option (List Char))
  | '.' :: cs => (digits? Char.isDigit cs).map fun r => (some r.1, r.2)
  | cs => some (none, cs)

/-- The exponent, if there is one. -/
def exponent? : Scan (Option Int)
  | c :: cs =>
    if c == 'e' || c == 'E' then
      let (negative, cs) := sign cs
      (digits? Char.isDigit cs).map fun r =>
        let n : Int := Text.decimalValue r.1
        (some (if negative then -n else n), r.2)
    else some (none, c :: cs)
  | [] => some (none, [])

/-- A decimal number.  One beyond the greatest double is refused. -/
def decimal? (cs : List Char) : Option (Datum × List Char) := do
  let (negative, cs) := sign cs
  let (whole, cs) ← digits? Char.isDigit cs
  if whole.head? == some '0' && 1 < whole.length then none
  else do
    let (fraction, cs) ← fraction? cs
    let (exponent, cs) ← exponent? cs
    match fraction, exponent with
    | none, none =>
      let n : Int := Text.decimalValue whole
      let d ← fitting? (if negative then -n else n)
      pure (d, cs)
    | _, _ =>
      let places := fraction.getD []
      let x :=
        Double.ofDecimal negative (Text.decimalValue (whole ++ places))
          (exponent.getD 0 - places.length)
      -- Below the least number there is negative infinity.
      if x.isInfinite && !negative then none else pure (.real x, cs)

/-- A number that is written as a word. -/
def namedNumber? (cs : List Char) : Option (Datum × List Char) :=
  let (negative, cs) := sign cs
  match cs with
  | 'i' :: 'n' :: 'f' :: cs => some (.real (.infinity negative), cs)
  | 'n' :: 'a' :: 'n' :: cs => some (.real { Double.nan with negative }, cs)
  | _ => none

/-! ## Dates and times -/

/-- Exactly so many digits with a value in a range. -/
def fixedDigits? (count low high : Nat) (cs : List Char) : Option (Nat × List Char) :=
  let ds := cs.take count
  let n := Text.decimalValue ds
  if ds.length = count ∧ ds.all Char.isDigit ∧ low ≤ n ∧ n ≤ high then some (n, cs.drop count)
  else none

/-- A character that has to stand at the front. -/
def mark? (c : Char) : List Char → Option (List Char)
  | d :: cs => if c == d then some cs else none
  | [] => none

/-- The number of days of a month. -/
def daysOf (year month : Nat) : Nat :=
  if month = 2 then
    if year % 4 = 0 ∧ (year % 100 ≠ 0 ∨ year % 400 = 0) then 29 else 28
  else if month = 4 ∨ month = 6 ∨ month = 9 ∨ month = 11 then 30
  else 31

/-- Drops a date. -/
def skipDate? (cs : List Char) : Option (List Char) := do
  let (year, cs) ← fixedDigits? 4 0 9999 cs
  let cs ← mark? '-' cs
  let (month, cs) ← fixedDigits? 2 1 12 cs
  let cs ← mark? '-' cs
  let (_, cs) ← fixedDigits? 2 1 (daysOf year month) cs
  pure cs

/-- Drops a time of day. -/
def skipTime? (cs : List Char) : Option (List Char) := do
  let (_, cs) ← fixedDigits? 2 0 23 cs
  let cs ← mark? ':' cs
  let (_, cs) ← fixedDigits? 2 0 59 cs
  let cs ← mark? ':' cs
  let (_, cs) ← fixedDigits? 2 0 60 cs
  match cs with
  | '.' :: rest =>
    match rest.span Char.isDigit with
    | ([], _) => none
    | (_, rest) => some rest
  | _ => some cs

/-- Drops an offset from universal time, if there is one. -/
def skipOffset? (cs : List Char) : Option (List Char) :=
  match cs with
  | 'Z' :: cs => some cs
  | 'z' :: cs => some cs
  | c :: rest =>
    if c == '+' || c == '-' then do
      let (_, cs) ← fixedDigits? 2 0 23 rest
      let cs ← mark? ':' cs
      let (_, cs) ← fixedDigits? 2 0 59 cs
      pure cs
    else some cs
  | [] => some []

/-- Drops a date, with a time if one follows, or a time. -/
def skipMoment? (cs : List Char) : Option (List Char) :=
  match skipDate? cs with
  | none => skipTime? cs
  | some rest =>
    match rest with
    | c :: after =>
      if c == 'T' || c == 't' then (skipTime? after).bind skipOffset?
      else if c == ' ' then
        match skipTime? after with
        | some after => skipOffset? after
        | none => some rest
      else some rest
    | [] => some rest

/-- The name of the one member of a date's record. -/
def momentName : String := "date"

/-- A date or a time. -/
def moment? (cs : List Char) : Option (Datum × List Char) :=
  (skipMoment? cs).map fun rest =>
    (.ofMembers [(momentName, .text (String.ofList (cs.take (cs.length - rest.length))))], rest)

/-! ## Scalars -/

/-- A truth value. -/
def truth? : Scan Datum
  | 't' :: 'r' :: 'u' :: 'e' :: cs => some (.bool true, cs)
  | 'f' :: 'a' :: 'l' :: 's' :: 'e' :: cs => some (.bool false, cs)
  | _ => none

/-- The first of several scanners that takes something. -/
def firstOf {α : Type} (scans : List (Scan α)) (cs : List Char) : Option (α × List Char) :=
  scans.findSome? fun scan => scan cs

/-- A value that has no parts. -/
def scalar? (cs : List Char) : Option (Datum × List Char) :=
  firstOf
    [fun cs => (string? cs).map fun r => (.text r.1, r.2), truth?, moment?, basedInteger?,
      namedNumber?, decimal?] cs

end Compositor.Toml
