import Compositor.Text.Split
import Compositor.Url.Percent

/-! # Queries

The query of a request is a list of parameters with `&` between them.  A plus sign
stands for a blank, and characters may be percent-encoded.
-/

namespace Compositor

/-- A parameter: its name and its value. -/
abbrev Parameter := String × String

namespace Query

/-- A name or a value without its encoding. -/
def decodePart (cs : List Char) : String :=
  let cs := cs.map fun c => if c == '+' then ' ' else c
  Text.decodeLossy (Percent.decode (Text.utf8 (String.ofList cs)))

/-- A parameter: what stands before the first equals sign, and after it. -/
def parameter (cs : List Char) : Parameter :=
  let (name, value) := cs.span (· != '=')
  (decodePart name, decodePart (value.drop 1))

/-- The parameters of a query. -/
def parameters (text : String) : List Parameter :=
  ((Text.splitOn '&' text.toList).filter fun cs => !cs.isEmpty).map parameter

/-- The values of a parameter. -/
def values (name : String) (ps : List Parameter) : List String :=
  ps.filterMap fun p => if p.1 == name then some p.2 else none

/-- The greatest number in a query. -/
def greatestNumber : Nat := Nat.pow 2 64 - 1

/-- A number: digits, which may have a plus sign before them. -/
def number? (text : String) : Option Nat :=
  let digits :=
    match text.toList with
    | '+' :: digits => digits
    | digits => digits
  if digits.isEmpty then none
  else (Text.valueOf? 10 digits).bind fun n => if n ≤ greatestNumber then some n else none

/-- A parameter that may be given once; nothing if it is given more often. -/
def text? (name : String) (ps : List Parameter) : Option (Option String) :=
  match values name ps with
  | [] => some none
  | [value] => some (some value)
  | _ => none

/-- A parameter that may be given once and is a number; nothing if it is given more
    often or is none. -/
def number?? (name : String) (ps : List Parameter) : Option (Option Nat) :=
  match text? name ps with
  | some (some value) => (number? value).map some
  | some none => some none
  | none => none

end Query

end Compositor
