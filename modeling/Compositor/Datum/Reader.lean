import Compositor.Datum.Basic

/-! # Readers of data values

A reader turns a data value into a value of a domain type or says what is wrong
with the document.  Of several faults the one that comes first in the document
is reported, as by someone who reads it from front to back.
-/

namespace Compositor

/-- Reads a data value as a value of a domain type. -/
abbrev Reader (α : Type) : Type := Datum → Except Fault α

namespace Reader

/-! ## Scalars -/

/-- A text. -/
def text : Reader String
  | .text s => .ok s
  | d => .error d.mismatch

/-- A truth value. -/
def bool : Reader Bool
  | .bool b => .ok b
  | d => .error d.mismatch

/-- A whole number from `low` to `high`; a real number is refused even if it is
    whole. -/
def integerBetween (low high : Int) : Reader Int
  | .integer i => if low ≤ i ∧ i ≤ high then .ok i else .error .wrongShape
  | d => .error d.mismatch

/-- A natural number up to `high`. -/
def naturalUpTo (high : Nat) : Reader Nat := fun d => (integerBetween 0 high d).map Int.toNat

/-- A natural number of eight bits. -/
def natural8 : Reader Nat := naturalUpTo (Nat.pow 2 8 - 1)

/-- A natural number of sixteen bits. -/
def natural16 : Reader Nat := naturalUpTo (Nat.pow 2 16 - 1)

/-- A natural number of thirty-two bits. -/
def natural32 : Reader Nat := naturalUpTo (Nat.pow 2 32 - 1)

/-- A natural number of sixty-four bits. -/
def natural64 : Reader Nat := naturalUpTo (Nat.pow 2 64 - 1)

/-- A signed number of thirty-two bits. -/
def integer32 : Reader Int := integerBetween (-(Nat.pow 2 31)) (Nat.pow 2 31 - 1)

/-- A real number; a whole number is taken as the nearest real one. -/
def real : Reader Double
  | .integer i => .ok (Double.ofInt i)
  | .real x => .ok x
  | d => .error d.mismatch

/-! ## Combined values -/

/-- A value that may be absent, written as `null`. -/
def optional {α : Type} (read : Reader α) : Reader (Option α)
  | .null => .ok none
  | d => (read d).map some

/-- Reads all items in order. -/
def items {α : Type} (read : Reader α) : List Datum → Except Fault (List α)
  | [] => .ok []
  | d :: ds => do
    let x ← read d
    let xs ← items read ds
    pure (x :: xs)

/-- A list of values of one type. -/
def list {α : Type} (read : Reader α) : Reader (List α)
  | .list ds => items read ds
  | d => .error d.mismatch

/-- One of several named alternatives, each with a value of its own: a record
    with exactly one member, whose name is the alternative's. -/
def alternative {α : Type} (named : String → Option (Reader α)) : Reader α
  | .record ((some name, d) :: rest) =>
    match named name with
    | none => .error .wrongShape
    | some read => do
      let x ← read d
      if rest.isEmpty then pure x else throw .malformed
  | .text _ => .error .wrongShape
  | _ => .error .malformed

/-- One of several names, as a text. -/
def named {α : Type} (ofName? : String → Option α) : Reader α
  | .text s =>
    match ofName? s with
    | some x => .ok x
    | none => .error .wrongShape
  | d => .error d.mismatch

/-- One of several values by its position among them, or else as a reader says. -/
def orPosition {α : Type} (values : List α) (read : Reader α) : Reader α
  | .integer i =>
    match if 0 ≤ i then values[i.toNat]? else none with
    | some x => .ok x
    | none => .error .wrongShape
  | d => read d

/-- One of several names: as a text, or as a record whose one member has the name
    and a value that says nothing. -/
def choiceOf {α : Type} (isUnit : Datum → Bool) (ofName? : String → Option α) : Reader α
  | .text s => named ofName? (.text s)
  | d =>
    alternative
      (fun name =>
        (ofName? name).map fun x d => if isUnit d then .ok x else .error d.mismatch)
      d

/-- One of several names: as a text, or as a record whose one member has the name
    and the value `null`. -/
def choice {α : Type} (ofName? : String → Option α) : Reader α :=
  choiceOf
    (fun
      | .null => true
      | _ => false)
    ofName?

/-- A value that was taken in as a whole before it is looked at: whatever is
    wrong with it is a matter of shape. -/
def takenIn {α : Type} (read : Reader α) : Reader α := fun d =>
  (read d).mapError fun _ => .wrongShape

end Reader

end Compositor
