import Compositor.Json.Token

/-! # Reading JSON

A document is read by a machine that takes one token at a time.  Its state is
what may come next, over a stack of the lists and records that are open; the top
of the stack is the place that the next value goes to.

The machine never gives up: where the document stops being well formed it closes
all that is open around a `broken` leaf, so a reader of the value meets the
fault exactly when it has dealt with all that stands before it.
-/

namespace Compositor.Json

/-- A list or record that is open, with the place for the next value. -/
inductive Frame where
  /-- The items before the place, last one first. -/
  | list (before : List Datum)
  /-- The members before the place, last one first, and the name at the place. -/
  | record (before : List (Option String × Datum)) (name : Option String)

/-- What may come next. -/
inductive Phase where
  /-- A value. -/
  | value
  /-- A value, or the end of a list that was just opened. -/
  | firstItem
  /-- A comma or the end of a list with these items, last one first. -/
  | inList (items : List Datum)
  /-- A name, or the end of a record that was just opened. -/
  | firstName
  /-- A name, after these members, last one first. -/
  | name (members : List (Option String × Datum))
  /-- The colon after a name. -/
  | colon (members : List (Option String × Datum)) (name : Option String)
  /-- A comma or the end of a record with these members, last one first. -/
  | inRecord (members : List (Option String × Datum))
  /-- Nothing: the value is complete. -/
  | done (d : Datum)

/-- A state of the machine. -/
structure State where
  phase : Phase
  frames : List Frame

/-- Puts a complete value in its place. -/
def place (d : Datum) : List Frame → State
  | [] => ⟨.done d, []⟩
  | .list before :: frames => ⟨.inList (d :: before), frames⟩
  | .record before name :: frames => ⟨.inRecord ((name, d) :: before), frames⟩

/-- Takes one token; nothing if it may not come here. -/
def step : State → Token → Option State
  | ⟨.value, frames⟩, t => startValue frames t
  | ⟨.firstItem, .list [] :: frames⟩, .closeList => some (place (.list []) frames)
  | ⟨.firstItem, frames⟩, t => startValue frames t
  | ⟨.inList items, frames⟩, .comma => some ⟨.value, .list items :: frames⟩
  | ⟨.inList items, frames⟩, .closeList => some (place (.list items.reverse) frames)
  | ⟨.firstName, frames⟩, .closeRecord => some (place (.record []) frames)
  | ⟨.firstName, frames⟩, .string name => some ⟨.colon [] name, frames⟩
  | ⟨.name members, frames⟩, .string name => some ⟨.colon members name, frames⟩
  | ⟨.colon members name, frames⟩, .colon => some ⟨.value, .record members name :: frames⟩
  | ⟨.inRecord members, frames⟩, .comma => some ⟨.name members, frames⟩
  | ⟨.inRecord members, frames⟩, .closeRecord => some (place (.record members.reverse) frames)
  | _, _ => none
where
  /-- Takes the first token of a value. -/
  startValue (frames : List Frame) : Token → Option State
    | .scalar d => some (place d frames)
    | .string (some s) => some (place (.text s) frames)
    | .string none => some (place .unreadable frames)
    | .openList => some ⟨.firstItem, .list [] :: frames⟩
    | .openRecord => some ⟨.firstName, frames⟩
    | _ => none

/-- Closes all open lists and records around a value. -/
def closeAll (d : Datum) : List Frame → Datum
  | [] => d
  | .list before :: frames => closeAll (.list (before.reverse ++ [d])) frames
  | .record before name :: frames => closeAll (.record (before.reverse ++ [(name, d)])) frames

/-- The value of a document that stops being well formed in a state. -/
def breakOff : State → Datum
  | ⟨.value, frames⟩ => closeAll .broken frames
  | ⟨.firstItem, frames⟩ => closeAll .broken frames
  | ⟨.inList items, frames⟩ => closeAll (.list (items.reverse ++ [.broken])) frames
  | ⟨.firstName, frames⟩ => closeAll (.record [(none, .broken)]) frames
  | ⟨.name members, frames⟩ => closeAll (.record (members.reverse ++ [(none, .broken)])) frames
  | ⟨.colon members name, frames⟩ =>
    closeAll (.record (members.reverse ++ [(name, .broken)])) frames
  | ⟨.inRecord members, frames⟩ =>
    closeAll (.record (members.reverse ++ [(none, .broken)])) frames
  | ⟨.done d, _⟩ => d

/-- A document: its value, and whether other text follows it. -/
structure Document where
  value : Datum
  trailing : Bool

/-- Runs the machine over the tokens of a document. -/
def run (s : State) : List Token → Document
  | [] => ⟨breakOff s, false⟩
  | t :: ts =>
    match step s t with
    | some s => run s ts
    | none =>
      match s.phase with
      | .done d => ⟨d, true⟩
      | _ => ⟨breakOff s, false⟩

/-- Reads a document. -/
def document (r : Rounding) (text : String) : Document := run ⟨.value, []⟩ (tokens r text.toList)

/-- Reads a document as a value of a domain type, its real numbers stepwise. -/
def decode {α : Type} (read : Datum → Except Fault α) (text : String) : Except Fault α := do
  let doc := document .stepwise text
  let x ← read doc.value
  if doc.trailing then throw .malformed else pure x

/-- The data value of a well-formed document, its real numbers rounded to the
    nearest. -/
def value? (text : String) : Option Datum :=
  let doc := document .nearest text
  if doc.trailing || !doc.value.isWellFormed then none else some doc.value

end Compositor.Json
