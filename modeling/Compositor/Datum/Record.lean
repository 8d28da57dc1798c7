import Compositor.Datum.Reader

/-! # Records

A record type is described by its fields: for each a name, a reader and possibly
a fallback for when the field is left out.  `Fields.read` reads a value of such a
type from a data value in one of two forms:

* a record, whose members may come in any order.  Members of other names are
  passed over; a field that is given twice is refused;
* a list of the fields' values in the order of the description.  Fields with a
  fallback may be missing at the end; a longer list is refused.
-/

namespace Compositor

/-- A field of a record type. -/
structure Field (α : Type) where
  name : String
  read : Reader α
  fallback : Option α

namespace Field

/-- A field that must be given. -/
def required {α : Type} (name : String) (read : Reader α) : Field α := ⟨name, read, none⟩

/-- A field that may be left out. -/
def orElse {α : Type} (name : String) (read : Reader α) (fallback : α) : Field α :=
  ⟨name, read, some fallback⟩

/-- A field for a value that may be absent. -/
def absentable {α : Type} (name : String) (read : Reader α) : Field (Option α) :=
  ⟨name, Reader.optional read, some none⟩

/-- The value of a field that is not given. -/
def missing {α : Type} (f : Field α) : Except Fault α :=
  match f.fallback with
  | some x => .ok x
  | none => .error .wrongShape

end Field

/-- The fields of a record type, in order. -/
inductive Fields : List Type → Type 1 where
  | nil : Fields []
  | cons {α : Type} {αs : List Type} : Field α → Fields αs → Fields (α :: αs)

/-- One value for each field. -/
def Values : List Type → Type
  | [] => Unit
  | α :: αs => α × Values αs

/-- For each field the value given so far, if any. -/
def Slots : List Type → Type
  | [] => Unit
  | α :: αs => Option α × Slots αs

namespace Fields

/-- Nothing given yet. -/
def noSlots : {αs : List Type} → Fields αs → Slots αs
  | [], _ => ()
  | _ :: _, cons _ fs => (none, fs.noSlots)

/-- Takes in one member; nothing if no field has its name.  A field that was
    given before is refused before its value is looked at. -/
def put {αs : List Type} (fields : Fields αs) (slots : Slots αs) (name : String) (d : Datum) :
    Option (Except Fault (Slots αs)) :=
  match fields, slots with
  | nil, _ => none
  | cons f fs, (slot, slots) =>
    if f.name = name then
      match slot with
      | some _ => some (.error .wrongShape)
      | none => some ((f.read d).map fun x => (some x, slots))
    else
      (fs.put slots name d).map fun r => r.map fun slots => (slot, slots)

/-- Takes in all members of a record in order. -/
def putAll {αs : List Type} (fields : Fields αs) (slots : Slots αs) :
    List (Option String × Datum) → Except Fault (Slots αs)
  | [] => .ok slots
  | (none, _) :: _ => .error .malformed
  | (some name, d) :: rest =>
    match fields.put slots name d with
    | some (.ok slots) => fields.putAll slots rest
    | some (.error fault) => .error fault
    -- What no field has a name for is passed over, but it has to end somewhere.
    | none => if d.isWellFormed then fields.putAll slots rest else .error .malformed

/-- The value of each field: the one given, or else its fallback. -/
def complete {αs : List Type} (fields : Fields αs) (slots : Slots αs) : Except Fault (Values αs) :=
  match fields, slots with
  | nil, _ => .ok ()
  | cons f fs, (slot, slots) => do
    let x ← match slot with
      | some x => .ok x
      | none => f.missing
    let xs ← fs.complete slots
    pure (x, xs)

/-- Reads the fields' values from a list. -/
def readList {αs : List Type} (fields : Fields αs) (ds : List Datum) : Except Fault (Values αs) :=
  match fields, ds with
  | nil, [] => .ok ()
  | nil, _ :: _ => .error .malformed
  | cons f fs, [] => do
    let x ← f.missing
    let xs ← fs.readList []
    pure (x, xs)
  | cons f fs, d :: ds => do
    let x ← f.read d
    let xs ← fs.readList ds
    pure (x, xs)

/-- Reads a value of the record type, in either form. -/
def read {αs : List Type} (fields : Fields αs) : Reader (Values αs)
  | .record members => do fields.complete (← fields.putAll fields.noSlots members)
  | .list ds => fields.readList ds
  | d => .error d.mismatch

/-- Reads a value as `read` does, but passes over what a list has after the last
    field. -/
def readFront {αs : List Type} (fields : Fields αs) : Reader (Values αs)
  | .list ds => fields.readList (ds.take αs.length)
  | d => fields.read d

end Fields

end Compositor
