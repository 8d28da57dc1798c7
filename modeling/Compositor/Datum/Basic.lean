import Compositor.Double.Text

/-! # Data values

A `Datum` is what a document of a data format denotes: scenes, settings and
answers are all exchanged as data values.  A record keeps its members in the
order in which they were written, repeated names included, so that a reader can
tell which member came first and refuse the second of two.

Two leaves stand for faults of the document.  A reader that meets one fails; a
reader that only passes over a value tells them apart:

* `unreadable` has the right form but denotes nothing, such as a number beyond
  the greatest double;
* `broken` marks the place where the document stops being well formed.
-/

namespace Compositor

/-- A value of a data format. -/
inductive Datum where
  | null
  | bool (value : Bool)
  | integer (value : Int)
  | real (value : Double)
  | text (value : String)
  | list (items : List Datum)
  | record (members : List (Option String × Datum))
  | unreadable
  | broken
deriving Inhabited

/-- Why a document does not denote a value of the wanted type. -/
inductive Fault where
  /-- The document does not follow the grammar of its format. -/
  | malformed
  /-- The document is well formed but has the wrong shape. -/
  | wrongShape
deriving DecidableEq

namespace Datum

/-- A record whose names are all readable. -/
def ofMembers (members : List (String × Datum)) : Datum :=
  record (members.map fun m => (some m.1, m.2))

/-- The member of a name, the first one if it is repeated. -/
def member? (name : String) : Datum → Option Datum
  | record members => (members.find? fun m => m.1 == some name).map (·.2)
  | _ => none

/-! ## Well-formed and readable values -/

mutual
/-- No part of the value is broken off. -/
def isWellFormed : Datum → Bool
  | list items => allWellFormed items
  | record members => membersWellFormed members
  | broken => false
  | _ => true
termination_by structural d => d

/-- All items are well formed. -/
def allWellFormed : List Datum → Bool
  | [] => true
  | d :: ds => isWellFormed d && allWellFormed ds
termination_by structural ds => ds

/-- The values of all members are well formed. -/
def membersWellFormed : List (Option String × Datum) → Bool
  | [] => true
  | m :: ms => memberWellFormed m && membersWellFormed ms
termination_by structural ms => ms

/-- The value of the member is well formed. -/
def memberWellFormed : Option String × Datum → Bool
  | (_, d) => isWellFormed d
termination_by structural m => m
end

mutual
/-- The value is well formed, each of its parts denotes something, and its lists
    and records are nested at most `depth` deep. -/
def isReadable (depth : Nat) : Datum → Bool
  | list items =>
    match depth with
    | 0 => false
    | n + 1 => allReadable n items
  | record members =>
    match depth with
    | 0 => false
    | n + 1 => membersReadable n members
  | unreadable => false
  | broken => false
  | _ => true
termination_by structural d => d

/-- All items are readable. -/
def allReadable (depth : Nat) : List Datum → Bool
  | [] => true
  | d :: ds => isReadable depth d && allReadable depth ds
termination_by structural ds => ds

/-- The names and values of all members are readable. -/
def membersReadable (depth : Nat) : List (Option String × Datum) → Bool
  | [] => true
  | m :: ms => memberReadable depth m && membersReadable depth ms
termination_by structural ms => ms

/-- The name and the value of the member are readable. -/
def memberReadable (depth : Nat) : Option String × Datum → Bool
  | (name, d) => name.isSome && isReadable depth d
termination_by structural m => m
end

/-- The fault of a value that stands where another type is wanted.  A scalar is
    read before it is refused; of a list or a record the opening is enough. -/
def mismatch : Datum → Fault
  | unreadable => .malformed
  | broken => .malformed
  | _ => .wrongShape

end Datum

end Compositor
