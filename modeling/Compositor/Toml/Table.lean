import Compositor.Datum.Basic

/-! # Tables of a TOML document

A table can be written in several places of a document: under a header, by dotted
keys, and implied by longer headers.  Which of these may add to a table depends on
how it came to be, so a table that is being built keeps its origin.
-/

namespace Compositor.Toml

/-- How a table came to be. -/
inductive Origin where
  /-- It has a header of its own. -/
  | header
  /-- A longer header names it. -/
  | implied
  /-- A dotted key names it. -/
  | dotted
deriving DecidableEq

/-- What a key of a table stands for. -/
inductive Entry where
  /-- A finished value. -/
  | value (d : Datum)
  /-- A table that may still grow. -/
  | table (origin : Origin) (entries : List (String × Entry))
  /-- Tables of one name, the last one first; only the last one may grow. -/
  | tables (items : List (List (String × Entry)))

/-- The entries of a table, in order. -/
abbrev Entries : Type := List (String × Entry)

namespace Entries

/-- What a key stands for. -/
def find? (es : Entries) (name : String) : Option Entry := (List.find? (·.1 == name) es).map (·.2)

/-- Puts an entry under a key: in place of one that is there, or last. -/
def put (es : Entries) (name : String) (e : Entry) : Entries :=
  if es.any (·.1 == name) then es.map fun x => if x.1 == name then (name, e) else x
  else es ++ [(name, e)]

/-- Adds a value under a key, whose last part is given apart.  Tables on the way
    must come from dotted keys, as must the table of a key of several parts. -/
def addValue (es : Entries) (origin : Origin) (name : String) (d : Datum) (dotted : Bool) :
    List String → Option Entries
  | [] =>
    if (origin == .dotted) != dotted then none
    else
      match es.find? name with
      | some _ => none
      | none => some (es.put name (.value d))
  | part :: parts =>
    match es.find? part with
    | none =>
      (addValue [] .dotted name d dotted parts).map fun t => es.put part (.table .dotted t)
    | some (.table o t) =>
      -- A table with a header of its own is not reopened by a dotted key.
      if o == .header then none
      else (addValue t o name d dotted parts).map fun t => es.put part (.table o t)
    | some (.tables (t :: ts)) =>
      (addValue t .header name d dotted parts).map fun t => es.put part (.tables (t :: ts))
    | some _ => none

/-- Adds a value under a key. -/
def add (es : Entries) (key : List String) (d : Datum) : Option Entries :=
  match key.getLast? with
  | none => none
  | some name => addValue es .header name d (1 < key.length) key.dropLast

/-- Changes the table at a path.  Tables that are missing on the way are implied;
    of tables of one name the last one is meant. -/
def update (es : Entries) (change : Entries → Option Entries) : List String → Option Entries
  | [] => change es
  | part :: parts =>
    match es.find? part with
    | none => (update [] change parts).map fun t => es.put part (.table .implied t)
    | some (.table o t) => (update t change parts).map fun t => es.put part (.table o t)
    | some (.tables (t :: ts)) =>
      (update t change parts).map fun t => es.put part (.tables (t :: ts))
    | some _ => none

/-- A header opens a table: a new one, or one that so far was only implied. -/
def openTable (es : Entries) (name : String) : Option Entries :=
  match es.find? name with
  | none => some (es.put name (.table .header []))
  | some (.table .implied t) => some (es.put name (.table .header t))
  | some _ => none

/-- A double header opens a further table of one name. -/
def openItem (es : Entries) (name : String) : Option Entries :=
  match es.find? name with
  | none => some (es.put name (.tables [[]]))
  | some (.tables ts) => some (es.put name (.tables ([] :: ts)))
  | some _ => none

/-- Opens something at a path, whose last part is its name. -/
def openAt (es : Entries) (opened : Entries → String → Option Entries) (key : List String) :
    Option Entries :=
  match key.getLast? with
  | none => none
  | some name => es.update (fun t => opened t name) key.dropLast

end Entries

mutual
/-- The value of an entry. -/
def Entry.toDatum : Entry → Datum
  | .value d => d
  | .table _ es => .record (entriesToMembers es)
  | .tables items => .list (itemsToData items).reverse
termination_by structural e => e

/-- The members of a table. -/
def entriesToMembers : List (String × Entry) → List (Option String × Datum)
  | [] => []
  | e :: es => entryToMember e :: entriesToMembers es
termination_by structural es => es

/-- A member of a table. -/
def entryToMember : String × Entry → Option String × Datum
  | (name, e) => (some name, e.toDatum)
termination_by structural e => e

/-- The values of tables of one name. -/
def itemsToData : List (List (String × Entry)) → List Datum
  | [] => []
  | es :: items => .record (entriesToMembers es) :: itemsToData items
termination_by structural items => items
end

/-- The value of a table. -/
def Entries.toDatum (es : Entries) : Datum := .record (entriesToMembers es)

end Compositor.Toml
