import Compositor.Datum.Reader
import Compositor.Toml.Scan
import Compositor.Toml.Table

/-! # Reading TOML

A document is a sequence of lines with headers and key-value pairs.  The pairs
after a header go into its table.
-/

namespace Compositor.Toml

/-! ## Values -/

/-- The items of a list after its opening bracket.  A comma may follow the last
    one. -/
def items (value : Scan Datum) : Nat → List Datum → Scan (List Datum)
  | 0, _, _ => none
  | fuel + 1, done, cs =>
    match skipSpace cs with
    | ']' :: rest => some (done.reverse, rest)
    | cs => do
      let (d, cs) ← value cs
      match skipSpace cs with
      | ',' :: rest => items value fuel (d :: done) rest
      | ']' :: rest => some ((d :: done).reverse, rest)
      | _ => none

/-- A key, an equals sign and a value. -/
def pair? (value : Scan Datum) (cs : List Char) : Option ((List String × Datum) × List Char) := do
  let (key, cs) ← key? cs
  match cs with
  | '=' :: cs =>
    let (d, cs) ← value (skipBlanks cs)
    pure ((key, d), cs)
  | _ => none

/-- The pairs of a table within a line, after its opening brace. -/
def pairs (value : Scan Datum) : Nat → Entries → Scan Entries
  | 0, _, _ => none
  | fuel + 1, done, cs => do
    let ((key, d), cs) ← pair? value cs
    let done ← done.add key d
    match skipBlanks cs with
    | ',' :: rest => pairs value fuel done rest
    | '\x7d' :: rest => some (done, rest)
    | _ => none

/-- How deep lists and records may be nested. -/
def depthLimit : Nat := 79

/-- A value, nested at most `depth` deep. -/
def value? : Nat → Scan Datum
  | 0, cs => scalar? cs
  | depth + 1, cs =>
    match cs with
    | '[' :: rest =>
      (items (value? depth) (rest.length + 1) [] rest).map fun r => (.list r.1, r.2)
    | '\x7b' :: rest =>
      match skipBlanks rest with
      -- No comma may stand before the closing brace, so the empty table is a case apart.
      | '\x7d' :: rest => some (.record [], rest)
      | rest =>
        (pairs (value? depth) (rest.length + 1) [] rest).map fun r => (r.1.toDatum, r.2)
    | _ => scalar? cs

/-! ## Documents -/

/-- The state of reading: all tables so far, and the path of the table that pairs
    go into. -/
structure State where
  root : Entries
  path : List String

/-- Takes in a pair. -/
def State.pair (s : State) (key : List String) (d : Datum) : Option State :=
  (s.root.update (fun t => t.add key d) s.path).map fun root => { s with root }

/-- The name in a header, up to its closing brackets. -/
def header? (close : List Char) (cs : List Char) : Option (List String × List Char) := do
  let (key, rest) ← key? cs
  if close.isPrefixOf rest then some (key, rest.drop close.length) else none

/-- Reads one line that is not blank. -/
def line? (s : State) (cs : List Char) : Option (State × List Char) :=
  match cs with
  | '[' :: '[' :: cs => do
    let (key, cs) ← header? [']', ']'] cs
    let root ← s.root.openAt Entries.openItem key
    pure (⟨root, key⟩, cs)
  | '[' :: cs => do
    let (key, cs) ← header? [']'] cs
    let root ← s.root.openAt Entries.openTable key
    pure (⟨root, key⟩, cs)
  | _ => do
    let ((key, d), cs) ← pair? (value? depthLimit) cs
    let s ← s.pair key d
    pure (s, cs)

/-- Reads the lines of a document. -/
def lines (s : State) : Nat → List Char → Option State
  | 0, _ => none
  | fuel + 1, cs =>
    match skipSpace cs with
    | [] => some s
    | cs => do
      let (s, cs) ← line? s cs
      let cs ← restOfLine? cs
      lines s fuel cs

/-- The value of a document.  A byte-order mark in front of it does not count. -/
def value (text : String) : Option Datum :=
  let cs :=
    match text.toList with
    | '\uFEFF' :: cs => cs
    | cs => cs
  (lines ⟨[], []⟩ (cs.length + 1) cs).map fun s => s.root.toDatum

/-- A value that says nothing: an empty table or an empty list. -/
def isUnit : Datum → Bool
  | .record [] => true
  | .list [] => true
  | _ => false

/-- Reads a document as a value of a domain type. -/
def decode {α : Type} (read : Reader α) (text : String) : Except Fault α :=
  match value text with
  | some d => read d
  | none => .error .malformed

end Compositor.Toml
