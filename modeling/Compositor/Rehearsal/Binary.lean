import Compositor.Encoder.Engine
import Compositor.Files.Tree

/-! # A rehearsal binary

A binary in place of the real one.  It remembers its calls and answers each as it
was told for the kind of call: one that asks for the version, one that asks for the
listing of encoders, or any other.  If a path is given for it, what is there cannot
be started, and the error says why.  Neither can a call be made with a character of
code zero in it.
-/

namespace Compositor

/-- What the binary was told and what it has seen.  It answers with how it ends, or
    not at all. -/
structure RehearsalBinary where
  version : Option Ending
  list : Option Ending
  run : Option Ending
  /-- The arguments of all calls, in order. -/
  calls : List (List String)
  /-- Where it is said to be. -/
  path : Option String
  files : FileTree

namespace RehearsalBinary

/-- It ends with success and says nothing. -/
def quiet : Option Ending := some ⟨some 0, [], []⟩

/-- A binary that was told nothing. -/
def fresh (path : Option String) (files : FileTree) : RehearsalBinary :=
  ⟨quiet, quiet, quiet, [], path, files⟩

/-- A text occurs in another. -/
def occursIn (a : List Char) : List Char → Bool
  | [] => a.isEmpty
  | c :: cs => a.isPrefixOf (c :: cs) || occursIn a cs

/-- Why a call cannot be made that has a character of code zero in it. -/
def nulByteReason : String := "nul byte found in provided data"

/-- The text has a character of code zero. -/
def hasNul (s : String) : Bool := s.toList.contains '\x00'

/-- What comes of starting what is at a path.  A mere name is looked for elsewhere,
    and not found, unless it names a directory everywhere. -/
def startAt (files : FileTree) (path : String) : Launch :=
  if hasNul path then .refused nulByteReason
  else if path.toList.contains '/' then
    match files.lookup path with
    | .error .notFound => .notFound
    | .error e => .refused e.message
    | .ok _ => .refused FileError.permissionDenied.message
  else if path == "." || path == ".." then .refused FileError.permissionDenied.message
  else if FileTree.longestName < path.utf8ByteSize then .refused FileError.nameTooLong.message
  else .notFound

/-- The answer to a call. -/
def answer (w : RehearsalBinary) (args : List String) : Option Ending :=
  if args == ["-version"] then w.version
  else if occursIn "-encoders".toList (" ".intercalate args).toList then w.list
  else w.run

/-- Starts the binary and waits for its end; nothing if it does not end. -/
def launch (args : List String) (w : RehearsalBinary) : Option Launch × RehearsalBinary :=
  match w.path with
  | some path => (some (startAt w.files path), w)
  | none =>
    if args.any hasNul then (some (.refused nulByteReason), w)
    else ((w.answer args).map .ended, { w with calls := w.calls ++ [args] })

/-- The binary. -/
def binary : Binary RehearsalBinary where
  call args w :=
    let (started, w) := launch args w
    (started.getD (.refused "the call does not end"), w)
  callWithin _ args w := launch args w

end RehearsalBinary

end Compositor
