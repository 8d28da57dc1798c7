/-! # Paths

A path is a text whose components are separated by slashes.  A path that starts
with a slash is absolute.
-/

namespace Compositor.Path

/-- The path starts at the root. -/
def isAbsolute (p : String) : Bool :=
  match p.toList with
  | '/' :: _ => true
  | _ => false

/-- The path ends with a slash. -/
def endsWithSlash (p : String) : Bool := p.toList.getLast? == some '/'

/-- A path below another one.  An absolute path stays as it is. -/
def join (base p : String) : String :=
  if isAbsolute p || base.isEmpty then p
  else if endsWithSlash base then base ++ p
  else base ++ "/" ++ p

/-- The pieces between slashes, empty ones included. -/
def piecesFrom (piece : List Char) : List Char → List (List Char)
  | [] => [piece.reverse]
  | '/' :: cs => piece.reverse :: piecesFrom [] cs
  | c :: cs => piecesFrom (c :: piece) cs

/-- The pieces of a path between slashes. -/
def pieces (p : String) : List String := (piecesFrom [] p.toList).map String.ofList

/-- The components of a path: its pieces, without those that stay in place. -/
def components (p : String) : List String := (pieces p).filter fun c => c != "" && c != "."

/-- The last piece of the path that is not empty stays in place. -/
def endsWithDot (p : String) : Bool := ((pieces p).filter (· != "")).getLast? == some "."

/-- The path can only name a directory, because nothing follows its last slash. -/
def namesDirectory (p : String) : Bool :=
  match (pieces p).getLast? with
  | some last => last == "" || last == "."
  | none => true

end Compositor.Path
