import Compositor.Files.Path

/-! # File trees

A file tree is the state of a file system as far as the service can see it: which
directories there are and which files with which bytes.  Operations fail with the
errors of the operating system, in its order of precedence: what stands on the
way to a place is looked at before the place itself.

Relative paths start at the directory `currentDirectory`.
-/

namespace Compositor

/-- An error of the operating system. -/
inductive FileError where
  | notFound
  | alreadyExists
  | notADirectory
  | isADirectory
  | permissionDenied
  | nameTooLong
  /-- The path is no path, because it has a character with code zero. -/
  | nulByte
deriving DecidableEq

/-- The error's text. -/
def FileError.message : FileError → String
  | notFound => "No such file or directory (os error 2)"
  | alreadyExists => "File exists (os error 17)"
  | notADirectory => "Not a directory (os error 20)"
  | isADirectory => "Is a directory (os error 21)"
  | permissionDenied => "Permission denied (os error 13)"
  | nameTooLong => "File name too long (os error 36)"
  | nulByte => "file name contained an unexpected NUL byte"

/-- What is at a place of a file tree. -/
inductive FileEntry where
  | directory
  | file (bytes : List UInt8)
deriving DecidableEq

/-- Directories and files by their place, which is the list of names on the way
    to them.  The root is always there. -/
structure FileTree where
  entries : List (List String × FileEntry)

namespace FileTree

/-- The place that relative paths start at. -/
def currentDirectory : List String := ["current"]

/-- The tree with nothing but the directory that relative paths start at. -/
def empty : FileTree := ⟨[(currentDirectory, .directory)]⟩

/-- What is at a place. -/
def entry? (t : FileTree) (place : List String) : Option FileEntry :=
  if place.isEmpty then some .directory
  else (t.entries.find? fun e => e.1 == place).map (·.2)

/-- Puts an entry at a place. -/
def set (t : FileTree) (place : List String) (e : FileEntry) : FileTree :=
  ⟨t.entries.filter (fun x => x.1 != place) ++ [(place, e)]⟩

/-- The longest name, in bytes. -/
def longestName : Nat := 255

/-- The longest path, in bytes. -/
def longestPath : Nat := 4095

/-- What is wrong with a path whatever the tree. -/
def pathFault? (path : String) : Option FileError :=
  if path.toList.contains '\x00' then some .nulByte
  else if longestPath < path.utf8ByteSize then some .nameTooLong
  else none

/-- Goes on from a place by the remaining names of a path: the place that they
    lead to, whose entry need not exist, or the error that is met on the way. -/
def walk (t : FileTree) (place : List String) : List String → Except FileError (List String)
  | [] => .ok place
  | name :: names =>
    match t.entry? place with
    | none => .error .notFound
    | some (.file _) => .error .notADirectory
    | some .directory =>
      if longestName < name.utf8ByteSize then .error .nameTooLong
      else if name = ".." then walk t place.dropLast names
      else walk t (place ++ [name]) names

/-- The place that a path leads to.  A path that can only name a directory does
    not lead to a file. -/
def resolve (t : FileTree) (path : String) : Except FileError (List String) :=
  match pathFault? path with
  | some fault => .error fault
  | none =>
    if path.isEmpty then .error .notFound
    else do
      let start := if Path.isAbsolute path then [] else currentDirectory
      let place ← t.walk start (Path.components path)
      match t.entry? place with
      | some (.file _) => if Path.namesDirectory path then throw .notADirectory else pure place
      | _ => pure place

/-- What a path names. -/
def lookup (t : FileTree) (path : String) : Except FileError FileEntry := do
  match t.entry? (← t.resolve path) with
  | some e => pure e
  | none => throw .notFound

/-- The path names something. -/
def present (t : FileTree) (path : String) : Bool :=
  match t.lookup path with
  | .ok _ => true
  | .error _ => false

/-- The path names a directory. -/
def isDirectory (t : FileTree) (path : String) : Bool :=
  match t.lookup path with
  | .ok .directory => true
  | _ => false

/-- Goes on from a place by the remaining names of a path and creates the
    directories that are missing.  A path that ends with a dot names the last one
    from within, so that one has to be there already. -/
def createAlong (t : FileTree) (endsWithDot : Bool) (place : List String) :
    List String → Except FileError FileTree
  | [] => .ok t
  | name :: names =>
    -- What stands before it exists by now.
    if longestName < name.utf8ByteSize then .error .nameTooLong
    else if name = ".." then createAlong t endsWithDot place.dropLast names
    else
      match t.entry? (place ++ [name]) with
      | some .directory => createAlong t endsWithDot (place ++ [name]) names
      | some (.file _) =>
        .error (if names.isEmpty && !endsWithDot then .alreadyExists else .notADirectory)
      | none =>
        if names.isEmpty && endsWithDot then .error .notFound
        else createAlong (t.set (place ++ [name]) .directory) endsWithDot (place ++ [name]) names

/-- Creates a directory and all directories that are missing on the way. -/
def createDirectories (t : FileTree) (path : String) : Except FileError FileTree :=
  match pathFault? path with
  | some fault => .error fault
  | none =>
    if path.isEmpty then .ok t
    else
      t.createAlong (Path.endsWithDot path) (if Path.isAbsolute path then [] else currentDirectory)
        (Path.components path)

/-- Writes a file, in place of one that is there already. -/
def write (t : FileTree) (path : String) (bytes : List UInt8) : Except FileError FileTree := do
  let place ← t.resolve path
  match t.entry? place with
  | some .directory => throw .isADirectory
  | _ => if Path.namesDirectory path then throw .isADirectory else pure (t.set place (.file bytes))

/-- The tree without a directory and all that is in it. -/
def removeDirectory (t : FileTree) (path : String) : Except FileError FileTree := do
  let place ← t.resolve path
  match t.entry? place with
  | some .directory => pure ⟨t.entries.filter fun e => !place.isPrefixOf e.1⟩
  | some (.file _) => throw .notADirectory
  | none => throw .notFound

/-- What is below a directory, each entry with the names on the way to it. -/
def below (t : FileTree) (place : List String) : List (List String × FileEntry) :=
  t.entries.filterMap fun e =>
    if place.isPrefixOf e.1 && e.1 != place then some (e.1.drop place.length, e.2) else none

end FileTree

end Compositor
