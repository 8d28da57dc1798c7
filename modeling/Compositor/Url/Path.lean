import Compositor.Text.Split
import Compositor.Url.Percent

/-! # Paths of URLs

A path is a list of segments, each after a slash, or a text without structure.
Segments that stay in place or go up are resolved when a path is read.  A segment
that names a drive, a letter with a colon or a bar, is never left again by going
up, whatever the scheme.
-/

namespace Compositor

/-- The path of a URL. -/
inductive UrlPath where
  /-- Segments, each after a slash. -/
  | segments (names : List String)
  /-- A text without structure. -/
  | whole (text : String)
deriving DecidableEq

namespace UrlPath

/-! ## Segments -/

/-- A character that separates segments. -/
def isSeparator (special : Bool) (c : Char) : Bool := c == '/' || (special && c == '\\')

/-- The segments between separators. -/
def rawSegments (special : Bool) (cs : List Char) : List (List Char) :=
  Text.splitOn '/' (cs.map fun c => if isSeparator special c then '/' else c)

/-- A segment that stays in place. -/
def isSingleDot (s : List Char) : Bool :=
  [".", "%2e"].contains (String.ofList (s.map Char.toLower))

/-- A segment that goes up. -/
def isDoubleDot (s : List Char) : Bool :=
  ["..", ".%2e", "%2e.", "%2e%2e"].contains (String.ofList (s.map Char.toLower))

/-- A segment that names a drive. -/
def isDrive (s : List Char) : Bool :=
  match s with
  | [letter, mark] => letter.isAlpha && (mark == ':' || mark == '|')
  | _ => false

/-- The segments above the last one.  A drive has none above it. -/
def parent (done : List String) : List String :=
  match done.getLast? with
  | some last => if isDrive last.toList then done else done.dropLast
  | none => []

/-- The path with a segment after those done. -/
def descend (isFile : Bool) (done : List String) (s : List Char) : List String :=
  -- The path of a file names its drive first, with a colon.
  let s := if isFile && done.isEmpty && isDrive s then s.take 1 ++ [':'] else s
  done ++ [String.ofList (Percent.encode Percent.inPath s)]

/-- The segments of a path, with those resolved that stay in place or go up. -/
def resolve (isFile : Bool) (done : List String) : List (List Char) → List String
  | [] => done
  | s :: rest =>
    let kept := if isDoubleDot s then parent done else done
    if isDoubleDot s || isSingleDot s then
      -- A dot at the end leaves an empty segment behind.
      if rest.isEmpty then kept ++ [""] else resolve isFile kept rest
    else resolve isFile (descend isFile done s) rest

/-- The path that starts at the first separator. -/
def ofText (special : Bool) (cs : List Char) : UrlPath :=
  match cs with
  | [] => .segments (if special then [""] else [])
  | c :: rest =>
    .segments (resolve false [] (rawSegments special (if isSeparator special c then rest else cs)))

/-! ## Paths of files -/

/-- The segments without the empty ones in front; one segment is always left. -/
def withoutLeadingSlashes : List String → List String
  | "" :: s :: rest => withoutLeadingSlashes (s :: rest)
  | names => names

/-- The first segment names a drive. -/
def startsWithDrive (names : List String) : Bool :=
  match names with
  | s :: _ => isDrive s.toList
  | [] => false

end UrlPath

end Compositor
