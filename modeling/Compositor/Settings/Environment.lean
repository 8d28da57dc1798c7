import Compositor.Files.Tree
import Compositor.Settings.Basic
import Compositor.Settings.Variable
import Compositor.Text.Utf8
import Compositor.Toml.Reader

/-! # Settings from a file and the environment

Settings are read from a file, and environment variables with a common start of
their names take precedence.  The rest of such a name is a path of keys: its
letters count as lower case and underscores separate the keys, so that only keys
without an underscore can be set.  A variable for a section can hold a record with
any keys.
-/

namespace Compositor.Environment

/-- How the names of the variables begin. -/
def mark : List Char := "montage_".toList

/-- What separates keys. -/
def isSeparator (c : Char) : Bool := c == '_' || c == '.'

/-- The keys that a variable sets, if it is one of the program's.  A name with an
    empty key is none. -/
def path? (name : String) : Option (List String) :=
  let cs := (Text.trimChars name.toList).map Char.toLower
  if mark.isPrefixOf cs then
    let path := Text.trimChars (cs.drop mark.length)
    let keys := Text.splitOn '.' (path.map fun c => if isSeparator c then '.' else c)
    if keys.any List.isEmpty then none else some (keys.map String.ofList)
  else none

/-- The record with nothing but a value at a path of keys. -/
def nested (value : Datum) : List String → Datum
  | [] => value
  | key :: keys => .ofMembers [(key, nested value keys)]

/-- What the program's variables set, later ones taking precedence. -/
def given (environment : List (String × String)) : Datum :=
  environment.foldl
    (fun d v =>
      match path? v.1 with
      | some keys => d.merge (nested (Variable.read v.2) keys)
      | none => d)
    (.record [])

/-- The environment sets the backend of the engine. -/
def givesBackend (d : Datum) : Bool :=
  match d.member? "engine" with
  | some (.list _) => true
  | some engine => (engine.member? "backend").isSome
  | none => false

end Compositor.Environment

namespace Compositor.Settings

/-- Reads settings from the text of a file. -/
def ofText (text : String) : Except SettingsError Settings :=
  (Toml.decode (read (Reader.choiceOf Toml.isUnit Backend.ofName?)) text).mapError fun _ =>
    .unreadable

/-- Reads settings from a record that may come from the environment.  A variable can
    also give the position of a backend. -/
def ofGiven (file given : Datum) : Except SettingsError Settings :=
  let named := Reader.named Backend.ofName?
  let backend :=
    if Environment.givesBackend given then Reader.orPosition Backend.preference named else named
  (read backend (file.merge given)).mapError fun _ => .unreadable

/-- Reads settings from a file and the environment. -/
def load (files : FileTree) (environment : List (String × String)) (path : String) :
    Except SettingsError Settings :=
  let given := Environment.given environment
  match files.lookup path with
  | .error _ => .error (.fileNotFound path)
  | .ok .directory => ofGiven (.record []) given
  | .ok (.file bytes) =>
    match (Text.decode? bytes).bind Toml.value with
    | some d => ofGiven d given
    | none => .error .unreadable

end Compositor.Settings
