import Compositor.Url.Host
import Compositor.Url.Path

/-! # URLs

An absolute URL as the Web reads it.  Reading is generous: blank characters
around the URL are dropped, as are tabs and line ends inside it; characters that
have no place in a part are percent-encoded; `.` and `..` segments are resolved;
a web URL may be written with backslashes.  What it accepts has one canonical
text.
-/

namespace Compositor

/-- An absolute URL. -/
structure Url where
  scheme : String
  user : String
  password : String
  host : Option String
  /-- The port, if it is not the scheme's own. -/
  port : Option Nat
  path : UrlPath
  query : Option String
  fragment : Option String
deriving DecidableEq

namespace Url

open UrlPath (isSeparator)

/-! ## Schemes -/

/-- The schemes of the Web with their ports.  Files have none. -/
def specialSchemes : List (String × Option Nat) :=
  [("http", some 80), ("https", some 443), ("ws", some 80), ("wss", some 443), ("ftp", some 21),
   ("file", none)]

/-- The scheme is one of the Web. -/
def isSpecial (scheme : String) : Bool := specialSchemes.any fun s => s.1 == scheme

/-- The port of a scheme. -/
def defaultPort? (scheme : String) : Option Nat :=
  (specialSchemes.find? fun s => s.1 == scheme).bind (·.2)

/-- A character of a scheme after the first one. -/
def isSchemeChar (c : Char) : Bool :=
  c.isAlphanum || c == '+' || c == '-' || c == '.'

/-- The scheme at the start of a URL, in lower case, and what follows its colon. -/
def scheme? (cs : List Char) : Option (String × List Char) :=
  match cs with
  | [] => none
  | c :: _ =>
    if c.isAlpha then
      match cs.span isSchemeChar with
      | (name, ':' :: rest) => some (String.ofList (name.map Char.toLower), rest)
      | _ => none
    else none

/-! ## Queries and fragments -/

/-- The part of a URL before its query and fragment, and these. -/
def splitTail (special : Bool) (cs : List Char) :
    List Char × Option String × Option String :=
  let (front, fragment) :=
    match cs.span (· != '#') with
    | (front, _ :: rest) =>
      (front, some (String.ofList (Percent.encode Percent.inFragment rest)))
    | (front, []) => (front, none)
  match front.span (· != '?') with
  | (front, _ :: rest) =>
    let reserved := if special then Percent.inSpecialQuery else Percent.inQuery
    (front, some (String.ofList (Percent.encode reserved rest)), fragment)
  | (front, []) => (front, none, fragment)

/-! ## Authorities -/

/-- The user information before the last at sign, if there is one, and the rest. -/
def splitUser (cs : List Char) : Option (List Char) × List Char :=
  match cs.reverse.span (· != '@') with
  | (host, _ :: user) => (some user.reverse, host.reverse)
  | (host, []) => (none, host.reverse)

/-- The host before a colon that is not in brackets, and the text after the
    colon. -/
def splitPort (inBrackets : Bool) (host : List Char) :
    List Char → List Char × Option (List Char)
  | [] => (host.reverse, none)
  | c :: cs =>
    if c == ':' && !inBrackets then (host.reverse, some cs)
    else
      splitPort (if c == '[' then true else if c == ']' then false else inBrackets) (c :: host) cs

/-- The port of a text of digits; none if it is empty or the scheme's own. -/
def port? (scheme : String) (digits : List Char) : Option (Option Nat) :=
  if digits.isEmpty then some none
  else if !digits.all Char.isDigit then none
  else
    match Text.valueOf? 10 digits with
    | some n =>
      if 65535 < n then none
      else some (if defaultPort? scheme == some n then none else some n)
    | none => none

/-- User and password: the texts around the first colon. -/
def credentials (userinfo : List Char) : String × String :=
  let text (part : List Char) := String.ofList (Percent.encode Percent.inUserinfo part)
  match userinfo.span (· != ':') with
  | (user, _ :: password) => (text user, text password)
  | (user, []) => (text user, "")

/-- What stands between the slashes of a URL and its path. -/
structure Authority where
  user : String
  password : String
  host : String
  port : Option Nat

/-- Reads an authority.  With it comes the text after its port: a backslash ends
    the port of any scheme, and the path starts there. -/
def authority? (scheme : String) (cs : List Char) : Option (Authority × List Char) := do
  let (userinfo, place) := splitUser cs
  let (hostText, portText) := splitPort false [] place
  let (user, password) := credentials (userinfo.getD [])
  let host ←
    if isSpecial scheme then Host.ofSpecial? hostText
    -- User, password and port make no sense without a host.
    else if hostText.isEmpty && (user != "" || password != "" || portText.isSome) then none
    else Host.ofPlain? hostText
  let (digits, rest) := (portText.getD []).span (· != '\\')
  let port ← port? scheme digits
  pure (⟨user, password, host, port⟩, rest)

/-! ## Reading -/

/-- What may surround a URL. -/
def isPadding (c : Char) : Bool := decide (c.toNat ≤ 0x20)

/-- The characters of a URL that count. -/
def relevant (s : String) : List Char :=
  ((s.toList.dropWhile isPadding).reverse.dropWhile isPadding).reverse.filter fun c =>
    c != '\t' && c != '\n' && c != '\r'

/-- Where an authority ends. -/
def endsAuthority (special : Bool) (c : Char) : Bool :=
  isSeparator special c || c == '?' || c == '#'

/-- A URL whose authority starts here. -/
def withAuthority? (scheme : String) (cs : List Char) : Option Url := do
  let special := isSpecial scheme
  let (text, tail) := cs.span fun c => !endsAuthority special c
  -- An at sign alone is an authority only where the URL ends with it.
  if text == ['@'] && !tail.isEmpty then none
  else
    let (auth, rest) ← authority? scheme text
    let (path, query, fragment) := splitTail special (rest ++ tail)
    pure
      { scheme, user := auth.user, password := auth.password, host := some auth.host
        port := auth.port, path := .ofText special path, query, fragment }

/-- Host and path of the URL of a file.  A drive after two slashes belongs to the
    path.  The local host has no name. -/
def filePlace? (cs : List Char) : Option (Option String × List Char) :=
  match cs with
  | a :: b :: rest =>
    if isSeparator true a && isSeparator true b then
      let (name, path) := rest.span fun c => !isSeparator true c
      if UrlPath.isDrive name then some (none, rest)
      else if name.isEmpty then some (none, path)
      else
        (Host.ofSpecial? name).map fun h =>
          if h == "localhost" then (none, path) else (some h, path.drop 1)
    else some (none, if isSeparator true a then b :: rest else cs)
  | [a] => some (none, if isSeparator true a then [] else cs)
  | [] => some (none, [])

/-- A URL of a file.  One whose path starts with a drive is local. -/
def file? (cs : List Char) : Option Url := do
  let (front, query, fragment) := splitTail true cs
  let (host, path) ← filePlace? front
  let names := UrlPath.resolve true [] (UrlPath.rawSegments true path)
  pure
    { scheme := "file", user := "", password := "", port := none
      host := if UrlPath.startsWithDrive names then none else host
      path := .segments (UrlPath.withoutLeadingSlashes names), query, fragment }

/-- A URL without authority. -/
def withoutAuthority (scheme : String) (cs : List Char) : Url :=
  let (front, query, fragment) := splitTail false cs
  let path :=
    match front with
    | '/' :: _ => .ofText false front
    | _ => .whole (String.ofList (Percent.encode Percent.inAny front))
  { scheme, user := "", password := "", host := none, port := none, path, query, fragment }

/-- Reads an absolute URL. -/
def parse? (s : String) : Option Url := do
  let (scheme, rest) ← scheme? (relevant s)
  if scheme == "file" then file? rest
  else if isSpecial scheme then withAuthority? scheme (rest.dropWhile (isSeparator true))
  else
    match rest with
    | '/' :: '/' :: rest => withAuthority? scheme rest
    | _ => some (withoutAuthority scheme rest)

/-! ## Writing and using -/

/-- The text of a path. -/
def pathText (u : Url) : String :=
  match u.path with
  | .whole text => text
  | .segments names =>
    let text := String.join (names.map fun s => "/" ++ s)
    if u.host.isNone && u.scheme != "file" && 1 < names.length && names.head? == some "" then
      "/." ++ text
    else text

/-- The text between the scheme and the path. -/
def authorityText (u : Url) : String :=
  match u.host with
  | none => if u.scheme == "file" then "//" else ""
  | some host =>
    let password := if u.password.isEmpty then "" else ":" ++ u.password
    let user := if u.user.isEmpty && u.password.isEmpty then "" else u.user ++ password ++ "@"
    let port := (u.port.map fun n => ":" ++ toString n).getD ""
    "//" ++ user ++ host ++ port

/-- The canonical text of a URL. -/
def text (u : Url) : String :=
  u.scheme ++ ":" ++ u.authorityText ++ u.pathText
    ++ (u.query.map fun q => "?" ++ q).getD "" ++ (u.fragment.map fun f => "#" ++ f).getD ""

/-- The text that a part of the URL encodes, if it is one. -/
def decoded? (part : String) : Option String :=
  Text.decode? (Percent.decode (Text.utf8 part))

/-- The URL names someone: a user, or a password.  Nobody is named by bytes that
    are no text, and no password belongs to such a user. -/
def namesSomeone (u : Url) : Bool :=
  match decoded? u.user with
  | some user => user != "" || (u.password != "" && (decoded? u.password).isSome)
  | none => false

/-- The URL without user and password, if it names someone. -/
def withoutCredentials (u : Url) : Url :=
  if u.namesSomeone then { u with user := "", password := "" } else u

/-- The last segment of the path. -/
def lastSegment? (u : Url) : Option String :=
  match u.path with
  | .segments names => names.getLast?
  | .whole _ => none

end Url

end Compositor
