/-! # Media types

A body says with its media type what it is.  A media type is a type, a slash, a
subtype and possibly parameters after a semicolon; a subtype may have a suffix after
a plus sign.  Capital and small letters are the same.
-/

namespace Compositor.MediaType

/-- The characters of names. -/
def isTokenChar (c : Char) : Bool := c.isAlphanum || "!#$%&'*+-.^_`|~".toList.contains c

/-- A name: at least one character, each of them allowed. -/
def isToken (cs : List Char) : Bool := !cs.isEmpty && cs.all isTokenChar

/-- A character that may stand in quotes. -/
def isPrintable (c : Char) : Bool := decide (0x20 ≤ c.toNat) && decide (c.toNat < 0x7F)

/-- The rest after a quoted value, which has at least one character, and blanks after
    it. -/
def afterQuoted : List Char → Option (List Char)
  | [] => none
  | c :: cs =>
    if isPrintable c then
      match cs.dropWhile fun c => isPrintable c && c != '"' with
      | '"' :: rest => some (rest.dropWhile (· == ' '))
      | _ => none
    else none

/-- The parameters after a semicolon are well formed.  Each is a name, an equals sign
    and a value; there may be blanks before it.  The number bounds how many there
    are. -/
def areParameters : Nat → List Char → Bool
  | 0, _ => false
  | n + 1, cs =>
    let cs := cs.dropWhile (· == ' ')
    if cs.isEmpty then true
    else
      let (name, rest) := cs.span isTokenChar
      match rest with
      | '=' :: '"' :: value =>
        !name.isEmpty
          && match afterQuoted value with
            | some [] => true
            | some (';' :: rest) => areParameters n rest
            | _ => false
      | '=' :: value =>
        let (value, rest) := value.span isTokenChar
        !name.isEmpty
          && match rest with
            | [] => true
            | ';' :: rest => !value.isEmpty && areParameters n rest
            | _ => false
      | _ => false

/-- A subtype stands for JSON: it is `json` or has the suffix `json`, or its part
    before a suffix is `json`. -/
def isJsonSubtype (cs : List Char) : Bool :=
  match cs.reverse.span (· != '+') with
  | (suffix, _ :: c :: stem) =>
    suffix.reverse == "json".toList || (c :: stem).reverse == "json".toList
  | _ => cs == "json".toList

/-- The media type of JSON, in one of its forms. -/
def isJson (text : String) : Bool :=
  let cs := text.toList.map Char.toLower
  let (main, rest) := cs.span isTokenChar
  match rest with
  | '/' :: rest =>
    let (sub, parameters) := rest.span isTokenChar
    main == "application".toList && isToken sub && isJsonSubtype sub
      && match parameters with
        | [] => true
        | ';' :: parameters => areParameters (parameters.length + 1) parameters
        | _ => false
  | _ => false

end Compositor.MediaType
