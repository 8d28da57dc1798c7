import Compositor.Assets.Base64
import Compositor.Text.Blank
import Compositor.Text.Utf8

/-! # Embedded assets

An asset can be part of a scene.  Its text is either a data URI, which says of
what kind it is, or bare Base64.  Blank characters inside Base64 do not count.
-/

namespace Compositor

/-- Why an embedded asset has no bytes. -/
inductive EmbeddedError where
  /-- A data URI without a comma. -/
  | noPayload
  | base64 (error : Base64.Error)
deriving DecidableEq

/-- The error's text. -/
def EmbeddedError.message : EmbeddedError → String
  | noPayload => "data URI has no payload"
  | base64 error => error.message

namespace Embedded

/-- The text before the first occurrence of a character and the text after it. -/
def splitAt? (mark : Char) (cs : List Char) : Option (List Char × List Char) :=
  match cs.span (· != mark) with
  | (_, []) => none
  | (before, _ :: after) => some (before, after)

/-- The extension of a file that could be anything. -/
def plainExtension : String := "bin"

/-- The file extension of a media type.  Where the subtype is not the usual
    extension, the table has it. -/
def extension (mime : String) : String :=
  match Text.lower mime with
  | "image/jpeg" | "image/jpg" => "jpg"
  | "image/svg+xml" => "svg"
  | "audio/mpeg" | "audio/mp3" => "mp3"
  | "audio/wav" | "audio/x-wav" | "audio/wave" => "wav"
  | "text/plain" => "txt"
  | other =>
    match splitAt? '/' other.toList with
    | some (_, subtype) =>
      if !subtype.isEmpty && subtype.all Char.isAlphanum then String.ofList subtype
      else plainExtension
    | none => plainExtension

/-- The bytes of a Base64 text with blank characters in it. -/
def bytesOfBase64 (engine : Base64.Engine) (cs : List Char) : Except EmbeddedError (List UInt8) :=
  let clean := cs.filter fun c => !Text.isBlank c
  (engine (Text.utf8 (String.ofList clean))).mapError .base64

/-- The mark in front of a data URI. -/
def scheme : List Char := "data:".toList

/-- The end of the header of a data URI whose payload is Base64. -/
def base64Mark : List Char := ";base64".toList

/-- The bytes of an embedded asset and the extension of a file that holds them, where
    Base64 is read by an engine. -/
def decodeWith (engine : Base64.Engine) (payload : String) :
    Except EmbeddedError (List UInt8 × String) :=
  let cs := Text.trimChars payload.toList
  if scheme.isPrefixOf cs then
    match splitAt? ',' (cs.drop scheme.length) with
    | none => .error .noPayload
    | some (header, body) =>
      let ext := extension (String.ofList (header.takeWhile (· != ';')))
      if base64Mark.isSuffixOf header then
        (bytesOfBase64 engine body).map fun bytes => (bytes, ext)
      else .ok (Text.utf8 (String.ofList body), ext)
  else (bytesOfBase64 engine cs).map fun bytes => (bytes, plainExtension)

/-- The bytes of an embedded asset and the extension of a file that holds them. -/
def decode (payload : String) : Except EmbeddedError (List UInt8 × String) :=
  decodeWith Base64.decode payload

end Embedded

end Compositor
