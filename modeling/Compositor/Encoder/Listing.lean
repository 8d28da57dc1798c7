import Compositor.Encoder.Backend

/-! # The engine's listing of encoders

The engine lists its encoders as a table with a header.  A row of the table
starts with a column of six flags, and its second column is the name of an
encoder; in the legend the second column is an equals sign.  Nothing else in the
listing counts.
-/

namespace Compositor

/-- Which of the backends' encoders the engine has. -/
structure EncoderSupport where
  nvenc : Bool
  amf : Bool
  qsv : Bool
  videoToolbox : Bool
  software : Bool
deriving DecidableEq

namespace EncoderSupport

/-- The name of the encoder that a line of the listing is a row for. -/
def rowName? (line : List Char) : Option (List Char) :=
  match Text.columns line with
  | flags :: name :: _ =>
    if (flags.flatMap String.utf8EncodeChar).length = 6 ∧ name ≠ ['='] then some name else none
  | _ => none

/-- The names of all encoders of a listing. -/
def names (listing : String) : List (List Char) :=
  (Text.lines listing.toList).filterMap rowName?

/-- What a listing says about the backends' encoders. -/
def ofListing (listing : String) : EncoderSupport :=
  let has (b : Backend) : Bool := (names listing).contains b.encoder.toList
  { nvenc := has .nvenc
    amf := has .amf
    qsv := has .qsv
    videoToolbox := has .videoToolbox
    software := has .software }

/-- The engine has the backend's encoder. -/
def supports (s : EncoderSupport) : Backend → Bool
  | .nvenc => s.nvenc
  | .amf => s.amf
  | .qsv => s.qsv
  | .videoToolbox => s.videoToolbox
  | .software => s.software

/-- The backends whose encoders the engine has, the most preferred one first. -/
def available (s : EncoderSupport) : List Backend := Backend.preference.filter s.supports

end EncoderSupport

end Compositor
