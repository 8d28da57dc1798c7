import Compositor.Filter.Graph
import Compositor.Filter.Quoting
import Compositor.Scene.Basic
import Compositor.Text.Hex

/-! # Burning in subtitles

Subtitles are drawn over the finished video.  `Graph.injectSubtitles` works on
any graph: it puts a subtitle filter behind the filter that produces the video,
or, in a graph that has subtitles already, gives them the new text and style.
-/

namespace Compositor

namespace Subtitles

/-- Drops the text `0x` from the start as often as it stands there. -/
def dropHexMarks : List Char → List Char
  | '0' :: 'x' :: cs => dropHexMarks cs
  | cs => cs

/-- The six digits of a colour, if it is written with hexadecimal digits. -/
def colorDigits (color : String) : List Char :=
  dropHexMarks ((Text.trimChars color.toList).dropWhile (· == '#'))

/-- A colour in a subtitle style, blue first; white if it is not written with six
    hexadecimal digits. -/
def styleColor (color : String) : String :=
  match colorDigits color with
  | [r1, r2, g1, g2, b1, b2] =>
    let digits := [b1, b2, g1, g2, r1, r2]
    if digits.all Text.isHexDigit then "&H00" ++ String.ofList (digits.map Char.toUpper)
    else "&H00FFFFFF"
  | _ => "&H00FFFFFF"

/-- The place of the subtitles, as a key of the numeric keypad. -/
def alignment : SubtitlePosition → Nat
  | .bottom => 2
  | .center => 5
  | .top => 8

/-- Nothing is drawn behind the subtitles. -/
def isTransparent (s : Subtitles) : Bool := Text.lower (Text.trim s.background) == "transparent"

/-- The part of the style that draws an outline, or a box in the background
    colour. -/
def borderStyle (s : Subtitles) : List String :=
  if s.isTransparent then ["BorderStyle=1", if s.outline then "Outline=2" else "Outline=0"]
  else
    ["BorderStyle=3", "OutlineColour=" ++ styleColor s.background,
     "BackColour=" ++ styleColor s.background, "Outline=1"]

/-- The style that is forced on the subtitles. -/
def forceStyle (s : Subtitles) : String :=
  String.intercalate "," <|
    ["FontSize=" ++ toString s.fontSize, "PrimaryColour=" ++ styleColor s.color,
     "Alignment=" ++ toString (alignment s.position)]
      ++ s.borderStyle ++ ["Shadow=0"]

/-- The filter that draws the subtitles of a file. -/
def filter (s : Subtitles) (path : String) : String :=
  "subtitles=filename='" ++ Filter.quotedValue path ++ "':force_style='" ++ s.forceStyle ++ "'"

end Subtitles

/-- Draws subtitles over the finished video.  Without a finished video they are
    drawn on the first input, and become the finished video. -/
def Graph.injectSubtitles (g : Graph) (s : Subtitles) (path : String) : Graph :=
  match g.find? .subtitles with
  | some index => g.setFilter index (s.filter path)
  | none =>
    -- The label is new to the graph, whatever labels the graph has.
    let (interim, _) := (LabelAllocator.resume g).take .beforeSubtitles
    let (renamed, g) := g.renameOutput Label.videoOut interim
    let input : Pad := if renamed then .label interim else .stream 0 .video
    g.push ⟨.subtitles, [input], s.filter path, Label.videoOut⟩

end Compositor
