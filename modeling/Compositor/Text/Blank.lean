/-! # Blank characters

Text is trimmed and split at the characters that have the Unicode property
White_Space, twenty-five in all.  Letter case is that of the ASCII letters only.
-/

namespace Compositor.Text

/-- The character lies in one of some closed ranges of code points. -/
def inRanges (ranges : List (Nat × Nat)) (c : Char) : Bool :=
  ranges.any fun r => decide (r.1 ≤ c.toNat) && decide (c.toNat ≤ r.2)

/-- The closed ranges of blank code points, ascending. -/
def blankRanges : List (Nat × Nat) :=
  [(0x09, 0x0D), (0x20, 0x20), (0x85, 0x85), (0xA0, 0xA0), (0x1680, 0x1680), (0x2000, 0x200A),
   (0x2028, 0x2029), (0x202F, 0x202F), (0x205F, 0x205F), (0x3000, 0x3000)]

/-- The character is blank. -/
def isBlank (c : Char) : Bool := inRanges blankRanges c

/-- Every character that core takes as white space is blank. -/
theorem isBlank_of_isWhitespace {c : Char} (h : c.isWhitespace = true) : isBlank c = true := by
  simp only [Char.isWhitespace, Bool.or_eq_true, decide_eq_true_eq] at h
  rcases h with ((h | h) | h) | h <;> subst h <;> decide

/-- Drops the blank characters at both ends. -/
def trimChars (cs : List Char) : List Char :=
  ((cs.dropWhile isBlank).reverse.dropWhile isBlank).reverse

/-- The text without the blank characters at its ends. -/
def trim (s : String) : String := String.ofList (trimChars s.toList)

/-- The text without the blank characters at its start. -/
def trimStart (s : String) : String := String.ofList (s.toList.dropWhile isBlank)

/-- The text has no character that is not blank. -/
def allBlank (s : String) : Bool := s.toList.all isBlank

/-- The columns of a line: its longest pieces without blank characters. -/
def columnsFrom (piece : List Char) : List Char → List (List Char)
  | [] => if piece.isEmpty then [] else [piece.reverse]
  | c :: cs =>
    if isBlank c then
      if piece.isEmpty then columnsFrom [] cs else piece.reverse :: columnsFrom [] cs
    else columnsFrom (c :: piece) cs

/-- The columns of a line. -/
def columns (cs : List Char) : List (List Char) := columnsFrom [] cs

/-- The lines of a text.  A line ends at a line feed, which belongs to no line,
    and neither does one carriage return before it; text after the last line feed
    is a line if it is not empty. -/
def linesFrom (line : List Char) : List Char → List (List Char)
  | [] => if line.isEmpty then [] else [line.reverse]
  | '\n' :: cs =>
    (match line with
      | '\r' :: before => before.reverse
      | _ => line.reverse) :: linesFrom [] cs
  | c :: cs => linesFrom (c :: line) cs

/-- The lines of a text. -/
def lines (cs : List Char) : List (List Char) := linesFrom [] cs

/-- The text in lower case; only ASCII letters change. -/
def lower (s : String) : String := String.ofList (s.toList.map Char.toLower)

end Compositor.Text
