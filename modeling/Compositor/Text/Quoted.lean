import Compositor.Text.Shape

/-! # Quoted text

A text can be shown in double quotes on one line.  Quotes, backslashes and
characters without a shape of their own are then escaped.
-/

namespace Compositor.Text

/-- A character between quotes. -/
def quotedChar (c : Char) : List Char :=
  if c == '"' then ['\\', '"']
  else if c == '\\' then ['\\', '\\']
  else if c == '\n' then ['\\', 'n']
  else if c == '\r' then ['\\', 'r']
  else if c == '\t' then ['\\', 't']
  else if c == '\x00' then ['\\', '0']
  else if isShapeless c then
    ['\\', 'u', '{'] ++ (Nat.toDigits 16 c.toNat ++ ['}'])
  else [c]

/-- A text in double quotes. -/
def quoted (s : String) : String :=
  String.ofList ('"' :: (s.toList.flatMap quotedChar ++ ['"']))

end Compositor.Text
