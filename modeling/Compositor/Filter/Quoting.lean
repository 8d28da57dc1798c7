/-! # Quoting in filter options

A text that stands between single quotes in a filter option is read twice: first
the quotes are removed, where between quotes everything is literal and elsewhere
a backslash protects the next character; then backslashes are removed from what
is left.  A quote inside the text therefore closes the quotes, stands protected,
and opens them again, and each character that has a meaning in the second reading
is protected by a backslash.
-/

namespace Compositor.Filter

/-- A quote inside quotes: close, a protected quote, open. -/
def quotedQuote : List Char := ['\'', '\\', '\'', '\'']

/-- A character of a text to be drawn.  The percent sign would start a macro. -/
def drawnChar (c : Char) : List Char :=
  if c == '\\' then ['\\', '\\']
  else if c == '%' then ['\\', '%']
  else if c == '\'' then quotedQuote
  else [c]

/-- A character of another value.  The colon would end the option. -/
def valueChar (c : Char) : List Char :=
  if c == '\\' then ['\\', '\\']
  else if c == '\'' then quotedQuote
  else if c == ':' then ['\\', ':']
  else [c]

/-- A text to be drawn, as it is written between quotes. -/
def drawnText (s : String) : String := String.ofList (s.toList.flatMap drawnChar)

/-- Another value, as it is written between quotes. -/
def quotedValue (s : String) : String := String.ofList (s.toList.flatMap valueChar)

end Compositor.Filter
