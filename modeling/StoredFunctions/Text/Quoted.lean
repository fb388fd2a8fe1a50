/-
# Quoted texts

The quoted form of a text is a string literal of the generated code, and error messages use the
same form.  Quotes are single unless the text holds a single quote and no double quote.  Inside,
a backslash introduces escapes: the quote in use and the backslash itself, the three common
controls by letter, and every other character that is not printable by its number in the
shortest of three widths.
-/
import StoredFunctions.Text.Basic
import StoredFunctions.Text.Printable

namespace StoredFunctions.Text

/-- The quote around a text: double only where that saves escaping a single quote. -/
def quoteMark (t : Text) : Char :=
  if t.contains '\'' && !t.contains '"' then '"' else '\''

/-- The escape that writes a character by its number. -/
def numericEscape (c : Char) : Text :=
  if c.toNat < 0x100 then '\\' :: 'x' :: hex 2 c.toNat
  else if c.toNat < 0x10000 then '\\' :: 'u' :: hex 4 c.toNat
  else '\\' :: 'U' :: hex 8 c.toNat

/-- A character inside quotes. -/
def quotedChar (mark c : Char) : Text :=
  if c = mark || c = '\\' then ['\\', c]
  else if c = '\n' then ['\\', 'n']
  else if c = '\r' then ['\\', 'r']
  else if c = '\t' then ['\\', 't']
  else if isPrintable c then [c]
  else numericEscape c

/-- The quoted form of a text. -/
def quoted (t : Text) : Text :=
  let mark := t.quoteMark
  mark :: t.flatMap (quotedChar mark) ++ [mark]

end StoredFunctions.Text
