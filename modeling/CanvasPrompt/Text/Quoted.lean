import CanvasPrompt.Text.Lower
import CanvasPrompt.Text.PrintableTable

/-!
# Quoted texts

The form in which a text is shown inside a message: between quotes, with escapes for the quote, the
backslash and every character that has no visible form.
-/

namespace CanvasPrompt.Text

/-- Whether a character has a visible form of its own; the space has one. -/
def isPrintable (c : Code) : Bool :=
  !inRanges hiddenRanges c

/-- The quote around a text: a single quote, unless the text has one and has no double quote. -/
def quoteMark (t : Text) : Code :=
  if t.contains '\'' && !t.contains '"' then '"' else '\''

/-- A character inside quotes `q`. -/
def quotedChar (q c : Code) : Text :=
  let n := c.toNat
  if c == q || c == '\\' then ['\\', c]
  else if c == '\t' then ['\\', 't']
  else if c == '\n' then ['\\', 'n']
  else if c == '\r' then ['\\', 'r']
  else if 0x20 ≤ n && n < 0x7F then [c]
  else if isPrintable c then [c]
  else if n ≤ 0xFF then "\\x".codes ++ hexDigits 2 n
  else if n ≤ 0xFFFF then "\\u".codes ++ hexDigits 4 n
  else "\\U".codes ++ hexDigits 8 n

/-- The text between quotes. -/
def quoted (t : Text) : Text :=
  let q := quoteMark t
  q :: t.flatMap (quotedChar q) ++ [q]

end CanvasPrompt.Text
