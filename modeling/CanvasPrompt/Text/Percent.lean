import CanvasPrompt.Text.Utf8

/-!
# Percent encoding

Texts inside URLs. Letters, digits and `_ . - ~` stand for themselves, every other byte of the UTF-8
form is written as `%` and two hexadecimal digits. In a query a space is written `+`, and its pairs
are written `name=value` with `&` between them.
-/

namespace CanvasPrompt.Percent

/-- A character that stands for itself in every part of a URL. -/
def isUnreserved (c : Code) : Bool :=
  Text.isAsciiLetter c || Text.isAsciiDigit c || c == '_' || c == '.' || c == '-' || c == '~'

/-- The capital hexadecimal digit of a number below 16. -/
def hexDigit (n : Nat) : Code :=
  if n < 10 then Code.ofNat (0x30 + n) else Code.ofNat (0x41 + (n - 10))

/-- A byte as `%` and two digits. -/
def encodeByte (b : UInt8) : Text :=
  ['%', hexDigit (b.toNat / 16), hexDigit (b.toNat % 16)]

/-- A character in a path. -/
def encodeChar (c : Code) : Text :=
  if isUnreserved c then [c] else (Text.utf8Char c).flatMap encodeByte

/-- A text as one segment of a path. -/
def encode (t : Text) : Text :=
  t.flatMap encodeChar

/-- A character in a query. -/
def encodeFormChar (c : Code) : Text :=
  if c == ' ' then ['+'] else encodeChar c

/-- A text as a name or value of a query. -/
def encodeForm (t : Text) : Text :=
  t.flatMap encodeFormChar

/-- One pair of a query. -/
def encodePair (p : Text × Text) : Text :=
  encodeForm p.1 ++ Code.scalar '=' :: encodeForm p.2

/-- The pairs of a query. -/
def encodeQuery (ps : List (Text × Text)) : Text :=
  [Code.scalar '&'].intercalate (ps.map encodePair)

/-- The bytes of a percent-encoded text; a `%` that is not followed by two hexadecimal digits stands
for itself. -/
def decodeBytes : Text → Bytes
  | [] => []
  | '%' :: a :: b :: rest =>
    match Text.hexValue? a, Text.hexValue? b with
    | some x, some y => UInt8.ofNat (x * 16 + y) :: decodeBytes rest
    | _, _ => Text.utf8Char '%' ++ decodeBytes (a :: b :: rest)
  | c :: rest => Text.utf8Char c ++ decodeBytes rest

/-- The text that a percent-encoded text stands for, if it is UTF-8. -/
def decode (t : Text) : Option Text :=
  Text.ofProperUtf8? (decodeBytes t)

/-- The text that a name or value of a query stands for, if it is UTF-8. -/
def decodeForm (t : Text) : Option Text :=
  decode (t.map fun c : Code => if c == '+' then Code.scalar ' ' else c)

end CanvasPrompt.Percent
