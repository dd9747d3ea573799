import CanvasPrompt.Text.Quoted
import CanvasPrompt.Number.Double

/-!
# Numerals

Whole and real numbers written as texts: white space around them, a sign, the decimal digits of
every script, and single underscores between digits. A whole number has a largest number of digits.
-/

namespace CanvasPrompt.Text

/-- The digits zero of the scripts with decimal digits; the other nine digits follow each of them.
-/
def decimalZeros : List Nat :=
  [0x30, 0x660, 0x6F0, 0x7C0, 0x966, 0x9E6, 0xA66, 0xAE6, 0xB66, 0xBE6, 0xC66, 0xCE6, 0xD66, 0xDE6,
   0xE50, 0xED0, 0xF20, 0x1040, 0x1090, 0x17E0, 0x1810, 0x1946, 0x19D0, 0x1A80, 0x1A90, 0x1B50,
   0x1BB0, 0x1C40, 0x1C50, 0xA620, 0xA8D0, 0xA900, 0xA9D0, 0xA9F0, 0xAA50, 0xABF0, 0xFF10, 0x104A0,
   0x10D30, 0x11066, 0x110F0, 0x11136, 0x111D0, 0x112F0, 0x11450, 0x114D0, 0x11650, 0x116C0,
   0x11730, 0x118E0, 0x11950, 0x11C50, 0x11D50, 0x11DA0, 0x16A60, 0x16AC0, 0x16B50, 0x1D7CE,
   0x1D7D8, 0x1D7E2, 0x1D7EC, 0x1D7F6, 0x1E140, 0x1E2F0, 0x1E950, 0x1FBF0]

/-- The value of a decimal digit of any script. -/
def decimalValue? (c : Code) : Option Nat :=
  (decimalZeros.find? fun z => z ≤ c.toNat && c.toNat ≤ z + 9).map (c.toNat - ·)

/-- A decimal digit of any script. -/
def isDecimal (c : Code) : Bool :=
  (decimalValue? c).isSome

/-- The number that a run of decimal digits denotes. -/
def decimalsValue (t : Text) : Nat :=
  t.foldl (fun n c => 10 * n + (decimalValue? c).getD 0) 0

/-- White space that may stand around a numeral: all but the four information separators. -/
def isNumeralBlank (c : Code) : Bool :=
  isBlank c && !(0x1C ≤ c.toNat && c.toNat ≤ 0x1F)

/-- The sign in front of a numeral and what follows it. -/
def splitSign : Text → Bool × Text
  | '-' :: t => (true, t)
  | '+' :: t => (false, t)
  | t => (false, t)

/-- Why a text is no whole number. -/
inductive IntegerError where
  /-- It is not of the form of a whole number. -/
  | malformed
  /-- It has more digits than are read. -/
  | tooLong (digits : Nat)
  deriving DecidableEq

/-- The largest number of digits of a whole number that is read or written out. -/
def digitLimit : Nat := 4300

/-- The wording for a whole number of too many digits. -/
def tooManyDigits (digits : Nat) : Text :=
  "Exceeds the limit (4300 digits) for integer string conversion: value has ".codes ++
    ofNat digits ++ " digits; use sys.set_int_max_str_digits() to increase the limit".codes

/-- The integer has no more digits than are read or written out. -/
def IsShort (i : Int) : Prop :=
  (ofNat i.natAbs).length ≤ digitLimit

instance (i : Int) : Decidable (IsShort i) :=
  Nat.decLe (ofNat i.natAbs).length digitLimit

/-- The decimal digits of an integer with its sign, if there are not too many of them. -/
def writtenInt? (i : Int) : Option Text :=
  if IsShort i then some (ofInt i) else none

/-- The wording for a whole number that has too many digits to be written out. -/
def tooManyToWrite : Text :=
  ("Exceeds the limit (4300 digits) for integer string conversion; " ++
    "use sys.set_int_max_str_digits() to increase the limit").codes

/-- The wording of the error for the text `t`; a long text is cut after 200 characters of its quoted
form. -/
def IntegerError.message (t : Text) : IntegerError → Text
  | .malformed => "invalid literal for int() with base 10: ".codes ++ (quoted t).take 200
  | .tooLong digits => tooManyDigits digits

/-- Read a whole number. The form of the leading digits is looked at first, then their number, and
last what follows them. -/
def readInteger (t : Text) : Except IntegerError Int :=
  let (negative, body) := splitSign (trim isNumeralBlank t)
  let (run, rest) := body.span fun c => isDecimal c || c == '_'
  let groups := splitAtChar '_' run
  let digits := groups.flatten
  if groups.any List.isEmpty then .error .malformed
  else if digitLimit < digits.length then .error (.tooLong digits.length)
  else if !rest.isEmpty then .error .malformed
  else .ok (if negative then -(decimalsValue digits : Int) else (decimalsValue digits : Int))

/-- Drop the underscores of a text in which each stands between two decimal digits; `afterDigit`
says whether the character before `t` is one. -/
def dropSeparators? (afterDigit : Bool) : Text → Option Text
  | [] => some []
  | '_' :: c :: t =>
    if afterDigit && isDecimal c then (dropSeparators? true t).map (c :: ·) else none
  | c :: t =>
    if c == '_' then none else (dropSeparators? (isDecimal c) t).map (c :: ·)

/-- The exponent at the end of a real numeral: nothing, or a letter and a signed whole number. -/
def readExponent? : Text → Option Int
  | [] => some 0
  | c :: t =>
    if c == 'e' || c == 'E' then
      let (negative, digits) := splitSign t
      if digits.isEmpty || !digits.all isDecimal then none
      else some (if negative then -(decimalsValue digits : Int) else (decimalsValue digits : Int))
    else none

/-- Read an unsigned real number that is written in digits, with a point and an exponent at will. -/
def readDigits? (negative : Bool) (t : Text) : Option Double :=
  let (whole, rest) := t.span isDecimal
  let (part, rest) :=
    match rest with
    | '.' :: r => r.span isDecimal
    | r => ([], r)
  if whole.isEmpty && part.isEmpty then none
  else
    (readExponent? rest).map fun e =>
      Double.ofDecimal negative (decimalsValue (whole ++ part)) (e - (part.length : Int))

/-- Read a real number: digits, or one of the words for infinity and for a NaN in any letter case.
-/
def readReal? (t : Text) : Option Double := do
  let plain ← dropSeparators? false (trim isNumeralBlank t)
  let (negative, body) := splitSign plain
  let word := lowerAscii body
  if word == "inf".codes || word == "infinity".codes then some (Double.infinity negative)
  else if word == "nan".codes then some Double.nan
  else readDigits? negative body

end CanvasPrompt.Text
