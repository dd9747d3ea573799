/-!
# Texts

A text is the list of its code points. Most of them are characters, but a text may hold surrogates
that stand alone, which are none; where it does not matter, any code point is called a character.
This module has the white space that trimming and splitting go by, trimming at both ends, the split
into words and the split at a separator.
-/

namespace CanvasPrompt

/-- A code point: a character, or one of the 2048 surrogates from U+D800 on, which stand for no
character. -/
inductive Code where
  /-- A Unicode scalar value. -/
  | scalar (c : Char)
  /-- A surrogate, counted from the first one. -/
  | surrogate (s : Fin 0x800)
  deriving DecidableEq

namespace Code

instance : Coe Char Code := ⟨scalar⟩

instance : Inhabited Code := ⟨scalar default⟩

/-- The number of a code point. -/
def toNat : Code → Nat
  | scalar c => c.toNat
  | surrogate s => 0xD800 + s

/-- The code point of a number below 0x110000. -/
def ofNat (n : Nat) : Code :=
  if h : n - 0xD800 < 0x800 ∧ 0xD800 ≤ n then surrogate ⟨n - 0xD800, h.1⟩
  else scalar (Char.ofNat n)

/-- Whether a code point is a character. -/
def isScalar : Code → Bool
  | scalar _ => true
  | surrogate _ => false

/-- Whether a code point stands between two characters or is one of them. -/
def isBetween (low high : Char) (c : Code) : Bool :=
  low.toNat ≤ c.toNat && c.toNat ≤ high.toNat

/-- A letter `A` to `Z` made small; everything else as it is. -/
def toLower : Code → Code
  | scalar c => scalar c.toLower
  | surrogate s => surrogate s

/-- A letter `a` to `z` made capital; everything else as it is. -/
def toUpper : Code → Code
  | scalar c => scalar c.toUpper
  | surrogate s => surrogate s

end Code

/-- A text: its code points in order. -/
abbrev Text := List Code

end CanvasPrompt

/-- The text of a string. -/
def String.codes (s : String) : CanvasPrompt.Text :=
  s.toList.map .scalar

@[simp]
theorem String.codes_eq_nil_iff {s : String} : s.codes = [] ↔ s = "" := by
  rw [codes, List.map_eq_nil_iff, String.toList_eq_nil_iff]

namespace CanvasPrompt

namespace Text

/-- White space: the ASCII blanks U+0009 to U+000D, the four information separators, the space, and
the separators of the other blocks. U+200B, U+FEFF and U+180E are no white space. -/
def isBlank (c : Code) : Bool :=
  let n := c.toNat
  (0x09 ≤ n && n ≤ 0x0D) || (0x1C ≤ n && n ≤ 0x20) || n == 0x85 || n == 0xA0 || n == 0x1680 ||
    (0x2000 ≤ n && n ≤ 0x200A) || n == 0x2028 || n == 0x2029 || n == 0x202F || n == 0x205F ||
    n == 0x3000

/-- Drop the longest run at the end whose characters all satisfy `p`. -/
def dropEndWhile (p : Code → Bool) (t : Text) : Text :=
  (t.reverse.dropWhile p).reverse

/-- Drop the longest runs at both ends whose characters all satisfy `p`. -/
def trim (p : Code → Bool) (t : Text) : Text :=
  dropEndWhile p (t.dropWhile p)

/-- Drop the white space at both ends. -/
def strip (t : Text) : Text :=
  trim isBlank t

/-- The text without the white space around it, if anything is left. -/
def nonBlank? (t : Text) : Option Text :=
  match strip t with
  | [] => none
  | c :: rest => some (c :: rest)

/-- The pieces between the characters that satisfy `p`: one more than there are such characters. -/
def splitWhere (p : Code → Bool) : Text → List Text
  | [] => [[]]
  | c :: t =>
    if p c then [] :: splitWhere p t
    else
      match splitWhere p t with
      | [] => [[c]]
      | piece :: pieces => (c :: piece) :: pieces

/-- The pieces between the occurrences of one character. -/
def splitAtChar (sep : Code) (t : Text) : List Text :=
  splitWhere (· == sep) t

/-- The words: the maximal runs of characters that are no white space. -/
def words (t : Text) : List Text :=
  (splitWhere isBlank t).filter (fun w => !w.isEmpty)

/-- The text before the first occurrence of `sep`, or all of it. -/
def before (sep : Code) (t : Text) : Text :=
  t.takeWhile (· != sep)

/-- The text after the first occurrence of `sep`, or nothing. -/
def after (sep : Code) (t : Text) : Text :=
  (t.dropWhile (· != sep)).drop 1

/-- The text after the last occurrence of `sep`, or all of it. -/
def afterLast (sep : Code) (t : Text) : Text :=
  (t.reverse.takeWhile (· != sep)).reverse

/-- The texts that are not empty, with `sep` between them. -/
def joinPresent (sep : Text) (ts : List Text) : Text :=
  sep.intercalate (ts.filter (fun t => !t.isEmpty))

/-- The decimal digits of a natural number, most significant first. -/
def ofNat (n : Nat) : Text :=
  (Nat.toDigits 10 n).map .scalar

/-- The decimal digits of an integer, however many there are, with a minus sign in front of a
negative one. -/
def ofInt : Int → Text
  | .ofNat n => ofNat n
  | .negSucc n => '-' :: ofNat (n + 1)

/-- The first of the two texts that is not empty, else the second. -/
def orElse (a b : Text) : Text :=
  if a.isEmpty then b else a

theorem orElse_of_ne_nil {a : Text} (h : a ≠ []) (b : Text) : orElse a b = a := by
  simp [orElse, h]

/-- The `width` low hexadecimal digits of `n`, in lower case. -/
def hexDigits (width n : Nat) : Text :=
  match width with
  | 0 => []
  | w + 1 => hexDigits w (n / 16) ++ [↑(Nat.digitChar (n % 16))]

/-- The value of a hexadecimal digit of either case. -/
def hexValue? (c : Code) : Option Nat :=
  if c.isBetween '0' '9' then some (c.toNat - '0'.toNat)
  else if c.isBetween 'a' 'f' then some (c.toNat - 'a'.toNat + 10)
  else if c.isBetween 'A' 'F' then some (c.toNat - 'A'.toNat + 10)
  else none

/-- A letter `A` to `Z` or `a` to `z`. -/
def isAsciiLetter (c : Code) : Bool :=
  c.isBetween 'a' 'z' || c.isBetween 'A' 'Z'

/-- A digit `0` to `9`. -/
def isAsciiDigit (c : Code) : Bool :=
  c.isBetween '0' '9'

/-- The text with its letters `A` to `Z` made small and all else kept. -/
def lowerAscii (t : Text) : Text :=
  t.map Code.toLower

end Text

end CanvasPrompt
