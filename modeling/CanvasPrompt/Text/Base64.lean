import CanvasPrompt.Text.Utf8

/-!
# Base64

Bytes as texts of 64 characters: three bytes make four characters, and the last group is filled up
with `=`. There are two alphabets, which differ in the characters of the two highest numbers.
Reading takes exactly what writing gives: characters of one alphabet, a complete fill at the end and
nowhere else, and no bits left over that are not zero.
-/

namespace CanvasPrompt.Base64

/-- An alphabet: the characters of the numbers 62 and 63. Those below are the same in every one. -/
structure Alphabet where
  /-- The character of 62. -/
  sixtyTwo : Code
  /-- The character of 63. -/
  sixtyThree : Code
  deriving DecidableEq

/-- The usual alphabet. -/
def standard : Alphabet := ⟨'+', '/'⟩

/-- The alphabet for URLs. -/
def forUrls : Alphabet := ⟨'-', '_'⟩

/-- The character of a number below 64. -/
def Alphabet.digit (a : Alphabet) (n : Nat) : Code :=
  if n < 26 then Code.ofNat (0x41 + n)
  else if n < 52 then Code.ofNat (0x61 + (n - 26))
  else if n < 62 then Code.ofNat (0x30 + (n - 52))
  else if n == 62 then a.sixtyTwo
  else a.sixtyThree

/-- The number of a character. -/
def Alphabet.value? (a : Alphabet) (c : Code) : Option Nat :=
  let n := c.toNat
  if 0x41 ≤ n && n ≤ 0x5A then some (n - 0x41)
  else if 0x61 ≤ n && n ≤ 0x7A then some (n - 0x61 + 26)
  else if 0x30 ≤ n && n ≤ 0x39 then some (n - 0x30 + 52)
  else if c == a.sixtyTwo then some 62
  else if c == a.sixtyThree then some 63
  else none

/-- The text of some bytes. -/
def encode (a : Alphabet) : Bytes → Text
  | [] => []
  | [x] =>
    let n := x.toNat
    [a.digit (n / 4), a.digit (n % 4 * 16), '=', '=']
  | [x, y] =>
    let n := x.toNat
    let m := y.toNat
    [a.digit (n / 4), a.digit (n % 4 * 16 + m / 16), a.digit (m % 16 * 4), '=']
  | x :: y :: z :: rest =>
    let n := x.toNat
    let m := y.toNat
    let k := z.toNat
    a.digit (n / 4) :: a.digit (n % 4 * 16 + m / 16) :: a.digit (m % 16 * 4 + k / 64) ::
      a.digit (k % 64) :: encode a rest

/-- The bytes of a text, if it is the text of some bytes. -/
def decode (a : Alphabet) : Text → Option Bytes
  | [] => some []
  | [x, y, '=', '='] => do
    let n ← a.value? x
    let m ← a.value? y
    if m % 16 == 0 then some [UInt8.ofNat (n * 4 + m / 16)] else none
  | [x, y, z, '='] => do
    let n ← a.value? x
    let m ← a.value? y
    let k ← a.value? z
    if k % 4 == 0 then
      some [UInt8.ofNat (n * 4 + m / 16), UInt8.ofNat (m % 16 * 16 + k / 4)]
    else none
  | x :: y :: z :: w :: rest => do
    let n ← a.value? x
    let m ← a.value? y
    let k ← a.value? z
    let l ← a.value? w
    let bs ← decode a rest
    pure (UInt8.ofNat (n * 4 + m / 16) :: UInt8.ofNat (m % 16 * 16 + k / 4) ::
      UInt8.ofNat (k % 4 * 64 + l) :: bs)
  | _ => none

/-- The bytes of a text that may lack its fill, or a part of it: it is filled up first. -/
def decodeUnfilled (a : Alphabet) (t : Text) : Option Bytes :=
  decode a (t ++ List.replicate ((4 - t.length % 4) % 4) (Code.scalar '='))

end CanvasPrompt.Base64
