import CanvasPrompt.Text.Basic

/-!
# Texts as bytes

UTF-8 in both directions, and the reading of bytes whose encoding is told by a byte order mark or by
the place of zero bytes among the first four. A surrogate is written and read like any other code
point here, although UTF-8 proper has no place for it: what is written in earnest has to be
encodable.
-/

namespace CanvasPrompt

/-- A sequence of bytes. -/
abbrev Bytes := List UInt8

namespace Text

/-- The UTF-8 form of a code point. -/
def utf8Char (c : Code) : Bytes :=
  let n := c.toNat
  if n < 0x80 then [UInt8.ofNat n]
  else if n < 0x800 then [UInt8.ofNat (0xC0 + n / 0x40), UInt8.ofNat (0x80 + n % 0x40)]
  else if n < 0x10000 then
    [UInt8.ofNat (0xE0 + n / 0x1000), UInt8.ofNat (0x80 + n / 0x40 % 0x40),
      UInt8.ofNat (0x80 + n % 0x40)]
  else
    [UInt8.ofNat (0xF0 + n / 0x40000), UInt8.ofNat (0x80 + n / 0x1000 % 0x40),
      UInt8.ofNat (0x80 + n / 0x40 % 0x40), UInt8.ofNat (0x80 + n % 0x40)]

/-- The UTF-8 form of a text. -/
def utf8 (t : Text) : Bytes :=
  t.flatMap utf8Char

/-- Whether a text can be encoded: all its code points are characters. -/
def isEncodable (t : Text) : Bool :=
  t.all Code.isScalar

/-- The characters in front of the first surrogate, and the run of surrogates that begins with it.
-/
def encodingFault (t : Text) : Text × Text :=
  let (before, rest) := t.span Code.isScalar
  (before, rest.takeWhile fun c => !c.isScalar)

/-- A character begun and not ended: bytes still owed, the least and greatest value of the next one,
and the bits so far. -/
structure Pending where
  /-- The number of bytes still owed. -/
  owed : Nat
  /-- The least value of the next byte. -/
  least : Nat
  /-- The greatest value of the next byte. -/
  greatest : Nat
  /-- The bits of the character so far. -/
  value : Nat

/-- What a first byte above U+007F begins, if anything. -/
def pendingAfter? (b : Nat) : Option Pending :=
  if 0xC2 ≤ b && b ≤ 0xDF then some ⟨1, 0x80, 0xBF, b - 0xC0⟩
  else if b == 0xE0 then some ⟨2, 0xA0, 0xBF, 0⟩
  else if 0xE1 ≤ b && b ≤ 0xEF then some ⟨2, 0x80, 0xBF, b - 0xE0⟩
  else if b == 0xF0 then some ⟨3, 0x90, 0xBF, 0⟩
  else if 0xF1 ≤ b && b ≤ 0xF3 then some ⟨3, 0x80, 0xBF, b - 0xF0⟩
  else if b == 0xF4 then some ⟨3, 0x80, 0x8F, 4⟩
  else none

/-- Read UTF-8 after the characters `seen`, latest first, and possibly inside a character. -/
def ofUtf8From (seen : Text) : Option Pending → Bytes → Option Text
  | none, [] => some seen.reverse
  | some _, [] => none
  | none, b :: bs =>
    if b.toNat < 0x80 then ofUtf8From (Code.ofNat b.toNat :: seen) none bs
    else
      match pendingAfter? b.toNat with
      | none => none
      | some p => ofUtf8From seen (some p) bs
  | some p, b :: bs =>
    if p.least ≤ b.toNat && b.toNat ≤ p.greatest then
      let value := p.value * 0x40 + (b.toNat - 0x80)
      if p.owed ≤ 1 then ofUtf8From (Code.ofNat value :: seen) none bs
      else ofUtf8From seen (some ⟨p.owed - 1, 0x80, 0xBF, value⟩) bs
    else none

/-- Read UTF-8, if the bytes are well formed; surrogates may be written in it. -/
def ofUtf8? (bs : Bytes) : Option Text :=
  ofUtf8From [] none bs

/-- Read UTF-8 proper, which has no surrogates in it. -/
def ofProperUtf8? (bs : Bytes) : Option Text :=
  (ofUtf8? bs).filter isEncodable

/-- The order of the bytes of a unit. -/
inductive ByteOrder where
  /-- The most significant byte comes first. -/
  | big
  /-- The least significant byte comes first. -/
  | little
  deriving DecidableEq

/-- The number that some bytes denote in an order. -/
def ByteOrder.value (order : ByteOrder) (bs : Bytes) : Nat :=
  let bs := match order with
    | .big => bs
    | .little => bs.reverse
  bs.foldl (fun n b => n * 0x100 + b.toNat) 0

/-- Units of 16 bits, if the bytes come in pairs. -/
def units16? (order : ByteOrder) : Bytes → Option (List Nat)
  | [] => some []
  | a :: b :: bs => (units16? order bs).map (order.value [a, b] :: ·)
  | [_] => none

/-- Units of 32 bits, if the bytes come in fours. -/
def units32? (order : ByteOrder) : Bytes → Option (List Nat)
  | [] => some []
  | a :: b :: c :: d :: bs => (units32? order bs).map (order.value [a, b, c, d] :: ·)
  | _ => none

/-- A unit that begins a pair of surrogates. -/
def isHighSurrogate (n : Nat) : Bool := 0xD800 ≤ n && n ≤ 0xDBFF

/-- A unit that ends a pair of surrogates. -/
def isLowSurrogate (n : Nat) : Bool := 0xDC00 ≤ n && n ≤ 0xDFFF

/-- The character that a pair of surrogates denotes. -/
def surrogatePair (high low : Nat) : Code :=
  Code.ofNat (0x10000 + (high - 0xD800) * 0x400 + (low - 0xDC00))

/-- A piece of a text. -/
inductive Piece where
  /-- A code point. -/
  | code (c : Code)
  /-- A unit of 16 bits, which may be one half of a pair of surrogates. -/
  | unit (n : Nat)

/-- The text of some pieces: pairs of surrogates that are units are joined. -/
def ofPieces : List Piece → Text
  | [] => []
  | .code c :: ps => c :: ofPieces ps
  | .unit n :: .unit m :: ps =>
    if isHighSurrogate n && isLowSurrogate m then surrogatePair n m :: ofPieces ps
    else Code.ofNat n :: ofPieces (.unit m :: ps)
  | .unit n :: ps => Code.ofNat n :: ofPieces ps

/-- Read UTF-16. -/
def ofUtf16? (order : ByteOrder) (bs : Bytes) : Option Text :=
  (units16? order bs).map fun ns => ofPieces (ns.map .unit)

/-- Read UTF-32. -/
def ofUtf32? (order : ByteOrder) (bs : Bytes) : Option Text := do
  let units ← units32? order bs
  if units.all (· < 0x110000) then some (units.map Code.ofNat) else none

/-- Read bytes whose encoding they tell themselves: by a byte order mark, else by the place of zero
bytes in the first four, where an ASCII character is taken to stand, else UTF-8. -/
def ofBytes? (bs : Bytes) : Option Text :=
  match bs with
  | 0x00 :: 0x00 :: 0xFE :: 0xFF :: rest => ofUtf32? .big rest
  | 0xFF :: 0xFE :: 0x00 :: 0x00 :: rest => ofUtf32? .little rest
  | 0xFE :: 0xFF :: rest => ofUtf16? .big rest
  | 0xFF :: 0xFE :: rest => ofUtf16? .little rest
  | 0xEF :: 0xBB :: 0xBF :: rest => ofUtf8? rest
  | a :: b :: c :: d :: _ =>
    if a == 0 then (if b == 0 then ofUtf32? .big bs else ofUtf16? .big bs)
    else if b == 0 then (if c == 0 && d == 0 then ofUtf32? .little bs else ofUtf16? .little bs)
    else ofUtf8? bs
  | [a, b] =>
    if a == 0 then ofUtf16? .big bs
    else if b == 0 then ofUtf16? .little bs
    else ofUtf8? bs
  | _ => ofUtf8? bs

end Text

end CanvasPrompt
