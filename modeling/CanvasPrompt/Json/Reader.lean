import CanvasPrompt.Json.Limit
import CanvasPrompt.Text.Utf8

/-!
# Reading JSON

The reader takes every written value, and beyond that the words for infinity and a NaN. Control
characters inside texts are refused. There are two limits: one on the digits of a whole number, and
one on how deeply lists and objects are nested, which whoever reads has to tell. An error of form is
placed at the character where it is noticed.
-/

namespace CanvasPrompt.Json

/-- Why a text is not read. -/
inductive ReadError where
  /-- It has not the form of a value; `position` counts the characters before the place. -/
  | malformed (position : Nat)
  /-- It goes beyond a limit. -/
  | beyond (limit : Limit)
  deriving DecidableEq

/-- A failure while reading, before its place is known from the start: `left` counts the characters
from there to the end. -/
inductive Stop where
  /-- The form is wrong. -/
  | malformed (left : Nat)
  /-- A limit is passed. -/
  | beyond (limit : Limit)

/-- What reading a part gives: the part and the text after it. -/
abbrev Part (α : Type) := Except Stop (α × Text)

/-- White space between the tokens of JSON. -/
def isGap (c : Code) : Bool :=
  c == ' ' || c == '\t' || c == '\n' || c == '\r'

/-- Drop the white space in front. -/
def skipGap (t : Text) : Text :=
  t.dropWhile isGap

/-- The character that a backslash and `c` stand for. -/
def unescape? (c : Code) : Option Code :=
  if c == '"' || c == '\\' || c == '/' then some c
  else if c == 'b' then some (Code.ofNat 0x08)
  else if c == 'f' then some (Code.ofNat 0x0C)
  else if c == 'n' then some (Code.scalar '\n')
  else if c == 'r' then some (Code.scalar '\r')
  else if c == 't' then some (Code.scalar '\t')
  else none

/-- The number that four hexadecimal digits denote. -/
def unit? (a b c d : Code) : Option Nat := do
  let a ← Text.hexValue? a
  let b ← Text.hexValue? b
  let c ← Text.hexValue? c
  let d ← Text.hexValue? d
  pure (((a * 16 + b) * 16 + c) * 16 + d)

/-- Read a text after its opening quote. `seen` are the pieces so far, latest first: code points and
escaped units of 16 bits. `opening` counts the characters from the opening quote to the end. An
escaped unit needs a character after it. -/
def readPieces (opening : Nat) (seen : List Text.Piece) : Text → Part (List Text.Piece)
  | [] => .error (.malformed opening)
  | '"' :: rest => .ok (seen.reverse, rest)
  | '\\' :: 'u' :: a :: b :: c :: d :: rest =>
    match unit? a b c d, rest.isEmpty with
    | some n, false => readPieces opening (.unit n :: seen) rest
    | _, _ => .error (.malformed (rest.length + 5))
  | '\\' :: 'u' :: rest => .error (.malformed (rest.length + 1))
  | ['\\'] => .error (.malformed opening)
  | '\\' :: c :: rest =>
    match unescape? c with
    | some u => readPieces opening (.code u :: seen) rest
    | none => .error (.malformed (rest.length + 2))
  | c :: rest =>
    if c.toNat < 0x20 then .error (.malformed (rest.length + 1))
    else readPieces opening (.code c :: seen) rest

/-- Read a text after its opening quote; an escaped pair of surrogates makes one character. -/
def readText (t : Text) : Part Text :=
  (readPieces (t.length + 1) [] t).map fun p => (Text.ofPieces p.1, p.2)

/-- The digits of the whole part at the start of a text: a zero alone, or digits that do not begin
with one. -/
def wholeDigits : Text → Text × Text
  | '0' :: rest => (['0'], rest)
  | t => t.span Text.isAsciiDigit

/-- The digits of the part behind a point, if there are any. -/
def fractionDigits : Text → Option (Text × Text)
  | '.' :: rest =>
    let (ds, rest) := rest.span Text.isAsciiDigit
    if ds.isEmpty then none else some (ds, rest)
  | _ => none

/-- The value of an exponent, if there is one. -/
def exponentValue : Text → Option (Int × Text)
  | c :: rest =>
    if c == 'e' || c == 'E' then
      let (negative, body) := Text.splitSign rest
      let (ds, rest) := body.span Text.isAsciiDigit
      if ds.isEmpty then none
      else
        let n : Int := Text.decimalsValue ds
        some (if negative then -n else n, rest)
    else none
  | [] => none

/-- The double of some digits and a power of ten. -/
def scaledNumber (negative : Bool) (digits : Text) (exponent : Int) : Double :=
  Double.ofDecimal negative (Text.decimalsValue digits) exponent

/-- Read a number. It is a whole number if neither a fraction nor an exponent follows. -/
def readNumber (t : Text) : Part Json :=
  let (negative, body) : Bool × Text :=
    match t with
    | '-' :: rest => (true, rest)
    | t => (false, t)
  let (whole, rest) := wholeDigits body
  if whole.isEmpty then .error (.malformed t.length)
  else
    match fractionDigits rest, exponentValue ((fractionDigits rest).elim rest Prod.snd) with
    | none, none =>
      -- Only whole numbers are bounded in length: a real number is rounded anyway.
      if Text.digitLimit < whole.length then .error (.beyond (.digits whole.length))
      else
        let n : Int := Text.decimalsValue whole
        .ok (.int (if negative then -n else n), rest)
    | some (ds, rest), none => .ok (.float (scaledNumber negative (whole ++ ds) (-ds.length)), rest)
    | none, some (e, rest) => .ok (.float (scaledNumber negative whole e), rest)
    | some (ds, _), some (e, rest) =>
      .ok (.float (scaledNumber negative (whole ++ ds) (e - ds.length)), rest)

/-- The words that stand for a value. -/
def constants : List (Text × Json) :=
  [("null".codes, .null), ("true".codes, .bool true), ("false".codes, .bool false),
    ("NaN".codes, .float Double.nan), ("Infinity".codes, .float (Double.infinity false)),
    ("-Infinity".codes, .float (Double.infinity true))]

/-- Read a word or a number. -/
def readScalar (t : Text) : Part Json :=
  match constants.find? fun w => w.1.isPrefixOf t with
  | some (word, v) => .ok (v, t.drop word.length)
  | none => readNumber t

mutual
/-- Read a value. The first argument bounds the number of steps; twice the length of the text is
enough. The second one is the number of containers that may still be nested. -/
def readValue : Nat → Nat → Text → Part Json
  | 0, _, t => .error (.malformed t.length)
  | n + 1, room, t =>
    match t, room with
    | [], _ => .error (.malformed 0)
    | '"' :: rest, _ => (readText rest).map fun p => (.str p.1, p.2)
    | '[' :: _, 0 => .error (.beyond (.nesting .list))
    | '[' :: rest, room + 1 =>
      match skipGap rest with
      | ']' :: rest => .ok (.arr [], rest)
      | rest => (readItems n room rest).map fun p => (.arr p.1, p.2)
    | '\x7b' :: _, 0 => .error (.beyond (.nesting .object))
    | '\x7b' :: rest, room + 1 =>
      match skipGap rest with
      | '\x7d' :: rest => .ok (.obj [], rest)
      | rest => (readMembers n room rest).map fun p => (.obj (ofPairs p.1), p.2)
    | t, _ => readScalar t

/-- Read the items of a list up to its end. -/
def readItems : Nat → Nat → Text → Part (List Json)
  | 0, _, t => .error (.malformed t.length)
  | n + 1, room, t =>
    match readValue n room t with
    | .error e => .error e
    | .ok (v, rest) =>
      match skipGap rest with
      | ']' :: rest => .ok ([v], rest)
      | ',' :: rest => (readItems n room (skipGap rest)).map fun p => (v :: p.1, p.2)
      | rest => .error (.malformed rest.length)

/-- Read the members of an object up to its end. -/
def readMembers : Nat → Nat → Text → Part (List (Text × Json))
  | 0, _, t => .error (.malformed t.length)
  | n + 1, room, t =>
    match t with
    | '"' :: rest =>
      match readText rest with
      | .error e => .error e
      | .ok (name, rest) =>
        match skipGap rest with
        | ':' :: rest =>
          match readValue n room (skipGap rest) with
          | .error e => .error e
          | .ok (v, rest) =>
            match skipGap rest with
            | '\x7d' :: rest => .ok ([(name, v)], rest)
            | ',' :: rest =>
              (readMembers n room (skipGap rest)).map fun p => ((name, v) :: p.1, p.2)
            | rest => .error (.malformed rest.length)
        | rest => .error (.malformed rest.length)
    | t => .error (.malformed t.length)
end

/-- Read a value that fills the whole text; `room` is the number of containers that may be nested.
-/
def readWhole (room : Nat) (t : Text) : Except Stop Json :=
  match readValue (2 * t.length + 2) room (skipGap t) with
  | .error e => .error e
  | .ok (v, rest) =>
    match skipGap rest with
    | [] => .ok v
    | rest => .error (.malformed rest.length)

/-- Read a text as one JSON value with white space around it, in which at most `room` containers are
nested, one in the other. -/
def read (room : Nat) (t : Text) : Except ReadError Json :=
  match readWhole room t with
  | .ok v => .ok v
  | .error (.malformed left) => .error (.malformed (t.length - left))
  | .error (.beyond limit) => .error (.beyond limit)

/-- Why bytes are no JSON value. -/
inductive BytesError where
  /-- They are no text in the encoding that they tell. -/
  | undecodable
  /-- Their text is no JSON value. -/
  | unreadable (e : ReadError)
  deriving DecidableEq

/-- Read bytes as one JSON value, in which at most `room` containers are nested. -/
def readBytes (room : Nat) (bs : Bytes) : Except BytesError Json :=
  match Text.ofBytes? bs with
  | none => .error .undecodable
  | some t =>
    match read room t with
    | .ok v => .ok v
    | .error e => .error (.unreadable e)

end CanvasPrompt.Json
