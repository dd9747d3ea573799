import CanvasPrompt.Json.Limit
import CanvasPrompt.Text.Utf8

/-!
# Writing JSON

The written form of a value: ASCII only, a space after each comma and colon, members in their order.
Only what keeps within the limits is written.
-/

namespace CanvasPrompt.Json

/-- A unit of 16 bits as an escape. -/
def unitEscape (n : Nat) : Text :=
  '\\' :: 'u' :: Text.hexDigits 4 n

/-- A character inside a written text; beyond U+FFFF it takes a pair of surrogates. -/
def escapeChar (c : Code) : Text :=
  let n := c.toNat
  if c == '"' || c == '\\' then ['\\', c]
  else if c == '\n' then ['\\', 'n']
  else if c == '\r' then ['\\', 'r']
  else if c == '\t' then ['\\', 't']
  else if n == 0x08 then ['\\', 'b']
  else if n == 0x0C then ['\\', 'f']
  else if 0x20 ≤ n && n < 0x7F then [c]
  else if n < 0x10000 then unitEscape n
  else unitEscape (0xD800 + (n - 0x10000) / 0x400) ++ unitEscape (0xDC00 + (n - 0x10000) % 0x400)

/-- The written form of a text. -/
def printText (t : Text) : Text :=
  Code.scalar '"' :: t.flatMap escapeChar ++ [Code.scalar '"']

/-- The written form of a double: the shortest text that reads back, and words for the values that
have no digits. -/
def printDouble (d : Double) : Text :=
  if d.isNaN then "NaN".codes
  else if d.isFinite then d.toText
  else if d.isNegative then "-Infinity".codes
  else "Infinity".codes

mutual
/-- The written form of a value. -/
def print : Json → Text
  | .null => "null".codes
  | .bool b => if b then "true".codes else "false".codes
  | .int i => Text.ofInt i
  | .float d => printDouble d
  | .str t => printText t
  | .arr items => Code.scalar '[' :: printItems items ++ [Code.scalar ']']
  | .obj members => Code.scalar '\x7b' :: printMembers members ++ [Code.scalar '\x7d']

/-- The written forms of list items, with commas between them. -/
def printItems : List Json → Text
  | [] => []
  | [v] => print v
  | v :: w :: rest => print v ++ ", ".codes ++ printItems (w :: rest)

/-- The written forms of members, with commas between them. -/
def printMembers : List (Text × Json) → Text
  | [] => []
  | [(n, v)] => printText n ++ ": ".codes ++ print v
  | (n, v) :: m :: rest =>
    printText n ++ ": ".codes ++ print v ++ ", ".codes ++ printMembers (m :: rest)
end

/-- Write a value in which at most `room` containers are nested. -/
def write (room : Nat) (v : Json) : Except Limit Text :=
  match excess? room v with
  | none => .ok v.print
  | some limit => .error limit

/-- The written form of a value as bytes. -/
def printBytes (v : Json) : Bytes :=
  Text.utf8 v.print

mutual
/-- Whether every number in a value is finite. -/
def isFinite : Json → Bool
  | .float d => d.isFinite
  | .arr items => isFiniteItems items
  | .obj members => isFiniteMembers members
  | _ => true

/-- Whether every number in some items is finite. -/
def isFiniteItems : List Json → Bool
  | [] => true
  | v :: rest => isFinite v && isFiniteItems rest

/-- Whether every number in some members is finite. -/
def isFiniteMembers : List (Text × Json) → Bool
  | [] => true
  | (_, v) :: rest => isFinite v && isFiniteMembers rest
end

mutual
/-- Whether every text in a value can be encoded, names of members included. -/
def isEncodable : Json → Bool
  | .str t => Text.isEncodable t
  | .arr items => isEncodableItems items
  | .obj members => isEncodableMembers members
  | _ => true

/-- Whether every text in some items can be encoded. -/
def isEncodableItems : List Json → Bool
  | [] => true
  | v :: rest => isEncodable v && isEncodableItems rest

/-- Whether every text in some members can be encoded. -/
def isEncodableMembers : List (Text × Json) → Bool
  | [] => true
  | (name, v) :: rest => Text.isEncodable name && isEncodable v && isEncodableMembers rest
end

/-- Whether a value can be sent as standard JSON, which knows no infinity and no NaN and is encoded,
if at most `room` containers may be nested. -/
def isStandard (room : Nat) (v : Json) : Bool :=
  v.isFinite && v.isEncodable && (excess? room v).isNone

end CanvasPrompt.Json
