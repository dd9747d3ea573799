import CanvasPrompt.Json.Basic
import CanvasPrompt.Text.Numeral

/-!
# Limits on JSON

What is read or written as JSON may not have whole numbers of too many digits, nor lists and objects
that are nested too deeply. How deep is too deep depends on how much room there is for nesting where
the value is read or written.
-/

namespace CanvasPrompt.Json

/-- What values are nested in. -/
inductive Container where
  | list | object
  deriving DecidableEq

/-- The word for a container in error messages. -/
def Container.label : Container → Text
  | .list => "array".codes
  | .object => "object".codes

/-- A limit that a text goes beyond. -/
inductive Limit where
  /-- A whole number in it has too many digits. -/
  | digits (count : Nat)
  /-- Its values are nested too deeply; `inner` is the first that is. -/
  | nesting (inner : Container)
  deriving DecidableEq

/-- The wording for a limit. -/
def Limit.message : Limit → Text
  | .digits count => Text.tooManyDigits count
  | .nesting inner =>
    "maximum recursion depth exceeded while decoding a JSON ".codes ++ inner.label ++
      " from a unicode string".codes

/-- The limit that a whole number goes beyond, if it does. -/
def intExcess? (i : Int) : Option Limit :=
  let count := (Text.ofNat i.natAbs).length
  if Text.digitLimit < count then some (.digits count) else none

mutual
/-- The first limit, in the order of writing, that a value goes beyond, if at most `room` containers
may be nested. -/
def excess? (room : Nat) : Json → Option Limit
  | .int i => intExcess? i
  | .arr items =>
    match room with
    | 0 => some (.nesting .list)
    | room + 1 => itemExcess? room items
  | .obj members =>
    match room with
    | 0 => some (.nesting .object)
    | room + 1 => memberExcess? room members
  | _ => none

/-- The first limit that some items go beyond. -/
def itemExcess? (room : Nat) : List Json → Option Limit
  | [] => none
  | v :: rest => (excess? room v).or (itemExcess? room rest)

/-- The first limit that the values of some members go beyond. -/
def memberExcess? (room : Nat) : List (Text × Json) → Option Limit
  | [] => none
  | (_, v) :: rest => (excess? room v).or (memberExcess? room rest)
end

end CanvasPrompt.Json
