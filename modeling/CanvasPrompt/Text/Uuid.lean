import CanvasPrompt.Text.Basic

/-!
# Universally unique identifiers

Identifiers of 32 hexadecimal digits. They are read in four forms: the digits alone, the digits in
five groups with hyphens, and the groups in braces or behind `urn:uuid:`. They are written in groups
and in small letters.
-/

namespace CanvasPrompt

/-- A universally unique identifier: the number that its digits denote. -/
structure Uuid where
  /-- The number. -/
  value : Nat
  deriving DecidableEq, Inhabited

namespace Uuid

/-- The number that 32 hexadecimal digits of either case denote. -/
def ofDigits? (t : Text) : Option Uuid :=
  if t.length == 32 then
    (t.mapM Text.hexValue?).map fun ds => ⟨ds.foldl (fun n d => 16 * n + d) 0⟩
  else none

/-- The lengths of the five groups. -/
def groupLengths : List Nat := [8, 4, 4, 4, 12]

/-- Read five groups with hyphens between them. -/
def ofGroups? (t : Text) : Option Uuid :=
  let groups := Text.splitAtChar '-' t
  if groups.map List.length == groupLengths then ofDigits? groups.flatten else none

/-- Read groups in braces. -/
def ofBraces? : Text → Option Uuid
  | '\x7b' :: t => if t.getLast? == some (Code.scalar '\x7d') then ofGroups? t.dropLast else none
  | _ => none

/-- What stands before the groups of a name. -/
def namePrefix : Text := "urn:uuid:".codes

/-- Read groups behind a name prefix. -/
def ofName? (t : Text) : Option Uuid :=
  if namePrefix.isPrefixOf t then ofGroups? (t.drop namePrefix.length) else none

/-- Read an identifier in one of its four forms. -/
def ofText? (t : Text) : Option Uuid :=
  [ofDigits?, ofGroups?, ofBraces?, ofName?].findSome? fun form => form t

/-- Cut a text into pieces of the given lengths. -/
def pieces : List Nat → Text → List Text
  | [], _ => []
  | n :: ns, t => t.take n :: pieces ns (t.drop n)

/-- The written form of an identifier. -/
def toText (u : Uuid) : Text :=
  [Code.scalar '-'].intercalate (pieces groupLengths (Text.hexDigits 32 u.value))

end Uuid

end CanvasPrompt
