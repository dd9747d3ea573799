import CanvasPrompt.Text.Basic

/-!
# Hosts of URLs

Which texts may stand between brackets as the host of a URL: addresses of eight groups of
hexadecimal digits, with one run of zero groups left out at will, a final address of four octets and
a zone; and addresses of a later version.
-/

namespace CanvasPrompt.Url

/-- A number from 0 to 255 in digits, without leading zeros. -/
def isOctet (t : Text) : Bool :=
  !t.isEmpty && t.all Text.isAsciiDigit && t.length ≤ 3 &&
    (t == "0".codes || t.head? != some (Code.scalar '0')) &&
    t.foldl (fun n c => 10 * n + (c.toNat - 0x30)) 0 ≤ 255

/-- An address of four octets. -/
def isQuad (t : Text) : Bool :=
  let parts := Text.splitAtChar '.' t
  parts.length == 4 && parts.all isOctet

/-- A group of one to four hexadecimal digits. -/
def isGroup (t : Text) : Bool :=
  !t.isEmpty && t.length ≤ 4 && t.all fun c => (Text.hexValue? c).isSome

/-- The groups on one side of the run that is left out; the side may be empty. -/
def sideGroups (parts : List Text) : List Text :=
  if parts == [[]] then [] else parts

/-- Eight groups, or at most seven around one empty part, which stands for the zero groups left out.
At least two colons are needed. -/
def areGroups (parts : List Text) : Bool :=
  let inner := (parts.drop 1).dropLast
  match (inner.filter List.isEmpty).length with
  | 0 => parts.length == 8 && parts.all isGroup
  | 1 =>
    let gap := inner.findIdx List.isEmpty + 1
    let left := sideGroups (parts.take gap)
    let right := sideGroups (parts.drop (gap + 1))
    left.all isGroup && right.all isGroup && left.length + right.length ≤ 7
  | _ => false

/-- An address of eight groups; the last two may be written as four octets. -/
def isGroupAddress (t : Text) : Bool :=
  let parts := Text.splitAtChar ':' t
  if parts.length < 3 then false
  else
    let last := parts.getLast?.getD []
    if last.contains '.' then isQuad last && areGroups (parts.dropLast ++ ["0".codes, "0".codes])
    else areGroups parts

/-- An address of eight groups with a zone behind `%` at will. -/
def isZonedAddress (t : Text) : Bool :=
  let zone := Text.after '%' t
  isGroupAddress (Text.before '%' t) &&
    (!t.contains '%' || (!zone.isEmpty && !zone.contains '%'))

/-- An address of a later version: `v`, hexadecimal digits, a point and something else. -/
def isFutureAddress (t : Text) : Bool :=
  match t with
  | 'v' :: rest =>
    let (version, rest) := rest.span fun c => (Text.hexValue? c).isSome
    match version, rest with
    | _ :: _, '.' :: _ :: _ => true
    | _, _ => false
  | _ => false

/-- A host that may stand between brackets. -/
def isBracketedHost (t : Text) : Bool :=
  if t.head? == some (Code.scalar 'v') then isFutureAddress t else isZonedAddress t

end CanvasPrompt.Url
