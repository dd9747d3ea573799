import CanvasPrompt.Text.Basic
import CanvasPrompt.Text.CaseTable

/-!
# Small letters

Lower-casing of whole texts. Every character has its own small form, but for the capital sigma,
whose small form at the end of a word differs from the one inside.
-/

namespace CanvasPrompt.Text

/-- Whether the code of `c` lies in one of the ranges. -/
def inRanges (ranges : List (Nat × Nat)) (c : Code) : Bool :=
  ranges.any fun r => r.1 ≤ c.toNat && c.toNat ≤ r.2

/-- The small form of a character that stands alone: itself if it is no capital letter. -/
def smallForm (c : Code) : Text :=
  let n := c.toNat
  if n < 0x80 then [c.toLower]
  else if n == 0x130 then [Code.ofNat 0x69, Code.ofNat 0x307]
  else
    match CaseTable.runs.find? fun r =>
        r.first ≤ n && n ≤ r.last && (n - r.first) % r.step == 0 with
    | some r => [Code.ofNat (r.small + (n - r.first))]
    | none => [c]

/-- Whether the first character that is not passed over has a case. -/
def startsCased (t : Text) : Bool :=
  match t.dropWhile (inRanges CaseTable.passedOver) with
  | [] => false
  | c :: _ => inRanges CaseTable.cased c

/-- The small form of `c` between the characters `seen`, nearest first, and `rest`. A capital sigma
that follows a letter and precedes none ends a word. -/
def smallFormBetween (seen : Text) (c : Code) (rest : Text) : Text :=
  if c.toNat == 0x3A3 then
    [Code.ofNat (if startsCased seen && !startsCased rest then 0x3C2 else 0x3C3)]
  else smallForm c

/-- The small forms of `t`, which follows the characters `seen`, nearest first. -/
def lowerAfter (seen : Text) : Text → Text
  | [] => []
  | c :: rest => smallFormBetween seen c rest ++ lowerAfter (c :: seen) rest

/-- The text in small letters. -/
def lower (t : Text) : Text :=
  lowerAfter [] t

end CanvasPrompt.Text
