import CanvasPrompt.Context.Basic

/-!
# The request to the reasoning service

The textual part of the request: which roles the attached images have, the descriptions, the
distinct relationships, and what the user asked for.
-/

namespace CanvasPrompt.Prompt

/-- What makes two lines the same: their words in small letters. -/
def lineKey (line : Text) : Text :=
  Text.lower ([Code.scalar ' '].intercalate (Text.words line))

/-- Keep of the lines with one key the first, and none whose key is in `seen`. -/
def distinctAfter (seen : List Text) : List Text → List Text
  | [] => []
  | line :: rest =>
    if seen.contains (lineKey line) then distinctAfter seen rest
    else line :: distinctAfter (lineKey line :: seen) rest

/-- Keep of the lines that differ only in white space and letter case the first. -/
def distinct (lines : List Text) : List Text :=
  distinctAfter [] lines

/-- A line of a list. -/
def bullet (t : Text) : Text := "- ".codes ++ t

/-- What the request says about the attached images, given the names of their roles. -/
def imageLines (roleNames : List Text) : List Text :=
  if roleNames.isEmpty then
    ["No reference images are available; work from the descriptors alone.".codes]
  else
    "The images above are visual references, each labelled with its role.".codes ::
      ((Role.all.filter fun r => roleNames.contains r.name).map fun r => bullet (guidance r)) ++
      (if roleNames.contains Role.subject.name && roleNames.contains Role.scene.name then
        [bullet ("Integrate the subject naturally into the scene with consistent lighting and " ++
          "perspective.").codes]
      else [])

/-- A list under a heading, after an empty line; nothing if the list is empty. -/
def listUnder (heading : String) (items : List Text) : List Text :=
  if items.isEmpty then [] else [] :: heading.codes :: items.map bullet

/-- What the request says about the wish of the user. -/
def intentLines (c : Context) : List Text :=
  if !c.userPrompt.isEmpty then
    ["USER'S INTENT (highest priority): ".codes ++ c.userPrompt,
      "Fulfil the user's vision first; use everything else to support it.".codes]
  else if !c.simplePrompt.isEmpty then ["Draft prompt: ".codes ++ c.simplePrompt]
  else []

/-- The lines of the request. -/
def instructionLines (c : Context) (roleNames : List Text) : List Text :=
  imageLines roleNames ++ listUnder "Descriptors:" c.textDescriptors ++
    listUnder "Relationships between elements:" (distinct c.relationships) ++ [[]] ++
    intentLines c ++
    [[], "Refine all of this into a single cohesive image generation prompt.".codes]

/-- The textual part of the request. -/
def instruction (c : Context) (roleNames : List Text) : Text :=
  [Code.scalar '\n'].intercalate (instructionLines c roleNames)

end CanvasPrompt.Prompt
