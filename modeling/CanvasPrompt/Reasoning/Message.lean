import CanvasPrompt.Vision.Image

/-!
# Messages to and from a reasoning service

A request is an instruction and a message of the user, which is a plain text or a list of images and
texts. A reply is a text or a list of parts, of which the first text counts.
-/

namespace CanvasPrompt.Reasoning

/-- A part of a message. -/
inductive Part where
  /-- An image at a URL. -/
  | image (url : Text)
  /-- A text. -/
  | text (t : Text)
  deriving DecidableEq, Inhabited

/-- The content of a message of the user. -/
inductive Content where
  /-- A text alone. -/
  | plain (t : Text)
  /-- Images and texts. -/
  | parts (ps : List Part)
  deriving DecidableEq, Inhabited

/-- A message. -/
inductive Message where
  /-- An instruction. -/
  | system (t : Text)
  /-- What the user says. -/
  | human (c : Content)
  deriving DecidableEq, Inhabited

/-- The parts for an image: itself and its marker. -/
def imageParts (i : EncodedImage) : List Part :=
  [.image i.dataUrl, .text i.marker]

/-- The message of the user: the text alone, or each image followed by its marker and then the text.
-/
def humanContent (text : Text) (images : List EncodedImage) : Content :=
  if images.isEmpty then .plain text
  else .parts (images.flatMap imageParts ++ [.text text])

/-- A part as it is sent. -/
def Part.toJson : Part → Json
  | .image url =>
    .obj [("type".codes, .str "image_url".codes),
      ("image_url".codes, .obj [("url".codes, .str url)])]
  | .text t => .obj [("type".codes, .str "text".codes), ("text".codes, .str t)]

/-- A content as it is sent. -/
def Content.toJson : Content → Json
  | .plain t => .str t
  | .parts ps => .arr (ps.map Part.toJson)

/-- The text of a part of a reply, if it has one that is not blank. -/
def partText? : Json → Option Text
  | .str t => if (Text.strip t).isEmpty then none else some t
  | .obj ms =>
    let isText := ((Json.field ms "type").text?) == some "text".codes
    let value := Json.field ms "text"
    let shown := (value.orElse (.str [])).display
    if isText && !(Text.strip shown).isEmpty then some value.display else none
  | _ => none

/-- The first text of a reply, or nothing. -/
def replyText : Json → Text
  | .str t => t
  | .arr parts => (parts.findSome? partText?).getD []
  | _ => []

end CanvasPrompt.Reasoning
