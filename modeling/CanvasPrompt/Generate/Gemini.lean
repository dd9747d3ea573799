import CanvasPrompt.Generate.Basic
import CanvasPrompt.Json.Reader
import CanvasPrompt.Vision.Fetch

/-!
# The provider with a key

Gemini takes a prompt with reference images in it and answers with images in its reply. The reply
may have any shape: what is missing counts as absent, and what is of the wrong kind is an error.
-/

namespace CanvasPrompt.Generate

open Json (field)

/-- How to reach the provider with a key. -/
structure Gemini where
  /-- The key. -/
  apiKey : Text
  /-- The model that makes the images. -/
  model : Text
  /-- The seconds that it may take. -/
  timeout : Double
  /-- The URL below which models stand. -/
  baseUrl : Text
  deriving DecidableEq

namespace Gemini

/-- The name of the provider. -/
def name : Text := "gemini".codes

/-- The usual URL below which models stand. -/
def defaultBaseUrl : Text := "https://generativelanguage.googleapis.com/v1beta".codes

/-- The usual model. -/
def defaultModel : Text := "gemini-2.0-flash-exp".codes

/-- The URL below which models stand, without slashes at its end. -/
def base (g : Gemini) : Text :=
  Text.dropEndWhile (· == Code.scalar '/') g.baseUrl

/-- Where requests go. -/
def url (g : Gemini) : Text :=
  g.base ++ "/models/".codes ++ g.model ++ ":generateContent".codes

/-- What the provider is told to do. -/
def instruction (prompt : Text) (withReferences : Bool) : Text :=
  if withReferences then
    "Based on the reference images provided above, create a new image that: ".codes ++ prompt ++
      (". Incorporate the visual style, subjects, and elements from the reference images. " ++
        "Generate a high-quality, professional image.").codes
  else "Generate a high-quality, professional image: ".codes ++ prompt

/-- A text as a part of a request. -/
def textPart (t : Text) : Json :=
  .obj [("text".codes, .str t)]

/-- An image as a part of a request. -/
def imagePart (i : EncodedImage) : Json :=
  .obj [("inlineData".codes,
    .obj [("mimeType".codes, .str i.mimeType), ("data".codes, .str i.data)])]

/-- The parts of a request: each image followed by its marker, then the instruction. -/
def parts (prompt : Text) (images : List EncodedImage) : List Json :=
  images.flatMap (fun i => [imagePart i, textPart i.marker]) ++
    [textPart (instruction prompt (!images.isEmpty))]

/-- A request with some parts. -/
def request (parts : List Json) : Json :=
  .obj
    [("contents".codes, .arr [.obj [("parts".codes, .arr parts)]]),
      ("generationConfig".codes,
        .obj [("responseModalities".codes, .arr [.str "TEXT".codes, .str "IMAGE".codes])])]

/-- The request for a prompt and images. -/
def payload (prompt : Text) (images : List EncodedImage) : Json :=
  request (parts prompt images)

/-- Whether a part of a request holds an image. -/
def holdsImage (part : Json) : Bool :=
  (Json.find? "inlineData".codes part.members).isSome

/-- The number of images in the parts of a request. -/
def imageCount (parts : List Json) : Nat :=
  parts.countP holdsImage

@[simp]
theorem holdsImage_imagePart (i : EncodedImage) : holdsImage (imagePart i) = true := by
  simp [holdsImage, imagePart, Json.members, Json.find?]

@[simp]
theorem holdsImage_textPart (t : Text) : holdsImage (textPart t) = false := by
  have hname : ("text".codes == "inlineData".codes) = false := by decide +kernel
  simp only [holdsImage, textPart, Json.members, Json.find?, hname, Bool.false_eq_true, ↓reduceIte,
    Option.isSome_none]

/-- Counting the images in the parts of a request gives their number back. -/
theorem imageCount_parts (prompt : Text) (images : List EncodedImage) :
    imageCount (parts prompt images) = images.length := by
  have hpairs : imageCount (images.flatMap fun i => [imagePart i, textPart i.marker]) =
      images.length := by
    induction images with
    | nil => rfl
    | cons i rest ih => simpa [imageCount] using ih
  simpa [parts, imageCount] using hpairs

/-- The members of the first value that counts as present, an absent one having none. -/
def membersOfEither (a b : Json) : Except Json.KindError Members :=
  (a.orElse b).membersOrNone

/-- The media type of image data that name none. -/
def defaultMimeType : Json := .str "image/png".codes

/-- The image that a part of a reply holds, if it holds one. -/
def partImage? (prompt : Text) (part : Json) : Except Json.KindError (Option GeneratedImage) := do
  let ms ← part.membersOrNone
  let inline ← membersOfEither (field ms "inlineData") (field ms "inline_data")
  let data := field inline "data"
  if !data.truthy then pure none
  else
    let mime := (field inline "mimeType").orElse ((field inline "mime_type").orElse defaultMimeType)
    pure (some
      ⟨"data:".codes ++ mime.display ++ ";base64,".codes ++ data.display, prompt⟩)

/-- The images of a candidate in a reply. -/
def candidateImages (prompt : Text) (candidate : Json) :
    Except Json.KindError (List GeneratedImage) := do
  let content ← (field (← candidate.membersOrNone) "content").membersOrNone
  let images ← (← (field content "parts").entries).mapM (partImage? prompt)
  pure images.reduceOption

/-- The images of a reply, candidate by candidate and part by part. -/
def extractImages (reply : Members) (prompt : Text) :
    Except Json.KindError (List GeneratedImage) := do
  let images ← (← (field reply "candidates").entries).mapM (candidateImages prompt)
  pure images.flatten

/-- An outcome without images. -/
def failed (error : Json) : Outcome :=
  .failed name error

/-- The error for something of the wrong kind, or for a call that failed. -/
def networkError (message : Text) : Json :=
  .str ("gemini_network_error: ".codes ++ message)

/-- The error for a call that failed. -/
def failureError (failure : Web.Failure) : Json :=
  match failure.kind with
  | .readTimeout => .str "gemini_timeout".codes
  | _ => networkError failure.describe

/-- The value of a reply, in which at most `room` containers may be nested; one that cannot be read
counts as an empty object, unless it is nested too deeply. -/
def replyValue (room : Nat) (r : Web.Response) : Except Json.Limit Json :=
  match Json.readBytes room r.body with
  | .ok v => .ok v
  | .error (.unreadable (.beyond (.nesting inner))) => .error (.nesting inner)
  | .error _ => .ok (.obj [])

/-- What the provider says about its error, if it says something. -/
def serverMessage (reply : Json) : Except Json.KindError Json :=
  match reply with
  | .obj ms => do pure (field (← (field ms "error").membersOrNone) "message")
  | _ => .ok .null

/-- The outcome of a refused request: the words of the provider, or else the status. -/
def refusal (status : Int) (reply : Json) : Except Json.KindError Outcome := do
  let message ← serverMessage reply
  pure (failed (message.orElse (.str ("gemini_http_".codes ++ Text.ofInt status))))

/-- The outcome of a request that was granted. -/
def success (prompt : Text) (sent : Nat) (reply : Json) : Except Json.KindError Outcome := do
  let images ← extractImages reply.members prompt
  if images.isEmpty then pure (failed (.str "gemini_returned_no_images".codes))
  else pure ⟨name, images, .null, sent⟩

/-- The outcome that a response means, when `sent` images went with the request. -/
def outcome (room : Nat) (prompt : Text) (sent : Nat) (r : Web.Response) : Outcome :=
  match replyValue room r with
  | .error limit => failed (networkError limit.message)
  | .ok reply =>
    match if r.isSuccess then success prompt sent reply else refusal r.status reply with
    | .ok o => o
    | .error e => failed (networkError e.message)

/-- Make images. -/
def generate (g : Gemini) (access : Web.Access) (prompt : Text) (refs : List ImageReference) :
    Run Outcome := do
  let client ← Run.reach access
  let images ← Vision.encodeImages client refs
  match ← Run.call client (.send g.url [("key".codes, g.apiKey)] (payload prompt images)) with
  | .error failure => pure (failed (failureError failure))
  | .ok response => pure (outcome access.nesting prompt (imageCount (parts prompt images)) response)

/-- The provider as a way to have images made. -/
def strategy (g : Gemini) (access : Web.Access) : Strategy :=
  ⟨name, true, fun prompt refs => do pure (.ok (← g.generate access prompt refs))⟩

end Gemini

end CanvasPrompt.Generate
