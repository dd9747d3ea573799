import CanvasPrompt.Run.Basic

/-!
# Fetching images

References are fetched one after another, in order. One that cannot be had is reported and left out.
-/

namespace CanvasPrompt.Vision

/-- Fetch the image of a reference. There is none if the call fails, is refused or brings no bytes.
-/
def encodeImage (client : Web.Client) (ref : ImageReference) : Run (Option EncodedImage) := do
  match ← Run.call client (.fetch ref.url) with
  | .error failure =>
    Run.report (.imageFailed ref.url failure)
    pure none
  | .ok response =>
    if !response.isSuccess then
      Run.report (.imageRefused response.status ref.url)
      pure none
    else if response.body.isEmpty then
      Run.report (.imageEmpty ref.url)
      pure none
    else pure (some (.ofResponse ref response))

/-- Fetch the images of some references. -/
def encodeImages (client : Web.Client) : List ImageReference → Run (List EncodedImage)
  | [] => pure []
  | ref :: rest => do
    let image ← encodeImage client ref
    let images ← encodeImages client rest
    pure (image.toList ++ images)

end CanvasPrompt.Vision
