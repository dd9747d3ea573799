import CanvasPrompt.Generate.Basic
import CanvasPrompt.Text.Percent

/-!
# The keyless provider

Pollinations makes an image when its URL is fetched, so the URL itself is the result. It holds the
prompt as a segment of the path, and size, seed and model in the query. There is no URL for numbers
that cannot be written out, nor for texts that cannot be encoded.
-/

namespace CanvasPrompt.Generate

/-- How to reach the keyless provider. -/
structure Pollinations where
  /-- The width of the images. -/
  width : Int
  /-- The height of the images. -/
  height : Int
  /-- The model that makes them. -/
  model : Text
  /-- The URL below which prompts stand. -/
  baseUrl : Text
  deriving DecidableEq

namespace Pollinations

/-- The name of the provider. -/
def name : Text := "pollinations".codes

/-- The usual URL below which prompts stand. -/
def defaultBaseUrl : Text := "https://image.pollinations.ai/prompt".codes

/-- The URL below which prompts stand, without slashes at its end. -/
def base (p : Pollinations) : Text :=
  Text.dropEndWhile (· == Code.scalar '/') p.baseUrl

/-- The pairs of the query. -/
def query (p : Pollinations) (seed : Int) : Except Web.Failure (List (Text × Text)) := do
  let width ← Web.writeInt p.width
  let height ← Web.writeInt p.height
  let seed ← Web.writeInt seed
  let model ← Web.encodable p.model
  pure
    [("width".codes, width), ("height".codes, height), ("seed".codes, seed),
      ("model".codes, model), ("nologo".codes, "true".codes)]

/-- The URL of the image for a prompt. -/
def buildUrl (p : Pollinations) (prompt : Text) (seed : Int) : Except Web.Failure Text := do
  let pairs ← p.query seed
  let prompt ← Web.encodable prompt
  pure
    (p.base ++ Code.scalar '/' :: Percent.encode prompt ++
      Code.scalar '?' :: Percent.encodeQuery pairs)

/-- The greatest seed; the least is zero. -/
def greatestSeed : Int := 999999

/-- Make an image; the seed is drawn by chance. -/
def generate (p : Pollinations) (chance : Int) (prompt : Text) :
    Run (Except Web.Failure Outcome) := do
  if prompt.isEmpty then pure (.ok (.failed name (.str "empty_prompt".codes)))
  else
    let seed ← Run.draw chance 0 greatestSeed
    pure ((p.buildUrl prompt seed).map fun url => ⟨name, [⟨url, prompt⟩], .null, 0⟩)

/-- The provider as a way to have images made; it takes no references. -/
def strategy (p : Pollinations) (chance : Int) : Strategy :=
  ⟨name, false, fun prompt _ => p.generate chance prompt⟩

end Pollinations

end CanvasPrompt.Generate
