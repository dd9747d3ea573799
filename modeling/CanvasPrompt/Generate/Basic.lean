import CanvasPrompt.Run.Basic

/-!
# Making images

A provider makes images from a prompt and references, or tells why it did not. What it tells may be
any value, since a service words its own errors.
-/

namespace CanvasPrompt.Generate

/-- An image that was made. -/
structure GeneratedImage where
  /-- Where it is, or a URL that holds its data. -/
  url : Text
  /-- The prompt that it was made from. -/
  prompt : Text
  deriving DecidableEq, Inhabited

/-- What comes of asking a provider. -/
structure Outcome where
  /-- The name of the provider. -/
  provider : Text
  /-- The images. -/
  images : List GeneratedImage
  /-- What went wrong; null if nothing did. -/
  error : Json
  /-- The number of references that reached the provider. -/
  referencesSent : Int

/-- Whether images were made. -/
def Outcome.isSuccess (o : Outcome) : Bool :=
  !o.images.isEmpty

/-- The outcome of a provider that made no images. -/
def Outcome.failed (provider : Text) (error : Json) : Outcome :=
  ⟨provider, [], error, 0⟩

/-- A way to have images made. -/
structure Strategy where
  /-- The name of the provider. -/
  name : Text
  /-- Whether it takes references. -/
  supportsReferences : Bool
  /-- Have images made from a prompt and references. -/
  generate : Text → List ImageReference → Run (Except Web.Failure Outcome)

/-- How the images came about. -/
inductive Mode where
  /-- From the prompt alone. -/
  | generate
  /-- From the prompt and at least one reference. -/
  | reference
  deriving DecidableEq, Inhabited

/-- The name of a mode. -/
def Mode.name : Mode → Text
  | .generate => "generate".codes
  | .reference => "reference".codes

/-- What generating gives. -/
structure Result where
  /-- The images. -/
  images : List GeneratedImage
  /-- The name of the provider that made them. -/
  provider : Option Text
  /-- How they came about. -/
  mode : Mode
  /-- What went wrong; null if nothing did. -/
  error : Json

/-- Whether there are images and nothing went wrong. -/
def Result.isSuccess (r : Result) : Bool :=
  r.error.kind == .null && !r.images.isEmpty

end CanvasPrompt.Generate
