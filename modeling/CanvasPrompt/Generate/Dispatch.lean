import CanvasPrompt.Generate.Gemini
import CanvasPrompt.Generate.Pollinations

/-!
# The chain of providers

Providers are tried in order until one makes images: the one with a key first, if there is a key and
it is wanted, and the keyless one last. A blank prompt is replaced by the quality suffix. A provider
may fail, but the report of a success breaks off if its number of references cannot be written out.
-/

namespace CanvasPrompt.Generate

/-- What the providers are set to. -/
structure Config where
  /-- The key of the provider that needs one. -/
  geminiApiKey : Option Text
  /-- Its model. -/
  geminiModel : Text
  /-- The model of the keyless provider. -/
  imageModel : Text
  /-- The width of its images. -/
  width : Int
  /-- The height of its images. -/
  height : Int
  /-- The seconds that a provider may take. -/
  timeout : Double
  /-- Whether the keyless provider is used. -/
  keylessEnabled : Bool
  deriving DecidableEq

/-- The model of the keyless provider unless another one is set. -/
def defaultImageModel : Text := "flux".codes

/-- The width and height of images unless another size is set. -/
def defaultSize : Int := 1024

/-- The usual configuration: no key. -/
def Config.default : Config :=
  { geminiApiKey := none
    geminiModel := Gemini.defaultModel
    imageModel := defaultImageModel
    width := defaultSize
    height := defaultSize
    timeout := Web.defaultTimeout
    keylessEnabled := true }

/-- A provider with its settings. -/
inductive Provider where
  /-- The provider with a key. -/
  | gemini (g : Gemini)
  /-- The keyless provider. -/
  | pollinations (p : Pollinations)
  deriving DecidableEq

/-- The provider with a key, if there is a key and the keyless provider is not preferred. -/
def Config.keyed (c : Config) (preferred : Option Text) : List Provider :=
  match c.geminiApiKey with
  | none => []
  | some key =>
    if key.isEmpty || preferred == some Pollinations.name then []
    else [.gemini ⟨key, c.geminiModel, c.timeout, Gemini.defaultBaseUrl⟩]

/-- The keyless provider, if it is used. -/
def Config.keyless (c : Config) : List Provider :=
  if c.keylessEnabled then
    [.pollinations ⟨c.width, c.height, c.imageModel, Pollinations.defaultBaseUrl⟩]
  else []

/-- The providers in the order in which they are tried. -/
def Config.providers (c : Config) (preferred : Option Text) : List Provider :=
  c.keyed preferred ++ c.keyless

/-- A provider as a way to have images made. -/
def Provider.strategy (access : Web.Access) (chance : Int) : Provider → Strategy
  | .gemini g => g.strategy access
  | .pollinations p => p.strategy chance

/-- The prompt that providers get: the given one without the white space around it, or the quality
suffix if that leaves nothing or no prompt is given. -/
def effectivePrompt (prompt : Option Text) : Text :=
  Text.orElse (Text.strip (prompt.getD [])) Prompt.qualitySuffix

/-- The references that a provider gets. -/
def Strategy.given (s : Strategy) (refs : List ImageReference) : List ImageReference :=
  if s.supportsReferences then refs else []

/-- How the images of an outcome came about. -/
def Outcome.mode (o : Outcome) : Mode :=
  if o.referencesSent = 0 then .generate else .reference

/-- The error of an outcome without images. -/
def Outcome.errorOf (name : Text) (o : Outcome) : Json :=
  o.error.orElse (.str (name ++ ": no images".codes))

/-- Try the strategies in order; `lastError` is what went wrong before. -/
def dispatchAfter (lastError : Json) (prompt : Text) (refs : List ImageReference) :
    List Strategy → Run (Except Web.Failure Result)
  | [] => do
    Run.report (.allProvidersFailed lastError.display)
    pure (.ok ⟨[], none, .generate, lastError⟩)
  | s :: rest => do
    let given := s.given refs
    Run.attempt ⟨s.name, prompt, given⟩
    match ← s.generate prompt given with
    | .error failure =>
      Run.report (.providerRaised s.name failure)
      dispatchAfter (.str (s.name ++ ": ".codes ++ failure.describe)) prompt refs rest
    | .ok o =>
      if o.isSuccess then
        match Web.writeInt o.referencesSent with
        | .error failure => pure (.error failure)
        | .ok sent => do
          Run.report (.generated s.name o.images.length sent given.length)
          pure (.ok ⟨o.images, some s.name, o.mode, .null⟩)
      else
        Run.report (.providerFailed s.name (o.errorOf s.name).display)
        dispatchAfter (o.errorOf s.name) prompt refs rest

/-- The error of a chain without providers. -/
def noProvider : Json := .str "no_generation_provider_configured".codes

/-- Try the strategies in order until one makes images. -/
def dispatch (prompt : Option Text) (refs : List ImageReference) (strategies : List Strategy) :
    Run (Except Web.Failure Result) :=
  dispatchAfter noProvider (effectivePrompt prompt) refs strategies

/-- Make images with the configured providers. -/
def generate (config : Config) (preferred : Option Text) (access : Web.Access) (chance : Int)
    (prompt : Option Text) (refs : List ImageReference) : Run (Except Web.Failure Result) :=
  dispatch prompt refs ((config.providers preferred).map (Provider.strategy access chance))

end CanvasPrompt.Generate
