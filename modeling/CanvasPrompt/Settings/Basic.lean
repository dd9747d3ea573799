import CanvasPrompt.Auth.Token
import CanvasPrompt.Generate.Dispatch
import CanvasPrompt.Refine.Basic

/-!
# Settings

The settings of the service come from variables of its environment. Some variables have to be given,
others have a default; a number has to be written as one. The settings determine how prompts are
refined, which providers make images, and what access tokens are checked against.
-/

namespace CanvasPrompt.Settings

/-- The variables that are read. -/
inductive Variable where
  | openaiApiKey | openaiBaseUrl | modelName | refineMaxTokens | refineTemperature | perRoleImageCap
  | maxRefineImages | geminiApiKey | geminiModel | imageModel | imageWidth | imageHeight
  | providerTimeout | supabaseUrl | supabaseJwtSecret | jwtAudience | corsOrigins | dbUri
  deriving DecidableEq

namespace Variable

/-- The name of a variable. -/
def name : Variable → Text
  | .openaiApiKey => "OPENAI_API_KEY".codes
  | .openaiBaseUrl => "OPENAI_BASE_URL".codes
  | .modelName => "MODEL_NAME".codes
  | .refineMaxTokens => "REFINE_MAX_TOKENS".codes
  | .refineTemperature => "REFINE_TEMPERATURE".codes
  | .perRoleImageCap => "PER_ROLE_IMAGE_CAP".codes
  | .maxRefineImages => "MAX_REFINE_IMAGES".codes
  | .geminiApiKey => "GEMINI_API_KEY".codes
  | .geminiModel => "GEMINI_MODEL".codes
  | .imageModel => "IMAGE_MODEL".codes
  | .imageWidth => "IMAGE_WIDTH".codes
  | .imageHeight => "IMAGE_HEIGHT".codes
  | .providerTimeout => "PROVIDER_TIMEOUT_S".codes
  | .supabaseUrl => "SUPABASE_URL".codes
  | .supabaseJwtSecret => "SUPABASE_JWT_SECRET".codes
  | .jwtAudience => "JWT_AUDIENCE".codes
  | .corsOrigins => "CORS_ORIGINS".codes
  | .dbUri => "DB_URI".codes

end Variable

/-- An environment: the texts of the variables that are set. -/
abbrev Environment := Variable → Option Text

/-- Why an environment gives no settings. -/
inductive Error where
  /-- A variable has to be given and is not. -/
  | missing (v : Variable)
  /-- Every origin would be allowed. -/
  | anyOrigin
  /-- A variable should be a whole number. -/
  | notInteger (v : Variable)
  /-- A variable should be a number. -/
  | notNumber (v : Variable)
  /-- The limit of images should be a whole number and is this text. -/
  | imageLimit (t : Text) (e : Text.IntegerError)
  deriving DecidableEq

/-- The wording of the error. -/
def Error.message : Error → Text
  | .missing v => v.name ++ " required".codes
  | .anyOrigin =>
    Variable.corsOrigins.name ++ " must not contain '*' when using credentials/auth".codes
  | .notInteger v => v.name ++ " must be an integer".codes
  | .notNumber v => v.name ++ " must be a number".codes
  | .imageLimit t e => e.message t

/-- The text of a variable that has to be given. -/
def required (env : Environment) (v : Variable) : Except Error Text :=
  match env v with
  | none => .error (.missing v)
  | some t => if t.isEmpty then .error (.missing v) else .ok t

/-- The text of a variable without the white space around it, if anything is left. -/
def trimmed (env : Environment) (v : Variable) : Option Text :=
  (env v).bind Text.nonBlank?

/-- The text of a variable that has a default. -/
def textOr (env : Environment) (v : Variable) (default : Text) : Text :=
  (env v).getD default

/-- The whole number of a variable; one that is empty counts as not given. -/
def integerOr (env : Environment) (v : Variable) (default : Int) : Except Error Int :=
  let t := (env v).getD []
  if t.isEmpty then .ok default
  else
    match Text.readInteger t with
    | .ok n => .ok n
    | .error _ => .error (.notInteger v)

/-- The number of a variable; one that is empty counts as not given. -/
def numberOr (env : Environment) (v : Variable) (default : Double) : Except Error Double :=
  let t := (env v).getD []
  if t.isEmpty then .ok default
  else
    match Text.readReal? t with
    | some d => .ok d
    | none => .error (.notNumber v)

/-- The origins in a list divided by commas, blank ones left out. -/
def originsIn (t : Text) : List Text :=
  (Text.splitAtChar ',' t).filterMap Text.nonBlank?

/-- The origins that are allowed. They have to be named one by one. -/
def origins (env : Environment) : Except Error (List Text) :=
  match required env .corsOrigins with
  | .error e => .error e
  | .ok t => if (originsIn t).contains ['*'] then .error .anyOrigin else .ok (originsIn t)

/-- The limit of images, if there is one. -/
def imageLimit (env : Environment) : Except Error (Option Int) :=
  match trimmed env .maxRefineImages with
  | none => .ok none
  | some t =>
    match Text.readInteger t with
    | .ok n => .ok (some n)
    | .error e => .error (.imageLimit t e)

end Settings

/-- The settings of the service. -/
structure Settings where
  /-- The key of the reasoning service; without one, prompts are not refined by a service. -/
  openaiApiKey : Option Text
  /-- Where the reasoning service is, if not at the usual place. -/
  openaiBaseUrl : Option Text
  /-- The model of the reasoning service. -/
  modelName : Text
  /-- The greatest number of tokens in a reply. -/
  refineMaxTokens : Int
  /-- How freely the reasoning service chooses its words. -/
  refineTemperature : Double
  /-- The number of images kept of each role. -/
  perRoleImageCap : Int
  /-- The number of images kept in all, if it is limited. -/
  maxRefineImages : Option Int
  /-- The key of the provider of images that needs one. -/
  geminiApiKey : Option Text
  /-- Its model. -/
  geminiModel : Text
  /-- The model of the keyless provider of images. -/
  imageModel : Text
  /-- The width of its images. -/
  imageWidth : Int
  /-- The height of its images. -/
  imageHeight : Int
  /-- The seconds that other services may take. -/
  providerTimeout : Double
  /-- Where access tokens are made. -/
  supabaseUrl : Text
  /-- The key of their signatures. -/
  supabaseJwtSecret : Text
  /-- For whom they have to be. -/
  jwtAudience : Text
  /-- The origins that are allowed. -/
  corsOrigins : List Text
  /-- Where the database is. -/
  dbUri : Text
  deriving DecidableEq

namespace Settings

/-- The greatest number of tokens in a reply unless another one is set. -/
def defaultMaxTokens : Int := 400

/-- How freely the reasoning service chooses its words unless set otherwise: 0.7. -/
def defaultTemperature : Double := Double.ofDecimal false 7 (-1)

/-- Read the settings. The first variable that is missing or malformed is reported. -/
def load (env : Environment) : Except Error Settings := do
  let corsOrigins ← origins env
  let refineMaxTokens ← integerOr env .refineMaxTokens defaultMaxTokens
  let refineTemperature ← numberOr env .refineTemperature defaultTemperature
  let perRoleImageCap ← integerOr env .perRoleImageCap Context.defaultPerRoleCap
  let maxRefineImages ← imageLimit env
  let imageWidth ← integerOr env .imageWidth Generate.defaultSize
  let imageHeight ← integerOr env .imageHeight Generate.defaultSize
  let providerTimeout ← numberOr env .providerTimeout Web.defaultTimeout
  let supabaseUrl ← required env .supabaseUrl
  let supabaseJwtSecret ← required env .supabaseJwtSecret
  let dbUri ← required env .dbUri
  pure
    { openaiApiKey := trimmed env .openaiApiKey
      openaiBaseUrl := trimmed env .openaiBaseUrl
      modelName := textOr env .modelName "gpt-4o".codes
      refineMaxTokens
      refineTemperature
      perRoleImageCap
      maxRefineImages
      geminiApiKey := trimmed env .geminiApiKey
      geminiModel := textOr env .geminiModel Generate.Gemini.defaultModel
      imageModel := textOr env .imageModel Generate.defaultImageModel
      imageWidth
      imageHeight
      providerTimeout
      supabaseUrl := Text.dropEndWhile (· == Code.scalar '/') supabaseUrl
      supabaseJwtSecret
      jwtAudience := textOr env .jwtAudience "authenticated".codes
      corsOrigins
      dbUri }

/-- How prompts are refined. -/
def refineOptions (s : Settings) : Refine.Options :=
  ⟨s.providerTimeout, Prompt.defaultWordBudget, s.perRoleImageCap, s.maxRefineImages⟩

/-- Which providers make images. -/
def imageConfig (s : Settings) : Generate.Config :=
  { geminiApiKey := s.geminiApiKey
    geminiModel := s.geminiModel
    imageModel := s.imageModel
    width := s.imageWidth
    height := s.imageHeight
    timeout := s.providerTimeout
    keylessEnabled := true }

/-- The name of the reasoning service. -/
def reasonerName : Text := "openai".codes

/-- The model of the reasoning service, if there is a key for it. -/
def reasoningModel? (s : Settings) : Option Text :=
  s.openaiApiKey.map fun _ => s.modelName

/-- What access tokens are checked against. -/
def verifier (s : Settings) : Auth.Verifier :=
  ⟨s.supabaseJwtSecret, s.jwtAudience, s.supabaseUrl ++ "/auth/v1".codes⟩

end Settings

end CanvasPrompt
