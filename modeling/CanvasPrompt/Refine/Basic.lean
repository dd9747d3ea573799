import CanvasPrompt.Prompt.Instruction
import CanvasPrompt.Refine.Cleanup
import CanvasPrompt.Vision.Fetch

/-!
# Refining

A context is refined to a prompt. Without a reasoning service, or with nothing for it to work on,
the prompt is what the user and the canvas say. Otherwise the images are fetched and the service is
asked once; its cleaned reply is the prompt, or, if it brings none, a fallback that begins with what
the user said. Refining always gives a prompt.

The work is done in stages. Each one reads what the stages before it have found and adds to it; a
stage that breaks off ends the work, and the fallback is used as well.
-/

namespace CanvasPrompt.Refine

/-- What a reasoning service does when it is asked. -/
inductive Behaviour where
  /-- It replies with a value, normally a text. -/
  | replies (v : Json)
  /-- It fails. -/
  | fails (failure : Web.Failure)
  /-- It gives no reply before its time is over. -/
  | silent

/-- A reasoning service. -/
structure Reasoner where
  /-- Its name. -/
  name : Text
  /-- What it does when it is asked. -/
  behaviour : Behaviour

/-- How to refine. -/
structure Options where
  /-- The seconds that the reasoning service may take. -/
  timeout : Double
  /-- The range of words that is asked for. -/
  wordBudget : Text
  /-- The number of images kept of each role. -/
  perRoleCap : Int
  /-- The number of images kept in all, if it is limited. -/
  maxImages : Option Int
  deriving DecidableEq

/-- The usual options. -/
def Options.default : Options :=
  ⟨Web.defaultTimeout, Prompt.defaultWordBudget, Context.defaultPerRoleCap, none⟩

/-- Why a prompt was not refined. -/
inductive Error where
  /-- The service took too long. -/
  | timeout
  /-- The service failed. -/
  | failed (message : Text)
  /-- Its reply holds no prompt. -/
  | emptyReply
  /-- Its reply is no text. -/
  | unusableReply (e : Json.KindError)
  /-- The stages came to an end without a prompt. -/
  | noPrompt
  deriving DecidableEq

/-- The wording of the error. -/
def Error.message : Error → Text
  | .timeout => "reasoning_timeout".codes
  | .failed message => "reasoning_error: ".codes ++ message
  | .emptyReply => "reasoning_empty_result".codes
  | .unusableReply e => "compile_error: ".codes ++ e.message
  | .noPrompt => "no_prompt".codes

/-- What refining gives. -/
structure Result where
  /-- The prompt. -/
  prompt : Text
  /-- What made it: the name of the service, or how it was made without one. -/
  refinedBy : Text
  /-- What went wrong, if something did. -/
  error : Option Error
  deriving DecidableEq

/-- The prompt if the service is not asked: what the user said and the flat prompt. -/
def directPrompt (c : Context) : Text :=
  Text.orElse (Text.joinPresent ", ".codes [c.userPrompt, c.simplePrompt]) Prompt.qualitySuffix

/-- The prompt if the service fails: what the user said, or else the flat prompt, and the quality
suffix. -/
def fallbackPrompt (c : Context) : Text :=
  Text.joinPresent ", ".codes [c.basePrompt, Prompt.qualitySuffix]

/-- Whether a context holds nothing for a service to work on. -/
def isTrivial (c : Context) : Bool :=
  c.images.isEmpty && c.textDescriptors.isEmpty

/-- Fetch the images of a context. No client is opened if there are none to fetch. -/
def encodeAll (access : Web.Access) (refs : List ImageReference) : Run (List EncodedImage) := do
  if refs.isEmpty then pure []
  else
    let images ← Vision.encodeImages (← Run.reach access) refs
    if images.length < refs.length then
      Run.report (.imagesSkipped (refs.length - images.length) refs.length)
    pure images

/-- The request for a context with the images that could be fetched. -/
def messages (options : Options) (c : Context) (images : List EncodedImage) :
    List Reasoning.Message :=
  let instruction := Prompt.instruction c ((EncodedImage.roles images).map Role.name)
  [.system (Prompt.system options.wordBudget), .human (Reasoning.humanContent instruction images)]

/-- What comes back from a service that is asked. -/
def Behaviour.reply : Behaviour → Except Error Json
  | .replies v => .ok v
  | .fails failure =>
    .error (if failure.kind = .timeout then .timeout else .failed failure.describe)
  | .silent => .error .timeout

/-- Ask a service, unless there is no time for it. -/
def ask (options : Options) (service : Reasoner) (request : List Reasoning.Message) :
    Run (Except Error Json) := do
  if options.timeout.atMostZero then pure (.error .timeout)
  else
    Run.request request
    pure service.behaviour.reply

/-- The prompt in a reply, empty if it holds none. A reply that counts as absent holds none, and any
other one has to be a text. -/
def promptOf (reply : Json) : Except Json.KindError Text :=
  if !reply.truthy then .ok []
  else
    match reply with
    | .str t => .ok (clean t)
    | v => .error (.notTrimmable v.kind)

/-- What the stages have found so far. -/
structure Progress where
  /-- The images that could be fetched. -/
  images : List EncodedImage
  /-- What the service replied; null if it did not. -/
  reply : Json
  /-- What went wrong, if something did. -/
  error : Option Error
  /-- The prompt; empty as long as there is none. -/
  prompt : Text
  /-- What made the prompt, if there is one. -/
  refinedBy : Option Text

/-- What is found before the first stage. -/
def Progress.start : Progress :=
  ⟨[], .null, none, [], none⟩

/-- The stage that does without the service. -/
def goDirect (c : Context) (p : Progress) : Progress :=
  { p with prompt := directPrompt c, refinedBy := some "simple".codes }

/-- The stage that fetches the images. -/
def fetchImages (access : Web.Access) (c : Context) (p : Progress) : Run Progress := do
  let images ← encodeAll access c.images
  pure { p with images }

/-- The stage that asks the service. -/
def askService (service : Reasoner) (options : Options) (c : Context) (p : Progress) :
    Run Progress := do
  match ← ask options service (messages options c p.images) with
  | .ok reply => pure { p with reply, error := none }
  | .error e => pure { p with reply := .null, error := some e }

/-- The stage that cleans the reply. It breaks off at a reply that is no text. An error that was
found before stays. -/
def cleanReply (service : Reasoner) (p : Progress) : Except Json.KindError Progress :=
  match promptOf p.reply with
  | .error e => .error e
  | .ok prompt =>
    if prompt.isEmpty then .ok { p with error := some (p.error.getD .emptyReply) }
    else .ok { p with prompt, refinedBy := some service.name }

/-- The stage that falls back on what the user said. -/
def fallBack (c : Context) (p : Progress) : Run Progress := do
  Run.report (.refineFellBack ((p.error.map Error.message).getD "None".codes))
  pure { p with prompt := fallbackPrompt c, refinedBy := some "fallback".codes }

/-- The stage that cleans the reply, and falls back if that brought no prompt. -/
def cleanOrFallBack (service : Reasoner) (c : Context) (p : Progress) :
    Run (Except Json.KindError Progress) := do
  match cleanReply service p with
  | .error e => pure (.error e)
  | .ok p => if p.prompt.isEmpty then return .ok (← fallBack c p) else pure (.ok p)

/-- Go through the stages for a service: fetch, ask, and clean or fall back. -/
def consult (service : Reasoner) (options : Options) (access : Web.Access) (c : Context) :
    Run (Except Json.KindError Progress) := do
  let fetched ← fetchImages access c .start
  let asked ← askService service options c fetched
  cleanOrFallBack service c asked

/-- Go through the stages. -/
def goThrough (service : Option Reasoner) (options : Options) (access : Web.Access) (c : Context) :
    Run (Except Json.KindError Progress) :=
  match service with
  | none => pure (.ok (goDirect c .start))
  | some service =>
    if isTrivial c then pure (.ok (goDirect c .start)) else consult service options access c

/-- What refining gives if the stages brought no prompt. -/
def giveUp (c : Context) (e : Error) : Run Result := do
  Run.report (.refineFailed e.message)
  pure ⟨fallbackPrompt c, "fallback".codes, some e⟩

/-- What refining gives after the stages, whether or not they broke off. -/
def conclude (c : Context) : Except Json.KindError Progress → Run Result
  | .error e => giveUp c (.unusableReply e)
  | .ok p =>
    if p.prompt.isEmpty then giveUp c (p.error.getD .noPrompt)
    else pure ⟨p.prompt, p.refinedBy.getD "simple".codes, p.error⟩

/-- Refine a context to a prompt. -/
def refine (service : Option Reasoner) (options : Options) (access : Web.Access) (c : Context) :
    Run Result := do
  conclude c (← goThrough service options access c)

end CanvasPrompt.Refine
