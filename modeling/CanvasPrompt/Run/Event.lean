import CanvasPrompt.Web.Basic

/-!
# Events of a run

What a run reports while it goes on. Each event has a level, a topic and a wording; those of
refining and generating carry the identity of the request.
-/

namespace CanvasPrompt.Run

/-- How serious an event is. -/
inductive Level where
  | info | warning | error
  deriving DecidableEq

/-- The word for a level. -/
def Level.label : Level → Text
  | .info => "INFO".codes
  | .warning => "WARNING".codes
  | .error => "ERROR".codes

/-- What a run reports. -/
inductive Event where
  /-- An image was refused with a status. -/
  | imageRefused (status : Int) (url : Text)
  /-- An image has no bytes. -/
  | imageEmpty (url : Text)
  /-- Fetching an image failed. -/
  | imageFailed (url : Text) (failure : Web.Failure)
  /-- Of `total` images, `skipped` could not be had. -/
  | imagesSkipped (skipped total : Nat)
  /-- The fallback prompt is used because of an error. -/
  | refineFellBack (error : Text)
  /-- Refining broke off with an error. -/
  | refineFailed (error : Text)
  /-- A provider of images failed outside its own care. -/
  | providerRaised (provider : Text) (failure : Web.Failure)
  /-- A provider made images, and says in digits how many of the references it got that it was
  given.
  -/
  | generated (provider : Text) (images : Nat) (sent : Text) (given : Nat)
  /-- A provider made no images. -/
  | providerFailed (provider : Text) (error : Text)
  /-- No provider made images. -/
  | allProvidersFailed (error : Text)

namespace Event

/-- The level of an event. -/
def level : Event → Level
  | .generated .. => .info
  | .refineFailed _ => .error
  | .allProvidersFailed _ => .error
  | _ => .warning

/-- The topic of an event. -/
def topic : Event → Text
  | .imageRefused .. => "vision".codes
  | .imageEmpty _ => "vision".codes
  | .imageFailed .. => "vision".codes
  | .imagesSkipped .. => "compile".codes
  | .refineFellBack _ => "compile".codes
  | .refineFailed _ => "compile".codes
  | _ => "generate".codes

/-- What an event says, under the identity of its request. -/
def wording (requestId : Text) : Event → Text
  | .imageRefused status url =>
    "image fetch failed | status=".codes ++ Text.ofInt status ++ " url=".codes ++ url
  | .imageEmpty url => "image fetch returned no bytes | url=".codes ++ url
  | .imageFailed url failure =>
    "image encode failed | url=".codes ++ url ++ " error=".codes ++ failure.display
  | .imagesSkipped skipped total =>
    tag ++ "skipped ".codes ++ Text.ofNat skipped ++ " of ".codes ++ Text.ofNat total ++
      " reference images".codes
  | .refineFellBack error => tag ++ "refine fell back | error=".codes ++ error
  | .refineFailed error => tag ++ "compile pipeline failed | error=".codes ++ error
  | .providerRaised provider failure =>
    tag ++ "provider=".codes ++ provider ++ " raised | error=".codes ++ failure.display
  | .generated provider images sent given =>
    tag ++ "generated | provider=".codes ++ provider ++ " images=".codes ++ Text.ofNat images ++
      " refs=".codes ++ sent ++ Code.scalar '/' :: Text.ofNat given
  | .providerFailed provider error =>
    tag ++ "provider=".codes ++ provider ++ " failed, trying next | error=".codes ++ error
  | .allProvidersFailed error => tag ++ "all generation providers failed | error=".codes ++ error
where
  /-- The identity of the request in brackets. -/
  tag : Text := Code.scalar '[' :: requestId ++ "] ".codes

/-- The line that reports an event. -/
def line (requestId : Text) (e : Event) : Text :=
  e.level.label ++ " app.".codes ++ e.topic ++ " | ".codes ++ e.wording requestId

end Event

end CanvasPrompt.Run
