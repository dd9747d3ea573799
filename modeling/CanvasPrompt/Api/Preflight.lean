import CanvasPrompt.Api.Answer
import CanvasPrompt.Api.Incoming

/-!
# Preflight requests

Before a page of another origin sends a request, its browser asks whether it may. The answer tells
what is not allowed: the origin, the method or the headers.
-/

namespace CanvasPrompt.Api.Preflight

/-- The methods that pages of other origins may use. -/
def allowedMethods : List Text :=
  ["POST".codes, "GET".codes, "DELETE".codes, "OPTIONS".codes]

/-- The names of the headers that they may send, in small letters. -/
def allowedHeaders : List Text :=
  ["accept".codes, "accept-language".codes, "authorization".codes, "content-language".codes,
    "content-type".codes]

/-- Whether all headers of a list with commas may be sent. -/
def headersAllowed (names : Text) : Bool :=
  (Text.splitAtChar ',' names).all fun name =>
    allowedHeaders.contains (Text.strip (Text.lowerAscii name))

/-- What is not allowed of what is asked. -/
def refused (origins : List Text) (origin method : Text) (headers : Option Text) : List Text :=
  (if origins.contains origin then [] else ["origin".codes]) ++
    (if allowedMethods.contains method then [] else ["method".codes]) ++
    (if headers.elim true headersAllowed then [] else ["headers".codes])

/-- The answer, given what is not allowed. -/
def answerTo : List Text → Answer
  | [] => ⟨200, [], .text "OK".codes⟩
  | refused => ⟨400, [], .text ("Disallowed CORS ".codes ++ ", ".codes.intercalate refused)⟩

/-- The answer to a request, if it only asks whether another one may be sent. -/
def answer? (origins : List Text) (r : Incoming) : Option Answer :=
  match r.header? "origin", r.header? "access-control-request-method" with
  | some origin, some method =>
    if r.method == "OPTIONS".codes then
      some (answerTo (refused origins origin method (r.header? "access-control-request-headers")))
    else none
  | _, _ => none

end CanvasPrompt.Api.Preflight
