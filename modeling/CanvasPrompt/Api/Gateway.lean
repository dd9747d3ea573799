import CanvasPrompt.Api.Preflight
import CanvasPrompt.Api.Request
import CanvasPrompt.Api.Route
import CanvasPrompt.Api.Server
import CanvasPrompt.Auth.Token

/-!
# The gateway

How requests are admitted. A request is matched with a route; a body that is malformed JSON is
refused first, then a user who is not known, then everything while the database is closed, and then
a request that is not well formed, such as a body that is not told to be JSON.
-/

namespace CanvasPrompt.Api

/-- How users are known. -/
inductive Access where
  /-- Every request comes from one user. -/
  | always (name : Text)
  /-- A request brings a token, which a decoder looks at at the given time. -/
  | byToken (decode : Auth.Decoder) (v : Auth.Verifier) (now : Rat)

/-- The scheme in which a token is brought. -/
def tokenScheme : Text := "bearer".codes

/-- The token in credentials: it follows the name of the scheme and a space. -/
def tokenIn? (credentials : Text) : Option Text :=
  let scheme := Text.before ' ' credentials
  let token := Text.strip (Text.after ' ' credentials)
  if Text.lowerAscii scheme == tokenScheme && !token.isEmpty then some token else none

/-- The answer to a user whose token is refused. -/
def tokenRefused : Auth.TokenError → Answer
  | .expired => .unauthorized "Token expired".codes
  | .invalid => .unauthorized "Invalid token".codes
  | .broken _ => .breakdown

/-- The user of a request. Only texts name users. -/
def Access.userOf (a : Access) (authorization : Option Text) : Except Answer Text :=
  match a with
  | .always name => .ok name
  | .byToken decode v now =>
    match authorization.bind tokenIn? with
    | none => .error (.unauthorized "Not authenticated".codes)
    | some token =>
      match Auth.verify decode v now token with
      | .ok (.str user) => .ok user
      | .ok _ => .error .breakdown
      | .error e => .error (tokenRefused e)

/-- What requests are admitted by. -/
structure Gateway where
  /-- How users are known. -/
  access : Access
  /-- The other origins whose pages may send requests. -/
  origins : List Text
  /-- Whether the database is open. -/
  isOpen : Bool
  /-- The number of containers that may be nested, one in the other, in what is read as JSON. -/
  nesting : Nat
  /-- Which values can be written as JSON. -/
  writes : Json → Bool

/-- The name of the body of a request. -/
def bodyName : Text := "body".codes

/-- Check an identifier in a path. -/
def pathIdentifier (name : String) (t : Text) : Checked Uuid :=
  match checkField name (.str t) identifier with
  | .ok u => .ok u
  | .error i => .error (i.inside "path".codes)

/-- The answer to a request that is not well formed. It shows what is wrong, so that it needs values
that can be written. -/
def invalid (writes : Json → Bool) (issues : List Issue) : Answer :=
  if (tooDeep? issues).isNone && issues.all (fun i => writes i.input) then
    .json 422 (.obj [("invalid".codes, .arr (issues.map Issue.toJson))])
  else .breakdown

/-- What the server says of itself. -/
def health : Json :=
  .obj [("status".codes, .str "ok".codes)]

namespace Gateway

/-- The value of a body, null if there is none. A body that is not told to be JSON is a text. -/
def bodyValue (g : Gateway) (r : Incoming) : Except Answer Json :=
  if r.body.isEmpty then .ok .null
  else if !r.bringsJson then .ok (.str ((Text.ofUtf8? r.body).getD []))
  else
    match Json.readBytes g.nesting r.body with
    | .ok v => .ok v
    | .error (.unreadable (.malformed position)) =>
      .error (invalid g.writes [⟨[.name bodyName, .position position], .malformedBody, .null⟩])
    | .error _ => .error (.detail 400 (.str "There was an error parsing the body".codes))

/-- Check the value of a body as a request. -/
def bodyRequest {α : Type} (g : Gateway) (check : Members → Except (List Issue) α) (v : Json) :
    Except Answer α :=
  match v with
  | .null => .error (invalid g.writes [⟨[.name bodyName], .missing, .null⟩])
  | .obj ms =>
    match check ms with
    | .ok r => .ok r
    | .error issues => .error (invalid g.writes (issues.map (Issue.inside bodyName)))
  | v => .error (invalid g.writes [⟨[.name bodyName], .notObjectBody, v⟩])

/-- The user of a request, while the database is open. -/
def entry (g : Gateway) (r : Incoming) : Except Answer Text :=
  match g.access.userOf (r.header? "authorization") with
  | .error a => .error a
  | .ok user =>
    if g.isOpen then .ok user else .error (.detail 503 (.str "Database unavailable".codes))

/-- The user of a request with a body, and what the body asks for. -/
def entryWithBody {α : Type} (g : Gateway) (check : Members → Except (List Issue) α)
    (r : Incoming) : Except Answer (Text × α) := do
  let v ← g.bodyValue r
  let user ← g.entry r
  let request ← g.bodyRequest check v
  pure (user, request)

/-- The list of images that a path asks for. -/
def listAction (g : Gateway) (project : Text) : Except Answer Action :=
  match pathIdentifier "project_id" project with
  | .ok project => .ok (.list project)
  | .error i => .error (invalid g.writes [i])

/-- The deletion that a path asks for. -/
def deleteAction (g : Gateway) (project item : Text) : Except Answer Action :=
  let project := pathIdentifier "project_id" project
  let item := pathIdentifier "item_id" item
  match project, item with
  | .ok project, .ok item => .ok (.delete project item)
  | _, _ => .error (invalid g.writes (issueOf project ++ issueOf item))

/-- The user of a request, and what the user asks for on a route. -/
def actionOn (g : Gateway) (r : Incoming) : Route → Except Answer (Text × Action)
  | .health => .error (.json 200 health)
  | .refine => do
    let (user, request) ← g.entryWithBody (graphRequest g.nesting) r
    pure (user, .refine request)
  | .generate => do
    let (user, request) ← g.entryWithBody (imageRequest g.nesting) r
    pure (user, .generate request)
  | .images project => do
    let user ← g.entry r
    pure (user, ← g.listAction project)
  | .image project item => do
    let user ← g.entry r
    pure (user, ← g.deleteAction project item)

/-- The user of a request, and what the user asks for on its path; else the answer to it. -/
def actionOf (g : Gateway) (r : Incoming) : Except Answer (Text × Action) :=
  match Route.ofPath? r.path with
  | none => .error (.detail 404 (.str "Not Found".codes))
  | some route =>
    if r.method == route.method then g.actionOn r route
    else .error (.detail 405 (.str "Method Not Allowed".codes))

/-- The user of a request, and what the user asks for; else the answer to it. A request that only
asks whether another one may be sent is answered before its path is looked at, and an answer to a
request for the head alone has no body. -/
def admission (g : Gateway) : Admission := fun r =>
  match Preflight.answer? g.origins r with
  | some a => .error a
  | none =>
    match g.actionOf r with
    | .ok admitted => .ok admitted
    | .error a => .error (if r.method == "HEAD".codes then { a with body := .empty } else a)

end Gateway

end CanvasPrompt.Api
