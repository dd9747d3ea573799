import CanvasPrompt.Api.Answer
import CanvasPrompt.Api.Incoming
import CanvasPrompt.Api.Service

/-!
# The server

The service over the web. A web framework stands before it: it tells who sends a request and what is
asked for, or answers the request itself. What is admitted is served.
-/

namespace CanvasPrompt.Api

/-- The answer to a request that is not granted. -/
def Refusal.answer : Refusal → Answer
  | .accessDenied => .detail 403 (.str "Access denied".codes)
  | .imageNotFound => .detail 404 (.str "Generated item not found".codes)
  | .notGenerated v => .detail 502 v
  | .breakdown _ => .breakdown

/-- A text that may be missing, as a value. -/
def optionalText : Option Text → Json
  | none => .null
  | some t => .str t

/-- An image as a value. -/
def Item.toJson (i : Item) : Json :=
  .obj
    [("id".codes, .str i.id), ("url".codes, .str i.url), ("prompt".codes, .str i.prompt),
      ("provider".codes, optionalText i.provider), ("createdAt".codes, .str i.createdAt)]

/-- A refined prompt as a value. -/
def RefineAnswer.toJson (a : RefineAnswer) : Json :=
  .obj
    [("refined".codes, .str a.refined), ("simple".codes, .str a.simple),
      ("refined_by".codes, .str a.refinedBy), ("prompt_id".codes, optionalText a.promptId)]

/-- Images as a value. -/
def ImageAnswer.toJson (a : ImageAnswer) : Json :=
  .obj
    [("images".codes, .arr (a.images.map Item.toJson)),
      ("provider".codes, .str a.provider), ("mode".codes, .str a.mode.name)]

/-- The answer to a request that is granted. -/
def Reply.answer : Reply → Answer
  | .refined a => .json 200 a.toJson
  | .generated a => .json 200 a.toJson
  | .listed items => .json 200 (.arr (items.map Item.toJson))
  | .deleted => ⟨204, [], .empty⟩

/-- The answer to a request that is served. -/
def answerOf : Except Refusal Reply → Answer
  | .ok reply => reply.answer
  | .error refusal => refusal.answer

/-- What the web framework makes of requests: the user of a request and what the user asks for, or
else the answer to it. -/
abbrev Admission := Incoming → Except Answer (Text × Action)

/-- The state that the server is in. -/
structure Server where
  /-- What it offers. -/
  service : Service
  /-- How requests are admitted. -/
  admission : Admission
  /-- What goes wrong in the database. -/
  faults : Database.Faults

/-- Serve a request. -/
def Server.respond (s : Server) (r : Incoming) (w : World) : Answer × World :=
  match s.admission r with
  | .error a => (a, w)
  | .ok (user, action) =>
    let (result, w) := s.service.perform s.faults user action w
    (answerOf result, w)

end CanvasPrompt.Api
