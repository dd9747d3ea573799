import CanvasPrompt.Json.Printer

/-!
# Answers

What a request is answered with: a status, headers and a body. A body that the web framework cannot
write as JSON does not reach the user; the server breaks down on it.
-/

namespace CanvasPrompt.Api

/-- The body of an answer. -/
inductive Body where
  /-- There is none. -/
  | empty
  /-- A JSON value. -/
  | json (v : Json)
  /-- A text. -/
  | text (t : Text)

/-- An answer of the server. -/
structure Answer where
  /-- The status. -/
  status : Nat
  /-- Headers that matter to the user. -/
  headers : List (Text × Text)
  /-- The body. -/
  body : Body

namespace Answer

/-- An answer with a value. -/
def json (status : Nat) (v : Json) : Answer :=
  ⟨status, [], .json v⟩

/-- A value that tells what is the matter. -/
def detailOf (v : Json) : Json :=
  .obj [("detail".codes, v)]

/-- An answer that tells what is the matter. -/
def detail (status : Nat) (v : Json) : Answer :=
  json status (detailOf v)

/-- An answer to a user who is not known. -/
def unauthorized (message : Text) : Answer :=
  { detail 401 (.str message) with headers := [("WWW-Authenticate".codes, "Bearer".codes)] }

/-- The answer when the server breaks down. -/
def breakdown : Answer :=
  ⟨500, [], .text "Internal Server Error".codes⟩

/-- The answer that reaches the user, if the web framework can write just the values that `writes`
tells. -/
def sent (writes : Json → Bool) (a : Answer) : Answer :=
  match a.body with
  | .json v => if writes v then a else breakdown
  | _ => a

end Answer

end CanvasPrompt.Api
