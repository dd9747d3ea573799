import CanvasPrompt.Text.Percent

/-!
# Routes

What can be asked for, and the methods and paths that ask for it.
-/

namespace CanvasPrompt.Api

/-- What can be asked for. -/
inductive Route where
  /-- Whether the server is well. -/
  | health
  /-- To refine a prompt. -/
  | refine
  /-- To have images made. -/
  | generate
  /-- The images of a project. -/
  | images (project : Text)
  /-- To delete an image of a project. -/
  | image (project item : Text)
  deriving DecidableEq

namespace Route

/-- The method of a route. -/
def method : Route → Text
  | .health => "GET".codes
  | .refine => "POST".codes
  | .generate => "POST".codes
  | .images _ => "GET".codes
  | .image _ _ => "DELETE".codes

/-- Whether a segment is a name at the end of a path; a line break may follow it. -/
def endsWith (name : String) (segment : Text) : Bool :=
  segment == name.codes || segment == name.codes ++ [Code.scalar '\n']

/-- The route that the segments of a path name. -/
def ofSegments? : List Text → Option Route
  | [a] =>
    if endsWith "health" a then some .health
    else if endsWith "refine" a then some .refine
    else if endsWith "generate" a then some .generate
    else none
  | [a, project, b] =>
    if a == "projects".codes && endsWith "generated" b && !project.isEmpty then
      some (.images project)
    else none
  | [a, project, b, item] =>
    if a == "projects".codes && b == "generated".codes && !project.isEmpty && !item.isEmpty then
      some (.image project item)
    else none
  | _ => none

/-- The route that a path names when it is decoded; slashes at its end are passed over. -/
def ofPath? (path : Text) : Option Route :=
  match (Percent.decode path).getD path with
  | '/' :: path =>
    ofSegments? (Text.splitAtChar '/' (Text.dropEndWhile (· == Code.scalar '/') path))
  | _ => none

end Route

end CanvasPrompt.Api
