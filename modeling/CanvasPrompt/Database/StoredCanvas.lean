import CanvasPrompt.Database.Store
import CanvasPrompt.Json.Reader

/-!
# Stored canvases

A canvas is read from its rows in the form in which the editor sends it. The data of a node may be
stored as an object or as the written form of one; anything else counts as an empty object. Only a
written form that goes beyond a limit of the reader is an error; at most `room` containers may be
nested in it.
-/

namespace CanvasPrompt.Database

/-- The data of a node as an object. -/
def dataObject (room : Nat) : Json → Except Json.Limit Members
  | .obj ms => .ok ms
  | .str t =>
    match Json.read room t with
    | .ok v => .ok v.members
    | .error (.malformed _) => .ok []
    | .error (.beyond limit) => .error limit
  | _ => .ok []

/-- A node as the editor sends it. -/
def NodeRow.entry (room : Nat) (r : NodeRow) : Except Json.Limit Json := do
  let data ← dataObject room r.data
  pure (.obj
    [("id".codes, r.id), ("type".codes, r.type),
      ("position".codes, .obj [("x".codes, r.x), ("y".codes, r.y)]), ("data".codes, .obj data)])

/-- An edge as the editor sends it. -/
def EdgeRow.entry (r : EdgeRow) : Json :=
  .obj
    [("id".codes, r.id), ("source".codes, r.source), ("target".codes, r.target),
      ("label".codes, r.label)]

/-- A canvas as the editor sends it. -/
structure StoredCanvas where
  /-- The nodes. -/
  nodes : List Json
  /-- The edges. -/
  edges : List Json

/-- The canvas of a project. -/
def Store.canvasOf (s : Store) (room : Nat) (project : Text) : Except Json.Limit StoredCanvas := do
  let nodes ← (s.nodes.filter fun r => r.project == project).mapM (NodeRow.entry room)
  pure ⟨nodes, (s.edges.filter fun r => r.project == project).map EdgeRow.entry⟩

end CanvasPrompt.Database
