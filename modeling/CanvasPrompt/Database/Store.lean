import CanvasPrompt.Database.Issuer
import CanvasPrompt.Json.Basic

/-!
# The store

The tables of the database as lists of rows in the order in which they were added, with the
statements of the service on them. The database numbers the rows that it adds; a number is used up
also when the row is taken back. The images of one request are added one by one in a transaction.
-/

namespace CanvasPrompt.Database

/-- A node of a stored canvas; its columns may hold anything. -/
structure NodeRow where
  /-- The project of the canvas. -/
  project : Text
  /-- The identity of the node. -/
  id : Json
  /-- The type of the node. -/
  type : Json
  /-- The distance to the right. -/
  x : Json
  /-- The distance downward. -/
  y : Json
  /-- The data of the node. -/
  data : Json

/-- An edge of a stored canvas; its columns may hold anything. -/
structure EdgeRow where
  /-- The project of the canvas. -/
  project : Text
  /-- The identity of the edge. -/
  id : Json
  /-- The node where it starts. -/
  source : Json
  /-- The node where it ends. -/
  target : Json
  /-- What the user wrote at it. -/
  label : Json

/-- A prompt in the history of a project. -/
structure PromptRow where
  /-- The identity of the row. -/
  id : Text
  /-- The project. -/
  project : Text
  /-- The user who asked. -/
  user : Text
  /-- The prompt before refining. -/
  raw : Text
  /-- The prompt after refining. -/
  refined : Text
  deriving DecidableEq

/-- An image that was made for a project. -/
structure ImageRow where
  /-- The identity of the row. -/
  id : Text
  /-- The project. -/
  project : Text
  /-- The user who asked. -/
  user : Text
  /-- Where the image is. -/
  url : Text
  /-- The prompt that it was made from. -/
  prompt : Option Text
  /-- The provider that made it. -/
  provider : Option Text
  /-- The prompt in the history that it belongs to. -/
  promptId : Option Text
  /-- When the row was added. -/
  createdAt : Text
  deriving DecidableEq

/-- The tables. -/
structure Store where
  /-- The projects with their owners. -/
  owners : List (Text × Text)
  /-- The nodes of the stored canvases. -/
  nodes : List NodeRow
  /-- The edges of the stored canvases. -/
  edges : List EdgeRow
  /-- The history of prompts. -/
  prompts : List PromptRow
  /-- The log of images. -/
  images : List ImageRow
  /-- The number of rows that have been numbered. -/
  issued : Nat

/-- What goes wrong in the database while a request is served. -/
structure Faults where
  /-- Canvases and images cannot be read. -/
  reading : Bool
  /-- No connection is had for writing. -/
  connecting : Bool
  /-- Prompts cannot be added. -/
  prompts : Bool
  /-- Images cannot be added any more after so many. -/
  imagesAfter : Option Nat
  /-- What was added cannot be made to last. -/
  committing : Bool
  deriving DecidableEq

/-- Nothing goes wrong. -/
def Faults.none : Faults := ⟨false, false, false, Option.none, false⟩

/-- A prompt to be added. -/
structure NewPrompt where
  /-- The project. -/
  project : Text
  /-- The user who asked. -/
  user : Text
  /-- The prompt before refining. -/
  raw : Text
  /-- The prompt after refining. -/
  refined : Text
  deriving DecidableEq

/-- An image to be added. -/
structure NewImage where
  /-- The project. -/
  project : Text
  /-- The user who asked. -/
  user : Text
  /-- Where the image is. -/
  url : Text
  /-- The prompt that it was made from. -/
  prompt : Text
  /-- The provider that made it. -/
  provider : Option Text
  /-- The prompt in the history that it belongs to. -/
  promptId : Option Text
  deriving DecidableEq

/-- The row of a prompt with the given number. -/
def NewPrompt.row (issuer : Issuer) (number : Nat) (p : NewPrompt) : PromptRow :=
  ⟨issuer.id number, p.project, p.user, p.raw, p.refined⟩

/-- The row of an image with the given number. -/
def NewImage.row (issuer : Issuer) (number : Nat) (i : NewImage) : ImageRow :=
  { id := issuer.id number
    project := i.project
    user := i.user
    url := i.url
    prompt := some i.prompt
    provider := i.provider
    promptId := i.promptId
    createdAt := issuer.time number }

namespace Store

/-- Whether a project belongs to a user. -/
def owns (s : Store) (project user : Text) : Bool :=
  s.owners.contains (project, user)

/-- Add a prompt. The identity of its row is given back, if it could be added. -/
def addPrompt (issuer : Issuer) (faults : Faults) (s : Store) (p : NewPrompt) :
    Option Text × Store :=
  if faults.connecting || faults.prompts then (none, s)
  else
    let row := p.row issuer (s.issued + 1)
    (some row.id, { s with prompts := s.prompts ++ [row], issued := s.issued + 1 })

/-- Do something in a transaction. If it breaks off, or cannot be made to last, the tables are as
they were before; numbers stay used up. -/
def transaction {α : Type} (faults : Faults) (s : Store) (body : Store → Option α × Store) :
    Option α × Store :=
  match body s with
  | (none, t) => (none, { s with issued := t.issued })
  | (some a, t) => if faults.committing then (none, { s with issued := t.issued }) else (some a, t)

/-- Add an image after `added` others. Its row is given back, if it could be added. -/
def insertImage (issuer : Issuer) (faults : Faults) (added : Nat) (s : Store) (i : NewImage) :
    Option ImageRow × Store :=
  if faults.imagesAfter = some added then (none, s)
  else
    let row := i.row issuer (s.issued + 1)
    (some row, { s with images := s.images ++ [row], issued := s.issued + 1 })

/-- Add images one by one after `added` others, up to the first that cannot be added. Their rows are
given back, if all could be added. -/
def insertImages (issuer : Issuer) (faults : Faults) (added : Nat) (s : Store) :
    List NewImage → Option (List ImageRow) × Store
  | [] => (some [], s)
  | i :: rest =>
    match insertImage issuer faults added s i with
    | (none, s) => (none, s)
    | (some row, s) =>
      match insertImages issuer faults (added + 1) s rest with
      | (none, s) => (none, s)
      | (some rows, s) => (some (row :: rows), s)

/-- Add images in one transaction. Their rows are given back, if they could be added. -/
def addImages (issuer : Issuer) (faults : Faults) (s : Store) (images : List NewImage) :
    Option (List ImageRow) × Store :=
  if faults.connecting then (none, s)
  else s.transaction faults fun s => insertImages issuer faults 0 s images

/-- The images of a project. -/
def imagesOf (s : Store) (project : Text) : List ImageRow :=
  s.images.filter fun r => r.project == project

/-- Whether a row is the given image of the given project. -/
def isImage (project id : Text) (r : ImageRow) : Bool :=
  r.project == project && r.id == id

/-- Remove an image of a project. The tag of the command tells how many rows there were. -/
def deleteImage (s : Store) (project id : Text) : Text × Store :=
  ("DELETE ".codes ++ Text.ofNat (s.images.countP (isImage project id)),
    { s with images := s.images.filter fun r => !isImage project id r })

end Store

/-- Whether a command did something to a row: the last word of its tag is the number of rows. A tag
without words tells nothing. -/
def affectedRows? (tag : Text) : Option Bool :=
  (Text.words tag).getLast?.map (· != [Code.scalar '0'])

end CanvasPrompt.Database
