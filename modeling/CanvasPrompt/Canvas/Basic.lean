import CanvasPrompt.Json.Basic

/-!
# The canvas

A canvas is a graph of text nodes and image nodes with labelled edges. This module has its resolved
form, in which nothing is missing: the nodes and edges of a snapshot, the role that an image plays,
and the relationship that an edge states.
-/

namespace CanvasPrompt

/-- What an image is to the picture that is asked for. -/
inductive Role where
  /-- What the picture shows. -/
  | subject
  /-- Where it takes place. -/
  | scene
  /-- How it looks. -/
  | style
  /-- Supporting details. -/
  | reference
  deriving DecidableEq, Inhabited

namespace Role

/-- The roles in the order in which their images are presented. -/
def all : List Role := [.subject, .scene, .style, .reference]

/-- The name of a role. -/
def name : Role → Text
  | .subject => "subject".codes
  | .scene => "scene".codes
  | .style => "style".codes
  | .reference => "reference".codes

/-- The role of a name. -/
def named? (t : Text) : Option Role :=
  all.find? fun r => r.name == t

/-- The role that a stored label means: its name in any letter case with white space around it.
Every other label, or none, means a reference. -/
def ofLabel (label : Option Text) : Role :=
  (named? (Text.lower (Text.strip (label.getD [])))).getD .reference

end Role

/-- Where the upload of an image stands. -/
inductive UploadState where
  | idle | uploading | failed
  deriving DecidableEq, Inhabited

namespace UploadState

/-- The states. -/
def all : List UploadState := [.idle, .uploading, .failed]

/-- The name of a state. -/
def name : UploadState → Text
  | .idle => "idle".codes
  | .uploading => "uploading".codes
  | .failed => "failed".codes

/-- The state of a name. -/
def named? (t : Text) : Option UploadState :=
  all.find? fun s => s.name == t

end UploadState

/-- A place on the canvas. -/
structure Position where
  /-- The distance to the right. -/
  x : Double
  /-- The distance downward. -/
  y : Double
  deriving DecidableEq

/-- The place of a node that has none of its own. -/
def Position.origin : Position := ⟨.zero, .zero⟩

/-- A node with a piece of description. -/
structure TextNode where
  /-- The identity of the node. -/
  id : Text
  /-- The description, possibly empty. -/
  text : Text
  /-- Tags given by the user. -/
  tags : List Text
  /-- Where the node lies. -/
  position : Position
  deriving DecidableEq

/-- A node with an image. -/
structure ImageNode where
  /-- The identity of the node. -/
  id : Text
  /-- Where the image is stored, if it is. -/
  sourceUrl : Option Text
  /-- The label of the image. -/
  altLabel : Option Text
  /-- A remark of the user. -/
  note : Option Text
  /-- The stored label of the role; `ImageNode.role` is the role that it means. -/
  roleLabel : Option Text
  /-- Where the upload stands. -/
  uploadState : UploadState
  /-- Where the node lies. -/
  position : Position
  deriving DecidableEq

/-- The role of an image node. -/
def ImageNode.role (n : ImageNode) : Role :=
  Role.ofLabel n.roleLabel

/-- A node of the canvas. -/
inductive Node where
  /-- A text node. -/
  | text (n : TextNode)
  /-- An image node. -/
  | image (n : ImageNode)
  deriving DecidableEq

/-- The identity of a node. -/
def Node.id : Node → Text
  | .text n => n.id
  | .image n => n.id

/-- An edge between two nodes, which need not exist. -/
structure Edge where
  /-- The identity of the edge. -/
  id : Text
  /-- The identity of the node where it starts. -/
  source : Text
  /-- The identity of the node where it ends. -/
  target : Text
  /-- What the user wrote at it. -/
  label : Option Text
  deriving DecidableEq

/-- The relationship that an edge states: its label without the white space around it, if anything
is left. -/
def Edge.relationship? (e : Edge) : Option Text :=
  Text.nonBlank? (e.label.getD [])

/-- A resolved canvas: nodes and edges in the order in which they were made. -/
structure Snapshot where
  /-- The nodes. -/
  nodes : List Node
  /-- The edges. -/
  edges : List Edge
  deriving DecidableEq

namespace Snapshot

/-- The text nodes among some nodes. -/
def textNodesOf (nodes : List Node) : List TextNode :=
  nodes.filterMap fun
    | .text n => some n
    | .image _ => none

/-- The image nodes among some nodes. -/
def imageNodesOf (nodes : List Node) : List ImageNode :=
  nodes.filterMap fun
    | .text _ => none
    | .image n => some n

/-- The text nodes. -/
def textNodes (s : Snapshot) : List TextNode := textNodesOf s.nodes

/-- The image nodes. -/
def imageNodes (s : Snapshot) : List ImageNode := imageNodesOf s.nodes

/-- The descriptions of the text nodes that have one. -/
def descriptors (nodes : List Node) : List Text :=
  ((textNodesOf nodes).map TextNode.text).filter fun t => !t.isEmpty

/-- The relationships that the edges state. -/
def relationships (s : Snapshot) : List Text :=
  s.edges.filterMap Edge.relationship?

end Snapshot

end CanvasPrompt
