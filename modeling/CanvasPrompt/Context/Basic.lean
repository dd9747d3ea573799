import CanvasPrompt.Prompt.Wording
import CanvasPrompt.Url.Persisted

/-!
# Compile contexts

A context is what the compiler sees of a canvas: image references grouped by role, the descriptions,
the relationships and the prompt of the user. Assembling one keeps the earliest images of each role
up to a cap, and of these the earliest up to a second cap over all roles.
-/

namespace CanvasPrompt

/-- An image that an outside service can fetch. -/
structure ImageReference where
  /-- Where it is. -/
  url : Text
  /-- The label of the image. -/
  altLabel : Option Text
  /-- A remark of the user. -/
  note : Option Text
  /-- What the image is to the picture. -/
  role : Role
  deriving DecidableEq, Inhabited

/-- The marker of a reference. -/
def ImageReference.marker (r : ImageReference) : Text :=
  Prompt.marker r.role.name r.altLabel r.note

/-- What the compiler sees of a canvas. -/
structure Context where
  /-- The images of subjects. -/
  subjectImages : List ImageReference
  /-- The images of scenes. -/
  sceneImages : List ImageReference
  /-- The images of styles. -/
  styleImages : List ImageReference
  /-- The other images. -/
  referenceImages : List ImageReference
  /-- The descriptions that are not empty. -/
  textDescriptors : List Text
  /-- The relationships that the edges state. -/
  relationships : List Text
  /-- What the user asked for, without the white space around it. -/
  userPrompt : Text
  /-- The flat prompt over the whole canvas. -/
  simplePrompt : Text
  /-- The number of fetchable images that are left out. -/
  droppedImages : Nat
  deriving DecidableEq

namespace Context

/-- The images of a role. -/
def bucket (c : Context) : Role → List ImageReference
  | .subject => c.subjectImages
  | .scene => c.sceneImages
  | .style => c.styleImages
  | .reference => c.referenceImages

/-- All images, grouped by role. -/
def images (c : Context) : List ImageReference :=
  Role.all.flatMap c.bucket

/-- What the user asked for, or else the flat prompt. -/
def basePrompt (c : Context) : Text :=
  Text.orElse c.userPrompt c.simplePrompt

/-- The images of a role that are kept if none else caps them, unless the caller says otherwise. -/
def defaultPerRoleCap : Int := 2

/-- The reference of an image node, if its URL can be fetched. -/
def reference? (n : ImageNode) : Option ImageReference :=
  match n.sourceUrl with
  | none => none
  | some url =>
    if Url.isPersisted url then some ⟨Text.strip url, n.altLabel, n.note, n.role⟩ else none

/-- The references of a canvas, in order. -/
def references (s : Snapshot) : List ImageReference :=
  s.imageNodes.filterMap reference?

/-- Keep each reference while there is room for its role. -/
def capPerRole (room : Role → Nat) : List ImageReference → List ImageReference
  | [] => []
  | r :: rest =>
    match room r.role with
    | 0 => capPerRole room rest
    | n + 1 => r :: capPerRole (fun role => if role = r.role then n else room role) rest

/-- Keep the earliest references up to a cap, if there is one; a negative cap keeps none. -/
def capTotal (cap : Option Int) (refs : List ImageReference) : List ImageReference :=
  match cap with
  | none => refs
  | some n => refs.take n.toNat

/-- The references that are kept. -/
def included (perRoleCap : Int) (maxImages : Option Int) (refs : List ImageReference) :
    List ImageReference :=
  capTotal maxImages (capPerRole (fun _ => perRoleCap.toNat) refs)

/-- The references of one role, in order. -/
def ofRole (role : Role) (refs : List ImageReference) : List ImageReference :=
  refs.filter fun r => r.role == role

/-- Assemble the context of a canvas. -/
def assemble (s : Snapshot) (userPrompt : Text) (perRoleCap : Int) (maxImages : Option Int) :
    Context :=
  let refs := references s
  let kept := included perRoleCap maxImages refs
  { subjectImages := ofRole .subject kept
    sceneImages := ofRole .scene kept
    styleImages := ofRole .style kept
    referenceImages := ofRole .reference kept
    textDescriptors := Snapshot.descriptors s.nodes
    relationships := s.relationships
    userPrompt := Text.strip userPrompt
    simplePrompt := Prompt.simple s.nodes
    droppedImages := refs.length - kept.length }

end Context

end CanvasPrompt
