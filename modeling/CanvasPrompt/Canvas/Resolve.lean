import CanvasPrompt.Canvas.Basic
import CanvasPrompt.Text.Numeral

/-!
# Resolving editor data

The editor stores nodes and edges as free-form values. Resolving maps them to a snapshot: a
malformed field takes a default, an entry without an identity or of an unknown type is passed over,
and of several nodes with one identity the first one stays. Two things cannot be resolved: a value
that holds no entries in the place of a list, and a coordinate too large for a number.
-/

namespace CanvasPrompt

/-- Why editor data cannot be resolved. -/
inductive ResolveError where
  /-- The place of a list holds a value without entries. -/
  | noEntries (e : Json.KindError)
  /-- A whole number for a coordinate is too large. -/
  | coordinateTooLarge
  deriving DecidableEq

/-- The wording of the error. -/
def ResolveError.message : ResolveError → Text
  | .noEntries e => e.message
  | .coordinateTooLarge => "int too large to convert to float".codes

namespace Canvas

open Json (field)

/-- The number that a coordinate means, if it means one. An absent one is zero. -/
def coordinate (v : Json) : Except ResolveError (Option Double) :=
  if !v.truthy then .ok (some .zero)
  else
    match v with
    | .bool _ => .ok (Double.ofInt? 1)
    | .int i =>
      match Double.ofInt? i with
      | some d => .ok (some d)
      | none => .error .coordinateTooLarge
    | .float d => .ok (some d)
    | .str t => .ok (Text.readReal? t)
    | _ => .ok none

/-- The place of a node: the origin, unless both coordinates mean numbers. The second is not looked
at if the first means none. -/
def position : Json → Except ResolveError Position
  | .obj ms =>
    match coordinate (field ms "x") with
    | .error e => .error e
    | .ok none => .ok .origin
    | .ok (some x) =>
      match coordinate (field ms "y") with
      | .error e => .error e
      | .ok none => .ok .origin
      | .ok (some y) => .ok ⟨x, y⟩
  | _ => .ok .origin

/-- Where the upload of an image stands: a reported error counts before an upload under way, and
both count before the stored state. -/
def uploadState (data : Members) : UploadState :=
  if (field data "uploadError").truthy then .failed
  else if (field data "uploading").truthy then .uploading
  else
    match field data "uploadState" with
    | .str t => (UploadState.named? (Text.lower t)).getD .idle
    | _ => .idle

/-- The tags of a text node: the entries of a list that are not null. -/
def tags : Json → List Text
  | .arr items => (items.filter fun v => v.kind != .null).map Json.display
  | _ => []

/-- The types of nodes. -/
inductive NodeType where
  | text | image
  deriving DecidableEq

/-- The type that a node names, under either of two names and in any letter case. -/
def nodeType? (ms : Members) : Option NodeType :=
  let kind := Text.lower (((field ms "type").orElse ((field ms "kind").orElse (.str []))).display)
  if kind == "textnode".codes || kind == "text".codes then some .text
  else if kind == "imagenode".codes || kind == "image".codes then some .image
  else none

/-- The description of a text node. -/
def description : Json → Text
  | .null => []
  | v => v.display

/-- Resolve one node. Its place is worked out before its type is looked at. -/
def resolveNode (ms : Members) : Except ResolveError (Option Node) :=
  match Json.trimmed? (field ms "id") with
  | none => .ok none
  | some id =>
    match position (field ms "position") with
    | .error e => .error e
    | .ok place =>
      let data := (field ms "data").members
      match nodeType? ms with
      | some .text =>
        .ok (some (.text ⟨id, description (field data "text"), tags (field data "tags"), place⟩))
      | some .image =>
        .ok (some (.image
          { id
            sourceUrl := Json.trimmed? ((field data "src").orElse (field data "url"))
            altLabel := Json.trimmed? (field data "alt")
            note := Json.trimmed? (field data "note")
            roleLabel := Json.trimmed? (field data "role")
            uploadState := uploadState data
            position := place }))
      | none => .ok none

/-- Resolve one edge: both ends must be named. An edge without an identity is named after its ends.
-/
def resolveEdge (ms : Members) : Option Edge :=
  match Json.trimmed? (field ms "source"), Json.trimmed? (field ms "target") with
  | some source, some target =>
    some
      { id := (Json.trimmed? (field ms "id")).getD (source ++ "->".codes ++ target)
        source
        target
        label := (field ms "label").text? }
  | _, _ => none

/-- Resolve entries in order; those that are no objects are passed over. -/
def resolveNodes : List Json → Except ResolveError (List Node)
  | [] => .ok []
  | .obj ms :: rest =>
    match resolveNode ms with
    | .error e => .error e
    | .ok node =>
      match resolveNodes rest with
      | .error e => .error e
      | .ok nodes => .ok (node.toList ++ nodes)
  | _ :: rest => resolveNodes rest

/-- Resolve entries in order; those that are no edges are passed over. -/
def resolveEdges (entries : List Json) : List Edge :=
  entries.filterMap fun
    | .obj ms => resolveEdge ms
    | _ => none

/-- Keep of the nodes with one identity the first, and none whose identity is in `taken`. -/
def firstOfEachId (taken : List Text) : List Node → List Node
  | [] => []
  | n :: rest =>
    if taken.contains n.id then firstOfEachId taken rest
    else n :: firstOfEachId (n.id :: taken) rest

/-- The entries of a value that stands in the place of a list. -/
def entries (v : Json) : Except ResolveError (List Json) :=
  match v.entries with
  | .ok items => .ok items
  | .error e => .error (.noEntries e)

/-- Resolve editor data to a snapshot. -/
def resolve (nodes edges : Json) : Except ResolveError Snapshot := do
  let resolved ← resolveNodes (← entries nodes)
  let edgeEntries ← entries edges
  pure ⟨firstOfEachId [] resolved, resolveEdges edgeEntries⟩

end Canvas

end CanvasPrompt
