import CanvasPrompt.Json.Reader
import CanvasPrompt.Text.Uuid

/-!
# Requests

What users ask for: to refine a prompt, or to have images made. A request names a project and may
bring the canvas along. Its fields are checked one by one, and all that is wrong is reported in the
order of the fields; what is not known is passed over. Lists of objects may come as texts, in which
at most `room` containers may be nested.
-/

namespace CanvasPrompt.Api

open Json (field find?)

/-- Why a value is no list of objects. -/
inductive ObjectsError where
  /-- It is a text that is no JSON. -/
  | malformedText
  /-- It is a text that goes beyond a limit of the reader. -/
  | beyond (limit : Json.Limit)
  /-- It is no list. -/
  | notList
  /-- It is a list of other things. -/
  | notObjects
  deriving DecidableEq

/-- The wording of the error. -/
def ObjectsError.message : ObjectsError → Text
  | .malformedText => "Invalid JSON string".codes
  | .beyond limit => limit.message
  | .notList => "Expected list or JSON-string list".codes
  | .notObjects => "Expected a list of objects".codes

/-- The members of a value that is an object. -/
def object? : Json → Option Members
  | .obj ms => some ms
  | _ => none

/-- The objects of a list. -/
def listedObjects : Json → Except ObjectsError (List Members)
  | .arr items =>
    match items.mapM object? with
    | some objects => .ok objects
    | none => .error .notObjects
  | _ => .error .notList

/-- The objects that a value means: a list of them, or the written form of one. Null means that none
are sent, and an empty text that there are none. -/
def objects (room : Nat) : Json → Except ObjectsError (Option (List Members))
  | .null => .ok none
  | .str [] => .ok (some [])
  | .str t =>
    match Json.read room t with
    | .ok v => (listedObjects v).map some
    | .error (.malformed _) => .error .malformedText
    | .error (.beyond limit) => .error (.beyond limit)
  | v => (listedObjects v).map some

/-- What is wrong with a value. -/
inductive Defect where
  /-- It is not there. -/
  | missing
  /-- It is no identifier. -/
  | identifierForm
  /-- It is no text that could be an identifier. -/
  | identifierKind
  /-- It is no truth value. -/
  | truthForm
  /-- It is nothing that could be a truth value. -/
  | truthKind
  /-- It is none of the values to choose from. -/
  | choice
  /-- It is a text that cannot be encoded. -/
  | notEncodable
  /-- The body of a request is no object. -/
  | notObjectBody
  /-- The body of a request is no JSON. -/
  | malformedBody
  /-- It is no list of objects. -/
  | objects (e : ObjectsError)
  deriving DecidableEq

/-- The word for a defect. -/
def Defect.label : Defect → Text
  | .missing => "missing".codes
  | .identifierForm => "uuid_parsing".codes
  | .identifierKind => "uuid_type".codes
  | .truthForm => "bool_parsing".codes
  | .truthKind => "bool_type".codes
  | .choice => "literal_error".codes
  | .notEncodable => "string_unicode".codes
  | .notObjectBody => "model_attributes_type".codes
  | .malformedBody => "json_invalid".codes
  | .objects _ => "value_error".codes

/-- A step on the way to a value. -/
inductive Step where
  /-- The value of a name. -/
  | name (t : Text)
  /-- The character with so many before it. -/
  | position (n : Nat)
  deriving DecidableEq

/-- Something wrong in a request. -/
structure Issue where
  /-- The way to the value. -/
  location : List Step
  /-- What is wrong with it. -/
  defect : Defect
  /-- The value, or where it is missing. -/
  input : Json

/-- Place an issue inside something. -/
def Issue.inside (step : Text) (i : Issue) : Issue :=
  { i with location := .name step :: i.location }

/-- What is nested too deeply, if that is the issue. -/
def Issue.tooDeep? (i : Issue) : Option Json.Container :=
  match i.defect with
  | .objects (.beyond (.nesting inner)) => some inner
  | _ => none

/-- The first thing that is nested too deeply, if there is one. Issues are then not reported:
checking breaks down on it. -/
def tooDeep? (issues : List Issue) : Option Json.Container :=
  issues.findSome? Issue.tooDeep?

/-- A step as it is reported. -/
def Step.toJson : Step → Json
  | .name t => .str t
  | .position n => .int n

/-- An issue as it is reported; only the wording about objects goes with it. -/
def Issue.toJson (i : Issue) : Json :=
  .obj
    ([("type".codes, .str i.defect.label), ("loc".codes, .arr (i.location.map Step.toJson))] ++
      match i.defect with
      | .objects e => [("msg".codes, .str ("Value error, ".codes ++ e.message))]
      | _ => [])

/-- What checking a field gives. -/
abbrev Checked (α : Type) := Except Issue α

/-- The issue of a field, if it has one. -/
def issueOf {α : Type} : Checked α → List Issue
  | .ok _ => []
  | .error i => [i]

/-- The issue of the value of a name. -/
def issueAt (name : String) (input : Json) (d : Defect) : Issue :=
  ⟨[.name name.codes], d, input⟩

/-- A text that has to be looked into; it has to be encodable for that. -/
def lookInto {α : Type} (t : Text) (look : Text → Except Defect α) : Except Defect α :=
  if Text.isEncodable t then look t else .error .notEncodable

/-- Check an identifier. -/
def identifier : Json → Except Defect Uuid
  | .str t =>
    lookInto t fun t =>
      match Uuid.ofText? t with
      | some u => .ok u
      | none => .error .identifierForm
  | _ => .error .identifierKind

/-- Check the value of a name. -/
def checkField {α : Type} (name : String) (v : Json) (check : Json → Except Defect α) : Checked α :=
  match check v with
  | .ok a => .ok a
  | .error d => .error (issueAt name v d)

/-- Check the value of a name that has to be there. -/
def requiredField {α : Type} (ms : Members) (name : String) (check : Json → Except Defect α) :
    Checked α :=
  match find? name.codes ms with
  | none => .error (issueAt name (.obj ms) .missing)
  | some v => checkField name v check

/-- Check the value of a name that has a default. -/
def optionalField {α : Type} (ms : Members) (name : String) (default : α)
    (check : Json → Except Defect α) : Checked α :=
  match find? name.codes ms with
  | none => .ok default
  | some v => checkField name v check

/-- Check a value that may be null. -/
def nullable {α : Type} (check : Json → Except Defect α) : Json → Except Defect (Option α)
  | .null => .ok none
  | v => (check v).map some

/-- Check objects. -/
def objectsValue (room : Nat) (v : Json) : Except Defect (Option (List Members)) :=
  match objects room v with
  | .ok r => .ok r
  | .error e => .error (.objects e)

/-- The prompt that a value means: nothing for null, and else its display form. -/
def promptValue : Json → Text
  | .null => []
  | v => v.display

/-- The words for true. -/
def trueWords : List Text :=
  ["1".codes, "on".codes, "t".codes, "true".codes, "y".codes, "yes".codes]

/-- The words for false. -/
def falseWords : List Text :=
  ["0".codes, "f".codes, "false".codes, "n".codes, "no".codes, "off".codes]

/-- The truth value that a whole number means; it has to fit in 64 bits. -/
def truthOfInt (i : Int) : Except Defect Bool :=
  if i = 0 then .ok false
  else if i = 1 then .ok true
  else if -0x8000000000000000 ≤ i ∧ i < 0x8000000000000000 then .error .truthForm
  else .error .truthKind

/-- Check a truth value: the words for one count in any letter case, and so do zero and one. -/
def truthValue : Json → Except Defect Bool
  | .bool b => .ok b
  | .int i => truthOfInt i
  | .float d =>
    match d.toInt? with
    | some i => truthOfInt i
    | none => .error .truthKind
  | .str t =>
    lookInto t fun t =>
      let word := Text.lowerAscii t
      if trueWords.contains word then .ok true
      else if falseWords.contains word then .ok false
      else .error .truthForm
  | _ => .error .truthKind

/-- The providers that a user may prefer. -/
inductive Preference where
  | gemini | pollinations
  deriving DecidableEq, Inhabited

namespace Preference

/-- The preferences. -/
def all : List Preference := [.gemini, .pollinations]

/-- The name of a preference. -/
def name : Preference → Text
  | .gemini => "gemini".codes
  | .pollinations => "pollinations".codes

/-- Check a preference. -/
def ofJson : Json → Except Defect Preference
  | .str t =>
    lookInto t fun t =>
      match all.find? fun p => p.name == t with
      | some p => .ok p
      | none => .error .choice
  | _ => .error .choice

end Preference

/-- What every request says. -/
structure GraphRequest where
  /-- The project. -/
  project : Uuid
  /-- What the user asks for. -/
  prompt : Text
  /-- The nodes of the canvas, if it is brought along. -/
  nodes : Option (List Members)
  /-- The edges of the canvas. -/
  edges : Option (List Members)

/-- Check what every request says. -/
def graphRequest (room : Nat) (ms : Members) : Except (List Issue) GraphRequest :=
  let project := requiredField ms "project_id" identifier
  let prompt := promptValue (field ms "prompt")
  let nodes := optionalField ms "nodes" none (objectsValue room)
  let edges := optionalField ms "edges" none (objectsValue room)
  match project, nodes, edges with
  | .ok project, .ok nodes, .ok edges => .ok ⟨project, prompt, nodes, edges⟩
  | _, _, _ => .error (issueOf project ++ issueOf nodes ++ issueOf edges)

/-- A request for images. -/
structure ImageRequest where
  /-- What every request says. -/
  graph : GraphRequest
  /-- Whether the images of the canvas are shown to the provider. -/
  useReferences : Bool
  /-- The provider that the user prefers. -/
  provider : Preference
  /-- The prompt in the history that the images belong to. -/
  promptId : Option Uuid

/-- The issues of a request, if it has any. -/
def issuesOf {α : Type} : Except (List Issue) α → List Issue
  | .ok _ => []
  | .error is => is

/-- Check a request for images. -/
def imageRequest (room : Nat) (ms : Members) : Except (List Issue) ImageRequest :=
  let graph := graphRequest room ms
  let useReferences := optionalField ms "use_references" true truthValue
  let provider := optionalField ms "provider" .gemini Preference.ofJson
  let promptId := optionalField ms "prompt_id" none (nullable identifier)
  match graph, useReferences, provider, promptId with
  | .ok graph, .ok useReferences, .ok provider, .ok promptId =>
    .ok ⟨graph, useReferences, provider, promptId⟩
  | _, _, _, _ =>
    .error (issuesOf graph ++ issueOf useReferences ++ issueOf provider ++ issueOf promptId)

end CanvasPrompt.Api
