import CanvasPrompt.Api.Request
import CanvasPrompt.Canvas.Resolve
import CanvasPrompt.Database.StoredCanvas
import CanvasPrompt.Generate.Dispatch
import CanvasPrompt.Refine.Basic

/-!
# The service

What the service does for a user whose identity is known: refine a prompt, have images made, list
the images of a project and delete one. Each of them first asks whether the project belongs to the
user, and does nothing else if it does not. Refined prompts and images are kept in the store as far
as the store works; if it does not, the user gets them all the same.
-/

namespace CanvasPrompt.Api

/-- What the service works with. -/
structure Service where
  /-- The reasoning service, if there is one. -/
  reasoner : Option Refine.Reasoner
  /-- How prompts are refined. -/
  options : Refine.Options
  /-- Which providers make images. -/
  config : Generate.Config
  /-- What calls to other services lead to. -/
  client : Web.Client
  /-- The number of containers that may be nested, one in the other, in what is read as JSON. -/
  nesting : Nat
  /-- What drawing a number gives. -/
  chance : Int
  /-- How the database names and dates rows. -/
  issuer : Database.Issuer
  /-- The identities of images that could not be kept, by their place in the answer. -/
  unkeptId : Nat → Text
  /-- The time of images that could not be kept. -/
  unkeptTime : Text

/-- What requests change: the store, and the trace of what was done elsewhere. -/
structure World where
  /-- The store. -/
  store : Database.Store
  /-- What was done elsewhere. -/
  trace : Run.Trace

/-- What a user asks for. -/
inductive Action where
  /-- A refined prompt. -/
  | refine (r : GraphRequest)
  /-- Images. -/
  | generate (r : ImageRequest)
  /-- The images of a project. -/
  | list (project : Uuid)
  /-- That an image of a project is deleted. -/
  | delete (project item : Uuid)

/-- The project that an action is about. -/
def Action.project : Action → Uuid
  | .refine r => r.project
  | .generate r => r.graph.project
  | .list project => project
  | .delete project _ => project

/-- What breaks a request off. -/
inductive Breakdown where
  /-- The database cannot be read. -/
  | reading
  /-- The stored canvas cannot be read. -/
  | canvas (limit : Json.Limit)
  /-- The canvas cannot be resolved. -/
  | resolving (e : ResolveError)
  /-- Generating breaks off. -/
  | generating (failure : Web.Failure)
  /-- The database tells nothing about what it deleted. -/
  | noTag
  /-- Nobody is named as the maker of images. -/
  | noProvider
  deriving DecidableEq

/-- Why a request is not granted. -/
inductive Refusal where
  /-- The project does not belong to the user. -/
  | accessDenied
  /-- There is no such image. -/
  | imageNotFound
  /-- No images could be made. -/
  | notGenerated (detail : Json)
  /-- The service broke down. -/
  | breakdown (b : Breakdown)

/-- An image as users see it. -/
structure Item where
  /-- The identity of the image. -/
  id : Text
  /-- Where it is. -/
  url : Text
  /-- The prompt that it was made from. -/
  prompt : Text
  /-- The provider that made it. -/
  provider : Option Text
  /-- When it was made. -/
  createdAt : Text
  deriving DecidableEq

/-- The image of a row. -/
def Item.ofRow (r : Database.ImageRow) : Item :=
  ⟨r.id, r.url, r.prompt.getD [], r.provider, r.createdAt⟩

/-- The answer to a request to refine. -/
structure RefineAnswer where
  /-- The refined prompt. -/
  refined : Text
  /-- The flat prompt. -/
  simple : Text
  /-- What refined it. -/
  refinedBy : Text
  /-- Its identity in the history, if it could be kept. -/
  promptId : Option Text
  deriving DecidableEq

/-- The answer to a request for images. -/
structure ImageAnswer where
  /-- The images. -/
  images : List Item
  /-- The provider that made them. -/
  provider : Text
  /-- How they came about. -/
  mode : Generate.Mode
  deriving DecidableEq

/-- What a user gets. -/
inductive Reply where
  /-- A refined prompt. -/
  | refined (a : RefineAnswer)
  /-- Images. -/
  | generated (a : ImageAnswer)
  /-- The images of a project. -/
  | listed (items : List Item)
  /-- An image is deleted. -/
  | deleted
  deriving DecidableEq

namespace Service

/-- How other services are reached. -/
def access (s : Service) : Web.Access :=
  ⟨s.client, true, s.nesting⟩

/-- The canvas of a request: the one that it brings along, or else the stored one. -/
def canvas (s : Service) (faults : Database.Faults) (store : Database.Store) (r : GraphRequest) :
    Except Breakdown Database.StoredCanvas :=
  match r.nodes with
  | some nodes => .ok ⟨nodes.map .obj, (r.edges.getD []).map .obj⟩
  | none =>
    if faults.reading then .error .reading
    else
      match store.canvasOf s.nesting r.project.toText with
      | .ok c => .ok c
      | .error e => .error (.canvas e)

/-- The context of a request, for a user to whom the project belongs. -/
def context (s : Service) (faults : Database.Faults) (store : Database.Store) (user : Text)
    (r : GraphRequest) : Except Refusal Context :=
  if store.owns r.project.toText user then
    match s.canvas faults store r with
    | .error b => .error (.breakdown b)
    | .ok c =>
      match Canvas.resolve (.arr c.nodes) (.arr c.edges) with
      | .error e => .error (.breakdown (.resolving e))
      | .ok snapshot =>
        .ok (Context.assemble snapshot r.prompt s.options.perRoleCap s.options.maxImages)
  else .error .accessDenied

/-- Refine the prompt of a project and keep it, if it can be kept. -/
def refine (s : Service) (faults : Database.Faults) (user : Text) (r : GraphRequest) (w : World) :
    Except Refusal RefineAnswer × World :=
  match s.context faults w.store user r with
  | .error refusal => (.error refusal, w)
  | .ok c =>
    let (result, trace) := (Refine.refine s.reasoner s.options s.access c).run w.trace
    let (promptId, store) :=
      w.store.addPrompt s.issuer faults ⟨r.project.toText, user, c.basePrompt, result.prompt⟩
    (.ok ⟨result.prompt, c.simplePrompt, result.refinedBy, promptId⟩, ⟨store, trace⟩)

/-- The images to be kept. -/
def newImages (user : Text) (r : ImageRequest) (result : Generate.Result) :
    List Database.NewImage :=
  result.images.map fun i =>
    { project := r.graph.project.toText
      user
      url := i.url
      prompt := i.prompt
      provider := result.provider
      promptId := r.promptId.map Uuid.toText }

/-- The images of a result that could not be kept. -/
def unkept (s : Service) (result : Generate.Result) : List Item :=
  result.images.mapIdx fun n i => ⟨s.unkeptId n, i.url, i.prompt, result.provider, s.unkeptTime⟩

/-- Have images made from a context. -/
def makeImages (s : Service) (r : ImageRequest) (c : Context) :
    Run (Except Web.Failure Generate.Result) :=
  Generate.generate s.config (some r.provider.name) s.access s.chance (some c.basePrompt)
    (if r.useReferences then c.images else [])

/-- What images that could not be made are refused with. -/
def notGenerated (result : Generate.Result) : Refusal :=
  .notGenerated (result.error.orElse (.str "Generation failed".codes))

/-- Keep the images that were made. -/
def keepImages (s : Service) (faults : Database.Faults) (user : Text) (r : ImageRequest)
    (result : Generate.Result) (store : Database.Store) : List Item × Database.Store :=
  match store.addImages s.issuer faults (newImages user r result) with
  | (some rows, store) => (rows.map Item.ofRow, store)
  | (none, store) => (s.unkept result, store)

/-- Answer with the images that were made, and keep them if they can be kept. -/
def deliver (s : Service) (faults : Database.Faults) (user : Text) (r : ImageRequest)
    (result : Generate.Result) (w : World) : Except Refusal ImageAnswer × World :=
  if result.isSuccess then
    let (items, store) := s.keepImages faults user r result w.store
    match result.provider with
    | some provider => (.ok ⟨items, provider, result.mode⟩, { w with store })
    | none => (.error (.breakdown .noProvider), { w with store })
  else (.error (notGenerated result), w)

/-- Answer with what came of making images. -/
def deliverMade (s : Service) (faults : Database.Faults) (user : Text) (r : ImageRequest)
    (made : Except Web.Failure Generate.Result) (w : World) : Except Refusal ImageAnswer × World :=
  match made with
  | .error failure => (.error (.breakdown (.generating failure)), w)
  | .ok result => s.deliver faults user r result w

/-- Have images made for a project by `make`, and answer with them. -/
def generateBy (make : Context → Run (Except Web.Failure Generate.Result)) (s : Service)
    (faults : Database.Faults) (user : Text) (r : ImageRequest) (w : World) :
    Except Refusal ImageAnswer × World :=
  match s.context faults w.store user r.graph with
  | .error refusal => (.error refusal, w)
  | .ok c =>
    let (made, trace) := (make c).run w.trace
    s.deliverMade faults user r made { w with trace }

/-- Have images made for a project and keep them, if they can be kept. -/
def generate (s : Service) (faults : Database.Faults) (user : Text) (r : ImageRequest) (w : World) :
    Except Refusal ImageAnswer × World :=
  generateBy (s.makeImages r) s faults user r w

/-- The images of a project. -/
def list (faults : Database.Faults) (store : Database.Store) (user : Text) (project : Uuid) :
    Except Refusal (List Item) :=
  if store.owns project.toText user then
    if faults.reading then .error (.breakdown .reading)
    else .ok ((store.imagesOf project.toText).map Item.ofRow)
  else .error .accessDenied

/-- Delete an image of a project. The tag of the command tells whether there was one. -/
def delete (store : Database.Store) (user : Text) (project item : Uuid) :
    Except Refusal Unit × Database.Store :=
  if store.owns project.toText user then
    let (tag, store) := store.deleteImage project.toText item.toText
    match Database.affectedRows? tag with
    | none => (.error (.breakdown .noTag), store)
    | some false => (.error .imageNotFound, store)
    | some true => (.ok (), store)
  else (.error .accessDenied, store)

/-- Do what a user asks for. -/
def perform (s : Service) (faults : Database.Faults) (user : Text) (a : Action) (w : World) :
    Except Refusal Reply × World :=
  match a with
  | .refine r =>
    let (result, w) := s.refine faults user r w
    (result.map .refined, w)
  | .generate r =>
    let (result, w) := s.generate faults user r w
    (result.map .generated, w)
  | .list project => ((list faults w.store user project).map .listed, w)
  | .delete project item =>
    let (result, store) := delete w.store user project item
    (result.map fun _ => .deleted, { w with store })

end Service

end CanvasPrompt.Api
