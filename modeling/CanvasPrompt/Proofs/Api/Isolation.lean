import CanvasPrompt.Api.Gateway
import CanvasPrompt.Proofs.Api.Handlers
import CanvasPrompt.Proofs.Database.Writing

/-!
# Isolation of projects

A project is closed to users whom it does not belong to, and what is done for one project leaves the
others alone. Both hold in every state that requests lead to, since no request changes the owners of
projects. This module introduces

* `Turn`: a request with the server that it meets, as its settings and the state of the database may
  be others each time;
* `after w turns`: the world after a run of turns;
* `Turn.IsOfOwner w project turn`: the turn brings an action of an owner of the project on it.

One handler after the other is shown to change only rows of its project (`perform_changesOnly`), and
to do nothing for a user who is not the owner (`perform_of_not_owner`). A whole run is put together
from such steps in `owners_after` and `rows_after_of_no_owner`. The main statement is
`projects_isolated`.
-/

namespace CanvasPrompt.Api

open Database (ChangesOnly Faults Store)

/-! ## What an action changes -/

namespace Service

variable (s : Service) (faults : Faults) (user : Text)

theorem refine_changesOnly (r : GraphRequest) (w : World) :
    ChangesOnly r.project.toText w.store (s.refine faults user r w).2.store := by
  cases hcontext : s.context faults w.store user r with
  | error refusal =>
    rw [s.refine_of_refused faults user hcontext]
    exact .refl _ _
  | ok c =>
    let run := (Refine.refine s.reasoner s.options s.access c).run w.trace
    -- All that refining can do to the store is to add the prompt.
    have hadded := Database.addPrompt_changesOnly s.issuer faults w.store
      ⟨r.project.toText, user, c.basePrompt, run.1.prompt⟩
    dsimp only at hadded
    rw [s.refine_of_context faults user hcontext]
    exact hadded

theorem keepImages_changesOnly (r : ImageRequest) (result : Generate.Result) (store : Store) :
    ChangesOnly r.graph.project.toText store (s.keepImages faults user r result store).2 := by
  have hadded : ChangesOnly r.graph.project.toText store
      (store.addImages s.issuer faults (newImages user r result)).2 :=
    Database.addImages_changesOnly s.issuer faults store fun _ => project_of_mem_newImages user
  rw [keepImages]
  generalize store.addImages s.issuer faults (newImages user r result) = added at hadded ⊢
  obtain ⟨rows, t⟩ := added
  cases rows with
  | none => exact hadded
  | some rows => exact hadded

theorem deliver_changesOnly (r : ImageRequest) (result : Generate.Result) (w : World) :
    ChangesOnly r.graph.project.toText w.store (s.deliver faults user r result w).2.store := by
  rw [deliver_snd]
  split
  · exact s.keepImages_changesOnly faults user r result w.store
  · exact .refl _ _

theorem generate_changesOnly (r : ImageRequest) (w : World) :
    ChangesOnly r.graph.project.toText w.store (s.generate faults user r w).2.store := by
  rcases s.generate_cases faults user r w with ⟨refusal, t, hdone⟩ | ⟨c, result, t, -, -, hdone⟩
  · rw [hdone]
    exact .refl _ _
  · rw [hdone]
    exact s.deliver_changesOnly faults user r result { w with trace := t }

theorem delete_changesOnly (store : Store) (project item : Uuid) :
    ChangesOnly project.toText store (delete store user project item).2 := by
  cases howns : store.owns project.toText user with
  | false =>
    rw [delete_of_not_owner howns]
    exact .refl _ _
  | true =>
    rw [delete_snd_of_owner howns]
    exact Database.deleteImage_changesOnly store project.toText item.toText

/-- An action changes only rows of its project. -/
theorem perform_changesOnly (a : Action) (w : World) :
    ChangesOnly a.project.toText w.store (s.perform faults user a w).2.store := by
  cases a with
  | refine r => exact s.refine_changesOnly faults user r w
  | generate r => exact s.generate_changesOnly faults user r w
  | list project => exact .refl _ _
  | delete project item => exact delete_changesOnly user w.store project item

end Service

/-! ## Runs -/

/-- A request with the server that it meets. -/
structure Turn where
  /-- The server, with its settings and the state of its database at that time. -/
  server : Server
  /-- The request. -/
  request : Incoming

namespace Turn

/-- The user of a turn and what the user asks for, if it is served. -/
def admission (turn : Turn) : Except Answer (Text × Action) :=
  turn.server.admission turn.request

/-- Answer the request of a turn. -/
def respond (turn : Turn) (w : World) : Answer × World :=
  turn.server.respond turn.request w

/-- The turn brings an action of an owner of the project on it. -/
def IsOfOwner (w : World) (project : Text) (turn : Turn) : Prop :=
  ∃ user action, turn.admission = .ok (user, action) ∧ action.project.toText = project ∧
    w.store.owns project user = true

end Turn

/-- The world after a run of turns. -/
def after (w : World) (turns : List Turn) : World :=
  turns.foldl (fun w turn => (turn.respond w).2) w

theorem after_cons (w : World) (turn : Turn) (rest : List Turn) :
    after w (turn :: rest) = after (turn.respond w).2 rest := rfl

/-- No turn changes the owners of projects. -/
theorem owners_respond (turn : Turn) (w : World) :
    (turn.respond w).2.store.owners = w.store.owners := by
  cases h : turn.admission with
  | error answer =>
    rw [Turn.respond, turn.server.respond_of_not_admitted turn.request h]
  | ok admitted =>
    rw [Turn.respond, turn.server.respond_of_admission turn.request h]
    exact (turn.server.service.perform_changesOnly _ _ _ w).owners

/-- A run does not change the owners of projects. -/
theorem owners_after (w : World) (turns : List Turn) :
    (after w turns).store.owners = w.store.owners := by
  induction turns generalizing w with
  | nil => rfl
  | cons turn rest ih => rw [after_cons, ih, owners_respond]

/-- Who owns a project follows from the owners alone. -/
theorem owns_congr {s t : Store} (h : s.owners = t.owners) (project user : Text) :
    s.owns project user = t.owns project user := by
  rw [Store.owns, Store.owns, h]

/-- A turn that is not one of an owner of a project leaves its rows as they are. -/
theorem rows_respond_of_not_owner {project : Text} {turn : Turn} {w : World}
    (h : ¬turn.IsOfOwner w project) :
    (turn.respond w).2.store.promptsOf project = w.store.promptsOf project ∧
      (turn.respond w).2.store.imagesOf project = w.store.imagesOf project := by
  rw [Turn.respond]
  cases hadmission : turn.admission with
  | error answer =>
    rw [turn.server.respond_of_not_admitted turn.request hadmission]
    exact ⟨rfl, rfl⟩
  | ok admitted =>
    obtain ⟨user, action⟩ := admitted
    rw [turn.server.respond_of_admission turn.request hadmission]
    -- Either the action is on another project, or it is denied.
    by_cases hproject : action.project.toText = project
    · have howns : w.store.owns action.project.toText user = false := by
        rw [← Bool.not_eq_true, hproject]
        exact fun howns => h ⟨user, action, hadmission, hproject, howns⟩
      rw [turn.server.service.perform_of_not_owner turn.server.faults user howns]
      exact ⟨rfl, rfl⟩
    · have hchanges :=
        turn.server.service.perform_changesOnly turn.server.faults user action w
      exact ⟨hchanges.prompts project (Ne.symm hproject),
        hchanges.images project (Ne.symm hproject)⟩

/-- A run without a turn of an owner of a project leaves its rows as they are. -/
theorem rows_after_of_no_owner {project : Text} {turns : List Turn} {w : World}
    (h : ∀ turn ∈ turns, ¬turn.IsOfOwner w project) :
    (after w turns).store.promptsOf project = w.store.promptsOf project ∧
      (after w turns).store.imagesOf project = w.store.imagesOf project := by
  -- The induction is on the turns; that the owners stay the same carries the hypothesis along.
  induction turns generalizing w with
  | nil => exact ⟨rfl, rfl⟩
  | cons turn rest ih =>
    obtain ⟨hturn, hrest⟩ := List.forall_mem_cons.mp h
    have hlater : ∀ later ∈ rest, ¬later.IsOfOwner (turn.respond w).2 project := by
      rintro later hmem ⟨user, action, hadmission, hproject, howns⟩
      rw [owns_congr (owners_respond turn w)] at howns
      exact hrest later hmem ⟨user, action, hadmission, hproject, howns⟩
    obtain ⟨hprompts, himages⟩ := rows_respond_of_not_owner hturn
    obtain ⟨hprompts', himages'⟩ := ih hlater
    rw [after_cons]
    exact ⟨hprompts'.trans hprompts, himages'.trans himages⟩

/-! ## Isolation -/

/-- The answer to a user whom a project does not belong to, in every world with these owners. -/
theorem respond_of_not_owner {turn : Turn} {user : Text} {action : Action}
    (h : turn.admission = .ok (user, action)) {w : World}
    (howns : w.store.owns action.project.toText user = false) :
    turn.respond w = (.detail 403 (.str "Access denied".codes), w) := by
  rw [Turn.respond, turn.server.respond_of_admission turn.request h,
    turn.server.service.perform_of_not_owner turn.server.faults user howns]
  rfl

/-- Whatever requests came before, an admitted request for a project that does not belong to its
user is answered with 403; the store stays as it is, nothing is asked of other services, and the
answer is the same in every world where the projects have these owners. And no request changes the
prompts or the images of another project than its own, so that those of a project stay as they are
as long as no owner of it asks for anything. -/
theorem projects_isolated (w : World) (past : List Turn) (turn : Turn) {user : Text}
    {action : Action} (h : turn.admission = .ok (user, action)) :
    let before := after w past
    let served := turn.respond before
    let project := action.project.toText
    (w.store.owns project user = false →
      served = (.detail 403 (.str "Access denied".codes), before) ∧
        ∀ v : World, v.store.owners = w.store.owners → (turn.respond v).1 = served.1) ∧
      (∀ other ≠ project,
        served.2.store.promptsOf other = before.store.promptsOf other ∧
          served.2.store.imagesOf other = before.store.imagesOf other) ∧
      ∀ quiet, (∀ turn ∈ past, ¬turn.IsOfOwner w quiet) →
        before.store.promptsOf quiet = w.store.promptsOf quiet ∧
          before.store.imagesOf quiet = w.store.imagesOf quiet := by
  intro before served project
  have howners : before.store.owners = w.store.owners := owners_after w past
  refine ⟨?_, ?_, fun quiet => rows_after_of_no_owner⟩
  · intro hdenied
    have hserved : served = (.detail 403 (.str "Access denied".codes), before) := by
      apply respond_of_not_owner h
      rw [owns_congr howners]
      exact hdenied
    refine ⟨hserved, ?_⟩
    intro v hv
    rw [← owns_congr hv] at hdenied
    rw [respond_of_not_owner h hdenied, hserved]
  · intro other hother
    apply rows_respond_of_not_owner
    -- The turn is on its own project, so it is not one of an owner of another project.
    rintro ⟨user', action', hadmission, hproject, -⟩
    rw [h] at hadmission
    cases hadmission
    exact hother hproject.symm

/-- Bob deletes no image of Ann's project. -/
theorem outsider_deletes_nothing :
    let project := "11111111-1111-4111-8111-111111111111".codes
    let item := "22222222-2222-4222-8222-222222222222".codes
    let service : Service :=
      { reasoner := none
        options := .default
        config := .default
        client := fun _ _ => .error ⟨.readTimeout, []⟩
        nesting := 985
        chance := 0
        issuer := .counting
        unkeptId := fun _ => []
        unkeptTime := [] }
    let gateway : Gateway := ⟨.always "bob".codes, [], true, 985, Json.isStandard 985⟩
    let server : Server := ⟨service, gateway.admission, .none⟩
    let path := "/projects/".codes ++ project ++ "/generated/".codes ++ item
    let turn : Turn := ⟨server, ⟨"DELETE".codes, path, [], []⟩⟩
    let row : Database.ImageRow := ⟨item, project, "ann".codes, [], none, none, none, []⟩
    let w : World := ⟨⟨[(project, "ann".codes)], [], [], [], [row], 1⟩, .empty⟩
    turn.respond w = (.detail 403 (.str "Access denied".codes), w) := by
  intro project item service gateway server path turn row w
  have h : turn.admission = .ok ("bob".codes,
      .delete ⟨0x11111111111141118111111111111111⟩ ⟨0x22222222222242228222222222222222⟩) := by
    rfl
  have howns : w.store.owns (Uuid.mk 0x11111111111141118111111111111111).toText
      "bob".codes = false := by
    rfl
  exact ((projects_isolated w [] turn h).1 howns).1

end CanvasPrompt.Api
