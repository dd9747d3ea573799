import CanvasPrompt.Api.Server

/-!
# What the handlers do

Equations of the handlers of the service, one for each way that a request can go: it is refused
before anything is done, or it goes on with the context that was loaded. All the ways that a request
for images can go are told at once (`Service.generate_cases`). At the end it is told what the server
makes of them (`Server.respond_of_admission`). What is proved of the service elsewhere is derived
from these equations.
-/

namespace CanvasPrompt.Api

open Database (Faults Store)

namespace Service

variable (s : Service) (faults : Faults) (user : Text)

/-! ## Requests with a canvas -/

/-- For a user whom the project does not belong to, no context is loaded. -/
theorem context_of_not_owner {store : Store} {r : GraphRequest}
    (h : store.owns r.project.toText user = false) :
    s.context faults store user r = .error .accessDenied := by
  rw [context, h]
  rfl

/-- A request may bring a canvas with nothing on it. -/
theorem context_of_blank_canvas {store : Store} {q : GraphRequest}
    (howns : store.owns q.project.toText user = true)
    (hnodes : q.nodes = some []) (hedges : q.edges = some []) :
    s.context faults store user q =
      .ok (Context.assemble ⟨[], []⟩ q.prompt s.options.perRoleCap s.options.maxImages) := by
  rw [context, if_pos howns, canvas, hnodes, hedges]
  rfl

section

variable {r : GraphRequest} {w : World}

/-- Without a context nothing is refined. -/
theorem refine_of_refused {refusal : Refusal}
    (h : s.context faults w.store user r = .error refusal) :
    s.refine faults user r w = (.error refusal, w) := by
  rw [refine, h]

/-- With a context the prompt is refined first and kept then. -/
theorem refine_of_context {c : Context} (h : s.context faults w.store user r = .ok c) :
    let run := (Refine.refine s.reasoner s.options s.access c).run w.trace
    let kept := w.store.addPrompt s.issuer faults
      ⟨r.project.toText, user, c.basePrompt, run.1.prompt⟩
    s.refine faults user r w =
      (.ok ⟨run.1.prompt, c.simplePrompt, run.1.refinedBy, kept.1⟩, ⟨kept.2, run.2⟩) := by
  intro run kept
  rw [refine, h]
  rfl

end

section

variable (make : Context → Run (Except Web.Failure Generate.Result)) {r : ImageRequest} {w : World}

/-- Without a context no images are made. -/
theorem generateBy_of_refused {refusal : Refusal}
    (h : s.context faults w.store user r.graph = .error refusal) :
    generateBy make s faults user r w = (.error refusal, w) := by
  rw [generateBy, h]

/-- With a context images are made first and delivered then. -/
theorem generateBy_of_context {c : Context}
    (h : s.context faults w.store user r.graph = .ok c) :
    generateBy make s faults user r w =
      s.deliverMade faults user r ((make c).run w.trace).1
        { w with trace := ((make c).run w.trace).2 } := by
  rw [generateBy, h]
  rfl

/-- What came of making images is delivered. -/
theorem generateBy_of_made {c : Context} (h : s.context faults w.store user r.graph = .ok c)
    {result : Generate.Result} (hmade : ((make c).run w.trace).1 = .ok result) :
    generateBy make s faults user r w =
      s.deliver faults user r result { w with trace := ((make c).run w.trace).2 } := by
  rw [s.generateBy_of_context faults user make h, hmade]
  rfl

/-- With a context, images are made and delivered, or making them breaks off and nothing is kept. -/
theorem generateBy_cases {c : Context} (h : s.context faults w.store user r.graph = .ok c) :
    let run := (make c).run w.trace
    let done := generateBy make s faults user r w
    (∃ failure, run.1 = .error failure ∧
        done = (.error (.breakdown (.generating failure)), { w with trace := run.2 })) ∨
      ∃ result, run.1 = .ok result ∧
        done = s.deliver faults user r result { w with trace := run.2 } := by
  intro run done
  have hdone : done = s.deliverMade faults user r run.1 { w with trace := run.2 } :=
    s.generateBy_of_context faults user make h
  cases hmade : run.1 with
  | error failure => exact .inl ⟨failure, rfl, by rw [hdone, hmade]; rfl⟩
  | ok result => exact .inr ⟨result, rfl, by rw [hdone, hmade]; rfl⟩

/-- A request for images is refused and leaves the store alone, or images are made for its context
and delivered. -/
theorem generate_cases (r : ImageRequest) (w : World) :
    (∃ refusal t, s.generate faults user r w = (.error refusal, { w with trace := t })) ∨
      ∃ c result t, s.context faults w.store user r.graph = .ok c ∧
        (s.makeImages r c).run w.trace = (.ok result, t) ∧
          s.generate faults user r w = s.deliver faults user r result { w with trace := t } := by
  rw [generate]
  cases hcontext : s.context faults w.store user r.graph with
  | error refusal => exact .inl ⟨_, _, s.generateBy_of_refused faults user _ hcontext⟩
  | ok c =>
    rcases s.generateBy_cases faults user (s.makeImages r) hcontext with
      ⟨failure, -, hdone⟩ | ⟨result, hmade, hdone⟩
    · exact .inl ⟨_, _, hdone⟩
    · exact .inr ⟨c, result, _, rfl, Prod.ext hmade rfl, hdone⟩

end

/-! ## Images that were made -/

section

variable {r : ImageRequest} {result : Generate.Result} (w : World)

/-- Images are kept for the project of the request. -/
theorem project_of_mem_newImages {i : Database.NewImage} (hi : i ∈ newImages user r result) :
    i.project = r.graph.project.toText := by
  rw [newImages] at hi
  obtain ⟨image, -, hi⟩ := List.mem_map.mp hi
  rw [← hi]

/-- A result that is no success is refused with its error, and nothing is kept. -/
theorem deliver_of_not_success (h : result.isSuccess = false) :
    s.deliver faults user r result w = (.error (notGenerated result), w) := by
  rw [deliver, h]
  rfl

/-- The images of a success are kept and answered with, under the name of their provider. -/
theorem deliver_of_provider (h : result.isSuccess = true) {provider : Text}
    (hprovider : result.provider = some provider) :
    let kept := s.keepImages faults user r result w.store
    s.deliver faults user r result w =
      (.ok ⟨kept.1, provider, result.mode⟩, { w with store := kept.2 }) := by
  intro kept
  rw [deliver, h, hprovider]
  rfl

/-- The images of a success that names no provider are kept, but cannot be answered with. -/
theorem deliver_of_no_provider (h : result.isSuccess = true) (hprovider : result.provider = none) :
    s.deliver faults user r result w =
      (.error (.breakdown .noProvider),
        { w with store := (s.keepImages faults user r result w.store).2 }) := by
  rw [deliver, h, hprovider]
  rfl

/-- The images are kept if they are those of a success, whatever is answered then. -/
theorem deliver_snd :
    (s.deliver faults user r result w).2 =
      if result.isSuccess then { w with store := (s.keepImages faults user r result w.store).2 }
      else w := by
  cases hsuccess : result.isSuccess with
  | false => rw [s.deliver_of_not_success faults user w hsuccess, if_neg Bool.false_ne_true]
  | true =>
    rw [if_pos rfl]
    cases hprovider : result.provider with
    | none => rw [s.deliver_of_no_provider faults user w hsuccess hprovider]
    | some provider => rw [s.deliver_of_provider faults user w hsuccess hprovider]

end

/-! ## Requests about images of a project -/

section

variable {user} {store : Store} {project : Uuid}

theorem list_of_not_owner (h : store.owns project.toText user = false) :
    list faults store user project = .error .accessDenied := by
  rw [list, h]
  rfl

theorem delete_of_not_owner (h : store.owns project.toText user = false) (item : Uuid) :
    delete store user project item = (.error .accessDenied, store) := by
  rw [delete, h]
  rfl

/-- What is answered to an owner does not matter to what is deleted. -/
theorem delete_snd_of_owner (h : store.owns project.toText user = true) (item : Uuid) :
    (delete store user project item).2 = (store.deleteImage project.toText item.toText).2 := by
  rw [delete, if_pos h]
  generalize store.deleteImage project.toText item.toText = deleted
  obtain ⟨tag, t⟩ := deleted
  dsimp only
  cases Database.affectedRows? tag with
  | none => rfl
  | some found =>
    cases found with
    | false => rfl
    | true => rfl

end

/-- An action on a project that does not belong to the user is denied, and nothing is done. -/
theorem perform_of_not_owner {a : Action} {w : World}
    (h : w.store.owns a.project.toText user = false) :
    s.perform faults user a w = (.error .accessDenied, w) := by
  -- Each handler asks for the owner first; the first two do so when they read the canvas.
  cases a with
  | refine r =>
    rw [perform, s.refine_of_refused faults user (s.context_of_not_owner faults user h)]
    rfl
  | generate r =>
    have hdenied := s.context_of_not_owner faults user h
    rw [perform, generate, s.generateBy_of_refused faults user _ hdenied]
    rfl
  | list project =>
    have hdenied : list faults w.store user project = _ := list_of_not_owner faults h
    rw [perform, hdenied]
    rfl
  | delete project item =>
    have hdenied : delete w.store user project item = _ := delete_of_not_owner h item
    rw [perform, hdenied]
    rfl

end Service

/-! ## Answers -/

theorem optionalText_inj {t t' : Option Text} : optionalText t = optionalText t' ↔ t = t' := by
  cases t <;> cases t' <;> simp [optionalText]

/-- What is told of an image tells all of it. -/
theorem Item.toJson_inj {i i' : Item} : i.toJson = i'.toJson ↔ i = i' := by
  constructor
  · intro h
    simp only [toJson, Json.obj.injEq, List.cons.injEq, Prod.mk.injEq, true_and, Json.str.injEq,
      optionalText_inj, and_true] at h
    obtain ⟨hid, hurl, hprompt, hprovider, htime⟩ := h
    cases i
    cases i'
    simp only [mk.injEq]
    exact ⟨hid, hurl, hprompt, hprovider, htime⟩
  · rintro rfl
    rfl

/-! ## Requests that are served -/

namespace Server

variable (s : Server) (r : Incoming)

/-- The answer to a request that is served tells what came of the action. -/
theorem respond_of_admission {user : Text} {a : Action} (h : s.admission r = .ok (user, a))
    (w : World) :
    let done := s.service.perform s.faults user a w
    s.respond r w = (answerOf done.1, done.2) := by
  intro done
  rw [respond, h]

/-- A request that is not admitted changes nothing. -/
theorem respond_of_not_admitted {answer : Answer} (h : s.admission r = .error answer) (w : World) :
    (s.respond r w).2 = w := by
  rw [respond, h]

end Server

end CanvasPrompt.Api
