import CanvasPrompt.Vision.Fetch

/-!
# What fetching images does

References are fetched one after another, whatever came of the ones before. This module introduces

* `answers client past refs`: the references, each with the answer to fetching it in its turn, when
  the calls `past` were made before the first one;
* `fetched client past refs`: those of them that bring an image, with their responses;
* `complaints ref answer`: the events that report an answer without an image.

`run_encodeImages` says that these are all that fetching gives and leaves behind.
-/

namespace CanvasPrompt.Vision

open Run (Event Trace)
open Web (Call Client Failure Response)

/-- The call that fetches a reference. -/
def fetchCall (ref : ImageReference) : Call :=
  .fetch ref.url

/-- The references, each with the answer to fetching it after the calls `past` and after the
references before it. -/
def answers (client : Client) (past : List Call) (refs : List ImageReference) :
    List (ImageReference × Except Failure Response) :=
  refs.mapIdx fun i ref =>
    (ref, client (past ++ (refs.take i).map fetchCall) (fetchCall ref))

/-- A response brings an image: it reports success and has bytes. -/
def BringsImage (r : Response) : Prop :=
  (200 ≤ r.status ∧ r.status < 300) ∧ r.body ≠ []

instance (r : Response) : Decidable (BringsImage r) :=
  inferInstanceAs (Decidable (_ ∧ _))

/-- The response to a reference, if there is one and it brings an image. -/
def response? (a : ImageReference × Except Failure Response) :
    Option (ImageReference × Response) :=
  match a.2 with
  | .error _ => none
  | .ok r => if BringsImage r then some (a.1, r) else none

/-- The references that bring an image, each with its response. -/
def fetched (client : Client) (past : List Call) (refs : List ImageReference) :
    List (ImageReference × Response) :=
  (answers client past refs).filterMap response?

/-- The image that a response brings for its reference. -/
def image (a : ImageReference × Response) : EncodedImage :=
  .ofResponse a.1 a.2

/-- The events that report an answer without an image. -/
def complaints (a : ImageReference × Except Failure Response) : List Event :=
  match a.2 with
  | .error failure => [.imageFailed a.1.url failure]
  | .ok r =>
    if !r.isSuccess then [.imageRefused r.status a.1.url]
    else if r.body.isEmpty then [.imageEmpty a.1.url]
    else []

variable (client : Client) (past : List Call) (ref : ImageReference) (refs : List ImageReference)

@[simp]
theorem answers_nil : answers client past [] = [] := rfl

/-- The first reference is answered after the calls before; the others count its call as well. -/
theorem answers_cons :
    answers client past (ref :: refs) =
      (ref, client past (fetchCall ref)) :: answers client (past ++ [fetchCall ref]) refs := by
  simp [answers, List.mapIdx_cons]

/-- No more references bring an image than there are. -/
theorem length_fetched_le : (fetched client past refs).length ≤ refs.length := by
  have hanswers : (answers client past refs).length = refs.length := by simp [answers]
  exact hanswers ▸ List.length_filterMap_le ..

/-- Bringing an image is what fetching checks for. -/
theorem bringsImage_iff (r : Response) :
    BringsImage r ↔ r.isSuccess = true ∧ r.body.isEmpty = false := by
  simp [BringsImage, Response.isSuccess, List.isEmpty_eq_false_iff]

/-- Fetching one reference makes one call, and reports it if it brings no image. -/
theorem run_encodeImage (t : Trace) :
    (encodeImage client ref).run t =
      ((response? (ref, client t.calls (fetchCall ref))).map image,
        { t with
          calls := t.calls ++ [fetchCall ref]
          events := t.events ++ complaints (ref, client t.calls (fetchCall ref)) }) := by
  simp only [encodeImage, Run.run_bind, Run.run_call, fetchCall]
  cases client t.calls (.fetch ref.url) with
  | error failure => rfl
  | ok r =>
    simp only [response?, complaints, bringsImage_iff]
    cases hs : r.isSuccess with
    | false => rfl
    | true =>
      cases hb : r.body.isEmpty with
      | false =>
        simp only [Bool.not_true, Bool.false_eq_true, and_self, ↓reduceIte, List.append_nil]
        rfl
      | true => rfl

/-- Fetching some references makes one call for each of them, in order, and gives the images of
those that bring one. Nothing else of the trace changes but the events. -/
theorem run_encodeImages (t : Trace) :
    (encodeImages client refs).run t =
      ((fetched client t.calls refs).map image,
        { t with
          calls := t.calls ++ refs.map fetchCall
          events := t.events ++ (answers client t.calls refs).flatMap complaints }) := by
  -- Each call is made in the trace that the calls before it leave.
  induction refs generalizing t with
  | nil =>
    simp only [encodeImages, Run.run_pure, fetched, answers_nil, List.filterMap_nil, List.map_nil,
      List.flatMap_nil, List.append_nil]
  | cons ref rest ih =>
    simp only [encodeImages, Run.run_bind, Run.run_pure, run_encodeImage, ih, fetched, answers_cons,
      List.filterMap_cons, List.flatMap_cons, List.map_cons, List.append_assoc,
      List.singleton_append]
    cases response? (ref, client t.calls (fetchCall ref)) with
    | none => rfl
    | some a => rfl

end CanvasPrompt.Vision
