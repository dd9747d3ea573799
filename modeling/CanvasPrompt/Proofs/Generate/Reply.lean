import CanvasPrompt.Generate.Gemini
import CanvasPrompt.Json.Printer
import CanvasPrompt.Proofs.Fallible
import CanvasPrompt.Proofs.Vision.Fetching
import Mathlib.Data.List.ReduceOption

/-!
# What a reply brings

The reply of the provider with a key may be any JSON value. This module says what it holds in terms
that have a value for every reply, and when it can be gone through at all:

* `Json.contents`, `Json.Opens`, `Json.Lists`: what a value holds, and whether it can be opened or
  gone through;
* `Gemini.imagesOf prompt reply`: one image for each part of the reply with data, candidate by
  candidate;
* `Gemini.ReplyFits reply`: nothing on the way to the parts is of the wrong kind;
* `Gemini.Grants room prompt answer images`: the answer to the request grants just these images;
* `Gemini.outcomeAfter client past prompt refs`: the outcome of the provider when the calls `past`
  were made before it is asked; `Gemini.traceAfter` is the trace that it leaves.

The main statement is `generate_grants_or_fails`.
-/

namespace CanvasPrompt

open Fallible (Computes bind_eq_ok pure_eq_ok)

namespace Json

variable {v : Json}

/-- What the value holds when it is gone through. -/
def contents : Json → List Json
  | .arr items => items
  | .str t => t.map fun c => .str [c]
  | .obj ms => ms.map fun m => .str m.1
  | _ => []

/-- The value is an object, unless it counts as absent. -/
def Opens (v : Json) : Prop :=
  v.truthy = true → v.kind = .object

/-- The value can be gone through, unless it counts as absent. -/
def Lists (v : Json) : Prop :=
  v.truthy = true → v.kind = .list ∨ v.kind = .text ∨ v.kind = .object

theorem members_of_not_truthy (h : v.truthy = false) : v.members = [] := by
  cases v with
  | obj ms => simpa [truthy, members] using h
  | _ => rfl

theorem contents_of_not_truthy (h : v.truthy = false) : v.contents = [] := by
  cases v with
  | arr items => simpa [truthy, contents] using h
  | str t => simpa [truthy, contents] using h
  | obj ms => simpa [truthy, contents] using h
  | _ => rfl

theorem computes_membersOrNone : Computes membersOrNone Opens members := by
  intro v ms
  unfold membersOrNone Opens
  -- What counts as absent has no members, whatever its kind is.
  cases htruthy : v.truthy with
  | false => simp [members_of_not_truthy htruthy, eq_comm]
  | true =>
    cases v with
    | _ => simp [members, kind, eq_comm]

theorem computes_entries : Computes entries Lists contents := by
  intro v vs
  unfold entries Lists
  cases htruthy : v.truthy with
  | false => simp [contents_of_not_truthy htruthy, eq_comm]
  | true =>
    cases v with
    | _ => simp [contents, kind, eq_comm]

end Json

namespace Generate.Gemini

open Json (field)
open Run (Trace)
open Web (Call Client Failure Response)

variable {prompt : Text}

/-! ## The parts of a reply -/

/-- The image data in a part: under the first of two names, or under the second one if that counts
as absent. -/
def inlineOf (part : Json) : Json :=
  (field part.members "inlineData").orElse (field part.members "inline_data")

/-- The bytes in a part, in base64. -/
def dataOf (part : Json) : Json :=
  field (inlineOf part).members "data"

/-- The media type in a part, likewise under one of two names; `image/png` if it names none. -/
def mimeOf (part : Json) : Json :=
  let ms := (inlineOf part).members
  (field ms "mimeType").orElse ((field ms "mime_type").orElse (.str "image/png".codes))

/-- The image in a part. -/
def imageOf (prompt : Text) (part : Json) : GeneratedImage :=
  ⟨"data:".codes ++ (mimeOf part).display ++ ";base64,".codes ++ (dataOf part).display, prompt⟩

/-- The parts of a candidate. -/
def partsOf (candidate : Json) : List Json :=
  (field (field candidate.members "content").members "parts").contents

/-- The parts of a reply, candidate by candidate. -/
def replyParts (reply : Members) : List Json :=
  (field reply "candidates").contents.flatMap partsOf

/-- The images in some parts: one for each part with data. -/
def imagesIn (prompt : Text) (parts : List Json) : List GeneratedImage :=
  (parts.filter fun part => (dataOf part).truthy).map (imageOf prompt)

/-- The images of a reply. -/
def imagesOf (prompt : Text) (reply : Members) : List GeneratedImage :=
  imagesIn prompt (replyParts reply)

/-- A part can be opened, and so can what it holds. -/
def PartFits (part : Json) : Prop :=
  part.Opens ∧ (inlineOf part).Opens

/-- A candidate can be opened down to its parts, and these fit. -/
structure CandidateFits (candidate : Json) : Prop where
  opens : candidate.Opens
  content : (field candidate.members "content").Opens
  parts : (field (field candidate.members "content").members "parts").Lists
  part : ∀ part ∈ partsOf candidate, PartFits part

/-- Nothing on the way to the parts of a reply is of the wrong kind. -/
structure ReplyFits (reply : Members) : Prop where
  candidates : (field reply "candidates").Lists
  candidate : ∀ candidate ∈ (field reply "candidates").contents, CandidateFits candidate

theorem computes_partImage? :
    Computes (partImage? prompt) PartFits fun part =>
      if (dataOf part).truthy then some (imageOf prompt part) else none := by
  intro part image
  simp only [partImage?, membersOfEither, bind_eq_ok, Json.computes_membersOrNone _ _, and_assoc,
    exists_eq_left, exists_and_left, PartFits]
  refine and_congr_right fun _ => and_congr_right fun _ => ?_
  -- What is left does not fail any more: it ends with the image or without one.
  change (if !(dataOf part).truthy then pure none else pure (some (imageOf prompt part))) = _ ↔ _
  cases (dataOf part).truthy with
  | false => exact pure_eq_ok
  | true => exact pure_eq_ok

/-- Leaving out the parts without data afterwards is leaving them out at once. -/
theorem reduceOption_map_eq_imagesIn (parts : List Json) :
    (parts.map fun part =>
      if (dataOf part).truthy then some (imageOf prompt part) else none).reduceOption =
      imagesIn prompt parts := by
  induction parts with
  | nil => rfl
  | cons part rest ih =>
    rw [imagesIn] at ih ⊢
    cases h : (dataOf part).truthy with
    | false => simp [h, ih]
    | true => simp [h, ih]

theorem flatten_map_imagesIn (candidates : List Json) :
    (candidates.map fun candidate => imagesIn prompt (partsOf candidate)).flatten =
      imagesIn prompt (candidates.flatMap partsOf) := by
  rw [imagesIn, List.filter_flatMap, List.map_flatMap, List.flatMap_def]
  rfl

theorem computes_candidateImages :
    Computes (candidateImages prompt) CandidateFits fun candidate =>
      imagesIn prompt (partsOf candidate) := by
  intro candidate images
  simp only [candidateImages, bind_eq_ok, Json.computes_membersOrNone _ _,
    Json.computes_entries _ _, computes_partImage?.mapM _ _, and_assoc, exists_eq_left,
    exists_and_left, pure_eq_ok, reduceOption_map_eq_imagesIn]
  constructor
  · rintro ⟨hopens, hcontent, hparts, hpart, himages⟩
    exact ⟨⟨hopens, hcontent, hparts, hpart⟩, himages⟩
  · rintro ⟨⟨hopens, hcontent, hparts, hpart⟩, himages⟩
    exact ⟨hopens, hcontent, hparts, hpart, himages⟩

/-- The images of a reply are extracted if nothing in it is of the wrong kind. -/
theorem computes_extractImages (prompt : Text) :
    Computes (extractImages · prompt) ReplyFits (imagesOf prompt) := by
  intro reply images
  simp only [extractImages, bind_eq_ok, Json.computes_entries _ _,
    computes_candidateImages.mapM _ _, and_assoc, exists_eq_left, exists_and_left, pure_eq_ok,
    flatten_map_imagesIn]
  rw [← and_assoc]
  exact and_congr_left' ⟨fun h => ⟨h.1, h.2⟩, fun h => ⟨h.candidates, h.candidate⟩⟩

/-! ## The outcome of an answer -/

/-- The answer grants the images: it reports success, and they are what its body holds, an object
that is read with the room there is for nesting, and in which nothing on the way to them is of the
wrong kind. -/
inductive Grants (room : Nat) (prompt : Text) :
    Except Failure Response → List GeneratedImage → Prop where
  | intro {r : Response} {reply : Members} (status : 200 ≤ r.status ∧ r.status ≤ 299)
      (body : Json.readBytes room r.body = .ok (.obj reply)) (fits : ReplyFits reply)
      (found : imagesOf prompt reply ≠ []) : Grants room prompt (.ok r) (imagesOf prompt reply)

variable {room : Nat}

/-- Images that are granted are made from the prompt. -/
theorem Grants.prompt_eq {answer : Except Failure Response} {images : List GeneratedImage}
    (h : Grants room prompt answer images) : ∀ i ∈ images, i.prompt = prompt := by
  cases h with
  | intro _ _ _ _ =>
    intro i hi
    obtain ⟨part, -, rfl⟩ := List.mem_map.mp hi
    rfl

theorem Grants.ne_nil {answer : Except Failure Response} {images : List GeneratedImage}
    (h : Grants room prompt answer images) : images ≠ [] := by
  cases h with
  | intro _ _ _ found => exact found

theorem Grants.unique {answer : Except Failure Response} {images images' : List GeneratedImage}
    (h : Grants room prompt answer images) (h' : Grants room prompt answer images') :
    images = images' := by
  cases h with
  | intro _ body _ _ =>
    cases h' with
    | intro _ body' _ _ =>
      rw [body] at body'
      cases body'
      rfl

/-- The outcome has no images, but an error. -/
def Fails (o : Outcome) : Prop :=
  ∃ error, error.truthy = true ∧ o = failed error

theorem fails_of_text {t : Text} (h : t ≠ []) : Fails (failed (.str t)) := by
  refine ⟨.str t, ?_, rfl⟩
  simp [Json.truthy, h]

theorem fails_networkError (message : Text) : Fails (failed (networkError message)) :=
  fails_of_text (by simp)

theorem fails_failureError (failure : Failure) : Fails (failed (failureError failure)) := by
  rw [failureError]
  split
  · exact fails_of_text (by simp)
  · exact fails_networkError _

/-- A refusal is an error even if the provider does not say anything about it. -/
theorem fails_of_refusal {status : Int} {reply : Json} {o : Outcome}
    (h : refusal status reply = .ok o) : Fails o := by
  obtain ⟨message, -, h⟩ := bind_eq_ok.mp h
  rw [pure_eq_ok.mp h]
  by_cases htruthy : message.truthy = true
  · exact ⟨message, htruthy, by rw [Json.orElse, if_pos htruthy]⟩
  · rw [Json.orElse, if_neg htruthy]
    exact fails_of_text (by simp)

theorem computes_success (sent : Nat) :
    Computes (success prompt sent) (ReplyFits ·.members) fun reply =>
      if imagesOf prompt reply.members = [] then failed (.str "gemini_returned_no_images".codes)
      else ⟨name, imagesOf prompt reply.members, .null, sent⟩ := by
  intro reply o
  simp only [success, bind_eq_ok, computes_extractImages _ _ _, and_assoc, exists_and_left,
    exists_eq_left, List.isEmpty_iff]
  refine and_congr_right fun _ => ?_
  split
  · exact pure_eq_ok
  · exact pure_eq_ok

/-- A reply that holds images has been read, and is an object. -/
theorem exists_readBytes_eq {r : Response} {reply : Json} (h : replyValue room r = .ok reply)
    (found : imagesOf prompt reply.members ≠ []) :
    ∃ ms, reply = .obj ms ∧ Json.readBytes room r.body = .ok (.obj ms) := by
  -- Only an object has members, and without members there are no images.
  have hnil : imagesOf prompt [] = [] := rfl
  rw [replyValue] at h
  split at h
  · next v hv =>
    cases h
    cases reply with
    | obj ms => exact ⟨ms, rfl, hv⟩
    | _ => exact absurd hnil found
  · cases h
  · cases h
    exact absurd hnil found

theorem outcome_of_grants {r : Response} {images : List GeneratedImage} (sent : Nat)
    (h : Grants room prompt (.ok r) images) :
    outcome room prompt sent r = ⟨name, images, .null, sent⟩ := by
  cases h with
  | @intro _ reply status body fits found =>
    have hread : replyValue room r = .ok (.obj reply) := by rw [replyValue, body]
    have hstatus : r.isSuccess = true := decide_eq_true ⟨status.1, by omega⟩
    have hsuccess : success prompt sent (.obj reply) = .ok _ :=
      (computes_success sent (.obj reply) _).mpr ⟨fits, rfl⟩
    rw [outcome, hread]
    simp only [hstatus, ↓reduceIte, hsuccess]
    exact if_neg found

theorem grants_or_fails (room : Nat) (prompt : Text) (sent : Nat) (r : Response) :
    (∃ images, Grants room prompt (.ok r) images) ∨ Fails (outcome room prompt sent r) := by
  rw [outcome]
  split
  · exact .inr (fails_networkError _)
  · next reply hreply =>
    -- What is of the wrong kind is caught, in a reply of either sort.
    split
    · next o ho =>
      split at ho
      · next hstatus =>
        obtain ⟨fits, ho⟩ := (computes_success sent _ _).mp ho
        dsimp only at ho
        subst ho
        split
        · exact .inr (fails_of_text (by simp))
        · next found =>
          obtain ⟨ms, rfl, hbody⟩ := exists_readBytes_eq hreply found
          obtain ⟨hlow, hhigh⟩ := of_decide_eq_true hstatus
          exact .inl ⟨_, .intro ⟨hlow, by omega⟩ hbody fits found⟩
      · exact .inr (fails_of_refusal ho)
    · exact .inr (fails_networkError _)

/-! ## Asking the provider -/

/-- The images that go with a request, when the calls `past` were made before. -/
def encoded (client : Client) (past : List Call) (refs : List ImageReference) :
    List EncodedImage :=
  (Vision.fetched client past refs).map Vision.image

/-- The call that sends a request. -/
def requestCall (g : Gemini) (prompt : Text) (images : List EncodedImage) : Call :=
  .send g.url [("key".codes, g.apiKey)] (payload prompt images)

/-- The outcome of the provider when the calls `past` were made before it is asked. -/
def outcomeAfter (g : Gemini) (access : Web.Access) (past : List Call) (prompt : Text)
    (refs : List ImageReference) : Outcome :=
  let images := encoded access.client past refs
  match access.client (past ++ refs.map Vision.fetchCall) (g.requestCall prompt images) with
  | .error failure => failed (failureError failure)
  | .ok r => outcome access.nesting prompt images.length r

/-- The calls that there are after the provider was asked. -/
def callsAfter (g : Gemini) (client : Client) (past : List Call) (prompt : Text)
    (refs : List ImageReference) : List Call :=
  past ++ refs.map Vision.fetchCall ++ [g.requestCall prompt (encoded client past refs)]

/-- The trace that asking the provider leaves, when so many clients have been opened. -/
def traceAfter (g : Gemini) (client : Client) (prompt : Text) (refs : List ImageReference)
    (opened : Nat) (t : Trace) : Trace :=
  { t with
    calls := g.callsAfter client t.calls prompt refs
    clientsOpened := opened
    events := t.events ++ (Vision.answers client t.calls refs).flatMap Vision.complaints }

/-- The outcome follows from the calls that were made before. Besides its calls, the provider only
leaves complaints about references, and perhaps a client that was opened. -/
theorem run_generate (g : Gemini) (access : Web.Access) (prompt : Text)
    (refs : List ImageReference) (t : Trace) :
    ∃ opened, (g.generate access prompt refs).run t =
      (g.outcomeAfter access t.calls prompt refs,
        g.traceAfter access.client prompt refs opened t) := by
  obtain ⟨opened, hreach⟩ := Run.exists_run_reach t access
  refine ⟨opened, ?_⟩
  -- The images that went with the request are counted in its parts again.
  simp only [generate, Run.run_bind, hreach, Vision.run_encodeImages, Run.run_call,
    imageCount_parts, outcomeAfter, traceAfter, callsAfter, encoded, requestCall]
  cases access.client (t.calls ++ refs.map Vision.fetchCall)
    (.send g.url [("key".codes, g.apiKey)]
      (payload prompt ((Vision.fetched access.client t.calls refs).map Vision.image))) with
  | error failure => rfl
  | ok r => rfl

theorem run_generate_fst (g : Gemini) (access : Web.Access) (prompt : Text)
    (refs : List ImageReference) (t : Trace) :
    ((g.generate access prompt refs).run t).1 =
      g.outcomeAfter access t.calls prompt refs := by
  obtain ⟨opened, hrun⟩ := g.run_generate access prompt refs t
  rw [hrun]

/-- Asked by the chain, the provider answers with its outcome. -/
theorem run_strategy (g : Gemini) (access : Web.Access) (prompt : Text)
    (refs : List ImageReference) (t : Trace) :
    ∃ opened, ((g.strategy access).generate prompt refs).run t =
      (.ok (g.outcomeAfter access t.calls prompt refs),
        g.traceAfter access.client prompt refs opened t) := by
  obtain ⟨opened, hrun⟩ := g.run_generate access prompt refs t
  refine ⟨opened, ?_⟩
  simp only [strategy, Run.run_bind, Run.run_pure, hrun]

/-- The answer to the request decides: the outcome has the images that it grants, and fails if it
grants none. -/
theorem outcomeAfter_cases (g : Gemini) (access : Web.Access) (past : List Call) (prompt : Text)
    (refs : List ImageReference) :
    let images := encoded access.client past refs
    let answer := access.client (past ++ refs.map Vision.fetchCall) (g.requestCall prompt images)
    let o := g.outcomeAfter access past prompt refs
    (∃ granted, Grants access.nesting prompt answer granted ∧
        o = ⟨name, granted, .null, images.length⟩) ∨
      (∀ granted, ¬Grants access.nesting prompt answer granted) ∧ Fails o := by
  intro images answer o
  have ho : o = match answer with
      | .error failure => failed (failureError failure)
      | .ok r => outcome access.nesting prompt images.length r := rfl
  cases hanswer : answer with
  | error failure =>
    rw [hanswer] at ho
    exact .inr ⟨nofun, ho ▸ fails_failureError failure⟩
  | ok r =>
    rw [hanswer] at ho
    rcases grants_or_fails access.nesting prompt images.length r with ⟨granted, h⟩ | hfails
    · exact .inl ⟨granted, h, ho.trans (outcome_of_grants images.length h)⟩
    · refine .inr ⟨?_, ho ▸ hfails⟩
      intro granted h
      -- Images that were granted would be in the outcome, which has none.
      obtain ⟨error, -, herror⟩ := hfails
      have hnone := (outcome_of_grants images.length h).symm.trans herror
      exact h.ne_nil (congrArg Outcome.images hnone)

/-- Whatever the service answers, asking the provider ends in an outcome, with images or with an
error but never with both or neither. The images are those that the answer to the request grants:
they are there if the answer reports success and its body is an object that holds some, and they are
one for each part with data, in order. References count as sent only if there are images. -/
theorem generate_grants_or_fails (g : Gemini) (access : Web.Access) (prompt : Text)
    (refs : List ImageReference) (t : Trace) :
    let sent := encoded access.client t.calls refs
    let answer := access.client (t.calls ++ refs.map Vision.fetchCall) (g.requestCall prompt sent)
    ∃ o u, ((g.strategy access).generate prompt refs).run t = (.ok o, u) ∧
      (o.images ≠ [] ↔ ¬o.error.truthy = true) ∧
      (∀ images, (images ≠ [] ∧ o.images = images) ↔ Grants access.nesting prompt answer images) ∧
      o.referencesSent = if o.images = [] then 0 else (sent.length : Int) := by
  intro sent answer
  obtain ⟨opened, hrun⟩ := g.run_strategy access prompt refs t
  refine ⟨_, _, hrun, ?_⟩
  -- The answer grants some images, or none at all and there is an error.
  rcases g.outcomeAfter_cases access t.calls prompt refs with
    ⟨granted, h, ho⟩ | ⟨hnone, error, htruthy, ho⟩
  · rw [ho]
    refine ⟨?_, ?_, ?_⟩
    · simp [h.ne_nil, Json.truthy]
    · intro images
      constructor
      · rintro ⟨-, rfl⟩
        exact h
      · intro h'
        -- An answer grants one list of images at most.
        exact ⟨h'.ne_nil, h.unique h'⟩
    · exact (if_neg h.ne_nil).symm
  · rw [ho]
    refine ⟨?_, ?_, ?_⟩
    · simp [failed, Outcome.failed, htruthy]
    · intro images
      constructor
      · rintro ⟨hne, rfl⟩
        exact absurd rfl hne
      · intro h
        exact absurd h (hnone images)
    · exact (if_pos rfl).symm

/-- A reply with two images, under the two names, each behind something that holds none. -/
theorem generate_reads_both_spellings :
    let candidate (parts : List Json) : Json :=
      .obj [("content".codes, .obj [("parts".codes, .arr parts)])]
    let data (t : Text) : Text × Json := ("data".codes, .str t)
    let reply : Json := .obj [("candidates".codes, .arr
      [candidate [.null, .obj [("inlineData".codes, .obj [data "QQ==".codes])]], .null,
        candidate [textPart "done".codes, .obj [("inlineData".codes, .obj []),
          ("inline_data".codes, .obj [("mime_type".codes, .str "image/webp".codes),
            data "Qg==".codes])]]])]
    let answer : Except Failure Response := .ok ⟨200, none, Json.printBytes reply⟩
    let g : Gemini := ⟨"key".codes, defaultModel, Web.defaultTimeout, defaultBaseUrl⟩
    let images : List GeneratedImage :=
      [⟨"data:image/png;base64,QQ==".codes, "a cat".codes⟩,
        ⟨"data:image/webp;base64,Qg==".codes, "a cat".codes⟩]
    ∃ o u, ((g.strategy ⟨fun _ _ => answer, true, 985⟩).generate "a cat".codes []).run .empty =
        (.ok o, u) ∧
      o.images = images ∧ o.error.truthy = false ∧ Grants 985 "a cat".codes answer images := by
  intro candidate data reply answer g images
  obtain ⟨o, u, hrun, herror, hgrants, -⟩ :=
    generate_grants_or_fails g ⟨fun _ _ => answer, true, 985⟩ "a cat".codes [] .empty
  -- The images are worked out; that they are granted follows from the theorem.
  have himages : o.images = images := by
    have hmade : (((g.strategy ⟨fun _ _ => answer, true, 985⟩).generate "a cat".codes []).run
        .empty).1.toOption.map Outcome.images = some images := by decide +kernel
    rw [hrun] at hmade
    exact Option.some.inj hmade
  have hne : images ≠ [] := List.cons_ne_nil _ _
  exact ⟨o, u, hrun, himages, by simpa [himages, hne] using herror,
    (hgrants images).mp ⟨hne, himages⟩⟩

end Generate.Gemini

end CanvasPrompt
