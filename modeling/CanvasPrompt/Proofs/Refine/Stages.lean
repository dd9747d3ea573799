import CanvasPrompt.Proofs.Vision.Fetching
import CanvasPrompt.Refine.Basic

/-!
# What the stages of refining do

The stages of refining hand on what they have found, and each of them may bring the work to its end.
This module says what they come to when the service is consulted:

* `answer options service`: what comes back from the service;
* `sent options request`: the requests that reach it, one if there is time and else none;
* `settle service c answer`: the result for what came back.

The main statement is `run_refine_some`: after the images were fetched, the request is sent and the
result is settled from the answer alone.
-/

namespace CanvasPrompt.Refine

open Run (Event Trace)

/-! ## The prompts made without a service -/

theorem codes_ne_nil {s : String} (h : s ≠ "") : s.codes ≠ [] :=
  mt String.codes_eq_nil_iff.mp h

theorem qualitySuffix_ne_nil : Prompt.qualitySuffix ≠ [] := by
  refine codes_ne_nil ?_
  decide

/-- Of two texts those that are not empty are joined. -/
theorem joinPresent_pair (sep a b : Text) :
    Text.joinPresent sep [a, b] =
      if a = [] then b else if b = [] then a else a ++ sep ++ b := by
  cases a with
  | nil =>
    cases b with
    | nil => rfl
    | cons y b => simp [Text.joinPresent, List.intercalate]
  | cons x a =>
    cases b with
    | nil => simp [Text.joinPresent, List.intercalate]
    | cons y b => simp [Text.joinPresent, List.intercalate]

/-- What is joined to a text comes after it. -/
theorem prefix_joinPresent_pair (sep a b : Text) : a <+: Text.joinPresent sep [a, b] := by
  rw [joinPresent_pair]
  split
  · next ha => exact ha ▸ List.nil_prefix
  · split
    · exact List.prefix_rfl
    · rw [List.append_assoc]
      exact List.prefix_append _ _

/-- A text that is put in the place of an empty one is no shorter. -/
theorem prefix_orElse (a b : Text) : a <+: Text.orElse a b := by
  cases a with
  | nil => exact List.nil_prefix
  | cons x a => exact List.prefix_rfl

/-- The prompt without the service begins with what the user said. -/
theorem userPrompt_prefix_directPrompt (c : Context) : c.userPrompt <+: directPrompt c := by
  rw [directPrompt]
  exact (prefix_joinPresent_pair _ _ _).trans (prefix_orElse _ _)

theorem directPrompt_ne_nil (c : Context) : directPrompt c ≠ [] := by
  rw [directPrompt]
  cases Text.joinPresent ", ".codes [c.userPrompt, c.simplePrompt] with
  | nil => exact qualitySuffix_ne_nil
  | cons x rest => exact List.cons_ne_nil x rest

/-- The fallback begins with what the user said. -/
theorem userPrompt_prefix_fallbackPrompt (c : Context) : c.userPrompt <+: fallbackPrompt c := by
  rw [fallbackPrompt]
  exact (prefix_orElse _ _).trans (prefix_joinPresent_pair _ _ _)

theorem fallbackPrompt_ne_nil (c : Context) : fallbackPrompt c ≠ [] := by
  rw [fallbackPrompt, joinPresent_pair, if_neg qualitySuffix_ne_nil]
  split
  · exact qualitySuffix_ne_nil
  · next hbase =>
    rw [List.append_assoc]
    exact List.append_ne_nil_of_left_ne_nil hbase _

/-! ## Fetching and asking -/

/-- Fetching the images of a context makes one call for each of them, whether or not a client has to
be opened, and asks nothing of the service. -/
theorem run_encodeAll (access : Web.Access) (refs : List ImageReference) (t : Trace) :
    ∃ u, (encodeAll access refs).run t =
        ((Vision.fetched access.client t.calls refs).map Vision.image, u) ∧
      u.calls = t.calls ++ refs.map Vision.fetchCall ∧ u.requests = t.requests := by
  cases refs with
  | nil => exact ⟨t, rfl, (List.append_nil _).symm, rfl⟩
  | cons ref rest =>
    obtain ⟨opened, hreach⟩ := Run.exists_run_reach t access
    simp only [encodeAll, List.isEmpty_cons, Bool.false_eq_true, ↓reduceIte, Run.run_bind, hreach,
      Vision.run_encodeImages]
    -- Images that could not be had are only reported.
    split
    · exact ⟨_, rfl, rfl, rfl⟩
    · exact ⟨_, rfl, rfl, rfl⟩

/-- What comes back from a service: its reply if there is time for one. -/
def answer (options : Options) (service : Reasoner) : Except Error Json :=
  if options.timeout.atMostZero then .error .timeout else service.behaviour.reply

/-- The requests that reach a service: none if there is no time. -/
def sent (options : Options) (request : List Reasoning.Message) : List (List Reasoning.Message) :=
  if options.timeout.atMostZero then [] else [request]

theorem length_sent_le (options : Options) (request : List Reasoning.Message) :
    (sent options request).length ≤ 1 := by
  rw [sent]
  split
  · exact Nat.zero_le 1
  · exact Nat.le_refl 1

/-- Asking a service sends the request and changes nothing else. -/
theorem run_ask (options : Options) (service : Reasoner) (request : List Reasoning.Message)
    (t : Trace) :
    (ask options service request).run t =
      (answer options service, { t with requests := t.requests ++ sent options request }) := by
  rw [ask, answer, sent]
  cases options.timeout.atMostZero with
  | true =>
    simp only [↓reduceIte, List.append_nil]
    rfl
  | false => rfl

/-! ## Settling the result -/

/-- What refining gives for what came back from a service. -/
def settle (service : Reasoner) (c : Context) : Except Error Json → Result
  | .error e => ⟨fallbackPrompt c, "fallback".codes, some e⟩
  | .ok reply =>
    match promptOf reply with
    | .error e => ⟨fallbackPrompt c, "fallback".codes, some (.unusableReply e)⟩
    | .ok [] => ⟨fallbackPrompt c, "fallback".codes, some .emptyReply⟩
    | .ok (x :: rest) => ⟨x :: rest, service.name, none⟩

/-- What is found when the service was asked. -/
def Progress.answered (p : Progress) : Except Error Json → Progress
  | .ok reply => { p with reply, error := none }
  | .error e => { p with reply := .null, error := some e }

theorem run_askService (service : Reasoner) (options : Options) (c : Context) (p : Progress)
    (t : Trace) :
    (askService service options c p).run t =
      (p.answered (answer options service),
        { t with requests := t.requests ++ sent options (messages options c p.images) }) := by
  simp only [askService, Run.run_bind, run_ask]
  cases answer options service with
  | error e => rfl
  | ok reply => rfl

/-- Falling back after an error gives the fallback with that error. -/
theorem run_fallBack {p : Progress} {e : Error} (c : Context) (t : Trace) (hp : p.error = some e) :
    (fallBack c p >>= fun p => conclude c (.ok p)).run t =
      (⟨fallbackPrompt c, "fallback".codes, some e⟩,
        { t with events := t.events ++ [.refineFellBack e.message] }) := by
  have hfallback : (fallbackPrompt c).isEmpty = false :=
    List.isEmpty_eq_false_iff.mpr (fallbackPrompt_ne_nil c)
  simp only [Run.run_bind, fallBack, Run.run_report, Run.run_pure, conclude, hfallback, hp,
    Bool.false_eq_true, ↓reduceIte]
  rfl

/-- After the service was asked the answer settles the result, and all else that happens is
reported. -/
theorem run_cleanOrFallBack (service : Reasoner) (c : Context) (images : List EncodedImage)
    (a : Except Error Json) (t : Trace) :
    ∃ reported : List Event,
      (cleanOrFallBack service c
          (Progress.answered { Progress.start with images } a) >>= conclude c).run t =
        (settle service c a, { t with events := t.events ++ reported }) := by
  cases a with
  | error e => exact ⟨_, run_fallBack c t rfl⟩
  | ok reply =>
    simp only [Run.run_bind, cleanOrFallBack, cleanReply, Progress.answered, settle]
    cases promptOf reply with
    -- The stage breaks off here, and its error is caught outside of the stages.
    | error e => exact ⟨_, rfl⟩
    | ok prompt =>
      cases prompt with
      | nil => exact ⟨_, run_fallBack c t rfl⟩
      | cons x rest => exact ⟨[], by rw [List.append_nil]; rfl⟩

/-- With work to do, each image is fetched once, the request for those that were brought is sent,
and what comes back from the service settles the result. -/
theorem run_refine_some (service : Reasoner) (options : Options) (access : Web.Access)
    (c : Context) (t : Trace) (hwork : isTrivial c = false) :
    ∃ t', (refine (some service) options access c).run t =
        (settle service c (answer options service), t') ∧
      t'.calls = t.calls ++ c.images.map Vision.fetchCall ∧
        t'.requests = t.requests ++ sent options (messages options c
          ((Vision.fetched access.client t.calls c.images).map Vision.image)) := by
  -- `u` is the trace after the images were fetched, `asked` the one after the request.
  obtain ⟨u, hfetch, hcalls, hrequests⟩ := run_encodeAll access c.images t
  let images := (Vision.fetched access.client t.calls c.images).map Vision.image
  let asked : Trace := { u with requests := u.requests ++ sent options (messages options c images) }
  obtain ⟨reported, hsettle⟩ :=
    run_cleanOrFallBack service c images (answer options service) asked
  refine ⟨{ asked with events := asked.events ++ reported }, ?_, hcalls, ?_⟩
  · rw [← hsettle]
    simp only [refine, goThrough, hwork, Bool.false_eq_true, ↓reduceIte, consult, fetchImages,
      run_askService, Run.run_bind, Run.run_pure, hfetch]
    rfl
  · show u.requests ++ sent options (messages options c images) = _
    rw [hrequests]

end CanvasPrompt.Refine
