import CanvasPrompt.Proofs.Alternation
import CanvasPrompt.Proofs.Generate.Guarantee

/-!
# What the provider with a key is sent

Each reference is fetched once, in order, and then one request is sent. It holds an image and its
marker for each reference that could be fetched, and an instruction that speaks of references if
there are any and only then. This module has

* `Gemini.RequestParts prompt got parts`: the parts for the fetched references `got` are all in
  their places;
* `Gemini.SendsImage c`: the call sends a request with an image in it.

The main statement is `mode_tells_what_was_sent`: the mode of a result says whether an image was
sent to the provider that made it, however many references were given.
-/

namespace CanvasPrompt.Generate

open Alternation (getElem?_pairs_append getElem?_pairs_append_last length_flatMap_pair)
open Fallible (map_eq_ok)
open Run (Trace)
open Web (Access Call Client Response)

/-- An outcome has the mode of references if some reached the provider. -/
theorem Outcome.mode_eq_reference_iff {o : Outcome} :
    o.mode = .reference ↔ o.referencesSent ≠ 0 := by
  rw [mode]
  split
  · next h => simp [h]
  · next h => simp [h]

namespace Gemini

variable {prompt : Text}

/-! ## The parts of a request -/

theorem head?_instruction (prompt : Text) (referring : Bool) :
    (instruction prompt referring).head? = some (if referring then 'B' else 'G') := by
  cases referring with
  | true => rfl
  | false => rfl

/-- The two wordings of the instruction differ, whatever the prompt is. -/
theorem instruction_injective (prompt : Text) : Function.Injective (instruction prompt) := by
  intro b b' h
  have hhead := congrArg List.head? h
  rw [head?_instruction, head?_instruction] at hhead
  cases b <;> cases b' <;> simp_all

/-- The parts of a request for a prompt, when the references `got` were fetched with these
responses. -/
structure RequestParts (prompt : Text) (got : List (ImageReference × Response))
    (parts : List Json) : Prop where
  /-- There are two parts for each reference and one for the instruction. -/
  length_eq : parts.length = 2 * got.length + 1
  /-- The image of each reference stands at an even index. -/
  image : ∀ n ref response, got[n]? = some (ref, response) →
    parts[2 * n]? = some (imagePart (.ofResponse ref response))
  /-- The marker behind it tells role, label and note of the same reference. -/
  marker : ∀ n ref response, got[n]? = some (ref, response) →
    parts[2 * n + 1]? = some (textPart (Prompt.marker ref.role.name ref.altLabel ref.note))
  /-- The last part is the instruction that speaks of references, if there are any. -/
  referring : parts[2 * got.length]? = some (textPart (instruction prompt true)) ↔ got ≠ []
  /-- The last part is the plain instruction, if there are none. -/
  plain : parts[2 * got.length]? = some (textPart (instruction prompt false)) ↔ got = []

theorem requestParts_parts (prompt : Text) (got : List (ImageReference × Response)) :
    RequestParts prompt got (parts prompt (got.map Vision.image)) := by
  let pair (a : ImageReference × Response) : List Json :=
    [imagePart (Vision.image a), textPart (Vision.image a).marker]
  have hparts : parts prompt (got.map Vision.image) =
      got.flatMap pair ++ [textPart (instruction prompt !(got.map Vision.image).isEmpty)] :=
    congrArg (· ++ _) (List.flatMap_map ..)
  -- As the two wordings differ, the last part tells which one it is.
  have hlast (referring : Bool) : (parts prompt (got.map Vision.image))[2 * got.length]? =
      some (textPart (instruction prompt referring)) ↔ (!got.isEmpty) = referring := by
    rw [hparts, getElem?_pairs_append_last, List.isEmpty_map]
    simp [textPart, (instruction_injective prompt).eq_iff]
  refine ⟨?_, ?_, ?_, ?_, ?_⟩
  · rw [hparts, List.length_append, length_flatMap_pair]
    rfl
  · intro n ref response hn
    rw [hparts]
    exact (getElem?_pairs_append hn).1
  · intro n ref response hn
    rw [hparts]
    exact (getElem?_pairs_append hn).2
  · simp [hlast]
  · simp [hlast]

/-- The call sends a request with an image in it. -/
def SendsImage (c : Call) : Prop :=
  ∃ url parameters parts, c = .send url parameters (request parts) ∧ ∃ i, imagePart i ∈ parts

theorem sendsImage_requestCall_iff {g : Gemini} {images : List EncodedImage} :
    SendsImage (g.requestCall prompt images) ↔ images ≠ [] := by
  constructor
  · rintro ⟨url, parameters, sent, hcall, i, hi⟩
    have hsent : parts prompt images = sent := by
      simp only [requestCall, payload, request, Call.send.injEq] at hcall
      simpa using hcall.2.2
    -- An image among the parts is counted, and the count is that of the images given.
    have hcount : 0 < imageCount (parts prompt images) :=
      List.countP_pos_iff.mpr ⟨imagePart i, hsent ▸ hi, holdsImage_imagePart i⟩
    rw [imageCount_parts] at hcount
    exact List.ne_nil_of_length_pos hcount
  · intro h
    obtain ⟨i, rest, rfl⟩ := List.exists_cons_of_ne_nil h
    exact ⟨_, _, _, rfl, i, List.mem_cons_self⟩

/-! ## The mode of an outcome -/

theorem mode_of_made {g : Gemini} {access : Access} {past : List Call}
    {refs : List ImageReference} (made : (g.outcomeAfter access past prompt refs).images ≠ []) :
    (g.outcomeAfter access past prompt refs).mode = .reference ↔
      Vision.fetched access.client past refs ≠ [] := by
  rw [Outcome.mode_eq_reference_iff, referencesSent_of_made made]
  simp

end Gemini

open Gemini (RequestParts SendsImage request)

/-- If a provider makes images, its outcome has the mode of references exactly if it is the provider
with a key and its last call sent an image. -/
theorem Provider.mode_of_made {p : Provider} {access : Access} {chance : Int} {prompt : Text}
    {refs : List ImageReference} {t u : Trace} {o : Outcome} (made : o.images ≠ [])
    (asked : ((p.strategy access chance).generate prompt refs).run t = (.ok o, u)) :
    o.mode = .reference ↔ (p.strategy access chance).name = Gemini.name ∧
      ∃ c ∈ u.calls.getLast?, SendsImage c := by
  cases p with
  | gemini g =>
    obtain ⟨opened, hrun⟩ := g.run_strategy access prompt refs t
    cases hrun.symm.trans asked
    -- The last call is the request, and it holds the images that were fetched.
    rw [Gemini.mode_of_made made, Gemini.traceAfter, Gemini.callsAfter, List.getLast?_concat]
    simp [strategy, Gemini.strategy, Gemini.sendsImage_requestCall_iff, Gemini.encoded]
  | pollinations p =>
    -- The keyless provider sends no references, and its name is another one.
    have hsent : o.referencesSent = 0 :=
      Pollinations.referencesSent_of_run_generate (congrArg Prod.fst asked)
    have hname : Pollinations.name ≠ Gemini.name := by decide +kernel
    rw [Outcome.mode_eq_reference_iff, hsent]
    simp [strategy, Pollinations.strategy, hname]

/-! ## The mode of a result -/

/-- The last visit ends with the calls that it leaves. -/
theorem Visits.exists_last {prompt : Text} {refs : List ImageReference} {t t' : Trace}
    {before : List Visit} {v : Visit} (h : Visits prompt refs t (before ++ [v]) t') :
    ∃ t₀ u, (v.strategy.generate prompt (v.attempt prompt refs).references).run t₀ = (v.answer, u) ∧
      t'.calls = u.calls := by
  -- The visits in front only lead to the trace in which the last one begins.
  induction before generalizing t with
  | nil =>
    cases h with
    | cons asked later =>
      cases later
      exact ⟨_, _, asked, rfl⟩
  | cons w rest ih =>
    cases h with
    | cons asked later => exact ih later

/-- The last of the visits is one to some provider of the chain. -/
theorem exists_asked {access : Access} {chance : Int} {providers : List Provider} {prompt : Text}
    {refs : List ImageReference} {t t' : Trace} {before : List Visit} {v : Visit}
    {uncalled : List Strategy}
    (hsplit : providers.map (Provider.strategy access chance) =
      (before ++ [v]).map Visit.strategy ++ uncalled)
    (hvisits : Visits prompt refs t (before ++ [v]) t') :
    ∃ p : Provider, p.strategy access chance = v.strategy ∧
      ∃ t₀ u, (v.strategy.generate prompt (v.attempt prompt refs).references).run t₀ =
        (v.answer, u) ∧ t'.calls = u.calls := by
  have hv : v.strategy ∈ providers.map (Provider.strategy access chance) := by simp [hsplit]
  obtain ⟨p, -, hp⟩ := List.mem_map.mp hv
  exact ⟨p, hp, hvisits.exists_last⟩

/-- A provider that makes images is sent no more references than there are. -/
theorem Provider.isShort_referencesSent {p : Provider} {access : Access} {chance : Int}
    {prompt : Text} {refs : List ImageReference} {t u : Trace} {o : Outcome}
    (hrefs : Text.IsShort refs.length) (made : o.images ≠ [])
    (asked : ((p.strategy access chance).generate prompt refs).run t = (.ok o, u)) :
    Text.IsShort o.referencesSent := by
  cases p with
  | gemini g =>
    obtain ⟨opened, hrun⟩ := g.run_strategy access prompt refs t
    cases hrun.symm.trans asked
    exact Gemini.isShort_referencesSent hrefs made
  | pollinations p =>
    rw [Pollinations.referencesSent_of_run_generate (congrArg Prod.fst asked)]
    decide

/-- What a strategy is given is no more than there is. -/
theorem length_attempt_references_le (prompt : Text) (refs : List ImageReference) (v : Visit) :
    (v.attempt prompt refs).references.length ≤ refs.length := by
  rw [Visit.attempt]
  split
  · exact Nat.le_refl _
  · exact Nat.zero_le _

/-- A chain of providers has a result, unless there are so many references that their number cannot
be written out. -/
theorem exists_result_dispatchAfter (access : Access) (chance : Int) (providers : List Provider)
    (lastError : Json) (prompt : Text) {refs : List ImageReference}
    (hrefs : Text.IsShort refs.length) (t : Trace) :
    ∃ result, ((dispatchAfter lastError prompt refs
      (providers.map (Provider.strategy access chance))).run t).1 = .ok result := by
  obtain ⟨called, uncalled, t', hsplit, hvisits, hend⟩ := run_dispatchAfter prompt refs lastError
    (providers.map (Provider.strategy access chance)) t
  generalize (dispatchAfter lastError prompt refs
    (providers.map (Provider.strategy access chance))).run t = r at hend
  cases hend with
  | success => exact ⟨_, rfl⟩
  | failure => exact ⟨_, rfl⟩
  | @breakdown before s o _ _ _ made long =>
    -- No provider sends more references than it is given, and these can be counted.
    obtain ⟨p, rfl, t₀, u, asked, -⟩ := exists_asked hsplit hvisits
    have hgiven := length_attempt_references_le prompt refs ⟨p.strategy access chance, .ok o⟩
    exact absurd (Provider.isShort_referencesSent (hrefs.mono hgiven) made asked) long

theorem mode_dispatchAfter_eq_reference_iff (access : Access) (chance : Int)
    (providers : List Provider) (lastError : Json) (prompt : Text) (refs : List ImageReference)
    (t : Trace) {result : Result} :
    let r := (dispatchAfter lastError prompt refs
      (providers.map (Provider.strategy access chance))).run t
    r.1 = .ok result →
      (result.mode = .reference ↔ result.provider = some Gemini.name ∧
        ∃ c ∈ r.2.calls.getLast?, SendsImage c) := by
  intro r hresult
  obtain ⟨called, uncalled, t', hsplit, hvisits, hend⟩ := run_dispatchAfter prompt refs lastError
    (providers.map (Provider.strategy access chance)) t
  change Concludes lastError called uncalled t' r at hend
  clear_value r
  cases hend with
  -- The result is that of the last visit, which is one to some provider of the chain.
  | @success before s o _ _ _ made =>
    cases hresult
    obtain ⟨p, rfl, t₀, u, asked, hcalls⟩ := exists_asked hsplit hvisits
    rw [hcalls, Option.some_inj]
    exact Provider.mode_of_made made asked
  | breakdown => cases hresult
  | failure _ =>
    cases hresult
    simp

/-- The keyless provider alone makes no images from references. -/
theorem run_dispatchAfter_keyless (config : Config) (access : Access) (chance : Int)
    (lastError : Json) {prompt : Text} (hprompt : prompt ≠ []) (refs : List ImageReference)
    (t : Trace) :
    ∃ result, ((dispatchAfter lastError prompt refs
        (config.keyless.map (Provider.strategy access chance))).run t).1 = .ok result ∧
      result.provider ≠ some Gemini.name ∧ result.mode = .generate := by
  rw [Config.keyless]
  split
  · rw [List.map_singleton, Provider.strategy]
    obtain ⟨events, hrun⟩ :=
      run_dispatchAfter_pollinations lastError ⟨_, _, _, _⟩ chance hprompt refs t
    obtain ⟨hmode, hprovider⟩ := Pollinations.mode_result ⟨_, _, _, _⟩ chance prompt
    exact ⟨_, congrArg Prod.fst hrun, hprovider, hmode⟩
  · exact ⟨_, rfl, nofun, rfl⟩

/-- The provider with a key is asked first, so that its references are the first to be fetched. -/
theorem mode_generate_eq_reference_iff (config : Config) (preferred : Option Text)
    (access : Access) (chance : Int) (prompt : Option Text) (refs : List ImageReference)
    (t : Trace) {result : Result}
    (hresult : ((generate config preferred access chance prompt refs).run t).1 = .ok result) :
    result.mode = .reference ↔
      result.provider = some Gemini.name ∧ Vision.fetched access.client t.calls refs ≠ [] := by
  have hprompt := effectivePrompt_ne_nil prompt
  change ((dispatchAfter noProvider (effectivePrompt prompt) refs
      ((config.providers preferred).map (Provider.strategy access chance))).run t).1 = _ at hresult
  -- Once the keyless provider alone is left, neither side of the equivalence holds.
  have hkeyless (error : Json) (u : Trace)
      (hru : ((dispatchAfter error (effectivePrompt prompt) refs
        (config.keyless.map (Provider.strategy access chance))).run u).1 = .ok result) :
      result.mode = .reference ↔
        result.provider = some Gemini.name ∧ Vision.fetched access.client t.calls refs ≠ [] := by
    obtain ⟨_, hrun, hprovider, hmode⟩ :=
      run_dispatchAfter_keyless config access chance error hprompt refs u
    cases hrun.symm.trans hru
    simp [hprovider, hmode]
  rcases config.providers_cases preferred with hchain | ⟨g, hchain⟩
  · rw [hchain] at hresult
    exact hkeyless noProvider t hresult
  · rw [hchain, List.map_cons] at hresult
    by_cases made : (g.outcomeAfter access t.calls (effectivePrompt prompt) refs).images = []
    · obtain ⟨error, u, hrun, -⟩ := run_dispatchAfter_gemini_of_not_made noProvider g access
        (config.keyless.map (Provider.strategy access chance)) refs t made
      exact hkeyless error u (hrun ▸ hresult)
    · obtain ⟨u, hrun, -⟩ := run_dispatchAfter_gemini_of_made noProvider g access
        (config.keyless.map (Provider.strategy access chance)) refs t made
      obtain ⟨sent, -, rfl⟩ := map_eq_ok.mp ((congrArg Prod.fst hrun).symm.trans hresult)
      simpa using Gemini.mode_of_made made

/-- The provider with a key fetches each reference once, in order, and then sends one request, with
an image and its marker for each reference that could be fetched and an instruction behind them. An
outcome with images tells how many there were. A chain therefore ends in the mode of references
exactly if the provider with a key made its images and was sent an image last, and generating does
so exactly if that provider made the images and some reference could be fetched. Both have a result,
as long as the number of references can be written out. -/
theorem mode_tells_what_was_sent (access : Access) (chance : Int) (refs : List ImageReference)
    (t : Trace) :
    let got := Vision.fetched access.client t.calls refs
    (∀ (g : Gemini) (prompt : Text),
      let r := (g.generate access prompt refs).run t
      (∃ parts, RequestParts prompt got parts ∧
        r.2.calls = t.calls ++ refs.map Vision.fetchCall ++
          [.send g.url [("key".codes, g.apiKey)] (request parts)]) ∧
      (r.1.images ≠ [] → r.1.referencesSent = got.length)) ∧
    (∀ (prompt : Option Text) (providers : List Provider),
      let r := (dispatch prompt refs (providers.map (Provider.strategy access chance))).run t
      (Text.IsShort refs.length → ∃ result, r.1 = .ok result) ∧
      ∀ result, r.1 = .ok result →
        (result.mode = .reference ↔ result.provider = some Gemini.name ∧
          ∃ c ∈ r.2.calls.getLast?, SendsImage c)) ∧
    ∀ (config : Config) (preferred prompt : Option Text),
      let r := (generate config preferred access chance prompt refs).run t
      (Text.IsShort refs.length → ∃ result, r.1 = .ok result) ∧
      ∀ result, r.1 = .ok result →
        (result.mode = .reference ↔ result.provider = some Gemini.name ∧ got ≠ []) := by
  intro got
  refine ⟨?_, ?_, ?_⟩
  · intro g prompt
    -- The provider alone: what it was given is fetched first, and sent in one request.
    obtain ⟨opened, hrun⟩ := g.run_generate access prompt refs t
    dsimp only
    rw [hrun]
    exact ⟨⟨_, Gemini.requestParts_parts prompt got, rfl⟩, Gemini.referencesSent_of_made⟩
  · intro prompt providers
    refine ⟨fun hrefs => ?_, fun result hresult => ?_⟩
    · exact exists_result_dispatchAfter access chance providers noProvider (effectivePrompt prompt)
        hrefs t
    · exact mode_dispatchAfter_eq_reference_iff access chance providers noProvider
        (effectivePrompt prompt) refs t hresult
  · intro config preferred prompt
    refine ⟨fun hrefs => ?_, fun result hresult => ?_⟩
    · exact exists_result_dispatchAfter access chance (config.providers preferred) noProvider
        (effectivePrompt prompt) hrefs t
    · exact mode_generate_eq_reference_iff config preferred access chance prompt refs t hresult

/-- Of two references the first is lost: only the other one is sent, and counted. -/
theorem lost_reference_is_not_sent :
    let lost : ImageReference := ⟨"https://x/lost".codes, none, none, .subject⟩
    let kept : ImageReference := ⟨"https://x/kept".codes, some "sky".codes, none, .style⟩
    let response : Response := ⟨200, some "image/png".codes, [1, 2, 3]⟩
    let made : EncodedImage := ⟨kept, "image/png".codes, "BA==".codes⟩
    let reply : Json := .obj [("candidates".codes, .arr [.obj [("content".codes,
      .obj [("parts".codes, .arr [Gemini.imagePart made])])]])]
    let client : Client := fun _ call => match call with
      | .fetch url => if url = kept.url then .ok response else .error ⟨.connect, []⟩
      | .send _ _ _ => .ok ⟨200, none, Json.printBytes reply⟩
    let g : Gemini := ⟨"key".codes, Gemini.defaultModel, Web.defaultTimeout, Gemini.defaultBaseUrl⟩
    let r := (g.generate ⟨client, true, 985⟩ "a cat".codes [lost, kept]).run .empty
    r.1.images ≠ [] ∧ r.1.referencesSent = 1 ∧
      ∃ parts, RequestParts "a cat".codes [(kept, response)] parts ∧
        r.2.calls = [.fetch lost.url, .fetch kept.url,
          .send g.url [("key".codes, "key".codes)] (request parts)] := by
  intro lost kept response made reply client g r
  have hgot : Vision.fetched client [] [lost, kept] = [(kept, response)] := by decide +kernel
  have himages : r.1.images ≠ [] := by decide +kernel
  obtain ⟨hsent, -, -⟩ := mode_tells_what_was_sent ⟨client, true, 985⟩ 0 [lost, kept] .empty
  obtain ⟨⟨parts, hparts, hcalls⟩, hcount⟩ := hsent g "a cat".codes
  refine ⟨himages, ?_, parts, ?_, hcalls⟩
  · exact (hcount himages).trans (congrArg (fun got => (got.length : Int)) hgot)
  · rw [← hgot]
    exact hparts

end CanvasPrompt.Generate
