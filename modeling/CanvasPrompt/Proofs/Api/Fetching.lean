import CanvasPrompt.Proofs.Api.Isolation
import CanvasPrompt.Proofs.Context.Selection
import CanvasPrompt.Proofs.Generate.Guarantee
import CanvasPrompt.Proofs.Refine.Outcome
import CanvasPrompt.Proofs.Url.WebAddress

/-!
# What the service fetches

The service fetches references of the canvas, and nothing else. Since a canvas has references only
for addresses on the web, handles of a browser, files and relative paths are never fetched. This
module introduces

* `IsFetchable url`: the URL, as it is read, is an address on the web;
* `FetchesOnly P t u`: from the trace `t` to the trace `u` calls were added, and each of them that
  fetches something fetches a URL that satisfies `P`.

The main statement is `only_web_addresses_are_fetched`.
-/

namespace CanvasPrompt

open Run (Trace)
open Url (IsPlain WebAddress cleaned isPersisted)
open Web (Access Call)

/-- The URL, as it is read, is an address on the web. -/
def Url.IsFetchable (url : Text) : Prop :=
  ∃ authority, WebAddress (cleaned url) authority

/-- From the first trace to the second one calls were added, and what they fetch satisfies `P`. -/
def Run.FetchesOnly (P : Text → Prop) (t u : Trace) : Prop :=
  ∃ added, u.calls = t.calls ++ added ∧ ∀ url, Call.fetch url ∈ added → P url

open Run (FetchesOnly)

variable {P : Text → Prop} {t u v : Trace}

namespace Run.FetchesOnly

theorem of_calls_eq (h : u.calls = t.calls) : FetchesOnly P t u :=
  ⟨[], by rw [h, List.append_nil], nofun⟩

theorem trans (h : FetchesOnly P t u) (h' : FetchesOnly P u v) : FetchesOnly P t v := by
  obtain ⟨added, hu, hadded⟩ := h
  obtain ⟨later, hv, hlater⟩ := h'
  refine ⟨added ++ later, by rw [hv, hu, List.append_assoc], ?_⟩
  intro url hurl
  rcases List.mem_append.mp hurl with hurl | hurl
  · exact hadded url hurl
  · exact hlater url hurl

/-- Fetching references fetches their URLs. -/
theorem of_references {refs : List ImageReference} (hrefs : ∀ ref ∈ refs, P ref.url)
    {others : List Call} (hothers : ∀ url, Call.fetch url ∉ others)
    (h : u.calls = t.calls ++ refs.map Vision.fetchCall ++ others) : FetchesOnly P t u := by
  refine ⟨refs.map Vision.fetchCall ++ others, by rw [h, List.append_assoc], ?_⟩
  intro url hurl
  rcases List.mem_append.mp hurl with hurl | hurl
  · obtain ⟨ref, href, hcall⟩ := List.mem_map.mp hurl
    exact Call.fetch.inj hcall ▸ hrefs ref href
  · exact absurd hurl (hothers url)

end Run.FetchesOnly

/-! ## References -/

/-- What is fetchable stays so without the white space around it. -/
theorem Url.isFetchable_strip {url : Text} : IsFetchable (Text.strip url) ↔ IsFetchable url := by
  have hcleaned : cleaned (Text.strip url) = cleaned url := by
    rw [cleaned, Text.strip, Text.strip, Text.trim_trim]
    rfl
  rw [IsFetchable, hcleaned, IsFetchable]

theorem Url.isFetchable_of_isPersisted {url : Text} (h : isPersisted url = true) :
    IsFetchable url := by
  obtain ⟨authority, haddress, -⟩ := Url.isPersisted_iff.mp h
  exact ⟨authority, haddress⟩

namespace Context

variable {s : Snapshot} {ref : ImageReference}

/-- A canvas has references only for what is fetchable. -/
theorem isFetchable_of_mem_references (h : ref ∈ references s) : Url.IsFetchable ref.url := by
  rw [references_eq] at h
  obtain ⟨n, hn, rfl⟩ := List.mem_map.mp h
  have hpersisted := (List.mem_filter.mp hn).2
  cases hurl : n.sourceUrl with
  | none =>
    rw [hurl] at hpersisted
    cases hpersisted
  | some url =>
    rw [hurl] at hpersisted
    exact Url.isFetchable_strip.mpr (Url.isFetchable_of_isPersisted hpersisted)

/-- The images of a context are references of the canvas. -/
theorem mem_references_of_mem_images {userPrompt : Text} {perRoleCap : Int} {maxImages : Option Int}
    (h : ref ∈ (assemble s userPrompt perRoleCap maxImages).images) : ref ∈ references s := by
  obtain ⟨role, -, hbucket⟩ := List.mem_flatMap.mp h
  rw [bucket_assemble, ofRole, included_eq] at hbucket
  obtain ⟨i, -, hi⟩ := List.mem_map.mp (List.mem_filter.mp hbucket).1
  exact hi ▸ List.get_mem _ i

theorem isFetchable_of_mem_images {userPrompt : Text} {perRoleCap : Int} {maxImages : Option Int}
    (h : ref ∈ (assemble s userPrompt perRoleCap maxImages).images) : Url.IsFetchable ref.url :=
  isFetchable_of_mem_references (mem_references_of_mem_images h)

end Context

/-! ## Refining -/

theorem Refine.refine_fetchesOnly (service : Option Reasoner) (options : Options) (access : Access)
    {c : Context} (hc : ∀ ref ∈ c.images, P ref.url) (t : Trace) :
    FetchesOnly P t ((refine service options access c).run t).2 := by
  by_cases hdirect : GoesDirect service c
  · rw [run_refine_direct access hdirect]
    exact .of_calls_eq rfl
  · obtain ⟨s, rfl, hwork⟩ := exists_service_of_not_direct hdirect
    obtain ⟨t', hrun, hcalls, -⟩ := run_refine_some s options access c t hwork
    rw [hrun]
    exact .of_references hc (fun _ => List.not_mem_nil) (by rw [hcalls, List.append_nil])

/-! ## Generating -/

namespace Generate

/-- The strategy fetches references that it is given, and nothing else. -/
def Strategy.FetchesReferences (s : Strategy) : Prop :=
  ∀ (P : Text → Prop) (prompt : Text) (refs : List ImageReference) (t : Trace),
    (∀ ref ∈ refs, P ref.url) → FetchesOnly P t ((s.generate prompt refs).run t).2

/-- The provider with a key fetches references before it sends its request, and the keyless one
fetches nothing. -/
theorem Provider.strategy_fetchesReferences (access : Access) (chance : Int) (p : Provider) :
    (p.strategy access chance).FetchesReferences := by
  intro P prompt refs t hrefs
  cases p with
  | gemini g =>
    -- Behind the fetches there is only the request, which is no fetch.
    obtain ⟨opened, hrun⟩ := g.run_strategy access prompt refs t
    rw [strategy, hrun]
    exact .of_references hrefs (by simp [Gemini.requestCall]) rfl
  | pollinations p =>
    refine .of_calls_eq ?_
    simp only [strategy, Pollinations.strategy, Pollinations.generate]
    cases prompt.isEmpty with
    | true => rfl
    | false => rfl

variable {prompt : Text} {refs : List ImageReference}

/-- A strategy is given references of the request, if any. -/
theorem Visit.mem_of_mem_references {v : Visit} {ref : ImageReference}
    (h : ref ∈ (v.attempt prompt refs).references) : ref ∈ refs := by
  rw [attempt] at h
  split at h
  · exact h
  · cases h

/-- Visits fetch what their strategies do. -/
theorem Visits.fetchesOnly {called : List Visit} (h : Visits prompt refs t called u)
    (hrefs : ∀ ref ∈ refs, P ref.url) (hcalled : ∀ v ∈ called, v.strategy.FetchesReferences) :
    FetchesOnly P t u := by
  induction h with
  | nil t => exact .of_calls_eq rfl
  | @cons t u t' v rest asked later ih =>
    obtain ⟨hv, hrest⟩ := List.forall_mem_cons.mp hcalled
    -- To record the attempt and to report the visit is no call.
    have hasked := hv P prompt (v.attempt prompt refs).references
      { t with attempts := t.attempts ++ [v.attempt prompt refs] }
      fun ref href => hrefs ref (Visit.mem_of_mem_references href)
    rw [asked] at hasked
    exact FetchesOnly.trans hasked (ih hrest)

/-- The end of a chain makes no further call. -/
theorem Concludes.calls_eq {lastError : Json} {called : List Visit} {uncalled : List Strategy}
    {r : Except Web.Failure Result × Trace} (h : Concludes lastError called uncalled t r) :
    r.2.calls = t.calls := by
  cases h with
  | success before made short => rfl
  | breakdown before made long => rfl
  | failure none_made => rfl

theorem generate_fetchesOnly (config : Config) (preferred : Option Text) (access : Access)
    (chance : Int) (prompt : Option Text) (hrefs : ∀ ref ∈ refs, P ref.url) (t : Trace) :
    FetchesOnly P t ((generate config preferred access chance prompt refs).run t).2 := by
  let strategies := (config.providers preferred).map (Provider.strategy access chance)
  obtain ⟨called, uncalled, t', hsplit, hvisits, hend⟩ :=
    run_dispatchAfter (effectivePrompt prompt) refs noProvider strategies t
  -- Whatever strategies were called, they are those of the configured providers.
  have hcalled : ∀ v ∈ called, v.strategy.FetchesReferences := by
    intro v hv
    have hmem : v.strategy ∈ strategies := by
      rw [hsplit]
      exact List.mem_append_left _ (List.mem_map_of_mem hv)
    obtain ⟨p, -, hp⟩ := List.mem_map.mp hmem
    exact hp ▸ p.strategy_fetchesReferences access chance
  exact (hvisits.fetchesOnly hrefs hcalled).trans (.of_calls_eq hend.calls_eq)

end Generate

/-! ## The service -/

namespace Api

namespace Service

open Database (Faults)

variable (s : Service) (faults : Faults) (user : Text)

/-- Whatever canvas a context comes from, its images are fetchable. -/
theorem isFetchable_of_context {store : Database.Store} {r : GraphRequest} {c : Context}
    (h : s.context faults store user r = .ok c) : ∀ ref ∈ c.images, Url.IsFetchable ref.url := by
  rw [context] at h
  split at h
  · split at h
    · cases h
    · split at h
      · cases h
      · cases h
        exact fun ref href => Context.isFetchable_of_mem_images href
  · cases h

/-- To deliver images takes no call. -/
theorem trace_deliver (r : ImageRequest) (result : Generate.Result) (w : World) :
    (s.deliver faults user r result w).2.trace = w.trace := by
  rw [deliver_snd]
  split
  · rfl
  · rfl

theorem refine_fetchesOnly (r : GraphRequest) (w : World) :
    FetchesOnly Url.IsFetchable w.trace (s.refine faults user r w).2.trace := by
  cases hcontext : s.context faults w.store user r with
  | error refusal =>
    rw [s.refine_of_refused faults user hcontext]
    exact .of_calls_eq rfl
  | ok c =>
    rw [s.refine_of_context faults user hcontext]
    exact Refine.refine_fetchesOnly s.reasoner s.options s.access
      (s.isFetchable_of_context faults user hcontext) w.trace

theorem generate_fetchesOnly (r : ImageRequest) (w : World) :
    FetchesOnly Url.IsFetchable w.trace (s.generate faults user r w).2.trace := by
  rw [generate]
  cases hcontext : s.context faults w.store user r.graph with
  | error refusal =>
    rw [s.generateBy_of_refused faults user _ hcontext]
    exact .of_calls_eq rfl
  | ok c =>
    have hfetchable := s.isFetchable_of_context faults user hcontext
    -- If the references are not to be used, there are none that could be fetched.
    have hrefs : ∀ ref ∈ if r.useReferences then c.images else [], Url.IsFetchable ref.url := by
      intro ref href
      split at href
      · exact hfetchable ref href
      · cases href
    have hfetches := Generate.generate_fetchesOnly s.config (some r.provider.name) s.access s.chance
      (some c.basePrompt) hrefs w.trace
    -- The answer is made from the result, without further calls.
    rcases s.generateBy_cases faults user (s.makeImages r) hcontext with
      ⟨failure, -, hdone⟩ | ⟨result, -, hdone⟩
    · rw [hdone]
      exact hfetches
    · rw [hdone, trace_deliver]
      exact hfetches

/-- An action fetches only what is fetchable. -/
theorem perform_fetchesOnly (a : Action) (w : World) :
    FetchesOnly Url.IsFetchable w.trace (s.perform faults user a w).2.trace := by
  cases a with
  | refine r => exact s.refine_fetchesOnly faults user r w
  | generate r => exact s.generate_fetchesOnly faults user r w
  | list project => exact .of_calls_eq rfl
  | delete project item => exact .of_calls_eq rfl

end Service

/-- A request fetches only what is fetchable. -/
theorem respond_fetchesOnly (turn : Turn) (w : World) :
    FetchesOnly Url.IsFetchable w.trace (turn.respond w).2.trace := by
  cases h : turn.admission with
  | error answer =>
    rw [Turn.respond, turn.server.respond_of_not_admitted turn.request h]
    exact .of_calls_eq rfl
  | ok admitted =>
    rw [Turn.respond, turn.server.respond_of_admission turn.request h]
    exact turn.server.service.perform_fetchesOnly _ _ _ w

/-- A run of requests fetches only what is fetchable. -/
theorem after_fetchesOnly (w : World) (turns : List Turn) :
    FetchesOnly Url.IsFetchable w.trace (after w turns).trace := by
  induction turns generalizing w with
  | nil => exact .of_calls_eq rfl
  | cons turn rest ih => exact (respond_fetchesOnly turn w).trans (ih (turn.respond w).2)

/-- A URL is taken for persisted only if it is an address on the web as it is read, that is, without
the white space around it, the control characters and spaces in front, and the tabs and line ends
anywhere. An address whose authority is plain is always taken. So the references of a context are
all addresses on the web, and whatever requests the service answers, it fetches nothing else. -/
theorem only_web_addresses_are_fetched :
    (∀ url : Text,
      let read := ((Text.strip url).dropWhile (·.toNat ≤ 0x20)).filter
        (· ∉ (['\t', '\r', '\n'] : Text))
      (isPersisted url = true → ∃ authority, WebAddress read authority) ∧
        ∀ authority, WebAddress read authority → IsPlain authority → isPersisted url = true) ∧
      (∀ (s : Snapshot) (userPrompt : Text) (perRoleCap : Int) (maxImages : Option Int),
        ∀ ref ∈ (Context.assemble s userPrompt perRoleCap maxImages).images,
          Url.IsFetchable ref.url) ∧
      ∀ (w : World) (turns : List Turn),
        FetchesOnly Url.IsFetchable w.trace (after w turns).trace := by
  -- What is read of a text is what is left of it when it is cleaned.
  have hread : ∀ url : Text,
      ((Text.strip url).dropWhile (·.toNat ≤ 0x20)).filter
        (· ∉ (['\t', '\r', '\n'] : Text)) = cleaned url := by
    intro url
    rw [cleaned]
    congr 1
    funext c
    rw [Bool.eq_iff_iff]
    simp [and_assoc]
  refine ⟨?_, ?_, after_fetchesOnly⟩
  · intro url read
    simp only [read, hread]
    refine ⟨Url.isFetchable_of_isPersisted, ?_⟩
    intro authority haddress hplain
    exact Url.isPersisted_iff.mpr
      ⟨authority, haddress, Url.isAuthority_of_plain haddress.ne_nil hplain⟩
  · intro s userPrompt perRoleCap maxImages ref href
    exact Context.isFetchable_of_mem_images href

/-- An address in mixed case, with a line end in it, is persisted. -/
theorem written_address_is_persisted :
    let url := " HtTpS:\n//kites.example?red".codes
    let authority := "kites.example".codes
    WebAddress (cleaned url) authority ∧ IsPlain authority ∧ isPersisted url = true := by
  intro url authority
  have haddress : WebAddress (cleaned url) authority :=
    ⟨⟨"HtTpS://".codes, "kites.example?red".codes, by decide, by decide, by decide⟩, by decide⟩
  have hplain : IsPlain authority := by decide
  exact ⟨haddress, hplain,
    (only_web_addresses_are_fetched.1 url).2 authority haddress hplain⟩

/-- Of what looks like an address some has no authority, and some another scheme. -/
example :
    ∀ url ∈ ["http:/x", "http:x", "https://?q", "http://", "x-http://a", "blob:http://a",
      "data:image/png;base64,AA==", "file:///a", "//a/b", "a/b"],
      isPersisted url.codes = false := by
  decide

end Api

end CanvasPrompt
