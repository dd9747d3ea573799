import CanvasPrompt.Proofs.Refine.Stages
import Mathlib.Logic.ExistsUnique

/-!
# What comes of refining

Refining gives a prompt whatever the service and the client do. This module introduces the three
ways to it:

* `GoesDirect service c`: there is no service, or nothing for it to work on;
* `HasReply service options c s text`: the service is asked in time and replies with a text that
  holds a prompt;
* `Way.Holds`: what has to be the case for a way, and what the result is then.

The main statement is `refine_outcome`: exactly one way holds.
-/

namespace CanvasPrompt.Refine

open Run (Trace)

/-- There is no service, or the context has neither images nor descriptions for it. -/
def GoesDirect (service : Option Reasoner) (c : Context) : Prop :=
  service = none ∨ (c.images = [] ∧ c.textDescriptors = [])

/-- The service `s` is asked and given time, and replies with the text `text`, which holds a prompt.
-/
structure HasReply (service : Option Reasoner) (options : Options) (c : Context) (s : Reasoner)
    (text : Text) : Prop where
  /-- There is something for a service to work on, and a service. -/
  notDirect : ¬GoesDirect service c
  /-- It is this service. -/
  service_eq : service = some s
  /-- It is given time: what has to come within a time that is no number is waited for as well. -/
  inTime : options.timeout.atMostZero = false
  /-- It replies with the text. -/
  replies : s.behaviour = .replies (.str text)
  /-- The text holds a prompt. -/
  hasPrompt : clean text ≠ []

/-- The ways to a prompt. -/
inductive Way where
  /-- The service is left out. -/
  | direct
  /-- The service gives the prompt. -/
  | refined
  /-- The service is of no use. -/
  | fallback

/-- The way is taken with what it gives: from the trace `t` to the result and the trace `r`. -/
def Way.Holds (service : Option Reasoner) (options : Options) (c : Context) (t : Trace)
    (r : Result × Trace) : Way → Prop
  | .direct =>
    GoesDirect service c ∧ c.userPrompt <+: r.1.prompt ∧
      r = (⟨directPrompt c, "simple".codes, none⟩, t)
  | .refined =>
    ∃ s text request, HasReply service options c s text ∧
      r.1 = ⟨clean text, s.name, none⟩ ∧ r.2.requests = t.requests ++ [request]
  | .fallback =>
    ¬GoesDirect service c ∧ (∀ s text, ¬HasReply service options c s text) ∧
      c.userPrompt <+: r.1.prompt ∧
        ∃ e, r.1 = ⟨fallbackPrompt c, "fallback".codes, some e⟩ ∧ e.message ≠ []

/-- Every error has a wording. -/
theorem Error.message_ne_nil (e : Error) : e.message ≠ [] := by
  cases e with
  | timeout => exact codes_ne_nil (by decide)
  | failed message => exact List.append_ne_nil_of_left_ne_nil (codes_ne_nil (by decide)) message
  | emptyReply => exact codes_ne_nil (by decide)
  | unusableReply e =>
    exact List.append_ne_nil_of_left_ne_nil (codes_ne_nil (by decide)) e.message
  | noPrompt => exact codes_ne_nil (by decide)

variable {service : Option Reasoner} {options : Options} {c : Context} {t : Trace}
variable {r : Result × Trace}

/-- No two ways are taken at once. -/
theorem Way.eq_of_holds {way other : Way} (h : way.Holds service options c t r)
    (h' : other.Holds service options c t r) : other = way := by
  -- The direct way excludes both others, and a text that comes back in time excludes the last one.
  cases way with
  | direct =>
    cases other with
    | direct => rfl
    | refined =>
      obtain ⟨s, text, request, hreply, -⟩ := h'
      exact absurd h.1 hreply.notDirect
    | fallback => exact absurd h.1 h'.1
  | refined =>
    obtain ⟨s, text, request, hreply, -⟩ := h
    cases other with
    | direct => exact absurd h'.1 hreply.notDirect
    | refined => rfl
    | fallback => exact absurd hreply (h'.2.1 s text)
  | fallback =>
    cases other with
    | direct => exact absurd h'.1 h.1
    | refined =>
      obtain ⟨s, text, request, hreply, -⟩ := h'
      exact absurd hreply (h.2.1 s text)
    | fallback => rfl

/-- Every way leads to a prompt that is not empty. -/
theorem Way.prompt_ne_nil {way : Way} (h : way.Holds service options c t r) : r.1.prompt ≠ [] := by
  cases way with
  | direct =>
    simp only [h.2.2]
    exact directPrompt_ne_nil c
  | refined =>
    obtain ⟨s, text, request, hreply, hr, -⟩ := h
    simp only [hr]
    exact hreply.hasPrompt
  | fallback =>
    obtain ⟨-, -, -, e, hr, -⟩ := h
    simp only [hr]
    exact fallbackPrompt_ne_nil c

/-- Without a service, or without anything for it, nothing is done. -/
theorem run_refine_direct (access : Web.Access) (h : GoesDirect service c) :
    (refine service options access c).run t = (⟨directPrompt c, "simple".codes, none⟩, t) := by
  have hprompt : (directPrompt c).isEmpty = false :=
    List.isEmpty_eq_false_iff.mpr (directPrompt_ne_nil c)
  have hgo : goThrough service options access c = pure (.ok (goDirect c .start)) := by
    cases service with
    | none => rfl
    | some s =>
      -- There is a service, but nothing for it to work on.
      obtain ⟨himages, htexts⟩ := h.resolve_left (Option.some_ne_none s)
      have htrivial : isTrivial c = true := by simp [isTrivial, himages, htexts]
      rw [goThrough, if_pos htrivial]
  simp only [refine, hgo, Run.run_bind, Run.run_pure, conclude, goDirect, hprompt,
    Bool.false_eq_true, ↓reduceIte]
  rfl

/-- A context that does not go direct has a service and work for it. -/
theorem exists_service_of_not_direct (h : ¬GoesDirect service c) :
    ∃ s, service = some s ∧ isTrivial c = false := by
  obtain ⟨hservice, hwork⟩ := not_or.mp h
  obtain ⟨s, rfl⟩ := Option.ne_none_iff_exists'.mp hservice
  refine ⟨s, rfl, ?_⟩
  rw [isTrivial, Bool.eq_false_iff]
  intro htrivial
  rw [Bool.and_eq_true, List.isEmpty_iff, List.isEmpty_iff] at htrivial
  exact hwork htrivial

/-! ## Settling -/

/-- The prompt in a text is the cleaned text. -/
theorem promptOf_str (text : Text) : promptOf (.str text) = .ok (clean text) := by
  cases text with
  | nil => rfl
  | cons x rest => rfl

/-- A value that is no text holds no prompt. -/
theorem promptOf_of_ne_str {v : Json} (h : ∀ text, v ≠ .str text) :
    promptOf v = .ok [] ∨ ∃ e, promptOf v = .error e := by
  have hprompt : promptOf v = if !v.truthy then .ok [] else .error (.notTrimmable v.kind) := by
    cases v with
    | str text => exact absurd rfl (h text)
    | _ => rfl
  rw [hprompt]
  split
  · exact .inl rfl
  · exact .inr ⟨_, rfl⟩

/-- A service answers with the values that it replies with in time. -/
theorem answer_eq_ok_iff {s : Reasoner} {v : Json} :
    answer options s = .ok v ↔
      options.timeout.atMostZero = false ∧ s.behaviour = .replies v := by
  rw [answer]
  cases options.timeout.atMostZero with
  | true => simp
  | false =>
    cases s.behaviour with
    | replies v => simp [Behaviour.reply]
    | fails failure => simp [Behaviour.reply]
    | silent => simp [Behaviour.reply]

/-- An answer that is a text with a prompt settles the result with this prompt. -/
theorem settle_str (s : Reasoner) (c : Context) {text : Text} (h : clean text ≠ []) :
    settle s c (.ok (.str text)) = ⟨clean text, s.name, none⟩ := by
  rw [settle, promptOf_str]
  cases hclean : clean text with
  | nil => exact absurd hclean h
  | cons x rest => rfl

/-- Any other answer settles it with the fallback and an error. -/
theorem settle_fallback (s : Reasoner) (c : Context) {a : Except Error Json}
    (h : ∀ text, a = .ok (.str text) → clean text = []) :
    ∃ e, settle s c a = ⟨fallbackPrompt c, "fallback".codes, some e⟩ := by
  cases a with
  | error e => exact ⟨e, rfl⟩
  | ok v =>
    -- A text that comes back is empty once cleaned, and any other value is refused.
    have hprompt : promptOf v = .ok [] ∨ ∃ e, promptOf v = .error e := by
      cases v with
      | str text =>
        rw [promptOf_str, h text rfl]
        exact .inl rfl
      | _ => exact promptOf_of_ne_str (by simp)
    rw [settle]
    obtain hprompt | ⟨e, hprompt⟩ := hprompt
    · rw [hprompt]
      exact ⟨.emptyReply, rfl⟩
    · rw [hprompt]
      exact ⟨.unusableReply e, rfl⟩

/-! ## The ways of refining -/

/-- What comes back from a service that is asked leads to its prompt or to the fallback. -/
theorem exists_way_of_asked {s : Reasoner} {request : List Reasoning.Message} {t' : Trace}
    (hdirect : ¬GoesDirect (some s) c) (ht : t'.requests = t.requests ++ sent options request) :
    ∃ way : Way, way.Holds (some s) options c t (settle s c (answer options s), t') := by
  by_cases hreply : ∃ text, answer options s = .ok (.str text) ∧ clean text ≠ []
  · obtain ⟨text, hanswer, hprompt⟩ := hreply
    obtain ⟨hintime, hbehaviour⟩ := answer_eq_ok_iff.mp hanswer
    rw [sent, hintime] at ht
    refine ⟨.refined, s, text, request, ⟨hdirect, rfl, hintime, hbehaviour, hprompt⟩, ?_, ht⟩
    rw [hanswer, settle_str s c hprompt]
  · have hfallback : ∀ text, answer options s = .ok (.str text) → clean text = [] := by
      intro text hanswer
      exact Classical.byContradiction fun hprompt => hreply ⟨text, hanswer, hprompt⟩
    obtain ⟨e, hsettle⟩ := settle_fallback s c hfallback
    rw [hsettle]
    refine ⟨.fallback, hdirect, ?_, userPrompt_prefix_fallbackPrompt c, e, rfl,
      e.message_ne_nil⟩
    -- A text that holds a prompt in time would have been the answer.
    intro s' text h
    obtain rfl : s = s' := Option.some.inj h.service_eq
    exact h.hasPrompt (hfallback text (answer_eq_ok_iff.mpr ⟨h.inTime, h.replies⟩))

/-- Refining takes one of the ways, and asks the service at most once. -/
theorem exists_way (service : Option Reasoner) (options : Options) (access : Web.Access)
    (c : Context) (t : Trace) :
    ∃ way : Way, way.Holds service options c t ((refine service options access c).run t) ∧
      ∃ requests, ((refine service options access c).run t).2.requests = t.requests ++ requests ∧
        requests.length ≤ 1 := by
  by_cases hdirect : GoesDirect service c
  -- Nothing is done, so that the trace stays the same.
  · rw [run_refine_direct access hdirect]
    refine ⟨.direct, ⟨hdirect, userPrompt_prefix_directPrompt c, rfl⟩, [], ?_, Nat.zero_le 1⟩
    exact (List.append_nil _).symm
  · obtain ⟨s, rfl, hwork⟩ := exists_service_of_not_direct hdirect
    obtain ⟨t', hrun, -, ht⟩ := run_refine_some s options access c t hwork
    obtain ⟨way, hway⟩ := exists_way_of_asked hdirect ht
    rw [hrun]
    exact ⟨way, hway, _, ht, length_sent_le _ _⟩

/-- Refining gives a prompt in exactly one of three ways: without the service, leaving no trace at
all; from a reply in time that holds a prompt; and in every other case with the fallback and an
error. The service is asked at most once. -/
theorem refine_outcome (service : Option Reasoner) (options : Options) (access : Web.Access)
    (c : Context) (t : Trace) :
    let r := (refine service options access c).run t
    (∃! way : Way, way.Holds service options c t r) ∧ r.1.prompt ≠ [] ∧
      ∃ requests, r.2.requests = t.requests ++ requests ∧ requests.length ≤ 1 := by
  intro r
  obtain ⟨way, hway, hrequests⟩ := exists_way service options access c t
  exact ⟨⟨way, hway, fun other h => Way.eq_of_holds hway h⟩, Way.prompt_ne_nil hway, hrequests⟩

end CanvasPrompt.Refine
