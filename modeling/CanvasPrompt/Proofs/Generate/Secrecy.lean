import CanvasPrompt.Proofs.Generate.Guarantee
import Mathlib.Data.List.Forall2

/-!
# Secrecy of the key

The key of a provider goes into one parameter of its request and nowhere else. Two runs with
different keys are compared step by step, for a client that answers alike whatever the key is. This
module introduces

* `Web.Call.withoutKey`: a call without the value of its parameter `key`;
* `Web.IgnoresKeys client`: the answers of the client do not depend on that value;
* `Run.AgreeUpToKeys m m'`: from traces that differ in keys alone, the two runs give the same value
  and leave traces that differ in keys alone;
* `Strategy.AgreesUpToKeys s s'`: the strategies go by the same name and make such runs.

Runs that agree are put together by `AgreeUpToKeys.bind`, and chains by
`agreeUpToKeys_dispatchAfter`. The main statement is `key_stays_secret`. Without a key, or with the
keyless provider preferred, no call is made at all.
-/

namespace CanvasPrompt

namespace Web

/-- The call without the value of its key. -/
def Call.withoutKey : Call → Call
  | .fetch url => .fetch url
  | .send url parameters body =>
    .send url (parameters.map fun p => if p.1 = "key".codes then (p.1, []) else p) body

/-- What the client answers does not depend on the values of keys, now or earlier. -/
def IgnoresKeys (client : Client) : Prop :=
  ∀ past past' call call', past.map Call.withoutKey = past'.map Call.withoutKey →
    Call.withoutKey call = Call.withoutKey call' → client past call = client past' call'

end Web

namespace Run

open Web (Call)

/-- The trace without the values of keys. -/
def Trace.withoutKeys (t : Trace) : Trace :=
  { t with calls := t.calls.map Call.withoutKey }

/-- From traces that differ in keys alone, the runs give the same value and leave traces that differ
in keys alone. -/
def AgreeUpToKeys {α : Type} (m m' : Run α) : Prop :=
  ∀ t t' : Trace, t.withoutKeys = t'.withoutKeys →
    (m.run t).1 = (m'.run t').1 ∧ (m.run t).2.withoutKeys = (m'.run t').2.withoutKeys

/-! ## Runs that agree -/

theorem withoutKeys_eq_iff {t t' : Trace} :
    t.withoutKeys = t'.withoutKeys ↔
      t.calls.map Call.withoutKey = t'.calls.map Call.withoutKey ∧
        t.clientsOpened = t'.clientsOpened ∧ t.requests = t'.requests ∧
        t.attempts = t'.attempts ∧ t.draws = t'.draws ∧ t.events = t'.events :=
  Trace.mk.injEq .. ▸ Iff.rfl

namespace AgreeUpToKeys

variable {α β : Type}

theorem pure (a : α) : AgreeUpToKeys (pure a) (pure a) := by
  intro t t' h
  exact ⟨rfl, h⟩

/-- Two steps agree if the first ones do, and the second ones do for every value of the first. -/
theorem bind {m m' : Run α} {f f' : α → Run β} (h : AgreeUpToKeys m m')
    (hf : ∀ a, AgreeUpToKeys (f a) (f' a)) : AgreeUpToKeys (m >>= f) (m' >>= f') := by
  intro t t' ht
  obtain ⟨hvalue, htrace⟩ := h t t' ht
  rw [run_bind, run_bind, ← hvalue]
  exact hf _ _ _ htrace

theorem report (e : Event) : AgreeUpToKeys (report e) (report e) := by
  intro t t' h
  rw [withoutKeys_eq_iff] at h
  simp [withoutKeys_eq_iff, h]

theorem attempt (a : Attempt) : AgreeUpToKeys (attempt a) (attempt a) := by
  intro t t' h
  rw [withoutKeys_eq_iff] at h
  simp [withoutKeys_eq_iff, h]

theorem draw (outcome low high : Int) :
    AgreeUpToKeys (draw outcome low high) (draw outcome low high) := by
  intro t t' h
  rw [withoutKeys_eq_iff] at h
  simp [withoutKeys_eq_iff, h]

/-- What follows on reaching other services works with the client of the access. -/
theorem reach_bind (access : Web.Access) {f f' : Web.Client → Run β}
    (hf : AgreeUpToKeys (f access.client) (f' access.client)) :
    AgreeUpToKeys (reach access >>= f) (reach access >>= f') := by
  intro t t' h
  rw [run_bind, run_bind, run_reach, run_reach]
  refine hf _ _ ?_
  rw [withoutKeys_eq_iff] at h
  split
  · simp [withoutKeys_eq_iff, h]
  · simp [withoutKeys_eq_iff, h]

/-- Calls that differ in keys alone are answered alike. -/
theorem call {client : Web.Client} (hclient : Web.IgnoresKeys client) {c c' : Call}
    (hc : c.withoutKey = c'.withoutKey) : AgreeUpToKeys (call client c) (call client c') := by
  intro t t' h
  rw [withoutKeys_eq_iff] at h
  rw [run_call, run_call]
  refine ⟨hclient _ _ _ _ h.1 hc, ?_⟩
  simp [withoutKeys_eq_iff, h, hc]

end AgreeUpToKeys

end Run

open Run (AgreeUpToKeys)

namespace Vision

variable {client : Web.Client}

/-- Fetching makes no use of keys. -/
theorem agreeUpToKeys_encodeImage (hclient : Web.IgnoresKeys client) (ref : ImageReference) :
    AgreeUpToKeys (encodeImage client ref) (encodeImage client ref) := by
  rw [encodeImage]
  refine .bind (.call hclient rfl) fun answer => ?_
  cases answer with
  | error failure => exact .bind (.report _) fun _ => .pure _
  | ok response =>
    dsimp only
    split
    · exact .bind (.report _) fun _ => .pure _
    · split
      · exact .bind (.report _) fun _ => .pure _
      · exact .pure _

theorem agreeUpToKeys_encodeImages (hclient : Web.IgnoresKeys client)
    (refs : List ImageReference) :
    AgreeUpToKeys (encodeImages client refs) (encodeImages client refs) := by
  induction refs with
  | nil => exact .pure _
  | cons ref rest ih =>
    rw [encodeImages]
    exact .bind (agreeUpToKeys_encodeImage hclient ref) fun _ => .bind ih fun _ => .pure _

end Vision

namespace Generate

open Run (Event Trace)
open Web (Call)

/-! ## Strategies that agree -/

/-- The strategies go by the same name, take references alike and make runs that agree up to keys.
-/
structure Strategy.AgreesUpToKeys (s s' : Strategy) : Prop where
  /-- They have the same name. -/
  name : s.name = s'.name
  /-- Both take references, or neither does. -/
  supportsReferences : s.supportsReferences = s'.supportsReferences
  /-- They do the same but for keys. -/
  generate : ∀ prompt refs, AgreeUpToKeys (s.generate prompt refs) (s'.generate prompt refs)

/-- The provider with a key does the same with another key. -/
theorem Gemini.agreesUpToKeys {access : Web.Access} (hclient : Web.IgnoresKeys access.client)
    (g : Gemini) (key : Text) :
    Strategy.AgreesUpToKeys (g.strategy access) ({ g with apiKey := key }.strategy access) where
  name := rfl
  supportsReferences := rfl
  generate prompt refs := by
    refine .bind ?_ fun _ => .pure _
    rw [Gemini.generate, Gemini.generate]
    refine .reach_bind access (.bind (Vision.agreeUpToKeys_encodeImages hclient refs) fun _ => ?_)
    refine .bind (.call hclient rfl) fun answer => ?_
    cases answer with
    | error failure => exact .pure _
    | ok response => exact .pure _

/-- The keyless provider only draws a number. -/
theorem Pollinations.agreesUpToKeys (p : Pollinations) (chance : Int) :
    Strategy.AgreesUpToKeys (p.strategy chance) (p.strategy chance) where
  name := rfl
  supportsReferences := rfl
  generate prompt refs := by
    show AgreeUpToKeys (p.generate chance prompt) (p.generate chance prompt)
    rw [Pollinations.generate]
    split
    · exact .pure _
    · exact .bind (.draw _ _ _) fun _ => .pure _

/-- Chains of strategies that agree up to keys agree up to keys. -/
theorem agreeUpToKeys_dispatchAfter {strategies strategies' : List Strategy}
    (h : List.Forall₂ Strategy.AgreesUpToKeys strategies strategies') (lastError : Json)
    (prompt : Text) (refs : List ImageReference) :
    AgreeUpToKeys (dispatchAfter lastError prompt refs strategies)
      (dispatchAfter lastError prompt refs strategies') := by
  -- The error of a failed strategy goes on to those behind it, the same in both runs.
  induction h generalizing lastError with
  | nil => exact .bind (.report _) fun _ => .pure _
  | @cons s s' rest rest' hs _ ih =>
    have hgiven : s.given refs = s'.given refs := by
      rw [Strategy.given, Strategy.given, hs.supportsReferences]
    rw [dispatchAfter, dispatchAfter, hs.name, hgiven]
    refine .bind (.attempt _) fun _ => .bind (hs.generate prompt _) fun answer => ?_
    cases answer with
    | error failure => exact .bind (.report _) fun _ => ih _
    | ok o =>
      dsimp only
      split
      · split
        · exact .pure _
        · exact .bind (.report _) fun _ => .pure _
      · exact .bind (.report _) fun _ => ih _

/-! ## Chains with and without the provider that has a key -/

/-- With a key, the chain begins with the provider that has it, unless the keyless one is preferred.
-/
theorem Config.keyed_of_key (c : Config) (preferred : Option Text) {key : Text} (hkey : key ≠ []) :
    { c with geminiApiKey := some key }.keyed preferred =
      if preferred = some Pollinations.name then []
      else [.gemini ⟨key, c.geminiModel, c.timeout, Gemini.defaultBaseUrl⟩] := by
  simp [keyed, hkey]

/-- Without a key, or with the keyless provider preferred, the chain has the keyless provider alone.
-/
theorem Config.keyed_eq_nil {c : Config} {preferred : Option Text}
    (h : preferred = some Pollinations.name ∨ ∀ key ∈ c.geminiApiKey, key = []) :
    c.keyed preferred = [] := by
  rw [keyed]
  split
  · rfl
  · next key hkey =>
    rcases h with h | h
    · simp [h]
    · simp [h key hkey]

/-- What a chain gives that has at most the keyless provider. -/
def keylessResult (c : Config) (chance : Int) (prompt : Text) : Result :=
  if c.keylessEnabled then c.pollinations.result chance prompt
  else ⟨[], none, .generate, noProvider⟩

/-- A chain that has at most the keyless provider makes no calls, and its result is independent of
all that another provider would go by. -/
theorem run_generate_of_keyed_eq_nil {c : Config} {preferred : Option Text}
    (h : c.keyed preferred = []) (access : Web.Access) (chance : Int) (prompt : Option Text)
    (refs : List ImageReference) (t : Trace) :
    ∃ u, (generate c preferred access chance prompt refs).run t =
        (.ok (keylessResult c chance (effectivePrompt prompt)), u) ∧
      u.calls = t.calls ∧ u.clientsOpened = t.clientsOpened := by
  rw [generate, dispatch, Config.providers, h, List.nil_append, Config.keyless, keylessResult]
  split
  · obtain ⟨events, hlast⟩ := run_dispatchAfter_pollinations noProvider c.pollinations chance
      (effectivePrompt_ne_nil prompt) refs t
    exact ⟨_, hlast, rfl, rfl⟩
  · exact ⟨_, rfl, rfl, rfl⟩

/-- The chains of two keys agree up to keys. -/
theorem forall₂_agreesUpToKeys (config : Config) (preferred : Option Text) {access : Web.Access}
    (hclient : Web.IgnoresKeys access.client) (chance : Int) {key key' : Text} (hkey : key ≠ [])
    (hkey' : key' ≠ []) :
    List.Forall₂ Strategy.AgreesUpToKeys
      (({ config with geminiApiKey := some key }.providers preferred).map
        (Provider.strategy access chance))
      (({ config with geminiApiKey := some key' }.providers preferred).map
        (Provider.strategy access chance)) := by
  -- The keyless provider, if it is used, knows of no key.
  have hkeyless : List.Forall₂ Strategy.AgreesUpToKeys
      (config.keyless.map (Provider.strategy access chance))
      (config.keyless.map (Provider.strategy access chance)) := by
    rw [Config.keyless]
    split
    · exact .cons (Pollinations.agreesUpToKeys _ chance) .nil
    · exact .nil
  rw [Config.providers, Config.providers, Config.keyed_of_key config preferred hkey,
    Config.keyed_of_key config preferred hkey']
  split
  · exact hkeyless
  · exact .cons (Gemini.agreesUpToKeys hclient _ key') hkeyless

/-- With another key, the same images are made, the same lines are logged and the same numbers are
drawn, and the calls differ at most in their keys; the client only has to answer alike whatever the
key is. Without a key, or with the keyless provider preferred, no call is made and no client is
opened, and the result is the same for other references, another model of the provider with a key,
and other answers. -/
theorem key_stays_secret (config : Config) (preferred : Option Text) (access : Web.Access)
    (chance : Int) (prompt : Option Text) (refs : List ImageReference) (requestId : Text)
    (t : Trace) :
    let lines (u : Trace) : List Text := u.events.map (Event.line requestId)
    (∀ key key' : Text, key ≠ [] → key' ≠ [] → Web.IgnoresKeys access.client →
      let made (k : Text) : Except Web.Failure Result × Trace :=
        (generate { config with geminiApiKey := some k } preferred access chance prompt refs).run t
      (made key).1 = (made key').1 ∧
        lines (made key).2 = lines (made key').2 ∧
        (made key).2.draws = (made key').2.draws ∧
        (made key).2.calls.map Call.withoutKey = (made key').2.calls.map Call.withoutKey) ∧
      (preferred = some Pollinations.name ∨ (∀ key ∈ config.geminiApiKey, key = []) →
        let made : Except Web.Failure Result × Trace :=
          (generate config preferred access chance prompt refs).run t
        made.2.calls = t.calls ∧ made.2.clientsOpened = t.clientsOpened ∧
          ∀ model access' refs' t',
            ((generate { config with geminiModel := model } preferred access' chance prompt
              refs').run t').1 = made.1) := by
  intro lines
  refine ⟨?_, ?_⟩
  · intro key key' hkey hkey' hclient made
    -- The two chains agree strategy by strategy, and so do their runs.
    have hchains := forall₂_agreesUpToKeys config preferred hclient chance hkey hkey'
    obtain ⟨hresult, htrace⟩ :=
      agreeUpToKeys_dispatchAfter hchains noProvider (effectivePrompt prompt) refs t t rfl
    obtain ⟨hcalls, -, -, -, hdraws, hevents⟩ := Run.withoutKeys_eq_iff.mp htrace
    exact ⟨hresult, congrArg (List.map (Event.line requestId)) hevents, hdraws, hcalls⟩
  · intro h made
    -- Without a key the chain has the keyless provider at most, which makes no calls.
    have hnone := Config.keyed_eq_nil h
    obtain ⟨u, hrun, hcalls, hopened⟩ :=
      run_generate_of_keyed_eq_nil hnone access chance prompt refs t
    have hmade : made = (.ok (keylessResult config chance (effectivePrompt prompt)), u) := hrun
    rw [hmade]
    refine ⟨hcalls, hopened, ?_⟩
    intro model access' refs' t'
    have hnone' : { config with geminiModel := model }.keyed preferred = [] :=
      Config.keyed_eq_nil h
    obtain ⟨u', hrun', -, -⟩ :=
      run_generate_of_keyed_eq_nil hnone' access' chance prompt refs' t'
    rw [hrun']
    rfl

/-- A service that refuses the request, and tells how many images were fetched before it, gives no
hint of the key; with the keyless provider preferred it is not called. -/
theorem refused_key_stays_secret :
    let client : Web.Client := fun past call =>
      match call with
      | .fetch _ => .ok ⟨200, some "image/png".codes, [1, 2, 3]⟩
      | .send .. => .error ⟨.runtime, Text.ofNat past.length⟩
    let access : Web.Access := ⟨client, true, 985⟩
    let refs : List ImageReference := [⟨"https://x/i".codes, none, none, .style⟩]
    let made (key : String) (preferred : Option Text) : Except Web.Failure Result × Trace :=
      (generate { Config.default with geminiApiKey := some key.codes } preferred access 7 none
        refs).run .empty
    Web.IgnoresKeys client ∧ (made "a" none).1 = (made "b" none).1 ∧
      (made "a" none).2.calls.map Call.withoutKey = (made "b" none).2.calls.map Call.withoutKey ∧
      (made "a" none).2.calls.length = 2 ∧
      (made "a" (some Pollinations.name)).2.calls = [] := by
  intro client access refs made
  have hclient : Web.IgnoresKeys client := by
    intro past past' call call' hpast hcall
    -- The client tells only how many calls there were, and this is the same for both.
    have hlength : past.length = past'.length := by simpa using congrArg List.length hpast
    cases call with
    | fetch url =>
      cases call' with
      | fetch url' => rfl
      | send url' parameters' body' => cases hcall
    | send url parameters body =>
      cases call' with
      | fetch url' => cases hcall
      | send url' parameters' body' => simp only [client, hlength]
  obtain ⟨hkeys, -⟩ := key_stays_secret Config.default none access 7 none refs [] .empty
  obtain ⟨hresult, -, -, hcalls⟩ :=
    hkeys "a".codes "b".codes (by decide) (by decide) hclient
  obtain ⟨-, hkeyless⟩ := key_stays_secret
    { Config.default with geminiApiKey := some "a".codes } (some Pollinations.name) access 7 none
    refs [] .empty
  refine ⟨hclient, hresult, hcalls, ?_, (hkeyless (.inl rfl)).1⟩
  rfl

end Generate

end CanvasPrompt
