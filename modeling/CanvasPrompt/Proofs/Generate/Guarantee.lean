import CanvasPrompt.Proofs.Generate.Chain
import CanvasPrompt.Proofs.Generate.ImageUrl
import CanvasPrompt.Proofs.Generate.Reply
import CanvasPrompt.Proofs.Refine.Stages
import CanvasPrompt.Proofs.Text.Numerals

/-!
# Generating with the keyless provider

With the keyless provider at its end, the chain of providers makes images as long as the numbers
that go into a URL can be written out and the texts encoded. Whatever a service answers, the
provider with a key turns it into an outcome, and one that has images has at least one; the keyless
provider refuses only an empty prompt, and the chain never hands one on. This module has

* `Outcome.MadeFrom prompt o`: all images of the outcome were made from the prompt;
* `Config.pollinations`: the keyless provider of a configuration;
* `Pollinations.result p chance prompt`: what a chain ends with that has come to the keyless
  provider.

The main statement is `generate_makes_images`.
-/

namespace CanvasPrompt.Generate

open Run (Trace)
open Web (Call Client)

/-- All images of the outcome were made from the prompt. -/
def Outcome.MadeFrom (prompt : Text) (o : Outcome) : Prop :=
  ∀ i ∈ o.images, i.prompt = prompt

theorem Outcome.madeFrom_failed (prompt provider : Text) (error : Json) :
    (Outcome.failed provider error).MadeFrom prompt := by
  intro i hi
  cases hi

/-! ## The provider with a key -/

namespace Gemini

variable {prompt : Text}

theorem madeFrom_outcomeAfter (g : Gemini) (access : Web.Access) (past : List Call)
    (prompt : Text) (refs : List ImageReference) :
    (g.outcomeAfter access past prompt refs).MadeFrom prompt := by
  rcases g.outcomeAfter_cases access past prompt refs with
    ⟨granted, h, ho⟩ | ⟨-, error, -, ho⟩
  · rw [ho]
    exact h.prompt_eq
  · rw [ho]
    exact Outcome.madeFrom_failed _ _ _

/-- However the provider is reached, its images are made from the prompt that it gets. -/
theorem madeFrom_run_generate (g : Gemini) (access : Web.Access) (prompt : Text)
    (refs : List ImageReference) (t : Trace) :
    ((g.generate access prompt refs).run t).1.MadeFrom prompt := by
  rw [run_generate_fst]
  exact g.madeFrom_outcomeAfter access t.calls prompt refs

/-- An outcome with images tells how many references could be fetched. -/
theorem referencesSent_of_made {g : Gemini} {access : Web.Access} {past : List Call}
    {refs : List ImageReference} (made : (g.outcomeAfter access past prompt refs).images ≠ []) :
    (g.outcomeAfter access past prompt refs).referencesSent =
      (Vision.fetched access.client past refs).length := by
  rcases g.outcomeAfter_cases access past prompt refs with
    ⟨granted, -, ho⟩ | ⟨-, error, -, ho⟩
  · rw [ho, encoded, List.length_map]
  · rw [ho] at made
    exact absurd rfl made

theorem isShort_referencesSent {g : Gemini} {access : Web.Access} {past : List Call}
    {refs : List ImageReference} (hrefs : Text.IsShort refs.length)
    (made : (g.outcomeAfter access past prompt refs).images ≠ []) :
    Text.IsShort (g.outcomeAfter access past prompt refs).referencesSent := by
  rw [referencesSent_of_made made]
  exact hrefs.mono (Vision.length_fetched_le access.client past refs)

end Gemini

/-! ## The keyless provider -/

/-- The prompt that providers get is the given one without the white space around it, or else the
quality suffix. -/
theorem effectivePrompt_eq (prompt : Option Text) :
    effectivePrompt prompt =
      if Text.strip (prompt.getD []) = [] then Prompt.qualitySuffix
      else Text.strip (prompt.getD []) := by
  rw [effectivePrompt]
  cases Text.strip (prompt.getD []) with
  | nil => rfl
  | cons c rest => rfl

/-- The prompt that providers get is never empty. -/
theorem effectivePrompt_ne_nil (prompt : Option Text) : effectivePrompt prompt ≠ [] := by
  rw [effectivePrompt]
  cases Text.strip (prompt.getD []) with
  | nil => exact Refine.qualitySuffix_ne_nil
  | cons c rest => exact List.cons_ne_nil c rest

/-- The prompt that providers get can be encoded if the given one can. -/
theorem isEncodable_effectivePrompt {prompt : Option Text}
    (h : (prompt.getD []).isEncodable = true) : (effectivePrompt prompt).isEncodable = true := by
  rw [effectivePrompt_eq]
  split
  · decide
  · rw [Text.isEncodable_iff] at h ⊢
    exact fun c hc => h c (Text.mem_of_mem_strip hc)

/-- The keyless provider draws a seed for any prompt that is not empty, and makes one image if there
is a URL for it. -/
theorem Pollinations.run_generate (p : Pollinations) (chance : Int) {prompt : Text}
    (hprompt : prompt ≠ []) (t : Trace) :
    (p.generate chance prompt).run t =
      ((p.buildUrl prompt chance).map fun url => ⟨name, [⟨url, prompt⟩], .null, 0⟩,
        { t with draws := t.draws ++ [(0, 999999)] }) := by
  cases prompt with
  | nil => exact absurd rfl hprompt
  | cons c rest => rfl

/-- The keyless provider is sent no references. -/
theorem Pollinations.referencesSent_of_run_generate {p : Pollinations} {chance : Int}
    {prompt : Text} {t : Trace} {o : Outcome} (h : ((p.generate chance prompt).run t).1 = .ok o) :
    o.referencesSent = 0 := by
  cases prompt with
  | nil =>
    cases h
    rfl
  | cons c rest =>
    rw [p.run_generate chance (List.cons_ne_nil c rest) t] at h
    cases hurl : p.buildUrl (c :: rest) chance with
    | error failure =>
      rw [hurl] at h
      cases h
    | ok url =>
      rw [hurl] at h
      cases h
      rfl

/-- The keyless provider of a configuration. -/
def Config.pollinations (c : Config) : Pollinations :=
  ⟨c.width, c.height, c.imageModel, Pollinations.defaultBaseUrl⟩

/-- The provider with a key comes first, if it is in the chain at all. -/
theorem Config.providers_cases (c : Config) (preferred : Option Text) :
    c.providers preferred = c.keyless ∨ ∃ g, c.providers preferred = .gemini g :: c.keyless := by
  rw [providers, keyed]
  split
  · exact .inl rfl
  · split
    · exact .inl rfl
    · exact .inr ⟨_, rfl⟩

/-- With the keyless provider, a chain has it at the end and nothing or the provider with a key
before it. -/
theorem Config.providers_of_keyless {c : Config} (hkeyless : c.keylessEnabled = true)
    (preferred : Option Text) :
    c.providers preferred = [.pollinations c.pollinations] ∨
      ∃ g, c.providers preferred = [.gemini g, .pollinations c.pollinations] := by
  have hlast : c.keyless = [.pollinations c.pollinations] := if_pos hkeyless
  rw [← hlast]
  exact c.providers_cases preferred

/-! ## The chain -/

variable {prompt : Text}

/-- What a chain ends with that has come to the keyless provider: an image, if there is a URL for
it, and otherwise what is in the way of it. -/
def Pollinations.result (p : Pollinations) (chance : Int) (prompt : Text) : Result :=
  match p.buildUrl prompt chance with
  | .ok url => ⟨[⟨url, prompt⟩], some name, .generate, .null⟩
  | .error failure => ⟨[], none, .generate, .str (name ++ ": ".codes ++ failure.describe)⟩

theorem Pollinations.result_of_url {p : Pollinations} {chance : Int} {url : Text}
    (h : p.buildUrl prompt chance = .ok url) :
    p.result chance prompt = ⟨[⟨url, prompt⟩], some name, .generate, .null⟩ := by
  rw [result, h]

theorem Pollinations.result_of_failure {p : Pollinations} {chance : Int} {failure : Web.Failure}
    (h : p.buildUrl prompt chance = .error failure) :
    p.result chance prompt =
      ⟨[], none, .generate, .str (name ++ ": ".codes ++ failure.describe)⟩ := by
  rw [result, h]

/-- The keyless provider never makes images from references, nor in the name of the other one. -/
theorem Pollinations.mode_result (p : Pollinations) (chance : Int) (prompt : Text) :
    (p.result chance prompt).mode = .generate ∧
      (p.result chance prompt).provider ≠ some Gemini.name := by
  have hname : some name ≠ some Gemini.name := by decide +kernel
  rw [result]
  split
  · exact ⟨rfl, hname⟩
  · exact ⟨rfl, nofun⟩

/-- Nothing is called for the keyless provider; only its seed is drawn. -/
theorem run_dispatchAfter_pollinations (lastError : Json) (p : Pollinations) (chance : Int)
    (hprompt : prompt ≠ []) (refs : List ImageReference) (t : Trace) :
    ∃ events, (dispatchAfter lastError prompt refs [p.strategy chance]).run t =
      (.ok (p.result chance prompt),
        { t with
          attempts := t.attempts ++ [⟨Pollinations.name, prompt, []⟩]
          draws := t.draws ++ [(0, 999999)]
          events := t.events ++ events }) := by
  -- The keyless provider is the last to be asked, so that its visit decides.
  let v : Visit := ⟨p.strategy chance, (p.buildUrl prompt chance).map fun url =>
    ⟨Pollinations.name, [⟨url, prompt⟩], .null, 0⟩⟩
  have asked : (v.strategy.generate prompt (v.attempt prompt refs).references).run
      { t with attempts := t.attempts ++ [v.attempt prompt refs] } = (v.answer, _) :=
    p.run_generate chance hprompt _
  cases hurl : p.buildUrl prompt chance with
  | ok url =>
    have hanswer : v.answer = .ok ⟨Pollinations.name, [⟨url, prompt⟩], .null, 0⟩ := by
      simp only [v, hurl, Except.map]
    rw [hanswer] at asked
    have hrun : (dispatchAfter lastError prompt refs [v.strategy]).run t = _ :=
      run_dispatchAfter_of_made lastError (List.cons_ne_nil _ _) asked
    -- It sends no references, and their number can be reported.
    rw [Web.writeInt_of_isShort (show Text.IsShort 0 by decide)] at hrun
    rw [Pollinations.result_of_url hurl]
    exact ⟨_, hrun⟩
  | error failure =>
    have failed : ¬v.Succeeded := by
      rintro ⟨o, ho, -⟩
      simp only [v, hurl, Except.map] at ho
      cases ho
    have hrun : (dispatchAfter lastError prompt refs [v.strategy]).run t = _ :=
      run_dispatchAfter_of_not_succeeded lastError failed asked
    have herror : v.error = .str (Pollinations.name ++ ": ".codes ++ failure.describe) := by
      simp only [v, hurl, Except.map, Visit.error]
      rfl
    rw [herror] at hrun
    rw [Pollinations.result_of_failure hurl]
    -- No strategy is left, and the failure is the last error.
    let error : Json := .str (Pollinations.name ++ ": ".codes ++ failure.describe)
    refine ⟨v.events 0 ++ [.allProvidersFailed error.display], hrun.trans ?_⟩
    rw [← List.append_assoc]
    rfl

/-- A chain that comes to the provider with a key ends with its images, if it makes any. -/
theorem run_dispatchAfter_gemini_of_made (lastError : Json) (g : Gemini) (access : Web.Access)
    (rest : List Strategy) (refs : List ImageReference) (t : Trace)
    (made : (g.outcomeAfter access t.calls prompt refs).images ≠ []) :
    let o := g.outcomeAfter access t.calls prompt refs
    ∃ u, (dispatchAfter lastError prompt refs (g.strategy access :: rest)).run t =
        ((Web.writeInt o.referencesSent).map fun _ =>
          ⟨o.images, some Gemini.name, o.mode, .null⟩, u) ∧
      u.draws = t.draws := by
  obtain ⟨opened, asked⟩ := g.run_strategy access prompt refs
    { t with attempts := t.attempts ++ [⟨Gemini.name, prompt, refs⟩] }
  exact ⟨_, run_dispatchAfter_of_made lastError made asked, rfl⟩

/-- A chain that comes to the provider with a key goes on, if it makes no images. -/
theorem run_dispatchAfter_gemini_of_not_made (lastError : Json) (g : Gemini) (access : Web.Access)
    (rest : List Strategy) (refs : List ImageReference) (t : Trace)
    (none_made : (g.outcomeAfter access t.calls prompt refs).images = []) :
    ∃ error u, (dispatchAfter lastError prompt refs (g.strategy access :: rest)).run t =
        (dispatchAfter error prompt refs rest).run u ∧
      u.draws = t.draws := by
  obtain ⟨opened, asked⟩ := g.run_strategy access prompt refs
    { t with attempts := t.attempts ++ [⟨Gemini.name, prompt, refs⟩] }
  let v : Visit := ⟨g.strategy access, .ok (g.outcomeAfter access t.calls prompt refs)⟩
  have failed : ¬v.Succeeded := by
    rintro ⟨o, ho, made⟩
    cases ho
    exact made none_made
  exact ⟨v.error, _, run_dispatchAfter_of_not_succeeded lastError failed asked, rfl⟩

/-- With the keyless provider, generating ends with the images of the provider with a key, if it is
in the chain and makes any, and otherwise with what the keyless provider comes to. -/
theorem run_generate_keyless (config : Config) (preferred : Option Text) (access : Web.Access)
    (chance : Int) (prompt : Option Text) (refs : List ImageReference) (t : Trace)
    (hkeyless : config.keylessEnabled = true) (hrefs : Text.IsShort refs.length) :
    let sent := effectivePrompt prompt
    let made (g : Gemini) : Outcome := ((g.generate access sent refs).run t).1
    let r := (generate config preferred access chance prompt refs).run t
    (∃ g, .gemini g ∈ config.providers preferred ∧ (made g).images ≠ [] ∧
        r.1 = .ok ⟨(made g).images, some Gemini.name, (made g).mode, .null⟩ ∧
        r.2.draws = t.draws) ∨
      (∀ g, .gemini g ∈ config.providers preferred → (made g).images = []) ∧
        r.1 = .ok (config.pollinations.result chance sent) ∧
        r.2.draws = t.draws ++ [(0, 999999)] := by
  intro sent made r
  have hmade (g : Gemini) : made g = g.outcomeAfter access t.calls sent refs :=
    g.run_generate_fst access sent refs t
  have hr : r = (dispatchAfter noProvider sent refs
      ((config.providers preferred).map (Provider.strategy access chance))).run t := rfl
  -- The keyless provider ends the chain, in whatever trace its turn comes.
  have hlast (error : Json) (u : Trace) (hu : u.draws = t.draws)
      (hru : r = (dispatchAfter error sent refs [config.pollinations.strategy chance]).run u) :
      r.1 = .ok (config.pollinations.result chance sent) ∧
        r.2.draws = t.draws ++ [(0, 999999)] := by
    obtain ⟨events, hrun⟩ := run_dispatchAfter_pollinations error config.pollinations chance
      (effectivePrompt_ne_nil prompt) refs u
    rw [hru, hrun]
    exact ⟨rfl, by rw [hu]⟩
  rcases Config.providers_of_keyless hkeyless preferred with hchain | ⟨g, hchain⟩
  · rw [hchain] at hr ⊢
    refine .inr ⟨?_, hlast noProvider t rfl hr⟩
    intro g hg
    simp at hg
  · rw [hchain] at hr ⊢
    by_cases hnone : (g.outcomeAfter access t.calls sent refs).images = []
    · obtain ⟨error, u, hrun, hu⟩ := run_dispatchAfter_gemini_of_not_made noProvider g access
        [config.pollinations.strategy chance] refs t hnone
      refine .inr ⟨?_, hlast error u hu (hr.trans hrun)⟩
      intro g' hg'
      have heq : g' = g := by simpa using hg'
      rw [heq, hmade]
      exact hnone
    · obtain ⟨u, hrun, hu⟩ := run_dispatchAfter_gemini_of_made noProvider g access
        [config.pollinations.strategy chance] refs t hnone
      rw [Web.writeInt_of_isShort (Gemini.isShort_referencesSent hrefs hnone)] at hrun
      have hru := hr.trans hrun
      refine .inl ⟨g, List.mem_cons_self, ?_, ?_, ?_⟩
      · rw [hmade]
        exact hnone
      · rw [hru, hmade]
        rfl
      · rw [hru]
        exact hu

/-- With the keyless provider, generating makes images as long as there is a URL for one, and all of
them from the prompt that providers get: what was given, without the white space around it, or else
the quality suffix. They are the images of the provider with a key, if it is in the chain and makes
any, and no number is drawn then. Otherwise there is one image, whose URL is that of the keyless
provider for the seed drawn, and exactly one number is drawn, from 0 to 999999. There is a URL if
width, height and seed are not too long and no surrogate stands in model or prompt; without one, the
error tells what is in the way of the image. -/
theorem generate_makes_images (config : Config) (preferred : Option Text) (access : Web.Access)
    (chance : Int) (prompt : Option Text) (refs : List ImageReference) (t : Trace)
    (hkeyless : config.keylessEnabled = true) (hrefs : Text.IsShort refs.length) :
    let given := Text.strip (prompt.getD [])
    let sent := if given = [] then Prompt.qualitySuffix else given
    let made (g : Gemini) : Outcome := ((g.generate access sent refs).run t).1
    let r := (generate config preferred access chance prompt refs).run t
    ∃ result, r.1 = .ok result ∧
      (∀ i ∈ result.images, i.prompt = sent) ∧
      (config.pollinations.IsWritable chance → (prompt.getD []).isEncodable = true →
        result.error = .null ∧ result.images ≠ []) ∧
      ((∃ g, .gemini g ∈ config.providers preferred ∧ (made g).images ≠ [] ∧
          result = ⟨(made g).images, some Gemini.name, (made g).mode, .null⟩ ∧
          r.2.draws = t.draws) ∨
        (∀ g, .gemini g ∈ config.providers preferred → (made g).images = []) ∧
          r.2.draws = t.draws ++ [(0, 999999)] ∧
          ((∃ url, config.pollinations.buildUrl sent chance = .ok url ∧
              result = ⟨[⟨url, sent⟩], some Pollinations.name, .generate, .null⟩) ∨
            ¬(config.pollinations.IsWritable chance ∧ (prompt.getD []).isEncodable = true) ∧
              ∃ failure, config.pollinations.buildUrl sent chance = .error failure ∧
                result = ⟨[], none, .generate,
                  .str (Pollinations.name ++ ": ".codes ++ failure.describe)⟩)) := by
  intro given sent made r
  have hends := run_generate_keyless config preferred access chance prompt refs t hkeyless hrefs
  have hsent : effectivePrompt prompt = sent := effectivePrompt_eq prompt
  have hencodable : (prompt.getD []).isEncodable = true → sent.isEncodable = true := by
    rw [← hsent]
    exact isEncodable_effectivePrompt
  rw [hsent] at hends
  -- Either way the result is spelled out; the keyless provider needs a URL for its image.
  rcases hends with ⟨g, hg, himages, hresult, hdraws⟩ | ⟨hnone, hresult, hdraws⟩
  · refine ⟨_, hresult, g.madeFrom_run_generate access sent refs t, fun _ _ => ⟨rfl, himages⟩, ?_⟩
    exact .inl ⟨g, hg, himages, rfl, hdraws⟩
  · refine ⟨_, hresult, ?_⟩
    cases hurl : config.pollinations.buildUrl sent chance with
    | ok url =>
      rw [Pollinations.result_of_url hurl]
      refine ⟨?_, fun _ _ => ⟨rfl, List.cons_ne_nil _ _⟩,
        .inr ⟨hnone, hdraws, .inl ⟨url, rfl, rfl⟩⟩⟩
      intro i hi
      rw [List.mem_singleton.mp hi]
    | error failure =>
      have hmissing : ¬(config.pollinations.IsWritable chance ∧
          (prompt.getD []).isEncodable = true) := by
        rintro ⟨hwritable, hprompt⟩
        cases hurl.symm.trans
          (Pollinations.buildUrl_eq_ok_iff.mpr ⟨hwritable, hencodable hprompt, rfl⟩)
      rw [Pollinations.result_of_failure hurl]
      refine ⟨List.forall_mem_nil _, fun hwritable hprompt => absurd ⟨hwritable, hprompt⟩ hmissing,
        ?_⟩
      exact .inr ⟨hnone, hdraws, .inr ⟨hmissing, failure, rfl, rfl⟩⟩

/-- With a key, but no answer to any call, a blank prompt still brings the image of the quality
suffix. -/
theorem generate_makes_images_without_answers :
    let config := { Config.default with geminiApiKey := some "key".codes }
    let access : Web.Access := ⟨fun _ _ => .error ⟨.readTimeout, []⟩, true, 985⟩
    let r := (generate config none access 7 (some "  ".codes) []).run .empty
    config.keylessEnabled = true ∧ config.pollinations.IsWritable 7 ∧
      ∃ result, r.1 = .ok result ∧ result.error = .null ∧ result.images ≠ [] ∧
        ∀ i ∈ result.images, i.prompt = Prompt.qualitySuffix := by
  intro config access r
  have hkeyless : config.keylessEnabled = true := rfl
  have hwritable : config.pollinations.IsWritable 7 := by decide
  obtain ⟨result, hresult, hprompt, hmade, -⟩ :=
    generate_makes_images config none access 7 (some "  ".codes) [] .empty hkeyless (by decide)
  obtain ⟨herror, himages⟩ := hmade hwritable rfl
  exact ⟨hkeyless, hwritable, result, hresult, herror, himages, hprompt⟩

/-- A model with a surrogate in it leaves no image, although the keyless provider is used. -/
theorem lone_surrogate_leaves_no_image :
    let config := { Config.default with imageModel := [Code.surrogate 0x4FF] }
    let access : Web.Access := ⟨fun _ _ => .error ⟨.connect, []⟩, false, 985⟩
    let r := (generate config none access 7 (some "a red kite".codes) []).run .empty
    config.keylessEnabled = true ∧ "a red kite".codes.isEncodable = true ∧
      r.1 = .ok ⟨[], none, .generate, .str
        ("pollinations: 'utf-8' codec can't encode character '\\udcff' in position 0: " ++
          "surrogates not allowed").codes⟩ :=
  ⟨rfl, rfl, rfl⟩

end CanvasPrompt.Generate
