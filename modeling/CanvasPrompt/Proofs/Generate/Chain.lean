import CanvasPrompt.Generate.Dispatch
import CanvasPrompt.Proofs.Generate.Reply

/-!
# What trying a chain of strategies does

Strategies are tried in order until one makes images. This module says what a run of the chain looks
like from outside:

* `Visit`: a strategy that was asked, with its answer;
* `Visits prompt refs t called t'`: from the trace `t` on, the strategies of `called` are asked one
  after another with the same prompt, and the trace is `t'` then;
* `Concludes lastError called uncalled t' r`: the chain ends with `r`, at the first visit that made
  images or after the last strategy. It breaks down at the former if the number of references that
  were sent has too many digits to be reported.

The main statement is `dispatch_stops_at_first_success`. It holds for strategies that answer
anything: their answers may depend on the prompt, on the references and on what was done before.
-/

namespace CanvasPrompt.Generate

open Run (Attempt Event Trace)

/-- A strategy that was asked, and its answer. -/
structure Visit where
  /-- The strategy. -/
  strategy : Strategy
  /-- What came of asking it. -/
  answer : Except Web.Failure Outcome

namespace Visit

/-- The visit made images. -/
def Succeeded (v : Visit) : Prop :=
  ∃ o, v.answer = .ok o ∧ o.images ≠ []

/-- What went wrong: a failure under the name of the strategy, or what the outcome says. -/
def error (v : Visit) : Json :=
  match v.answer with
  | .error failure => .str (v.strategy.name ++ ": ".codes ++ failure.describe)
  | .ok o => if o.error.truthy then o.error else .str (v.strategy.name ++ ": no images".codes)

/-- What is reported of the visit, when so many references were given. A success is reported with
the number of those that were sent, if it can be written out. -/
def events (given : Nat) (v : Visit) : List Event :=
  match v.answer with
  | .error failure => [.providerRaised v.strategy.name failure]
  | .ok o =>
    if o.images.isEmpty then [.providerFailed v.strategy.name v.error.display]
    else if Text.IsShort o.referencesSent then
      [.generated v.strategy.name o.images.length (Text.ofInt o.referencesSent) given]
    else []

/-- The attempt that the visit begins with. -/
def attempt (prompt : Text) (refs : List ImageReference) (v : Visit) : Attempt :=
  ⟨v.strategy.name, prompt, if v.strategy.supportsReferences then refs else []⟩

end Visit

/-- From the first trace on, strategies are asked one after another, each once. All get the same
prompt; those that take references get all of them, the others none. Each visit is reported before
the next one. -/
inductive Visits (prompt : Text) (refs : List ImageReference) :
    Trace → List Visit → Trace → Prop where
  | nil (t : Trace) : Visits prompt refs t [] t
  | cons {t u t' : Trace} {v : Visit} {rest : List Visit}
      (asked : (v.strategy.generate prompt (v.attempt prompt refs).references).run
        { t with attempts := t.attempts ++ [v.attempt prompt refs] } = (v.answer, u))
      (later : Visits prompt refs
        { u with
          events := u.events ++ v.events (v.attempt prompt refs).references.length } rest t') :
      Visits prompt refs t (v :: rest) t'

/-- The error of the last visit, or the one from before if there is none. -/
def errorAfter (lastError : Json) (called : List Visit) : Json :=
  called.getLast?.elim lastError Visit.error

/-- How a chain ends after the visits `called`, when the strategies `uncalled` are left and the
trace is `t'`. -/
inductive Concludes (lastError : Json) :
    List Visit → List Strategy → Trace → Except Web.Failure Result × Trace → Prop where
  /-- The last visit is the first one that made images, and these are the result. -/
  | success {failed : List Visit} {s : Strategy} {o : Outcome} {uncalled : List Strategy}
      {t' : Trace} (before : ∀ v ∈ failed, ¬v.Succeeded) (made : o.images ≠ [])
      (short : Text.IsShort o.referencesSent) :
      Concludes lastError (failed ++ [⟨s, .ok o⟩]) uncalled t'
        (.ok ⟨o.images, some s.name, if o.referencesSent = 0 then .generate else .reference, .null⟩,
          t')
  /-- The last visit is the first one that made images, but it cannot be reported how many
  references were sent. -/
  | breakdown {failed : List Visit} {s : Strategy} {o : Outcome} {uncalled : List Strategy}
      {t' : Trace} (before : ∀ v ∈ failed, ¬v.Succeeded) (made : o.images ≠ [])
      (long : ¬Text.IsShort o.referencesSent) :
      Concludes lastError (failed ++ [⟨s, .ok o⟩]) uncalled t' (.error .tooManyDigits, t')
  /-- No visit made images, none is left, and the last error is the result. -/
  | failure {called : List Visit} {t' : Trace} (none_made : ∀ v ∈ called, ¬v.Succeeded) :
      Concludes lastError called [] t'
        (.ok ⟨[], none, .generate, errorAfter lastError called⟩,
          { t' with
            events := t'.events ++ [.allProvidersFailed (errorAfter lastError called).display] })

variable {prompt : Text} {refs : List ImageReference}

/-! ## Running a chain -/

/-- A failed visit in front leaves its error to the visits behind it. -/
theorem errorAfter_cons (lastError : Json) (v : Visit) (rest : List Visit) :
    errorAfter lastError (v :: rest) = errorAfter v.error rest := by
  rw [errorAfter, errorAfter, List.getLast?_cons]
  cases rest.getLast? with
  | none => rfl
  | some w => rfl

/-- A failed visit may be put in front of a chain that goes on with its error. -/
theorem Concludes.cons {lastError : Json} {v : Visit} {called : List Visit}
    {uncalled : List Strategy} {t' : Trace} {r : Except Web.Failure Result × Trace}
    (hv : ¬v.Succeeded)
    (h : Concludes v.error called uncalled t' r) :
    Concludes lastError (v :: called) uncalled t' r := by
  cases h with
  | success before made short =>
    rw [← List.cons_append]
    exact .success (List.forall_mem_cons.mpr ⟨hv, before⟩) made short
  | breakdown before made long =>
    rw [← List.cons_append]
    exact .breakdown (List.forall_mem_cons.mpr ⟨hv, before⟩) made long
  | failure none_made =>
    rw [← errorAfter_cons lastError v called]
    exact .failure (List.forall_mem_cons.mpr ⟨hv, none_made⟩)

/-- A visit that makes images ends the chain with them, if it can be reported. -/
theorem run_dispatchAfter_of_made (lastError : Json) {s : Strategy} {rest : List Strategy}
    {o : Outcome} {t u : Trace} (made : o.images ≠ [])
    (asked : (s.generate prompt (s.given refs)).run
      { t with attempts := t.attempts ++ [⟨s.name, prompt, s.given refs⟩] } = (.ok o, u)) :
    (dispatchAfter lastError prompt refs (s :: rest)).run t =
      ((Web.writeInt o.referencesSent).map fun _ => ⟨o.images, some s.name, o.mode, .null⟩,
        { u with
          events := u.events ++ (⟨s, .ok o⟩ : Visit).events (s.given refs).length }) := by
  have hmade : o.isSuccess = true := by simp [Outcome.isSuccess, made]
  simp only [dispatchAfter, Run.run_bind, Run.run_attempt, asked, hmade, ↓reduceIte, Visit.events,
    List.isEmpty_iff, if_neg made]
  by_cases short : Text.IsShort o.referencesSent
  · simp only [Web.writeInt_of_isShort short, if_pos short]
    rfl
  · simp only [Web.writeInt_of_not_isShort short, if_neg short, List.append_nil]
    rfl

/-- After a visit that makes no images the chain goes on, with the error of the visit. -/
theorem run_dispatchAfter_of_not_succeeded (lastError : Json) {v : Visit} {rest : List Strategy}
    {t u : Trace} (failed : ¬v.Succeeded)
    (asked : (v.strategy.generate prompt (v.attempt prompt refs).references).run
      { t with attempts := t.attempts ++ [v.attempt prompt refs] } = (v.answer, u)) :
    (dispatchAfter lastError prompt refs (v.strategy :: rest)).run t =
      (dispatchAfter v.error prompt refs rest).run
        { u with
          events := u.events ++ v.events (v.attempt prompt refs).references.length } := by
  obtain ⟨s, answer⟩ := v
  change (s.generate prompt (s.given refs)).run
    { t with attempts := t.attempts ++ [⟨s.name, prompt, s.given refs⟩] } = (answer, u) at asked
  cases answer with
  | error failure =>
    simp only [dispatchAfter, Run.run_bind, Run.run_attempt, asked]
    rfl
  | ok o =>
    have hempty : o.images = [] := Classical.byContradiction fun hne => failed ⟨o, rfl, hne⟩
    simp only [dispatchAfter, Run.run_bind, Run.run_attempt, asked, Outcome.isSuccess, hempty,
      Visit.events, List.isEmpty_nil, Bool.not_true, Bool.false_eq_true, ↓reduceIte]
    rfl

/-- A chain visits its strategies up to the first one that makes images, and ends there or after the
last one. -/
theorem run_dispatchAfter (prompt : Text) (refs : List ImageReference) (lastError : Json)
    (strategies : List Strategy) (t : Trace) :
    ∃ called uncalled t',
      strategies = called.map Visit.strategy ++ uncalled ∧
        Visits prompt refs t called t' ∧
          Concludes lastError called uncalled t'
            ((dispatchAfter lastError prompt refs strategies).run t) := by
  -- The visits that are left begin with the error and the trace of those before.
  induction strategies generalizing lastError t with
  | nil => exact ⟨[], [], t, rfl, .nil t, .failure (by simp)⟩
  | cons s rest ih =>
    cases asked : (s.generate prompt (s.given refs)).run
      { t with attempts := t.attempts ++ [⟨s.name, prompt, s.given refs⟩] } with
    | mk answer u =>
      by_cases hv : (⟨s, answer⟩ : Visit).Succeeded
      · obtain ⟨o, rfl, made⟩ := hv
        refine ⟨[] ++ [⟨s, .ok o⟩], rest, _, rfl, .cons asked (.nil _), ?_⟩
        rw [run_dispatchAfter_of_made lastError made asked]
        by_cases short : Text.IsShort o.referencesSent
        · rw [Web.writeInt_of_isShort short]
          exact .success (List.forall_mem_nil _) made short
        · rw [Web.writeInt_of_not_isShort short]
          exact .breakdown (List.forall_mem_nil _) made short
      · obtain ⟨called, uncalled, t', hsplit, hvisits, hend⟩ := ih (⟨s, answer⟩ : Visit).error _
        refine ⟨⟨s, answer⟩ :: called, uncalled, t', ?_, .cons asked hvisits, ?_⟩
        · rw [hsplit]
          rfl
        · rw [run_dispatchAfter_of_not_succeeded lastError hv asked]
          exact hend.cons hv

/-! ## The record of attempts -/

/-- The strategy leaves the record of attempts to the chain. -/
def Strategy.KeepsAttempts (s : Strategy) : Prop :=
  ∀ prompt refs t, ((s.generate prompt refs).run t).2.attempts = t.attempts

/-- The keyless provider only draws a number. -/
theorem Pollinations.strategy_keepsAttempts (p : Pollinations) (chance : Int) :
    (p.strategy chance).KeepsAttempts := by
  intro prompt refs t
  simp only [Pollinations.strategy, Pollinations.generate]
  cases prompt.isEmpty with
  | true => rfl
  | false => rfl

/-- The provider with a key only opens a client and makes calls. -/
theorem Gemini.strategy_keepsAttempts (g : Gemini) (access : Web.Access) :
    (g.strategy access).KeepsAttempts := by
  intro prompt refs t
  obtain ⟨opened, hrun⟩ := g.run_strategy access prompt refs t
  rw [hrun]
  rfl

/-- Every provider that can be configured leaves the record of attempts to the chain. -/
theorem Provider.strategy_keepsAttempts (access : Web.Access) (chance : Int) (p : Provider) :
    (p.strategy access chance).KeepsAttempts := by
  cases p with
  | gemini g => exact g.strategy_keepsAttempts access
  | pollinations p => exact p.strategy_keepsAttempts chance

/-- A chain that makes images names the provider that made them. -/
theorem Concludes.exists_provider {lastError : Json} {called : List Visit}
    {uncalled : List Strategy} {t' : Trace} {r : Except Web.Failure Result × Trace}
    {result : Result} (h : Concludes lastError called uncalled t' r) (hresult : r.1 = .ok result)
    (hsuccess : result.isSuccess = true) : ∃ provider, result.provider = some provider := by
  cases h with
  | success before made short =>
    cases hresult
    exact ⟨_, rfl⟩
  | breakdown before made long => cases hresult
  | failure none_made =>
    -- The result of a chain that fails has no images.
    cases hresult
    rw [Result.isSuccess, List.isEmpty_nil, Bool.not_true, Bool.and_false] at hsuccess
    cases hsuccess

end CanvasPrompt.Generate
