import CanvasPrompt.Reasoning.Message
import CanvasPrompt.Run.Event

/-!
# Runs

A run does its work and leaves a trace: the calls to other services, the requests to the reasoning
service, the attempts to have images made, the numbers drawn and the events reported, each in order.
A trace only grows at its end, so that what a client answers depends on the calls before.
-/

namespace CanvasPrompt

namespace Run

/-- An attempt to have images made. -/
structure Attempt where
  /-- The name of the provider. -/
  provider : Text
  /-- The prompt that it got. -/
  prompt : Text
  /-- The references that it got. -/
  references : List ImageReference
  deriving DecidableEq

/-- What a run has done so far. -/
structure Trace where
  /-- The calls to other services. -/
  calls : List Web.Call
  /-- The number of clients that were opened. -/
  clientsOpened : Nat
  /-- The requests to the reasoning service. -/
  requests : List (List Reasoning.Message)
  /-- The attempts to have images made. -/
  attempts : List Attempt
  /-- The bounds between which numbers were drawn. -/
  draws : List (Int × Int)
  /-- The events reported. -/
  events : List Event

/-- The trace of a run that has done nothing but the given calls. -/
def Trace.after (calls : List Web.Call) : Trace :=
  ⟨calls, 0, [], [], [], []⟩

/-- The trace of a run that has done nothing. -/
def Trace.empty : Trace := .after []

end Run

/-- A run with a result. -/
abbrev Run (α : Type) := StateM Run.Trace α

namespace Run

/-- Report an event. -/
def report (e : Event) : Run Unit :=
  modify fun t => { t with events := t.events ++ [e] }

/-- Make a call. -/
def call (client : Web.Client) (c : Web.Call) : Run (Except Web.Failure Web.Response) :=
  modifyGet fun t => (client t.calls c, { t with calls := t.calls ++ [c] })

/-- Open a client if it is not given. -/
def reach (access : Web.Access) : Run Web.Client :=
  modifyGet fun t =>
    (access.client,
      if access.opensClient then { t with clientsOpened := t.clientsOpened + 1 } else t)

/-- Send a request to the reasoning service. -/
def request (messages : List Reasoning.Message) : Run Unit :=
  modify fun t => { t with requests := t.requests ++ [messages] }

/-- Begin an attempt to have images made. -/
def attempt (a : Attempt) : Run Unit :=
  modify fun t => { t with attempts := t.attempts ++ [a] }

/-- Draw a number between two bounds; chance gives `outcome`. -/
def draw (outcome low high : Int) : Run Int :=
  modifyGet fun t => (outcome, { t with draws := t.draws ++ [(low, high)] })

/-! ## What a run does to its trace -/

variable {α β : Type} (t : Trace)

/-- A run that does nothing gives its value and keeps the trace. -/
@[simp]
theorem run_pure (a : α) : (pure a : Run α).run t = (a, t) := rfl

/-- The second of two runs begins with the trace that the first one leaves. -/
@[simp]
theorem run_bind (m : Run α) (f : α → Run β) :
    (m >>= f).run t = (f (m.run t).1).run (m.run t).2 := rfl

@[simp]
theorem run_report (e : Event) :
    (report e).run t = ((), { t with events := t.events ++ [e] }) := rfl

@[simp]
theorem run_call (client : Web.Client) (c : Web.Call) :
    (call client c).run t = (client t.calls c, { t with calls := t.calls ++ [c] }) := rfl

@[simp]
theorem run_reach (access : Web.Access) :
    (reach access).run t =
      (access.client,
        if access.opensClient then { t with clientsOpened := t.clientsOpened + 1 } else t) := rfl

/-- To reach other services at most counts a client that is opened. -/
theorem exists_run_reach (access : Web.Access) :
    ∃ opened, (reach access).run t = (access.client, { t with clientsOpened := opened }) := by
  rw [run_reach]
  split
  · exact ⟨_, rfl⟩
  · exact ⟨_, rfl⟩

@[simp]
theorem run_request (messages : List Reasoning.Message) :
    (request messages).run t = ((), { t with requests := t.requests ++ [messages] }) := rfl

@[simp]
theorem run_attempt (a : Attempt) :
    (attempt a).run t = ((), { t with attempts := t.attempts ++ [a] }) := rfl

@[simp]
theorem run_draw (outcome low high : Int) :
    (draw outcome low high).run t =
      (outcome, { t with draws := t.draws ++ [(low, high)] }) := rfl

end Run

end CanvasPrompt
