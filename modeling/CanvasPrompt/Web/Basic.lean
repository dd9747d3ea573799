import CanvasPrompt.Json.Limit
import CanvasPrompt.Text.Utf8

/-!
# Calls to other services

A client answers each call with a response or a failure, and its answer may depend on the calls
before it. A response is a status, a media type and the bytes of a body; a failure is a kind and a
message.
-/

namespace CanvasPrompt.Web

/-- The seconds that another service may take unless another limit is set: 45. -/
def defaultTimeout : Double := Double.ofDecimal false 45 0

/-- The kinds of failures. -/
inductive FailureKind where
  /-- Something went wrong while running. -/
  | runtime
  /-- A value was refused. -/
  | value
  /-- Something was looked up in vain. -/
  | key
  /-- A time limit of our own ran out. -/
  | timeout
  /-- The other side did not answer in time. -/
  | readTimeout
  /-- The other side could not be reached. -/
  | connect
  /-- A text was not encoded: the run of surrogates `run` stands behind `start` characters. -/
  | encoding (start : Nat) (run : Text)
  /-- Anything else, with the word for it. -/
  | other (word : Text)
  deriving DecidableEq, Inhabited

/-- The word for a kind of failure. -/
def FailureKind.label : FailureKind → Text
  | .runtime => "RuntimeError".codes
  | .value => "ValueError".codes
  | .key => "KeyError".codes
  | .timeout => "TimeoutError".codes
  | .readTimeout => "ReadTimeout".codes
  | .connect => "ConnectError".codes
  | .encoding _ _ => "UnicodeEncodeError".codes
  | .other word => word

/-- Why a call failed. -/
structure Failure where
  /-- The kind of the failure. -/
  kind : FailureKind
  /-- What it says. -/
  message : Text
  deriving DecidableEq, Inhabited

/-- Where some code points stand that cannot be encoded, as it is told. -/
def encodingPlace (start : Nat) : Text → Text
  | [c] =>
    "character '\\u".codes ++ Text.hexDigits 4 c.toNat ++ "' in position ".codes ++
      Text.ofNat start
  | run =>
    "characters in position ".codes ++ Text.ofNat start ++ Code.scalar '-' ::
      Text.ofNat (start + run.length - 1)

/-- What a failure says for itself; what was looked up in vain stands in quotes. -/
def Failure.describe (f : Failure) : Text :=
  match f.kind with
  | .key => Text.quoted f.message
  | .encoding start run =>
    "'utf-8' codec can't encode ".codes ++ encodingPlace start run ++
      ": surrogates not allowed".codes
  | _ => f.message

/-- What is shown of a failure in brackets: the message in quotes, and what else it tells. -/
def Failure.arguments (f : Failure) : Text :=
  match f.kind with
  | .encoding start run =>
    "'utf-8', ".codes ++ Text.quoted f.message ++ ", ".codes ++ Text.ofNat start ++ ", ".codes ++
      Text.ofNat (start + run.length) ++ ", 'surrogates not allowed'".codes
  | _ => Text.quoted f.message

/-- A failure with its kind. -/
def Failure.display (f : Failure) : Text :=
  f.kind.label ++ Code.scalar '(' :: f.arguments ++ [Code.scalar ')']

/-- The failure to write out a whole number that has too many digits. -/
def Failure.tooManyDigits : Failure :=
  ⟨.value, Text.tooManyToWrite⟩

/-- Write out a whole number. -/
def writeInt (i : Int) : Except Failure Text :=
  match Text.writtenInt? i with
  | some t => .ok t
  | none => .error .tooManyDigits

theorem writeInt_of_isShort {i : Int} (h : Text.IsShort i) : writeInt i = .ok (Text.ofInt i) := by
  rw [writeInt, Text.writtenInt?, if_pos h]

theorem writeInt_of_not_isShort {i : Int} (h : ¬Text.IsShort i) :
    writeInt i = .error .tooManyDigits := by
  rw [writeInt, Text.writtenInt?, if_neg h]

/-- Just the short integers are written out, in their digits. -/
theorem writeInt_eq_ok_iff {i : Int} {t : Text} :
    writeInt i = .ok t ↔ Text.IsShort i ∧ t = Text.ofInt i := by
  by_cases h : Text.IsShort i
  · rw [writeInt_of_isShort h, Except.ok.injEq, eq_comm]
    exact (and_iff_right h).symm
  · rw [writeInt_of_not_isShort h]
    exact iff_of_false nofun fun hshort => h hshort.1

/-- The failure to encode a text. -/
def Failure.notEncoded (t : Text) : Failure :=
  ⟨.encoding (Text.encodingFault t).1.length (Text.encodingFault t).2, t⟩

/-- Let a text pass that can be encoded. -/
def encodable (t : Text) : Except Failure Text :=
  if Text.isEncodable t then .ok t else .error (.notEncoded t)

theorem encodable_eq_ok_iff {t u : Text} :
    encodable t = .ok u ↔ t.isEncodable = true ∧ u = t := by
  rw [encodable]
  by_cases h : t.isEncodable = true
  · rw [if_pos h, Except.ok.injEq, eq_comm]
    exact (and_iff_right h).symm
  · rw [if_neg h]
    exact iff_of_false nofun fun hencodable => h hencodable.1

/-- A call. -/
inductive Call where
  /-- Fetch what is at a URL, redirections included. -/
  | fetch (url : Text)
  /-- Send a value to a URL, with parameters that are added to it. -/
  | send (url : Text) (parameters : List (Text × Text)) (body : Json)

/-- The URL of a call, without the parameters. -/
def Call.url : Call → Text
  | .fetch url => url
  | .send url _ _ => url

/-- The answer to a call. -/
structure Response where
  /-- The status. -/
  status : Int
  /-- The media type, if it is told. -/
  contentType : Option Text
  /-- The body. -/
  body : Bytes
  deriving DecidableEq

/-- Whether the status reports success. -/
def Response.isSuccess (r : Response) : Bool :=
  decide (200 ≤ r.status ∧ r.status < 300)

/-- A client: what the calls so far and a further call lead to. -/
abbrev Client := List Call → Call → Except Failure Response

/-- How other services are reached: through a client of the caller, or through one that is opened
for the purpose and behaves alike. -/
structure Access where
  /-- What the calls lead to. -/
  client : Client
  /-- Whether a client has to be opened first. -/
  opensClient : Bool
  /-- The number of containers that may be nested, one in the other, in a reply that is JSON. -/
  nesting : Nat

end CanvasPrompt.Web
