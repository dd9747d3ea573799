import CanvasPrompt.Web.Basic

/-!
# Access tokens

Whether a token counts is left to a decoder, which knows the time and the ways of signing. It is
told what to ask of a token, and gives the claims of a token that meets the demand. Whom the token
is about is one of these claims.
-/

namespace CanvasPrompt.Auth

/-- What is asked of a token. -/
structure Demand where
  /-- The token. -/
  token : Text
  /-- The key of its signature. -/
  key : Text
  /-- The ways of signing that are accepted. -/
  algorithms : List Text
  /-- For whom the token has to be. -/
  audience : Text
  /-- Who has to have made it. -/
  issuer : Text
  /-- The claims that it has to make. -/
  required : List Text
  /-- The seconds by which clocks may differ. -/
  leeway : Rat

/-- Why a token is refused. -/
inductive TokenError where
  /-- It counted up to some time, which is past. -/
  | expired
  /-- Something else is wrong with it. -/
  | invalid
  /-- Looking at it failed. -/
  | broken (failure : Web.Failure)
  deriving DecidableEq

/-- A decoder of tokens: what comes of a demand at a time. -/
abbrev Decoder := Rat → Demand → Except TokenError Members

/-- What a decoder checks. -/
inductive Check where
  /-- The token is signed as demanded. -/
  | signature
  /-- Its claims can be read. -/
  | payload
  /-- It makes the claims that are required. -/
  | required
  /-- It is made already. -/
  | issuedAt
  /-- It counts already. -/
  | notBefore
  /-- It counts still. -/
  | expiry
  /-- It is made by the right one. -/
  | issuer
  /-- It is made for the right one. -/
  | audience
  /-- It tells identities in the right form. -/
  | identities
  deriving DecidableEq

/-- The checks in the order in which they are made. -/
def Check.all : List Check :=
  [.signature, .payload, .required, .issuedAt, .notBefore, .expiry, .issuer, .audience, .identities]

/-- The whole number that a value means, if it means one. -/
def wholeNumber? : Json → Option Int
  | .bool b => some (if b then 1 else 0)
  | .int i => some i
  | .float d => d.truncate?
  | .str t => (Text.readInteger t).toOption
  | _ => none

/-- What tokens are checked against. -/
structure Verifier where
  /-- The key of the signature. -/
  secret : Text
  /-- For whom a token has to be. -/
  audience : Text
  /-- Who has to have made it. -/
  issuer : Text
  deriving DecidableEq

/-- What is asked of a token: it is signed in the one way that is accepted, and says when it ends,
whom it is about, for whom it is and who made it. Clocks may differ by half a minute. -/
def Verifier.demand (v : Verifier) (token : Text) : Demand where
  token
  key := v.secret
  algorithms := ["HS256".codes]
  audience := v.audience
  issuer := v.issuer
  required := ["exp".codes, "sub".codes, "aud".codes, "iss".codes]
  leeway := 30

/-- Whom claims are about. -/
def subjectOf (claims : Members) : Except TokenError Json :=
  match Json.find? "sub".codes claims with
  | some v => .ok v
  | none => .error (.broken ⟨.key, "sub".codes⟩)

/-- Whom a token is about, if it counts now. -/
def verify (decode : Decoder) (v : Verifier) (now : Rat) (token : Text) : Except TokenError Json :=
  match decode now (v.demand token) with
  | .ok claims => subjectOf claims
  | .error e => .error e

end CanvasPrompt.Auth
