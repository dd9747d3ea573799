import CanvasPrompt.Auth.Digest
import CanvasPrompt.Auth.Token
import CanvasPrompt.Json.Reader
import CanvasPrompt.Text.Base64

/-!
# Tokens signed with HS256

A decoder for one way of signing. A token has three parts, divided by points: a header, claims and a
signature, each in base64 for URLs, with or without the fill at its end. The signature is the keyed
digest of the first two parts. The claims say who made the token, for whom and about whom it is, and
between which times it counts, in whole seconds.
-/

namespace CanvasPrompt.Auth.Hs256

open Json (field find?)

/-! ## The parts of a token -/

/-- The parts of a token. -/
structure Segments where
  /-- The header in base64. -/
  header : Text
  /-- The claims in base64. -/
  claims : Text
  /-- The signature in base64. -/
  signature : Text
  deriving DecidableEq

/-- What the signature is made of. -/
def Segments.signed (s : Segments) : Text :=
  s.header ++ Code.scalar '.' :: s.claims

/-- The parts of a token, if there are three. -/
def segments? (token : Text) : Option Segments :=
  match Text.splitAtChar '.' token with
  | [header, claims, signature] => some ⟨header, claims, signature⟩
  | _ => none

/-- The bytes of a part of a token. -/
def bytesIn? (segment : Text) : Option Bytes :=
  Base64.decodeUnfilled Base64.forUrls segment

/-- The members of an object that is a part of a token, in which at most `room` containers are
nested. -/
def objectIn? (room : Nat) (segment : Text) : Option Members :=
  match (bytesIn? segment).map (Json.readBytes room) with
  | some (.ok (.obj ms)) => some ms
  | _ => none

/-- Whether a value is a text. -/
def isText (v : Json) : Bool :=
  v.kind == .text

/-- The extensions that are known. -/
def knownExtensions : List Text := ["b64".codes]

/-- Whether a list of extensions that have to be known can be met: it is not empty, and names known
extensions that the header uses. -/
def extensionsFit (header : Members) : Json → Bool
  | .arr items =>
    !items.isEmpty && items.all fun v =>
      match v with
      | .str t => knownExtensions.contains t && (find? t header).isSome
      | _ => false
  | _ => false

/-- Whether a header is one that can be dealt with: the identity of the key is a text if it is told,
and all extensions that have to be known are. -/
def headerFits (header : Members) : Bool :=
  ((find? "kid".codes header).elim true isText) &&
    ((find? "crit".codes header).elim true (extensionsFit header)) &&
    !(match find? "b64".codes header with
      | some (.bool false) => true
      | _ => false)

/-- The way of signing. -/
def algorithm : Text := "HS256".codes

/-- The parts of a token whose header can be dealt with and names this way of signing. -/
def headed? (room : Nat) (token : Text) : Option Segments :=
  (segments? token).filter fun s =>
    (objectIn? room s.header).any fun header =>
      headerFits header && (field header "alg").text? == some algorithm

/-- Whether the signature of a token is the keyed digest of its other parts. -/
def isSigned (key : Text) (s : Segments) : Bool :=
  bytesIn? s.signature == some (keyedDigest (Text.utf8 key) (Text.utf8 s.signed))

/-- Whether a token is well formed and signed under a key. -/
def isSignedUnder (room : Nat) (key token : Text) : Bool :=
  (headed? room token).any (isSigned key)

/-- The claims of a token. -/
def claims? (room : Nat) (token : Text) : Option Members :=
  (segments? token).bind fun s => objectIn? room s.claims

/-! ## The checks -/

/-- What has to hold of a token, or else it is refused. -/
def require (holds : Bool) : Except TokenError Unit :=
  if holds then .ok () else .error .invalid

/-- What has to be encoded, or else looking at the token fails. -/
def encode (t : Text) : Except TokenError Text :=
  match Web.encodable t with
  | .ok t => .ok t
  | .error failure => .error (.broken failure)

/-- The token has to be signed. The key is not looked at before the header fits. -/
def checkSignature (room : Nat) (d : Demand) : Except TokenError Unit := do
  let token ← encode d.token
  require (d.algorithms.contains algorithm && (headed? room token).isSome)
  let key ← encode d.key
  require (isSignedUnder room key token)

/-- Whether a time that tokens count from is not later than the given one, if it is told. -/
def hasBegun (bound : Rat) (claims : Members) (name : String) : Bool :=
  (find? name.codes claims).all fun v =>
    (wholeNumber? v).any fun time : Int => decide ((time : Rat) ≤ bound)

/-- The time up to which a token counts, if it is told, has to be later than the given one. -/
def checkEnd (bound : Rat) (claims : Members) : Except TokenError Unit :=
  match find? "exp".codes claims with
  | none => .ok ()
  | some v =>
    match wholeNumber? v with
    | none => .error .invalid
    | some time => if time ≤ bound then .error .expired else .ok ()

/-- Whether claims are for an audience: it is named, alone or in a list of texts. -/
def audienceFits (audience : Text) (claims : Members) : Bool :=
  match field claims "aud" with
  | .str t => !t.isEmpty && t == audience
  | .arr items => items.all isText && (items.filterMap Json.text?).contains audience
  | _ => false

/-- Whether it is texts that tell whom claims are about and what their identity is, if they tell it.
-/
def identitiesFit (claims : Members) : Bool :=
  (find? "sub".codes claims).all isText && (find? "jti".codes claims).all isText

/-- Make one check of a token. -/
def check (room : Nat) (now : Rat) (d : Demand) (c : Check) : Except TokenError Unit :=
  let claims := (claims? room d.token).getD []
  match c with
  | .signature => checkSignature room d
  | .payload => require (claims? room d.token).isSome
  | .required => require (d.required.all fun name => (find? name claims).any (·.kind != .null))
  | .issuedAt => require (hasBegun (now + d.leeway) claims "iat")
  | .notBefore => require (hasBegun (now + d.leeway) claims "nbf")
  | .expiry => checkEnd (now - d.leeway) claims
  | .issuer => require ((field claims "iss").text? == some d.issuer)
  | .audience => require (audienceFits d.audience claims)
  | .identities => require (identitiesFit claims)

/-- Decode a token: it has to pass all checks. At most `room` containers may be nested in it. -/
def decode (room : Nat) : Decoder := fun now d => do
  let _ ← Check.all.mapM (check room now d)
  pure ((claims? room d.token).getD [])

end CanvasPrompt.Auth.Hs256
