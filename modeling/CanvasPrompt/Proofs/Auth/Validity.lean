import CanvasPrompt.Settings.Basic
import CanvasPrompt.Proofs.Auth.Decoding
import Mathlib.Algebra.Order.Ring.Unbundled.Rat
import Mathlib.Tactic.Linarith

/-!
# When a token counts

What the answer to a token depends on, and how it changes as the clock goes on. Nothing is assumed
of the decoder but what it checks and in which order (`TokenFormat.IsDecodedBy`). This module
introduces

* `Admits f s token now user claims`: the claims of the token are about the user and hold at the
  time `now`, for the settings `s`.

A token is accepted exactly if its claims hold (`verify_eq_ok_iff`), and has expired exactly if it
passes all checks up to the one of its end and fails that one (`verify_eq_expired_iff`). Claims that
have begun to count have begun at every later time, and those that have ended stay ended. So there
is no gap in the times at which a token is accepted, and it expires for good
(`accepted_until_expired`).
-/

namespace CanvasPrompt.Auth

open Json (field find?)

/-! ## The answer -/

/-- The claims of a token are about the user and hold at the time `now`. -/
structure Admits (f : TokenFormat) (s : Settings) (token : Text) (now : Rat) (user : Json)
    (claims : Members) : Prop where
  /-- The token is signed under the secret. -/
  signed : f.IsSigned "HS256".codes s.supabaseJwtSecret token
  /-- The claims are those of the token. -/
  made : f.claims? token = some claims
  /-- They say when they end, whom they are about, for whom they are and who made them. -/
  required : ∀ name ∈ ["exp", "sub", "aud", "iss"], ∃ v,
    find? name.codes claims = some v ∧ v ≠ .null
  /-- They are about the user. -/
  sub : find? "sub".codes claims = some user
  /-- They have been made, as far as the clock can tell. -/
  issued : Begun (now + 30) claims "iat"
  /-- They have begun to count. -/
  begun : Begun (now + 30) claims "nbf"
  /-- They still count. -/
  ends : ∃ time, wholeNumber? (field claims "exp") = some time ∧ now - 30 < (time : Rat)
  /-- The issuer made them. -/
  iss : field claims "iss" = .str (s.supabaseUrl ++ "/auth/v1".codes)
  /-- They are for the audience. -/
  aud : IsFor s.jwtAudience claims
  /-- They tell identities in the right form. -/
  identities : f.Identifies claims

section

variable {f : TokenFormat} {decode : Decoder} {s : Settings} {token : Text} {now later : Rat}
  {user : Json} {claims : Members}

theorem field_eq_of_find? {name : String} {v : Json} (h : find? name.codes claims = some v) :
    field claims name = v := by
  rw [field, h]
  rfl

/-- Where the end is told, the claims count up to it. -/
theorem going_iff {bound : Rat} {v : Json} (h : find? "exp".codes claims = some v) :
    Going bound claims ↔
      ∃ time, wholeNumber? (field claims "exp") = some time ∧ bound < (time : Rat) := by
  rw [Going, h, field_eq_of_find? h]
  simp only [Option.mem_def, Option.some.injEq, forall_eq']

theorem claims_demand (h : f.claims? token = some claims) (v : Verifier) :
    f.claims (v.demand token) = claims := by
  show (f.claims? token).getD [] = claims
  rw [h]
  rfl

/-- The claims of a token that passes all checks hold. -/
theorem admits_of_passes (hmade : f.claims? token = some claims)
    (hpasses : ∀ c ∈ Check.all, f.Passes now (s.verifier.demand token) c)
    (hsub : find? "sub".codes claims = some user) : Admits f s token now user claims := by
  have passes (c : Check) : f.Passes now (s.verifier.demand token) c := hpasses c c.mem_all
  -- Only one way of signing is accepted.
  obtain ⟨a, ha, hsigned⟩ := passes .signature
  obtain rfl := List.mem_singleton.mp ha
  obtain rfl := claims_demand hmade s.verifier
  have hrequired : ∀ name ∈ ["exp", "sub", "aud", "iss"], ∃ v,
      find? name.codes (f.claims (s.verifier.demand token)) = some v ∧ v ≠ .null :=
    fun name hname => passes .required name.codes (List.mem_map_of_mem hname)
  obtain ⟨v, hv, -⟩ := hrequired "exp" List.mem_cons_self
  exact
    { signed := hsigned
      made := hmade
      required := hrequired
      sub := hsub
      issued := passes .issuedAt
      begun := passes .notBefore
      ends := (going_iff hv).mp (passes .expiry)
      iss := passes .issuer
      aud := passes .audience
      identities := passes .identities }

/-- A token whose claims hold passes all checks. -/
theorem Admits.passes (h : Admits f s token now user claims) (c : Check) :
    f.Passes now (s.verifier.demand token) c := by
  -- The checks look at the claims of the demand, which are those of the token.
  obtain rfl := claims_demand h.made s.verifier
  cases c with
  | signature => exact ⟨_, List.mem_singleton_self _, h.signed⟩
  | payload => exact Option.isSome_iff_exists.mpr ⟨_, h.made⟩
  | required =>
    intro name hname
    obtain ⟨name, hmem, rfl⟩ : ∃ n ∈ ["exp", "sub", "aud", "iss"], n.codes = name :=
      List.mem_map.mp hname
    exact h.required name hmem
  | issuedAt => exact h.issued
  | notBefore => exact h.begun
  | expiry =>
    obtain ⟨v, hv, -⟩ := h.required "exp" List.mem_cons_self
    exact (going_iff hv).mpr h.ends
  | issuer => exact h.iss
  | audience => exact h.aud
  | identities => exact h.identities

/-- A token is accepted just if its claims hold, for the user whom they are about. -/
theorem verify_eq_ok_iff (hf : f.IsDecodedBy decode) :
    verify decode s.verifier now token = .ok user ↔ ∃ claims, Admits f s token now user claims := by
  -- The subject is taken from the claims without another check.
  have hsubject (claims : Members) :
      subjectOf claims = .ok user ↔ find? "sub".codes claims = some user := by
    rw [subjectOf]
    cases find? "sub".codes claims with
    | none => exact iff_of_false nofun nofun
    | some v => rw [Except.ok.injEq, Option.some.injEq]
  rw [verify]
  constructor
  · intro h
    cases hdecode : decode now (s.verifier.demand token) with
    | error e =>
      rw [hdecode] at h
      cases h
    | ok claims =>
      rw [hdecode] at h
      obtain ⟨hmade, hpasses⟩ := hf.accepts now _ claims hdecode
      exact ⟨claims, admits_of_passes hmade hpasses ((hsubject claims).mp h)⟩
  · rintro ⟨claims, h⟩
    rw [(decode_eq_ok_iff hf).mpr ⟨h.made, fun c _ => h.passes c⟩]
    exact (hsubject claims).mpr h.sub

/-- A token has expired just if this is the first check that it fails. -/
theorem verify_eq_expired_iff (hf : f.IsDecodedBy decode) :
    verify decode s.verifier now token = .error .expired ↔
      f.Expired now (s.verifier.demand token) := by
  rw [← decode_eq_expired_iff hf, verify]
  cases decode now (s.verifier.demand token) with
  | error e =>
    show Except.error e = .error .expired ↔ _
    rw [Except.error.injEq, Except.error.injEq]
  | ok claims =>
    refine iff_of_false ?_ nofun
    show subjectOf claims ≠ _
    rw [subjectOf]
    cases find? "sub".codes claims <;> exact nofun

/-! ## The course of time -/

theorem Begun.mono {bound bound' : Rat} {name : String} (h : Begun bound claims name)
    (hle : bound ≤ bound') : Begun bound' claims name := by
  intro v hv
  obtain ⟨time, htime, hbound⟩ := h v hv
  exact ⟨time, htime, hbound.trans hle⟩

/-- A check of anything but the end of a token is passed at every later time. -/
theorem TokenFormat.Passes.mono {d : Demand} {c : Check} (h : f.Passes now d c) (hc : c ≠ .expiry)
    (hle : now ≤ later) : f.Passes later d c := by
  have hbound : now + d.leeway ≤ later + d.leeway := by linarith
  cases c with
  | issuedAt => exact Begun.mono h hbound
  | notBefore => exact Begun.mono h hbound
  | expiry => exact absurd rfl hc
  | _ => exact h

theorem TokenFormat.Expired.mono {d : Demand} (h : f.Expired now d) (hle : now ≤ later) :
    f.Expired later d := by
  obtain ⟨v, hv, time, htime, hend⟩ := h.ended
  refine ⟨fun c hc => (h.passes c hc).mono ?_ hle, v, hv, time, htime, by linarith⟩
  rintro rfl
  exact absurd hc (by decide)

/-- Claims that hold at one time hold at a later one as long as they have not ended. -/
theorem Admits.afterwards (h : Admits f s token now user claims) (hle : now ≤ later)
    (hends : ∃ time, wholeNumber? (field claims "exp") = some time ∧ later - 30 < (time : Rat)) :
    Admits f s token later user claims :=
  { h with
    issued := h.issued.mono (by linarith)
    begun := h.begun.mono (by linarith)
    ends := hends }

theorem Admits.unique {now' : Rat} {user' : Json} {claims' : Members}
    (h : Admits f s token now user claims) (h' : Admits f s token now' user' claims') :
    claims' = claims ∧ user' = user := by
  obtain rfl : claims' = claims := Option.some.inj (h'.made.symm.trans h.made)
  exact ⟨rfl, Option.some.inj (h'.sub.symm.trans h.sub)⟩

/-- For fixed settings, and a decoder that makes its checks in order: a token that is accepted at
two times is accepted in between, for the same user. One that has expired has expired at every later
time. One that is accepted is accepted later too, or else has expired; it never becomes invalid. And
it is accepted exactly if it is signed under the secret and its claims hold. -/
theorem accepted_until_expired (f : TokenFormat) (decode : Decoder) (hf : f.IsDecodedBy decode)
    (s : Settings) (token : Text) :
    let answer (now : Rat) := verify decode s.verifier now token
    (∀ first now last user user', first ≤ now → now ≤ last → answer first = .ok user →
      answer last = .ok user' → answer now = .ok user ∧ user' = user) ∧
    (∀ now later, now ≤ later → answer now = .error .expired → answer later = .error .expired) ∧
    (∀ now later user, now ≤ later → answer now = .ok user →
      answer later = .ok user ∨ answer later = .error .expired) ∧
    ∀ now user, answer now = .ok user ↔ ∃ claims, Admits f s token now user claims := by
  intro answer
  refine ⟨?_, ?_, ?_, fun now user => verify_eq_ok_iff hf⟩
  · intro first now last user user' hfirst hlast hok hok'
    obtain ⟨claims, hadmits⟩ := (verify_eq_ok_iff hf).mp hok
    obtain ⟨claims', hadmits'⟩ := (verify_eq_ok_iff hf).mp hok'
    obtain ⟨rfl, rfl⟩ := hadmits.unique hadmits'
    -- The dates are passed from the first time on, and the end is not before the last one.
    obtain ⟨time, htime, hend⟩ := hadmits'.ends
    have hnow := hadmits.afterwards hfirst ⟨time, htime, by linarith⟩
    exact ⟨(verify_eq_ok_iff hf).mpr ⟨_, hnow⟩, rfl⟩
  · intro now later hle hexpired
    exact (verify_eq_expired_iff hf).mpr (((verify_eq_expired_iff hf).mp hexpired).mono hle)
  · intro now later user hle hok
    obtain ⟨claims, hadmits⟩ := (verify_eq_ok_iff hf).mp hok
    obtain ⟨time, htime, -⟩ := hadmits.ends
    by_cases hend : later - 30 < (time : Rat)
    · exact .inl ((verify_eq_ok_iff hf).mpr ⟨_, hadmits.afterwards hle ⟨time, htime, hend⟩⟩)
    · -- What is passed before the end is passed later as well.
      obtain ⟨v, hv, -⟩ := hadmits.required "exp" List.mem_cons_self
      rw [field_eq_of_find? hv] at htime
      refine .inr ((verify_eq_expired_iff hf).mpr
        ⟨fun c hc => ?_, v, ?_, time, htime, not_lt.mp hend⟩)
      · refine (hadmits.passes c).mono ?_ hle
        rintro rfl
        exact absurd hc (by decide)
      · rw [claims_demand hadmits.made]
        exact hv

theorem eq_ok_str_of_toOption_bind {r : Except TokenError Json} {t : Text}
    (h : r.toOption.bind Json.text? = some t) : r = .ok (.str t) := by
  obtain ⟨v, hv, ht⟩ := Option.bind_eq_some_iff.mp h
  rw [Hs256.text?_eq_some_iff.mp ht] at hv
  cases r <;> cases hv
  rfl

/-- A token from the second 10 to the second 100: with the leeway it is accepted from -20 up to, but
not including, 130. -/
theorem token_lasts_between_its_dates :
    let s : Settings := ⟨none, none, [], 400, .zero, 2, none, none, [], [], 1024, 1024, .zero, [],
      "k".codes, "a".codes, [], []⟩
    let token : Text := ("eyJhbGciOiJIUzI1NiJ9." ++
      "eyJleHAiOjEwMCwic3ViIjoidSIsImF1ZCI6ImEiLCJpc3MiOiIvYXV0aC92MSIsIm5iZiI6MTB9." ++
      "4RguNE9laMS-33nH4PRirgkAWWcRbuKWNj7MQlq5StQ").codes
    let answer (now : Rat) := verify (Hs256.decode 985) s.verifier now token
    answer (-20) = .ok (.str "u".codes) ∧ answer 60 = .ok (.str "u".codes) ∧
      answer (259 / 2) = .ok (.str "u".codes) ∧ answer 130 = .error .expired ∧
      answer 500 = .error .expired := by
  intro s token answer
  obtain ⟨hbetween, hgone, honly, -⟩ :=
    accepted_until_expired (Hs256.format 985) (Hs256.decode 985) (Hs256.isDecodedBy 985) s token
  -- Three moments are worked out by hand, and the others follow from these.
  have hfirst : answer (-20) = .ok (.str "u".codes) :=
    eq_ok_str_of_toOption_bind (by decide +kernel)
  have hlast : answer (259 / 2) = .ok (.str "u".codes) :=
    eq_ok_str_of_toOption_bind (by decide +kernel)
  have hthen : answer 60 = .ok (.str "u".codes) :=
    (hbetween (-20) 60 (259 / 2) _ _ (by norm_num) (by norm_num) hfirst hlast).1
  have hend : Except.isOk (answer 130) = false := by decide +kernel
  have hrefused : answer 130 ≠ .ok (.str "u".codes) := by
    intro hok
    rw [hok] at hend
    cases hend
  have hexpired : answer 130 = .error .expired :=
    (honly (259 / 2) 130 _ (by norm_num) hlast).resolve_left hrefused
  exact ⟨hfirst, hthen, hlast, hexpired, hgone 130 500 (by norm_num) hexpired⟩

end

end CanvasPrompt.Auth
