import CanvasPrompt.Auth.Hs256
import CanvasPrompt.Proofs.Fallible
import Mathlib.Algebra.Order.Ring.Unbundled.Rat
import Mathlib.Data.Set.List

/-!
# What decoders of tokens check

What is relied on of a decoder: what it checks and in which order. This module introduces

* `TokenFormat`: how tokens are signed and how their claims are written;
* `TokenFormat.Passes f now d c`: the token of the demand `d` passes the check `c` at the time
  `now`;
* `TokenFormat.IsDecodedBy f decode`: the decoder makes the checks in their order and refuses a
  token for the first that it fails, with a word of its own for the end of its time.

A token is accepted exactly if it passes all checks (`decode_eq_ok_iff`), and has expired exactly if
it passes those up to the one of its end and fails that one (`decode_eq_expired_iff`). The decoder
for HS256 is one such decoder (`Hs256.isDecodedBy`).
-/

namespace CanvasPrompt.Auth

open Fallible
open Json (field find?)

/-! ## The checks -/

/-- A form of tokens. -/
structure TokenFormat where
  /-- The token is well formed, and signed under the key in the way of the given name. -/
  IsSigned (algorithm key token : Text) : Prop
  /-- The claims that the token makes, if they can be read. -/
  claims? (token : Text) : Option Members
  /-- The identities in the claims have the right form. -/
  Identifies (claims : Members) : Prop

/-- A time that the claims count from is a whole number no later than the given one, if it is told.
-/
def Begun (bound : Rat) (claims : Members) (name : String) : Prop :=
  ∀ v ∈ find? name.codes claims, ∃ time, wholeNumber? v = some time ∧ (time : Rat) ≤ bound

/-- The time up to which the claims count is a whole number later than the given one, if it is told.
-/
def Going (bound : Rat) (claims : Members) : Prop :=
  ∀ v ∈ find? "exp".codes claims, ∃ time, wholeNumber? v = some time ∧ bound < (time : Rat)

/-- The claims are for the audience: they name it, or a list of texts with it. -/
def IsFor (audience : Text) (claims : Members) : Prop :=
  (audience ≠ [] ∧ field claims "aud" = .str audience) ∨
    ∃ ts : List Text, audience ∈ ts ∧ field claims "aud" = .arr (ts.map .str)

namespace TokenFormat

variable (f : TokenFormat)

/-- The claims of the token of a demand, none if they cannot be read. -/
def claims (d : Demand) : Members :=
  (f.claims? d.token).getD []

/-- The token of the demand passes a check at the time `now`. -/
def Passes (now : Rat) (d : Demand) : Check → Prop
  | .signature => ∃ a ∈ d.algorithms, f.IsSigned a d.key d.token
  | .payload => (f.claims? d.token).isSome = true
  | .required => ∀ name ∈ d.required, ∃ v, find? name (f.claims d) = some v ∧ v ≠ .null
  | .issuedAt => Begun (now + d.leeway) (f.claims d) "iat"
  | .notBefore => Begun (now + d.leeway) (f.claims d) "nbf"
  | .expiry => Going (now - d.leeway) (f.claims d)
  | .issuer => field (f.claims d) "iss" = .str d.issuer
  | .audience => IsFor d.audience (f.claims d)
  | .identities => f.Identifies (f.claims d)

/-- The decoder gives the claims of a token that passes all checks. It refuses any other token for
the first check that it fails; the error is that of a token that has expired just if this is the end
of its time, told as a whole number. -/
structure IsDecodedBy (decode : Decoder) : Prop where
  /-- A token that is accepted passes all checks. -/
  accepts : ∀ now d claims, decode now d = .ok claims →
    f.claims? d.token = some claims ∧ ∀ c ∈ Check.all, f.Passes now d c
  /-- A token that is refused passes all checks before one that it fails. -/
  refuses : ∀ now d e, decode now d = .error e →
    ∃ before c later, Check.all = before ++ c :: later ∧ (∀ b ∈ before, f.Passes now d b) ∧
      ¬f.Passes now d c ∧
      (e = .expired ↔ c = .expiry ∧
        ∃ v ∈ find? "exp".codes (f.claims d), ∃ time, wholeNumber? v = some time)

end TokenFormat

theorem Check.mem_all (c : Check) : c ∈ Check.all := by
  cases c <;> decide

/-- A check that is not made after another one is made before it. -/
theorem Check.mem_of_all_eq {before later : List Check} {b c : Check}
    (h : Check.all = before ++ c :: later) (hne : b ≠ c) (hbc : ¬List.Sublist [c, b] Check.all) :
    b ∈ before := by
  have hb := b.mem_all
  rw [h, List.mem_append, List.mem_cons] at hb
  refine hb.resolve_right (not_or.mpr ⟨hne, fun hlater => hbc ?_⟩)
  rw [h]
  exact ((List.singleton_sublist.mpr hlater).cons_cons c).trans (List.sublist_append_right before _)

/-- The token passes every check up to the one of its end, which it fails because the time is past.
-/
structure TokenFormat.Expired (f : TokenFormat) (now : Rat) (d : Demand) : Prop where
  /-- The token passes the checks that are made first. -/
  passes : ∀ c ∈ [Check.signature, .payload, .required, .issuedAt, .notBefore], f.Passes now d c
  /-- Its time is past. -/
  ended : ∃ v ∈ find? "exp".codes (f.claims d), ∃ time, wholeNumber? v = some time ∧
    (time : Rat) ≤ now - d.leeway

section

variable {f : TokenFormat} {decode : Decoder} {now : Rat} {d : Demand} {claims : Members}

theorem TokenFormat.Expired.not_going (h : f.Expired now d) : ¬f.Passes now d .expiry := by
  intro hgoing
  obtain ⟨v, hv, time, htime, hend⟩ := h.ended
  obtain ⟨time', htime', hbegin⟩ := hgoing v hv
  rw [htime] at htime'
  cases htime'
  exact absurd hbegin (not_lt.mpr hend)

/-- The decoder accepts just the tokens that pass all checks. -/
theorem decode_eq_ok_iff (hf : f.IsDecodedBy decode) :
    decode now d = .ok claims ↔
      f.claims? d.token = some claims ∧ ∀ c ∈ Check.all, f.Passes now d c := by
  refine ⟨hf.accepts now d claims, ?_⟩
  rintro ⟨hclaims, hpasses⟩
  cases h : decode now d with
  | error e =>
    obtain ⟨before, c, later, hsplit, -, hfails, -⟩ := hf.refuses now d e h
    exact absurd (hpasses c c.mem_all) hfails
  | ok claims' =>
    obtain ⟨hclaims', -⟩ := hf.accepts now d claims' h
    rw [hclaims] at hclaims'
    rw [Option.some.inj hclaims']

/-- A token has expired if it fails no check before that of its end. -/
theorem decode_eq_expired_iff (hf : f.IsDecodedBy decode) :
    decode now d = .error .expired ↔ f.Expired now d := by
  constructor
  · intro h
    obtain ⟨before, c, later, hsplit, hbefore, hfails, hexpired⟩ := hf.refuses now d _ h
    obtain ⟨rfl, v, hv, time, htime⟩ := hexpired.mp rfl
    refine ⟨fun b hb => hbefore b ?_, v, hv, time, htime, not_lt.mp fun hgoing => hfails ?_⟩
    · have hfirst : ∀ b ∈ [Check.signature, .payload, .required, .issuedAt, .notBefore],
          b ≠ .expiry ∧ ¬List.Sublist [.expiry, b] Check.all := by decide
      exact Check.mem_of_all_eq hsplit (hfirst b hb).1 (hfirst b hb).2
    · intro w hw
      cases hv.symm.trans hw
      exact ⟨time, htime, hgoing⟩
  · intro h
    cases hdecode : decode now d with
    | ok claims' =>
      exact absurd ((hf.accepts now d claims' hdecode).2 _ (Check.mem_all _)) h.not_going
    | error e =>
      obtain ⟨before, c, later, hsplit, hbefore, hfails, hexpired⟩ := hf.refuses now d e hdecode
      -- The checks before that of the end are passed, and those behind it are not made.
      have hc : c = .expiry := by
        by_contra hne
        have hbehind : c ∉ [Check.signature, .payload, .required, .issuedAt, .notBefore] →
            c ≠ .expiry → ¬List.Sublist [c, .expiry] Check.all := by
          cases c <;> decide
        refine h.not_going (hbefore _ (Check.mem_of_all_eq hsplit (Ne.symm hne) (hbehind ?_ hne)))
        exact fun hfirst => hfails (h.passes c hfirst)
      obtain ⟨v, hv, time, htime, -⟩ := h.ended
      rw [hexpired.mpr ⟨hc, v, hv, time, htime⟩]

end

/-! ## Tokens signed with HS256 -/

namespace Hs256

/-- The form of the tokens that are signed with HS256 and have at most `room` containers nested in
them. -/
def format (room : Nat) : TokenFormat where
  IsSigned a key token := a = algorithm ∧ token.isEncodable = true ∧ key.isEncodable = true ∧
    isSignedUnder room key token = true
  claims? := claims? room
  Identifies claims := identitiesFit claims = true

/-! ### Each check -/

theorem require_eq_ok_iff {holds : Bool} {u : Unit} : require holds = .ok u ↔ holds = true := by
  cases holds <;> simp [require]

theorem require_ne_expired {holds : Bool} : require holds ≠ .error .expired := by
  cases holds <;> simp [require]

theorem encode_eq_ok_iff {t u : Text} : encode t = .ok u ↔ t.isEncodable = true ∧ u = t := by
  rw [← Web.encodable_eq_ok_iff, encode]
  cases Web.encodable t <;> simp

theorem encode_ne_expired {t : Text} : encode t ≠ .error .expired := by
  rw [encode]
  cases Web.encodable t <;> simp

theorem checkSignature_eq_ok_iff {room : Nat} {d : Demand} :
    checkSignature room d = .ok () ↔ algorithm ∈ d.algorithms ∧ d.token.isEncodable = true ∧
      d.key.isEncodable = true ∧ isSignedUnder room d.key d.token = true := by
  simp only [checkSignature, bind_eq_ok, encode_eq_ok_iff, require_eq_ok_iff, Bool.and_eq_true,
    List.contains_iff_mem]
  constructor
  · rintro ⟨_, ⟨htoken, rfl⟩, _, ⟨hmem, -⟩, _, ⟨hkey, rfl⟩, hsigned⟩
    exact ⟨hmem, htoken, hkey, hsigned⟩
  · rintro ⟨hmem, htoken, hkey, hsigned⟩
    -- Only a token with a header is signed.
    have hheaded : (headed? room d.token).isSome = true := Option.isSome_of_any hsigned
    exact ⟨_, ⟨htoken, rfl⟩, (), ⟨hmem, hheaded⟩, _, ⟨hkey, rfl⟩, hsigned⟩

theorem checkSignature_ne_expired {room : Nat} {d : Demand} :
    checkSignature room d ≠ .error .expired := by
  simp only [checkSignature, ne_eq, bind_eq_error, encode_ne_expired, require_ne_expired, false_or,
    and_false, exists_false, not_false_eq_true]

theorem isRequired_iff {claims : Members} {name : Text} :
    (find? name claims).any (·.kind != .null) = true ↔
      ∃ v, find? name claims = some v ∧ v ≠ .null := by
  have hkind (v : Json) : (v.kind != .null) = true ↔ v ≠ .null := by
    cases v <;> simp [Json.kind]
  simp only [Option.any_eq_true, hkind]

theorem hasBegun_iff {bound : Rat} {claims : Members} {name : String} :
    hasBegun bound claims name = true ↔ Begun bound claims name := by
  simp only [hasBegun, Begun, Option.all_eq_true, Option.any_eq_true, decide_eq_true_eq,
    Option.mem_def]

theorem text?_eq_some_iff {v : Json} {t : Text} : v.text? = some t ↔ v = .str t := by
  cases v <;> simp [Json.text?]

theorem isText_iff {v : Json} : isText v = true ↔ ∃ t, v = .str t := by
  cases v <;> simp [isText, Json.kind]

/-- A list of values is one of texts if each of them is a text. -/
theorem all_isText_iff {items : List Json} :
    items.all isText = true ↔ ∃ ts : List Text, items = ts.map .str := by
  have hrange := Set.ext_iff.mp (Set.range_list_map Json.str) items
  simp only [Set.mem_range, Set.mem_ofPred_eq] at hrange
  simp only [List.all_eq_true, isText_iff]
  simpa only [eq_comm] using hrange.symm

theorem audienceFits_iff {audience : Text} {claims : Members} :
    audienceFits audience claims = true ↔ IsFor audience claims := by
  rw [audienceFits, IsFor]
  cases field claims "aud" with
  | str t =>
    simp only [Bool.and_eq_true, beq_iff_eq]
    grind
  | arr items =>
    -- A list of texts is the image of its texts, so that the two kinds of membership
    -- agree.
    rw [Bool.and_eq_true, all_isText_iff]
    constructor
    · rintro ⟨⟨ts, rfl⟩, hmem⟩
      refine .inr ⟨ts, ?_, rfl⟩
      simpa [List.filterMap_map, Function.comp_def, Json.text?] using hmem
    · rintro (⟨-, ⟨⟩⟩ | ⟨ts, hmem, h⟩)
      cases h
      refine ⟨⟨ts, rfl⟩, ?_⟩
      simpa [List.filterMap_map, Function.comp_def, Json.text?] using hmem
  | _ => simp

theorem checkEnd_eq_ok_iff {bound : Rat} {claims : Members} :
    checkEnd bound claims = .ok () ↔ Going bound claims := by
  rw [checkEnd, Going]
  cases find? "exp".codes claims with
  | none => simp
  | some v =>
    simp only [Option.mem_def, Option.some.injEq, forall_eq']
    cases wholeNumber? v with
    | none => simp
    | some time =>
      by_cases hend : (time : Rat) ≤ bound
      · simp [hend]
      · simp [hend, not_le.mp hend]

theorem checkEnd_eq_expired_iff {bound : Rat} {claims : Members} :
    checkEnd bound claims = .error .expired ↔
      ∃ v ∈ find? "exp".codes claims, ∃ time, wholeNumber? v = some time ∧
        (time : Rat) ≤ bound := by
  rw [checkEnd]
  cases find? "exp".codes claims with
  | none => simp
  | some v =>
    simp only [Option.mem_def, Option.some.injEq, exists_eq_left']
    cases wholeNumber? v with
    | none => simp
    | some time => by_cases hend : (time : Rat) ≤ bound <;> simp [hend]

theorem check_eq_ok_iff {room : Nat} {now : Rat} {d : Demand} {c : Check} :
    check room now d c = .ok () ↔ (format room).Passes now d c := by
  cases c with
  | signature =>
    rw [check, checkSignature_eq_ok_iff]
    exact ⟨fun ⟨hmem, h⟩ => ⟨_, hmem, rfl, h⟩, fun ⟨_, hmem, rfl, h⟩ => ⟨hmem, h⟩⟩
  | payload => exact require_eq_ok_iff
  | required =>
    rw [check, require_eq_ok_iff, List.all_eq_true]
    exact forall₂_congr fun _ _ => isRequired_iff
  | issuedAt => exact require_eq_ok_iff.trans hasBegun_iff
  | notBefore => exact require_eq_ok_iff.trans hasBegun_iff
  | expiry => exact checkEnd_eq_ok_iff
  | issuer => exact require_eq_ok_iff.trans (beq_iff_eq.trans text?_eq_some_iff)
  | audience => exact require_eq_ok_iff.trans audienceFits_iff
  | identities => exact require_eq_ok_iff

/-- Only the check of the end tells that a token has expired. -/
theorem check_eq_expired_iff {room : Nat} {now : Rat} {d : Demand} {c : Check}
    (h : ¬(format room).Passes now d c) :
    check room now d c = .error .expired ↔ c = .expiry ∧
      ∃ v ∈ find? "exp".codes ((format room).claims d), ∃ time, wholeNumber? v = some time := by
  cases c with
  | expiry =>
    rw [check, checkEnd_eq_expired_iff]
    constructor
    · rintro ⟨v, hv, time, htime, -⟩
      exact ⟨rfl, v, hv, time, htime⟩
    · rintro ⟨-, v, hv, time, htime⟩
      -- The check is failed, so that the time that is told cannot be a later one.
      refine ⟨v, hv, time, htime, not_lt.mp fun hgoing => h fun w hw => ?_⟩
      cases hv.symm.trans hw
      exact ⟨time, htime, hgoing⟩
  | signature => exact iff_of_false checkSignature_ne_expired nofun
  | _ => exact iff_of_false require_ne_expired nofun

theorem isDecodedBy (room : Nat) : (format room).IsDecodedBy (decode room) where
  -- The checks are made one after another, so that all have been made at the end.
  accepts now d claims h := by
    obtain ⟨units, hchecks, hclaims⟩ := bind_eq_ok.mp h
    have hpasses : ∀ c ∈ Check.all, (format room).Passes now d c :=
      ((List.forall₂_and_left _ _).mp ((mapM_eq_ok.mp hchecks).imp fun c _ hcheck =>
        ⟨check_eq_ok_iff.mp hcheck, hcheck⟩)).1
    obtain ⟨claims', hread⟩ := Option.isSome_iff_exists.mp (hpasses .payload (Check.mem_all _))
    change claims? room d.token = some claims' at hread
    rw [hread] at hclaims
    cases hclaims
    exact ⟨hread, hpasses⟩
  refuses now d e h := by
    -- Only a check can refuse, since the claims are given without another look.
    obtain hchecks | ⟨units, -, hclaims⟩ := bind_eq_error.mp h
    · obtain ⟨before, c, later, hsplit, hbefore, hfails⟩ := mapM_eq_error.mp hchecks
      have hnot : ¬(format room).Passes now d c := by
        intro hpasses
        rw [check_eq_ok_iff.mpr hpasses] at hfails
        cases hfails
      refine ⟨before, c, later, hsplit, ?_, hnot, ?_⟩
      · intro b hb
        obtain ⟨_, hb⟩ := hbefore b hb
        exact check_eq_ok_iff.mp hb
      · rw [← check_eq_expired_iff hnot, hfails, Except.error.injEq]
    · cases hclaims

end Hs256

end CanvasPrompt.Auth
