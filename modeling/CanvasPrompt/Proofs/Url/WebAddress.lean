import CanvasPrompt.Proofs.Text.Codes
import CanvasPrompt.Proofs.Text.Trimming
import CanvasPrompt.Url.Persisted
import Mathlib

/-!
# Which URLs count as persisted

A URL counts as persisted if it is an address on the web: in any letter case `http://` or
`https://`, and then the name of an authority. `WebAddress u authority` says so of a URL `u` as it
is read, with no regard to how it is taken apart. The main statement is `isPersisted_iff`; an
authority in ASCII and without brackets is always well formed (`isAuthority_of_plain`).
-/

namespace CanvasPrompt.Url

open Text (OnlyOf isAsciiLetter lowerAscii)

/-- What an address on the web begins with. -/
def webOpenings : List Text :=
  ["http://".codes, "https://".codes]

/-- The URL begins with one of `webOpenings` in any letter case, and what follows up to the first
`/`, `?` or `#` is the authority, which is not empty. -/
structure WebAddress (u authority : Text) : Prop where
  begins : ∃ opening rest, lowerAscii opening ∈ webOpenings ∧ u = opening ++ rest ∧
    authority = rest.takeWhile fun c => !endsAuthority c
  ne_nil : authority ≠ []

/-- The authority is in ASCII and has no brackets in it. -/
def IsPlain (authority : Text) : Prop :=
  ∀ c ∈ authority, c.toNat < 0x80 ∧ c ≠ '[' ∧ c ≠ ']'

instance (authority : Text) : Decidable (IsPlain authority) :=
  List.decidableBAll (fun c : Code => c.toNat < 0x80 ∧ c ≠ '[' ∧ c ≠ ']') authority

theorem mem_webOpenings_iff {t : Text} :
    t ∈ webOpenings ↔ ∃ scheme ∈ persistedSchemes, t = scheme ++ "://".codes := by
  have hopenings : webOpenings = persistedSchemes.map (· ++ "://".codes) := by decide
  rw [hopenings, List.mem_map]
  exact exists_congr fun scheme => and_congr_right' eq_comm

/-! ## Letter case -/

/-- The letters among the characters are those in ASCII. -/
theorem isAsciiLetter_scalar (c : Char) : isAsciiLetter (.scalar c) = c.isAlpha := by
  rw [Bool.eq_iff_iff, isAsciiLetter, Bool.or_eq_true, Code.isBetween_iff, Code.isBetween_iff]
  simp [Code.toNat, Char.isAlpha, Char.isUpper, Char.isLower, UInt32.le_iff_toNat_le, or_comm]

/-- Letter case does not matter to what is a letter. -/
theorem isAsciiLetter_toLower (c : Code) : isAsciiLetter c.toLower = isAsciiLetter c := by
  cases c with
  | scalar c => simp [Code.toLower, isAsciiLetter_scalar]
  | surrogate s => rfl

theorem toLower_eq_self {c : Code} (h : isAsciiLetter c = false) : c.toLower = c := by
  rw [isAsciiLetter, Bool.or_eq_false_iff] at h
  exact Code.toLower_eq_self (Bool.eq_false_iff.mp h.2)

/-- A text without letters is told by its small form. -/
theorem eq_of_lowerAscii_eq {t u : Text} (hu : OnlyOf (!isAsciiLetter ·) u)
    (h : lowerAscii t = u) : t = u := by
  have hkept : ∀ c ∈ t, c = c.toLower := by
    intro c hc
    have hletter := hu c.toLower (h ▸ List.mem_map_of_mem hc)
    rw [Bool.not_eq_true', isAsciiLetter_toLower] at hletter
    exact (toLower_eq_self hletter).symm
  calc t = t.map id := (List.map_id t).symm
    _ = lowerAscii t := List.map_congr_left hkept
    _ = u := h

/-- A text with letters alone in its small form has letters alone. -/
theorem onlyOf_of_lowerAscii {t : Text} (h : OnlyOf isAsciiLetter (lowerAscii t)) :
    OnlyOf isAsciiLetter t := by
  intro c hc
  rw [← isAsciiLetter_toLower]
  exact h _ (List.mem_map_of_mem hc)

/-! ## Schemes and authorities -/

/-- A scheme is a letter and any characters of schemes, up to the first colon. -/
theorem splitScheme?_eq_some_iff {t scheme rest : Text} :
    splitScheme? t = some (scheme, rest) ↔
      ∃ c cs, t = c :: cs ++ Code.scalar ':' :: rest ∧ isAsciiLetter c = true ∧
        cs.all isSchemeChar = true ∧ scheme = lowerAscii (c :: cs) := by
  rw [splitScheme?, List.span_eq_takeWhile_dropWhile]
  dsimp only
  constructor
  · intro h
    split at h
    · next c cs after htake hdrop =>
      split at h
      · next hscheme =>
        cases h
        obtain ⟨hletter, hall⟩ := Bool.and_eq_true _ _ ▸ hscheme
        refine ⟨c, cs, ?_, hletter, hall, rfl⟩
        rw [← htake, ← hdrop, List.takeWhile_append_dropWhile]
      · cases h
    · cases h
  · rintro ⟨c, cs, rfl, hletter, hall, rfl⟩
    -- No colon stands in a scheme.
    have hclear : ∀ d ∈ c :: cs, (d != ':') = true := by
      intro d hd
      rw [bne_iff_ne]
      rintro rfl
      rcases List.mem_cons.mp hd with rfl | hd
      · exact absurd hletter (by decide)
      · exact absurd (List.all_eq_true.mp hall _ hd) (by decide)
    rw [List.takeWhile_append_of_pos hclear, List.dropWhile_append_of_pos hclear]
    simp [hletter, hall]

/-- Letters in front of a colon are a scheme. -/
theorem splitScheme?_of_letters {written scheme : Text} (hwritten : lowerAscii written = scheme)
    (hletters : OnlyOf isAsciiLetter scheme) (hne : scheme ≠ []) (rest : Text) :
    splitScheme? (written ++ Code.scalar ':' :: rest) = some (scheme, rest) := by
  subst hwritten
  have hall := onlyOf_of_lowerAscii hletters
  obtain ⟨c, cs, rfl⟩ := List.exists_cons_of_ne_nil (mt (congrArg lowerAscii) hne)
  obtain ⟨hc, hcs⟩ := List.forall_mem_cons.mp hall
  refine splitScheme?_eq_some_iff.mpr ⟨c, cs, rfl, hc, ?_, rfl⟩
  rw [List.all_eq_true]
  intro d hd
  simp [isSchemeChar, hcs d hd]

/-- An authority stands behind two slashes. -/
theorem authority?_eq_some_iff {t authority : Text} :
    authority? t = some authority ↔ ∃ rest, t = "//".codes ++ rest ∧
      authority = rest.takeWhile fun c => !endsAuthority c := by
  constructor
  · intro h
    rw [authority?.eq_def] at h
    split at h
    · next rest =>
      cases h
      exact ⟨rest, rfl, rfl⟩
    · cases h
  · rintro ⟨rest, rfl, rfl⟩
    rfl

theorem ne_nil_of_isAuthority {authority : Text} (h : isAuthority authority = true) :
    authority ≠ [] := by
  rintro rfl
  cases h

/-- A plain authority is well formed if it is not empty. -/
theorem isAuthority_of_plain {authority : Text} (hne : authority ≠ []) (h : IsPlain authority) :
    isAuthority authority = true := by
  have hopen : authority.contains '[' = false := by
    rw [Bool.eq_false_iff, ne_eq, List.contains_iff_mem]
    exact fun hmem => (h _ hmem).2.1 rfl
  have hclose : authority.contains ']' = false := by
    rw [Bool.eq_false_iff, ne_eq, List.contains_iff_mem]
    exact fun hmem => (h _ hmem).2.2 rfl
  -- Only characters beyond ASCII hide a delimiter.
  have hbeyond : ∀ n ∈ hiddenDelimiters, 0x80 ≤ n := by decide
  have hhidden : (authority.any fun c => hiddenDelimiters.contains c.toNat) = false := by
    rw [List.any_eq_false]
    intro c hc hmem
    exact absurd (hbeyond _ (List.contains_iff_mem.mp hmem)) (Nat.not_le.mpr (h c hc).1)
  rw [isAuthority, bracketsFit, hopen, hclose, hhidden, List.isEmpty_eq_false_iff.mpr hne]
  rfl

/-! ## Persisted URLs -/

/-- A URL counts as persisted exactly if it is an address on the web whose authority is well
formed. -/
theorem isPersisted_iff {t : Text} :
    isPersisted t = true ↔
      ∃ authority, WebAddress (cleaned t) authority ∧ isAuthority authority = true := by
  constructor
  · intro h
    rw [isPersisted] at h
    split at h
    · cases h
    · next scheme rest hsplit =>
      obtain ⟨hscheme, hauthority⟩ := Bool.and_eq_true _ _ ▸ h
      split at hauthority
      · cases hauthority
      · next authority hrest =>
        obtain ⟨c, cs, hu, -, -, rfl⟩ := splitScheme?_eq_some_iff.mp hsplit
        obtain ⟨rest, rfl, rfl⟩ := authority?_eq_some_iff.mp hrest
        refine ⟨_, ⟨⟨c :: cs ++ "://".codes, rest, ?_, ?_, rfl⟩, ?_⟩, hauthority⟩
        · rw [mem_webOpenings_iff]
          exact ⟨_, List.contains_iff_mem.mp hscheme, List.map_append⟩
        · rw [hu, List.append_assoc]
          rfl
        · exact ne_nil_of_isAuthority hauthority
  · rintro ⟨authority, ⟨⟨opening, rest, hopening, hu, rfl⟩, -⟩, hauthority⟩
    obtain ⟨scheme, hscheme, hsmall⟩ := mem_webOpenings_iff.mp hopening
    obtain ⟨written, slashes, rfl, hwritten, hslashes⟩ := List.map_eq_append_iff.mp hsmall
    -- Letter case is a matter of the scheme alone, which is all letters.
    obtain rfl : slashes = "://".codes := eq_of_lowerAscii_eq (by decide) hslashes
    have hplain : ∀ scheme ∈ persistedSchemes, OnlyOf isAsciiLetter scheme ∧ scheme ≠ [] := by
      decide
    obtain ⟨hletters, hne⟩ := hplain scheme hscheme
    have hauthority? : authority? ("//".codes ++ rest) = some _ :=
      authority?_eq_some_iff.mpr ⟨rest, rfl, rfl⟩
    have hcolon : cleaned t = written ++ Code.scalar ':' :: ("//".codes ++ rest) := by
      rw [hu, List.append_assoc]
      rfl
    rw [isPersisted, hcolon, splitScheme?_of_letters hwritten hletters hne]
    simp only [hauthority?, hauthority, List.contains_iff_mem.mpr hscheme, Bool.and_true]

end CanvasPrompt.Url
