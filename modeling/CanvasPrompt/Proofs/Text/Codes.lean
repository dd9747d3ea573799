import CanvasPrompt.Text.Basic

/-!
# Code points and their numbers

A code point is had back from its number (`ofNat_toNat`), so that code points with one number are
the same (`toNat_inj`). Those of characters are the numbers that Unicode has scalar values for.
-/

namespace CanvasPrompt.Code

theorem toNat_lt (c : Code) : c.toNat < 0x110000 := by
  cases c with
  | scalar c =>
    rcases c.valid with h | ⟨-, h⟩
    · exact Nat.lt_trans h (by decide)
    · exact h
  | surrogate s => rw [toNat]; omega

/-- A character is no surrogate. -/
theorem toNat_scalar_lt (c : Char) : c.toNat < 0xD800 ∨ 0xDFFF < c.toNat := by
  rcases c.valid with h | ⟨h, -⟩
  · exact .inl h
  · exact .inr h

theorem ofNat_toNat (c : Code) : ofNat c.toNat = c := by
  cases c with
  | scalar c =>
    have hrange := toNat_scalar_lt c
    rw [ofNat, toNat, dif_neg (by omega), Char.ofNat_toNat]
  | surrogate s =>
    have hrange : 0xD800 + s.val - 0xD800 < 0x800 ∧ 0xD800 ≤ 0xD800 + s.val := by omega
    rw [ofNat, toNat, dif_pos hrange, surrogate.injEq]
    exact Fin.ext (Nat.add_sub_cancel_left 0xD800 s.val)

theorem toNat_inj {c d : Code} : c.toNat = d.toNat ↔ c = d := by
  refine ⟨fun h => ?_, congrArg toNat⟩
  rw [← ofNat_toNat c, h, ofNat_toNat]

/-- The number of a surrogate tells that it is one. -/
theorem isScalar_iff {c : Code} : c.isScalar = true ↔ c.toNat < 0xD800 ∨ 0xDFFF < c.toNat := by
  cases c with
  | scalar c => exact iff_of_true rfl (toNat_scalar_lt c)
  | surrogate s =>
    refine iff_of_false Bool.false_ne_true ?_
    rw [toNat]
    omega

theorem isBetween_iff {low high : Char} {c : Code} :
    c.isBetween low high = true ↔ low.toNat ≤ c.toNat ∧ c.toNat ≤ high.toNat := by
  rw [isBetween, Bool.and_eq_true, decide_eq_true_iff, decide_eq_true_iff]

theorem isBetween_mono {low high high' : Char} {c : Code} (h : c.isBetween low high = true)
    (hle : high.toNat ≤ high'.toNat) : c.isBetween low high' = true := by
  rw [isBetween_iff] at h ⊢
  exact ⟨h.1, Nat.le_trans h.2 hle⟩

/-- Only capital letters have another small form. -/
theorem toLower_eq_self {c : Code} (h : ¬c.isBetween 'A' 'Z' = true) : c.toLower = c := by
  cases c with
  | scalar c =>
    have hcapital : ¬(c.val ≥ 'A'.val ∧ c.val ≤ 'Z'.val) := fun hc =>
      h (isBetween_iff.mpr ⟨UInt32.le_iff_toNat_le.mp hc.1, UInt32.le_iff_toNat_le.mp hc.2⟩)
    exact congrArg scalar (dif_neg hcapital)
  | surrogate s => rfl

end CanvasPrompt.Code
