import CanvasPrompt.Number.Double
import Mathlib.Data.Nat.Log
import Mathlib.Tactic.Ring

/-!
# Whole numbers that are too large

A whole number has a nearest double unless its magnitude rounds to infinity. The doubles that are
largest in magnitude are `2 ^ 971` apart, and the next one would be `2 ^ 1024`; half way there a tie
goes to the even neighbour, which is infinity. This module introduces

* `overflowBound`: `2 ^ 1024 - 2 ^ 970`.

The main statement is `ofInt?_eq_none_iff`: from this magnitude on there is no nearest double.
-/

namespace CanvasPrompt.Double

/-- The least magnitude that rounds to infinity. -/
def overflowBound : Nat := (2 ^ 54 - 1) * 2 ^ 970

/-! ## Rounding to a whole number -/

section

variable (num den : Nat)

theorem div_le_roundHalfEven : num / den ≤ roundHalfEven num den := by
  rw [roundHalfEven]
  split
  · exact Nat.le_succ _
  · exact Nat.le_refl _

theorem roundHalfEven_le : roundHalfEven num den ≤ num / den + 1 := by
  rw [roundHalfEven]
  split
  · exact Nat.le_refl _
  · exact Nat.le_succ _

theorem roundHalfEven_one : roundHalfEven num 1 = num := by
  rw [roundHalfEven, Nat.div_one, Nat.mod_one]
  rfl

/-- A quotient is rounded to less than an even number if it is nearer to the number before. -/
theorem roundHalfEven_lt_iff {num den k : Nat} (hden : 0 < den) (heven : k % 2 = 0) :
    roundHalfEven num den < k ↔ 2 * num < (2 * k - 1) * den := by
  have hnum : den * (num / den) + num % den = num := Nat.div_add_mod num den
  have hrest : num % den < den := Nat.mod_lt num hden
  have hlow := div_le_roundHalfEven num den
  have hhigh := roundHalfEven_le num den
  rcases Nat.lt_trichotomy (num / den + 1) k with hlt | heq | hgt
  · -- The quotient is below the number before: it cannot be rounded so far up.
    have hfactor : (2 * (num / den) + 2) * den ≤ (2 * k - 1) * den :=
      Nat.mul_le_mul_right den (by omega)
    have hexpand : (2 * (num / den) + 2) * den = 2 * (den * (num / den)) + 2 * den := by ring
    omega
  · -- The number before is odd, so that a tie is rounded up.
    have hfactor : (2 * k - 1) * den = 2 * (den * (num / den)) + den := by
      rw [← heq, show 2 * (num / den + 1) - 1 = 2 * (num / den) + 1 by omega]
      ring
    have hodd : num / den % 2 = 1 := by omega
    have hup : roundHalfEven num den = num / den + 1 ↔ den ≤ 2 * (num % den) := by
      rw [roundHalfEven]
      simp only [hodd, beq_self_eq_true, Bool.and_true, Bool.or_eq_true, decide_eq_true_eq,
        beq_iff_eq]
      split
      · omega
      · omega
    omega
  · -- The quotient is already as large as the number.
    have hfactor : (2 * k - 1) * den ≤ 2 * (num / den) * den :=
      Nat.mul_le_mul_right den (by omega)
    have hexpand : 2 * (num / den) * den = 2 * (den * (num / den)) := by ring
    omega

end

/-! ## Whole numbers as quotients -/

theorem floorLog2_one {n : Nat} (hn : n ≠ 0) : floorLog2 n 1 = n.log2 := by
  have hreached : 1 * Nat.pow 2 n.log2 ≤ n := by
    rw [Nat.one_mul, Nat.pow_eq]
    exact Nat.log2_self_le hn
  have hlog : ((n.log2 : Int) - (Nat.log2 1 : Int)) = n.log2 := by
    rw [show Nat.log2 1 = 0 by decide, Int.natCast_zero, Int.sub_zero]
  rw [floorLog2]
  simp only [hlog, Int.natCast_nonneg, if_true, Int.toNat_natCast, hreached, decide_true]

/-- A whole number with less than 52 binary digits behind the first keeps them all. -/
theorem roundQuotient_one_of_lt {n : Nat} (hn : n ≠ 0) (h : n.log2 < 52) :
    roundQuotient n 1 = min ((n.log2 + 1022) * 2 ^ 52 + n * 2 ^ (52 - n.log2)) infinityBits := by
  have hunit : max (floorLog2 n 1 - 52) (-1074) = (n.log2 : Int) - 52 := by
    rw [floorLog2_one hn]
    omega
  have hnegative : ¬(0 : Int) ≤ (n.log2 : Int) - 52 := by omega
  have hplace : ((n.log2 : Int) - 52 + 1074).toNat = n.log2 + 1022 := by omega
  have hshift : (-((n.log2 : Int) - 52)).toNat = 52 - n.log2 := by omega
  rw [roundQuotient]
  simp only [beq_eq_false_iff_ne.mpr hn, Bool.false_eq_true, if_false, hunit, hnegative, hplace,
    hshift, roundHalfEven_one, Nat.pow_eq]

/-- Of a larger one, 52 binary digits behind the first are left after rounding. -/
theorem roundQuotient_one_of_le {n : Nat} (hn : n ≠ 0) (h : 52 ≤ n.log2) :
    roundQuotient n 1 =
      min ((n.log2 + 1022) * 2 ^ 52 + roundHalfEven n (2 ^ (n.log2 - 52))) infinityBits := by
  have hunit : max (floorLog2 n 1 - 52) (-1074) = ((n.log2 - 52 : Nat) : Int) := by
    rw [floorLog2_one hn]
    omega
  have hplace : (((n.log2 - 52 : Nat) : Int) + 1074).toNat = n.log2 + 1022 := by omega
  rw [roundQuotient]
  simp only [beq_eq_false_iff_ne.mpr hn, Bool.false_eq_true, if_false, hunit, Int.natCast_nonneg,
    if_true, hplace, Int.toNat_natCast, Nat.one_mul, Nat.pow_eq]

/-- The 53 leading binary digits of a large whole number. -/
theorem leading_digits {n : Nat} (hn : n ≠ 0) (h : 52 ≤ n.log2) :
    2 ^ 52 ≤ n / 2 ^ (n.log2 - 52) ∧ n / 2 ^ (n.log2 - 52) < 2 ^ 53 := by
  have hpos : 0 < 2 ^ (n.log2 - 52) := Nat.two_pow_pos _
  constructor
  · rw [Nat.le_div_iff_mul_le hpos, ← Nat.pow_add, Nat.add_sub_cancel' h]
    exact Nat.log2_self_le hn
  · rw [Nat.div_lt_iff_lt_mul hpos, ← Nat.pow_add, show 53 + (n.log2 - 52) = n.log2 + 1 by omega]
    exact Nat.lt_log2_self

theorem infinityBits_eq : infinityBits = 2047 * 2 ^ 52 := by
  decide

/-- The bound lies between two powers of two. -/
theorem overflowBound_mem {k : Nat} (hk : k = 970) :
    2 ^ (53 + k) ≤ overflowBound ∧ overflowBound < 2 ^ (54 + k) := by
  rw [overflowBound, ← hk, Nat.pow_add, Nat.pow_add]
  constructor
  · exact Nat.mul_le_mul_right _ (by decide)
  · exact Nat.mul_lt_mul_of_pos_right (by decide) (Nat.two_pow_pos k)

/-- A whole number rounds to infinity from the bound on. -/
theorem roundQuotient_one_lt_iff (n : Nat) :
    roundQuotient n 1 < infinityBits ↔ n < overflowBound := by
  -- The large powers of two are never worked out.
  obtain ⟨k, hk⟩ : ∃ k, k = 970 := ⟨_, rfl⟩
  obtain ⟨hbound, hbound'⟩ := overflowBound_mem hk
  by_cases hn : n = 0
  · subst hn
    exact ⟨fun _ => (Nat.two_pow_pos _).trans_le hbound, fun _ => by decide⟩
  have hlow : 2 ^ n.log2 ≤ n := Nat.log2_self_le hn
  have hhigh : n < 2 ^ (n.log2 + 1) := Nat.lt_log2_self
  rw [infinityBits_eq]
  rcases Nat.lt_or_ge n.log2 52 with hsmall | hlarge
  · -- Nothing is lost, and the magnitude is far from the bound.
    have hshifted : n * 2 ^ (52 - n.log2) < 2 ^ (n.log2 + 1) * 2 ^ (52 - n.log2) :=
      Nat.mul_lt_mul_of_pos_right hhigh (Nat.two_pow_pos _)
    rw [← Nat.pow_add, show n.log2 + 1 + (52 - n.log2) = 53 by omega] at hshifted
    have hn' : n < 2 ^ (53 + k) :=
      hhigh.trans_le (Nat.pow_le_pow_right (by decide) (by omega))
    rw [roundQuotient_one_of_lt hn hsmall, infinityBits_eq]
    exact ⟨fun _ => hn'.trans_le hbound, fun _ => by omega⟩
  obtain ⟨hdigits, hdigits'⟩ := leading_digits hn hlarge
  have hm := div_le_roundHalfEven n (2 ^ (n.log2 - 52))
  have hm' := roundHalfEven_le n (2 ^ (n.log2 - 52))
  rw [roundQuotient_one_of_le hn hlarge, infinityBits_eq]
  rcases Nat.lt_trichotomy n.log2 (53 + k) with hbelow | heq | habove
  · -- Rounding carries at most into the last exponent of finite doubles.
    have hn' : n < 2 ^ (53 + k) := hhigh.trans_le (Nat.pow_le_pow_right (by decide) hbelow)
    exact ⟨fun _ => hn'.trans_le hbound, fun _ => by omega⟩
  · -- With the last exponent of finite doubles, a carry leads to infinity.
    have hcarry := @roundHalfEven_lt_iff n (2 ^ (n.log2 - 52)) (2 ^ 53) (Nat.two_pow_pos _)
      (by decide)
    rw [show n.log2 - 52 = k + 1 by omega] at hcarry ⊢
    rw [overflowBound, ← hk]
    omega
  · -- The exponent alone is too large.
    have hn' : 2 ^ (54 + k) ≤ n :=
      (Nat.pow_le_pow_right (by decide) (show 54 + k ≤ n.log2 by omega)).trans hlow
    exact ⟨fun _ => by omega, fun h => absurd (h.trans hbound') (Nat.not_lt.mpr hn')⟩

/-- A whole number has no nearest double exactly if its magnitude reaches the bound. -/
theorem ofInt?_eq_none_iff (i : Int) : ofInt? i = none ↔ overflowBound ≤ i.natAbs := by
  rw [← Nat.not_lt, ← roundQuotient_one_lt_iff, ofInt?]
  split
  · next hlt => exact ⟨nofun, fun h => absurd hlt h⟩
  · next hle => exact ⟨fun _ => hle, fun _ => rfl⟩

end CanvasPrompt.Double
