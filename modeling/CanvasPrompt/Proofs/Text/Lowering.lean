import CanvasPrompt.Proofs.Text.Splitting
import CanvasPrompt.Text.Lower
import Mathlib.Data.List.Basic

/-!
# Small letters and words

Which small letter a capital sigma has depends on its neighbours, but only on those in the same
word: the search for a neighbour does not get past a space (`startsCased_append_space`). So the
words of a text can be put into small letters one by one (`lower_intercalate`). No small letter is
white space, so that the words stay apart from each other (`words_lower_intercalate`).
-/

namespace CanvasPrompt.Text

/-! ## Neighbours -/

/-- A space is not passed over, and has no case. -/
theorem inRanges_space :
    inRanges CaseTable.passedOver ' ' = false ∧ inRanges CaseTable.cased ' ' = false := by
  decide +kernel

theorem startsCased_append_space (t u : Text) :
    startsCased (t ++ Code.scalar ' ' :: u) = startsCased t := by
  obtain ⟨hpassed, hcased⟩ := inRanges_space
  rw [startsCased, startsCased, List.dropWhile_append]
  cases t.dropWhile (inRanges CaseTable.passedOver) with
  | nil =>
    rw [List.isEmpty_nil, if_pos rfl, List.dropWhile_cons_of_neg (by simp [hpassed])]
    exact hcased
  | cons c rest => rfl

/-- What was seen before a space does not matter after it. -/
theorem lowerAfter_append_space (seen far t : Text) :
    lowerAfter (seen ++ Code.scalar ' ' :: far) t = lowerAfter seen t := by
  induction t generalizing seen with
  | nil => rfl
  | cons c rest ih =>
    rw [lowerAfter, lowerAfter, ← List.cons_append, ih, smallFormBetween, smallFormBetween,
      startsCased_append_space]

/-- What follows a space does not matter before it. -/
theorem lowerAfter_append (seen t u : Text) :
    lowerAfter seen (t ++ Code.scalar ' ' :: u) =
      lowerAfter seen t ++ Code.scalar ' ' :: lower u := by
  induction t generalizing seen with
  | nil =>
    have hforget : lowerAfter (' ' :: seen) u = lower u := lowerAfter_append_space [] seen u
    calc lowerAfter seen (' ' :: u) = Code.scalar ' ' :: lowerAfter (' ' :: seen) u := rfl
      _ = Code.scalar ' ' :: lower u := by rw [hforget]
  | cons c rest ih =>
    rw [List.cons_append, lowerAfter, ih, lowerAfter, smallFormBetween, smallFormBetween,
      startsCased_append_space, List.append_assoc]

/-- Words that are put together with spaces are put into small letters one by one. -/
theorem lower_intercalate (ws : List Text) :
    lower ([Code.scalar ' '].intercalate ws) = [Code.scalar ' '].intercalate (ws.map lower) := by
  induction ws with
  | nil => rfl
  | cons w rest ih =>
    cases rest with
    | nil => simp only [List.intercalate_singleton, List.map_cons, List.map_nil]
    | cons next rest =>
      rw [List.intercalate_cons_cons, List.append_assoc, List.singleton_append, lower,
        lowerAfter_append, ih, List.map_cons, List.map_cons, List.map_cons,
        List.intercalate_cons_cons, List.append_assoc, List.singleton_append]
      rfl

/-! ## White space -/

theorem isBlank_run {r : CaseTable.Run} (hr : r ∈ CaseTable.runs) {k : Nat}
    (hk : k ≤ r.last - r.first) : isBlank (Code.ofNat (r.small + k)) = false := by
  -- The table is short enough to go through it.
  have hall : (CaseTable.runs.all fun r => (List.range (r.last - r.first + 1)).all fun k =>
      !isBlank (Code.ofNat (r.small + k))) = true := by
    decide +kernel
  have hmem : k ∈ List.range (r.last - r.first + 1) := List.mem_range.mpr (by omega)
  exact (Bool.not_eq_true' _).mp (List.all_eq_true.mp (List.all_eq_true.mp hall r hr) k hmem)

theorem isBlank_toLower {c : Code} (hascii : c.toNat < 0x80) (h : isBlank c = false) :
    isBlank c.toLower = false := by
  have hall : ∀ n < 0x80, isBlank (Code.ofNat n) = false →
      isBlank (Code.ofNat n).toLower = false := by
    decide
  have hc := hall c.toNat hascii
  rw [Code.ofNat_toNat] at hc
  exact hc h

theorem smallForm_ne_nil (c : Code) : smallForm c ≠ [] := by
  rw [smallForm]
  split_ifs
  · exact List.cons_ne_nil _ _
  · exact List.cons_ne_nil _ _
  · split <;> exact List.cons_ne_nil _ _

/-- The small form of a character that is no white space is none. -/
theorem isBlank_of_mem_smallForm {c d : Code} (h : isBlank c = false) (hd : d ∈ smallForm c) :
    isBlank d = false := by
  rw [smallForm] at hd
  split_ifs at hd with hascii hdotted
  · rw [List.mem_singleton.mp hd]
    exact isBlank_toLower hascii h
  · obtain rfl | hd := List.mem_cons.mp hd
    · decide
    · rw [List.mem_singleton.mp hd]
      decide
  · split at hd
    · -- The small forms of a run of capitals hold no white space.
      next r hfind =>
      have hrun := List.find?_some hfind
      simp only [Bool.and_eq_true, decide_eq_true_eq] at hrun
      rw [List.mem_singleton.mp hd]
      exact isBlank_run (List.mem_of_find?_eq_some hfind) (by omega)
    · rw [List.mem_singleton.mp hd]
      exact h

theorem smallFormBetween_ne_nil (seen : Text) (c : Code) (rest : Text) :
    smallFormBetween seen c rest ≠ [] := by
  rw [smallFormBetween]
  split
  · exact List.cons_ne_nil _ _
  · exact smallForm_ne_nil c

theorem isBlank_of_mem_smallFormBetween {seen rest : Text} {c d : Code} (h : isBlank c = false)
    (hd : d ∈ smallFormBetween seen c rest) : isBlank d = false := by
  rw [smallFormBetween] at hd
  split at hd
  · rw [List.mem_singleton.mp hd]
    split <;> decide
  · exact isBlank_of_mem_smallForm h hd

/-- A word in small letters is a word. -/
theorem word_lower {w : Text} (h : w ≠ [] ∧ ∀ c ∈ w, isBlank c = false) :
    lower w ≠ [] ∧ ∀ c ∈ lower w, isBlank c = false := by
  -- What was seen before decides on the form of a letter, but no form is white space.
  have hclear : ∀ seen, ∀ c ∈ lowerAfter seen w, isBlank c = false := by
    obtain ⟨-, hw⟩ := h
    induction w with
    | nil => exact fun _ => List.forall_mem_nil _
    | cons c rest ih =>
      obtain ⟨hc, hrest⟩ := List.forall_mem_cons.mp hw
      intro seen d hd
      obtain hd | hd := List.mem_append.mp hd
      · exact isBlank_of_mem_smallFormBetween hc hd
      · exact ih hrest _ d hd
  refine ⟨?_, hclear []⟩
  obtain ⟨c, rest, rfl⟩ := List.exists_cons_of_ne_nil h.1
  exact List.append_ne_nil_of_left_ne_nil (smallFormBetween_ne_nil _ _ _) _

/-- The words of a text that is put together from words in small letters are these. -/
theorem words_lower_intercalate {ws : List Text}
    (h : ∀ w ∈ ws, w ≠ [] ∧ ∀ c ∈ w, isBlank c = false) :
    words (lower ([Code.scalar ' '].intercalate ws)) = ws.map lower := by
  rw [lower_intercalate]
  exact words_intercalate (by decide) (List.forall_mem_map.mpr fun w hw => word_lower (h w hw))

end CanvasPrompt.Text
