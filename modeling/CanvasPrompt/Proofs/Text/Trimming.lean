import CanvasPrompt.Text.Basic
import Mathlib.Data.List.DropRight
import Mathlib.Data.List.TakeDrop

/-!
# Trimming

What is removed from a text when the runs at its ends are dropped, and what is left. This module
introduces

* `StartsClear p t` and `EndsClear p t`: the text `t` does not start, or end, with a character that
  satisfies `p`;
* `OnlyOf p t`: all characters of `t` satisfy `p`;
* `IsTrimmed t`: the text `t` is not empty, and clear of white space at both ends.

A text is what is left of it between two runs of removed characters (`exists_append_trim`), and what
stands around a text that is clear at both ends is trimmed by itself (`trim_around`).
-/

namespace CanvasPrompt.Text

/-- All characters of the text satisfy `p`. -/
def OnlyOf (p : Code → Bool) (t : Text) : Prop :=
  ∀ c ∈ t, p c = true

/-- The text does not start with a character that satisfies `p`. -/
def StartsClear (p : Code → Bool) (t : Text) : Prop :=
  ∀ c ∈ t.head?, p c = false

/-- The text does not end with a character that satisfies `p`. -/
def EndsClear (p : Code → Bool) (t : Text) : Prop :=
  ∀ c ∈ t.getLast?, p c = false

-- Named, since a search for it may settle on going through every character there is.
instance (p : Code → Bool) (t : Text) : Decidable (OnlyOf p t) :=
  List.decidableBAll (fun c => p c = true) t

variable {p q : Code → Bool} {t u : Text}

/-! ## Runs -/

@[simp]
theorem onlyOf_nil : OnlyOf p [] :=
  List.forall_mem_nil _

@[simp]
theorem onlyOf_append : OnlyOf p (t ++ u) ↔ OnlyOf p t ∧ OnlyOf p u :=
  List.forall_mem_append

@[simp]
theorem onlyOf_reverse : OnlyOf p t.reverse ↔ OnlyOf p t := by
  simp [OnlyOf]

theorem OnlyOf.mono (h : OnlyOf p t) (hpq : ∀ c, p c = true → q c = true) : OnlyOf q t :=
  fun c hc => hpq c (h c hc)

/-! ## Clear ends -/

@[simp]
theorem startsClear_nil : StartsClear p [] :=
  nofun

@[simp]
theorem startsClear_cons {c : Code} : StartsClear p (c :: t) ↔ p c = false := by
  simp [StartsClear]

/-- A text that starts clear has a character that does not satisfy `p`. -/
theorem StartsClear.not_onlyOf (h : StartsClear p t) (ht : t ≠ []) : ¬OnlyOf p t := by
  obtain ⟨c, rest, rfl⟩ := List.exists_cons_of_ne_nil ht
  intro hall
  have hc := startsClear_cons.mp h
  rw [hall c List.mem_cons_self] at hc
  cases hc

instance (p : Code → Bool) : (t : Text) → Decidable (StartsClear p t)
  | [] => isTrue startsClear_nil
  | _ :: _ => decidable_of_iff _ startsClear_cons.symm

/-- How a text starts is told by its first part. -/
theorem startsClear_append (ht : t ≠ []) : StartsClear p (t ++ u) ↔ StartsClear p t := by
  cases t with
  | nil => exact absurd rfl ht
  | cons c t => simp

theorem startsClear_reverse : StartsClear p t.reverse ↔ EndsClear p t := by
  rw [EndsClear, StartsClear, List.head?_reverse]

instance (p : Code → Bool) (t : Text) : Decidable (EndsClear p t) :=
  decidable_of_iff _ startsClear_reverse

theorem endsClear_reverse : EndsClear p t.reverse ↔ StartsClear p t := by
  rw [← startsClear_reverse, List.reverse_reverse]

/-- How a text ends is told by its last part. -/
theorem endsClear_append (hu : u ≠ []) : EndsClear p (t ++ u) ↔ EndsClear p u := by
  rw [← startsClear_reverse, List.reverse_append,
    startsClear_append (List.reverse_ne_nil_iff.mpr hu), startsClear_reverse]

theorem StartsClear.mono (h : StartsClear q t) (hpq : ∀ c, p c = true → q c = true) :
    StartsClear p t := by
  intro c hc
  by_contra hp
  have hq := hpq c ((Bool.not_eq_false _).mp hp)
  rw [h c hc] at hq
  cases hq

theorem EndsClear.mono (h : EndsClear q t) (hpq : ∀ c, p c = true → q c = true) :
    EndsClear p t :=
  startsClear_reverse.mp ((startsClear_reverse.mpr h).mono hpq)

/-! ## Dropping a run in front -/

theorem startsClear_dropWhile (p : Code → Bool) (t : Text) : StartsClear p (t.dropWhile p) := by
  induction t with
  | nil => exact startsClear_nil
  | cons c t ih =>
    rw [List.dropWhile_cons]
    split
    · exact ih
    · next hc => exact startsClear_cons.mpr (Bool.not_eq_true _ ▸ hc)

theorem StartsClear.dropWhile_eq (h : StartsClear p t) : t.dropWhile p = t := by
  cases t with
  | nil => rfl
  | cons c t => simp [startsClear_cons.mp h]

/-- What stands in front of a text that starts clear is dropped by itself. -/
theorem dropWhile_append_of_startsClear (h : StartsClear p u) (t : Text) :
    (t ++ u).dropWhile p = t.dropWhile p ++ u := by
  rw [List.dropWhile_append]
  split
  · next hall => rw [h.dropWhile_eq, List.isEmpty_iff.mp hall, List.nil_append]
  · rfl

/-- A run in front of two texts, one of which ends the other, is dropped from both. -/
theorem dropWhile_suffix_dropWhile (h : u <:+ t) : u.dropWhile p <:+ t.dropWhile p := by
  obtain ⟨front, rfl⟩ := h
  rw [List.dropWhile_append]
  split
  · exact List.suffix_rfl
  · exact (List.dropWhile_suffix p).trans (List.suffix_append _ _)

theorem OnlyOf.dropWhile_append_suffix (h : OnlyOf p t) (u : Text) :
    (t ++ u).dropWhile p <:+ u := by
  rw [List.dropWhile_append_of_pos h]
  exact List.dropWhile_suffix p

theorem OnlyOf.dropWhile (h : OnlyOf p t) (q : Code → Bool) : OnlyOf p (t.dropWhile q) :=
  fun c hc => h c ((List.dropWhile_suffix q).subset hc)

/-- A run ends where a text follows that starts clear. -/
theorem OnlyOf.span_append (h : OnlyOf p t) (hu : StartsClear p u) : (t ++ u).span p = (t, u) := by
  rw [List.span_eq_takeWhile_dropWhile, List.takeWhile_append_of_pos h,
    List.dropWhile_append_of_pos h, hu.dropWhile_eq]
  cases u with
  | nil => rw [List.takeWhile_nil, List.append_nil]
  | cons c u =>
    rw [List.takeWhile_cons_of_neg (ne_true_of_eq_false (startsClear_cons.mp hu)), List.append_nil]

/-! ## Dropping a run at the end -/

theorem dropEndWhile_eq (p : Code → Bool) (t : Text) : dropEndWhile p t = t.rdropWhile p := rfl

theorem endsClear_dropEndWhile (p : Code → Bool) (t : Text) : EndsClear p (dropEndWhile p t) :=
  endsClear_reverse.mpr (startsClear_dropWhile p t.reverse)

theorem dropEndWhile_append_of_endsClear (h : EndsClear p t) (u : Text) :
    dropEndWhile p (t ++ u) = t ++ dropEndWhile p u := by
  rw [← startsClear_reverse] at h
  rw [dropEndWhile, List.reverse_append, dropWhile_append_of_startsClear h, List.reverse_append,
    List.reverse_reverse, dropEndWhile]

theorem EndsClear.dropEndWhile_eq (h : EndsClear p t) : dropEndWhile p t = t := by
  rw [dropEndWhile, (startsClear_reverse.mpr h).dropWhile_eq, List.reverse_reverse]

/-! ## Trimming both ends -/

theorem startsClear_trim (p : Code → Bool) (t : Text) : StartsClear p (trim p t) := by
  have hclear := startsClear_dropWhile p t
  have hsplit : trim p t ++ (t.dropWhile p).rtakeWhile p = t.dropWhile p :=
    List.rdropWhile_append_rtakeWhile
  -- What is left is empty, or starts as it did before the end was dropped.
  by_cases hempty : trim p t = []
  · rw [hempty]
    exact startsClear_nil
  · rw [← hsplit, startsClear_append hempty] at hclear
    exact hclear

theorem endsClear_trim (p : Code → Bool) (t : Text) : EndsClear p (trim p t) :=
  endsClear_dropEndWhile p _

/-- Trimming twice is trimming once. -/
@[simp]
theorem trim_trim (p : Code → Bool) (t : Text) : trim p (trim p t) = trim p t := by
  conv_lhs => rw [trim, (startsClear_trim p t).dropWhile_eq, (endsClear_trim p t).dropEndWhile_eq]

/-- A text is what is left of it between two runs. -/
theorem exists_append_trim (p : Code → Bool) (t : Text) :
    ∃ front back, OnlyOf p front ∧ OnlyOf p back ∧ t = front ++ trim p t ++ back := by
  refine ⟨t.takeWhile p, (t.dropWhile p).rtakeWhile p, ?_, ?_, ?_⟩
  · exact fun c hc => List.mem_takeWhile_imp hc
  · exact fun c hc => List.mem_rtakeWhile_imp hc
  · rw [trim, dropEndWhile_eq, List.append_assoc, List.rdropWhile_append_rtakeWhile,
      List.takeWhile_append_dropWhile]

/-- What stands around a text that is clear at both ends is trimmed by itself. -/
theorem trim_around (hstart : StartsClear p t) (hend : EndsClear p t) (ht : t ≠ [])
    (front back : Text) :
    trim p (front ++ t ++ back) = front.dropWhile p ++ t ++ dropEndWhile p back := by
  have hrest : StartsClear p (t ++ back) := (startsClear_append ht).mpr hstart
  have hleft : EndsClear p (front.dropWhile p ++ t) := (endsClear_append ht).mpr hend
  rw [trim, List.append_assoc, dropWhile_append_of_startsClear hrest, ← List.append_assoc,
    dropEndWhile_append_of_endsClear hleft]

/-! ## White space -/

/-- A text that is not empty and has no white space at its ends. -/
structure IsTrimmed (t : Text) : Prop where
  ne_nil : t ≠ []
  startsClear : StartsClear isBlank t
  endsClear : EndsClear isBlank t

theorem mem_of_mem_strip {c : Code} (h : c ∈ strip t) : c ∈ t := by
  obtain ⟨front, back, -, -, hsplit⟩ := exists_append_trim isBlank t
  rw [hsplit]
  exact List.mem_append_left _ (List.mem_append_right _ h)

theorem strip_eq_nil_iff : strip t = [] ↔ OnlyOf isBlank t := by
  constructor
  · intro h
    obtain ⟨front, back, hfront, hback, hsplit⟩ := exists_append_trim isBlank t
    rw [strip] at h
    rw [hsplit, h]
    simp [hfront, hback]
  · intro h
    have hgone : t.dropWhile isBlank = [] := List.dropWhile_eq_nil_iff.mpr h
    rw [strip, trim, hgone]
    rfl

theorem nonBlank?_eq_none_iff : nonBlank? t = none ↔ OnlyOf isBlank t := by
  rw [← strip_eq_nil_iff, nonBlank?]
  cases strip t <;> simp

theorem nonBlank?_eq_some_iff : nonBlank? t = some u ↔ strip t = u ∧ u ≠ [] := by
  rw [nonBlank?]
  split
  · next hstrip =>
    rw [hstrip]
    refine iff_of_false nofun ?_
    rintro ⟨rfl, hne⟩
    exact hne rfl
  · next c rest hstrip =>
    rw [hstrip, Option.some_inj]
    refine (and_iff_left_of_imp ?_).symm
    rintro rfl
    exact List.cons_ne_nil c rest

theorem isTrimmed_of_nonBlank? (h : nonBlank? t = some u) : IsTrimmed u := by
  have hstart : StartsClear isBlank (strip t) := startsClear_trim isBlank t
  have hend : EndsClear isBlank (strip t) := endsClear_trim isBlank t
  rw [nonBlank?] at h
  split at h
  · cases h
  · next c rest hstrip =>
    cases h
    rw [hstrip] at hstart hend
    exact ⟨List.cons_ne_nil _ _, hstart, hend⟩

end CanvasPrompt.Text
