import CanvasPrompt.Proofs.Text.Codes
import CanvasPrompt.Text.Basic

/-!
# Splitting

A text that is put together from pieces with separators between them falls into the same pieces
again, as long as no piece holds a separator: `splitAtChar_eq_iff` for many pieces, and
`before_append_cons` and `after_append_cons` for the first separator alone.

Whole numbers are pieces of many texts. Their decimal digits hold no white space, and different
numbers have different digits (`ofInt_injective`).
-/

namespace CanvasPrompt.Text

variable {p : Code → Bool} {sep : Code} {t : Text}

/-! ## Pieces -/

theorem splitWhere_of_forall (h : ∀ c ∈ t, p c = false) : splitWhere p t = [t] := by
  induction t with
  | nil => rfl
  | cons c t ih =>
    obtain ⟨hc, ht⟩ := List.forall_mem_cons.mp h
    simp [splitWhere, hc, ih ht]

/-- The first piece of a text ends before the first character to split at. -/
theorem splitWhere_append_cons (h : ∀ c ∈ t, p c = false) (hsep : p sep = true) (u : Text) :
    splitWhere p (t ++ sep :: u) = t :: splitWhere p u := by
  induction t with
  | nil => simp [splitWhere, hsep]
  | cons c t ih =>
    obtain ⟨hc, ht⟩ := List.forall_mem_cons.mp h
    simp [splitWhere, hc, ih ht]

theorem bne_of_not_mem (h : sep ∉ t) : ∀ c ∈ t, (c != sep) = true := by
  intro c hc
  rw [bne_iff_ne]
  rintro rfl
  exact h hc

/-- Pieces without a character to split at are had back from the text that joins them with one. -/
theorem splitWhere_intercalate {pieces : List Text} (hsep : p sep = true) (hne : pieces ≠ [])
    (h : ∀ piece ∈ pieces, ∀ c ∈ piece, p c = false) :
    splitWhere p ([sep].intercalate pieces) = pieces := by
  induction pieces with
  | nil => exact absurd rfl hne
  | cons piece rest ih =>
    obtain ⟨hpiece, hrest⟩ := List.forall_mem_cons.mp h
    cases rest with
    | nil => rw [List.intercalate_singleton, splitWhere_of_forall hpiece]
    | cons next rest =>
      rw [List.intercalate_cons_cons, List.append_assoc, List.singleton_append,
        splitWhere_append_cons hpiece hsep]
      exact congrArg (piece :: ·) (ih (List.cons_ne_nil _ _) hrest)

theorem splitAtChar_intercalate {pieces : List Text} (hne : pieces ≠ [])
    (h : ∀ piece ∈ pieces, sep ∉ piece) :
    splitAtChar sep ([sep].intercalate pieces) = pieces := by
  refine splitWhere_intercalate (beq_self_eq_true sep) hne fun piece hpiece c hc => ?_
  exact (Bool.not_eq_true' _).mp (bne_of_not_mem (h piece hpiece) c hc)

theorem splitWhere_ne_nil (p : Code → Bool) (t : Text) : splitWhere p t ≠ [] := by
  cases t with
  | nil => exact List.cons_ne_nil _ _
  | cons c t =>
    rw [splitWhere]
    split
    · exact List.cons_ne_nil _ _
    · split <;> exact List.cons_ne_nil _ _

/-- A character that is no separator belongs to the first piece. -/
theorem splitWhere_cons_of_not {c : Code} (hc : p c = false) (t : Text) :
    ∃ piece pieces, splitWhere p t = piece :: pieces ∧
      splitWhere p (c :: t) = (c :: piece) :: pieces := by
  obtain ⟨piece, pieces, hsplit⟩ := List.exists_cons_of_ne_nil (splitWhere_ne_nil p t)
  refine ⟨piece, pieces, hsplit, ?_⟩
  rw [splitWhere, hc, if_neg Bool.false_ne_true, hsplit]

/-- The pieces are made of the characters of the text, those to split at left out. -/
theorem mem_of_mem_splitWhere {piece : Text} {c : Code} (h : piece ∈ splitWhere p t)
    (hc : c ∈ piece) : c ∈ t ∧ p c = false := by
  induction t generalizing piece with
  | nil =>
    rw [List.mem_singleton.mp h] at hc
    cases hc
  | cons d t ih =>
    by_cases hd : p d = true
    · rw [splitWhere, if_pos hd, List.mem_cons] at h
      obtain rfl | h := h
      · cases hc
      · exact (ih h hc).imp_left (List.mem_cons_of_mem d)
    · rw [Bool.not_eq_true] at hd
      obtain ⟨first, pieces, hsplit, hcons⟩ := splitWhere_cons_of_not hd t
      rw [hcons, List.mem_cons] at h
      rw [hsplit] at ih
      obtain rfl | h := h
      · obtain rfl | hc := List.mem_cons.mp hc
        · exact ⟨List.mem_cons_self, hd⟩
        · exact (ih List.mem_cons_self hc).imp_left (List.mem_cons_of_mem d)
      · exact (ih (List.mem_cons_of_mem _ h) hc).imp_left (List.mem_cons_of_mem d)

/-- A character in front of the joined pieces belongs to the first of them. -/
theorem intercalate_cons_head {c : Code} (piece : Text) (pieces : List Text) :
    [sep].intercalate ((c :: piece) :: pieces) = c :: [sep].intercalate (piece :: pieces) := by
  cases pieces with
  | nil => rw [List.intercalate_singleton, List.intercalate_singleton]
  | cons next pieces => rw [List.intercalate_cons_cons, List.intercalate_cons_cons]; rfl

/-- The text is had back from its pieces. -/
theorem intercalate_splitAtChar (sep : Code) (t : Text) :
    [sep].intercalate (splitAtChar sep t) = t := by
  induction t with
  | nil => rfl
  | cons c t ih =>
    rw [splitAtChar] at ih
    -- A separator begins a new piece, and another character goes to the first piece.
    by_cases hc : c = sep
    · obtain ⟨piece, pieces, hsplit⟩ :=
        List.exists_cons_of_ne_nil (splitWhere_ne_nil (· == sep) t)
      rw [splitAtChar, splitWhere, if_pos (beq_iff_eq.mpr hc), hsplit,
        List.intercalate_cons_cons, ← hsplit, ih, hc]
      rfl
    · obtain ⟨piece, pieces, hsplit, hcons⟩ :=
        splitWhere_cons_of_not (p := (· == sep)) (beq_eq_false_iff_ne.mpr hc) t
      rw [splitAtChar, hcons, intercalate_cons_head, ← hsplit, ih]

/-- The pieces are told by the text that joins them, and by having no separator in them. -/
theorem splitAtChar_eq_iff {pieces : List Text} :
    splitAtChar sep t = pieces ↔
      pieces ≠ [] ∧ (∀ piece ∈ pieces, sep ∉ piece) ∧ t = [sep].intercalate pieces := by
  constructor
  · rintro rfl
    refine ⟨splitWhere_ne_nil _ t, ?_, (intercalate_splitAtChar sep t).symm⟩
    intro piece hpiece hsep
    have hclear := (mem_of_mem_splitWhere hpiece hsep).2
    rw [beq_self_eq_true] at hclear
    cases hclear
  · rintro ⟨hne, hclear, rfl⟩
    exact splitAtChar_intercalate hne hclear

/-! ## The first separator -/

theorem before_append_cons (h : sep ∉ t) (u : Text) : before sep (t ++ sep :: u) = t := by
  simp [before, List.takeWhile_append_of_pos (bne_of_not_mem h)]

theorem after_append_cons (h : sep ∉ t) (u : Text) : after sep (t ++ sep :: u) = u := by
  simp [after, List.dropWhile_append_of_pos (bne_of_not_mem h)]

theorem not_mem_before (sep : Code) (t : Text) : sep ∉ before sep t := by
  intro h
  have hall : (before sep t).all (· != sep) = true := List.all_takeWhile
  have hne := List.all_eq_true.mp hall sep h
  simp at hne

/-- A text is what stands before the first separator, and behind it nothing or the separator. -/
theorem exists_eq_before_append (sep : Code) (t : Text) :
    ∃ rest, t = before sep t ++ rest ∧ ∀ c ∈ rest.head?, c = sep := by
  refine ⟨t.dropWhile (· != sep), List.takeWhile_append_dropWhile.symm, ?_⟩
  intro c hc
  have hclear := List.head?_dropWhile_not (· != sep) t
  rw [Option.mem_def.mp hc] at hclear
  simpa using hclear

/-! ## Words -/

/-- A word is not empty and holds no white space. -/
theorem mem_words {w : Text} (h : w ∈ words t) : w ≠ [] ∧ ∀ c ∈ w, isBlank c = false := by
  obtain ⟨hpiece, hne⟩ := List.mem_filter.mp h
  refine ⟨?_, fun c hc => (mem_of_mem_splitWhere hpiece hc).2⟩
  rintro rfl
  cases hne

/-- Words are had back from the text that joins them with white space. -/
theorem words_intercalate {ws : List Text} (hsep : isBlank sep = true)
    (h : ∀ w ∈ ws, w ≠ [] ∧ ∀ c ∈ w, isBlank c = false) :
    words ([sep].intercalate ws) = ws := by
  cases ws with
  | nil => rfl
  | cons w rest =>
    rw [words, splitWhere_intercalate hsep (List.cons_ne_nil _ _) fun w hw => (h w hw).2]
    refine List.filter_eq_self.mpr fun w hw => ?_
    rw [Bool.not_eq_true', List.isEmpty_eq_false_iff]
    exact (h w hw).1

/-- The last word of a text that ends in a word after a blank. -/
theorem getLast?_words {w : Text} (ht : ∀ c ∈ t, isBlank c = false) (hsep : isBlank sep = true)
    (hw : ∀ c ∈ w, isBlank c = false) (hne : w ≠ []) :
    (words (t ++ sep :: w)).getLast? = some w := by
  have hword : (!w.isEmpty) = true := by
    rw [Bool.not_eq_true', List.isEmpty_eq_false_iff]
    exact hne
  rw [words, splitWhere_append_cons ht hsep, splitWhere_of_forall hw]
  -- The word in front does not matter, be it empty or not.
  cases t with
  | nil => simp [hword]
  | cons c t => simp [hword]

/-! ## Digits -/

theorem isAsciiDigit_of_mem_ofNat {n : Nat} {c : Code} (h : c ∈ ofNat n) :
    isAsciiDigit c = true := by
  obtain ⟨d, hd, rfl⟩ := List.mem_map.mp h
  have hdigit := Nat.isDigit_of_mem_toDigits (by decide) (by decide) hd
  exact Code.isBetween_iff.mpr (Char.isDigit_iff_toNat.mp hdigit)

/-- The digits of a number are no blanks. -/
theorem isBlank_of_mem_ofNat {n : Nat} {c : Code} (h : c ∈ ofNat n) : isBlank c = false := by
  have hdigit : 48 ≤ c.toNat ∧ c.toNat ≤ 57 :=
    Code.isBetween_iff.mp (isAsciiDigit_of_mem_ofNat h)
  simp only [isBlank, Bool.or_eq_false_iff, Bool.and_eq_false_iff, decide_eq_false_iff_not,
    beq_eq_false_iff_ne]
  omega

theorem ofNat_of_lt {n : Nat} (h : n < 10) : ofNat n = [Code.scalar n.digitChar] := by
  rw [ofNat, Nat.toDigits_of_lt_base h, List.map_singleton]

theorem ofNat_of_le {n : Nat} (h : 10 ≤ n) :
    ofNat n = ofNat (n / 10) ++ [Code.scalar (n % 10).digitChar] := by
  rw [ofNat, Nat.toDigits_of_base_le (by decide) h, List.map_append, List.map_singleton, ← ofNat]

theorem ofNat_ne_nil (n : Nat) : ofNat n ≠ [] :=
  mt List.map_eq_nil_iff.mp Nat.toDigits_ne_nil

/-- The number can be had back from its digits. -/
theorem ofNat_injective : Function.Injective ofNat := by
  intro m n h
  have hvalue (n : Nat) : Nat.ofDigitChars 10 (Nat.toDigits 10 n) 0 = n :=
    Nat.ofDigitChars_toDigits (by decide) (by decide)
  have hdigits : Nat.toDigits 10 m = Nat.toDigits 10 n :=
    (List.map_inj_right fun _ _ => Code.scalar.inj).mp h
  rw [← hvalue m, hdigits, hvalue]

theorem ofNat_eq_zero_iff {n : Nat} : ofNat n = [Code.scalar '0'] ↔ n = 0 :=
  ⟨fun h => ofNat_injective (h.trans (ofNat_of_lt (show 0 < 10 by decide)).symm), fun h => h ▸ rfl⟩

/-- A smaller number has no more digits. -/
theorem length_ofNat_mono {m n : Nat} (h : m ≤ n) : (ofNat m).length ≤ (ofNat n).length := by
  -- Both numbers lose their last digit, until the smaller one has but one left.
  induction n using Nat.strongRecOn generalizing m with
  | ind n ih =>
    by_cases hm : m < 10
    · rw [ofNat_of_lt hm]
      exact List.length_pos_iff.mpr (ofNat_ne_nil n)
    · have hn : 10 ≤ n := by omega
      rw [ofNat_of_le (Nat.le_of_not_lt hm), ofNat_of_le hn, List.length_append,
        List.length_append]
      exact Nat.succ_le_succ (ih (n / 10) (by omega) (Nat.div_le_div_right h))

/-- No digits start with a minus sign, so the sign of a number can be told. -/
theorem ofNat_ne_minus_cons (m : Nat) (t : Text) : ofNat m ≠ Code.scalar '-' :: t := by
  intro h
  have hdigit := isAsciiDigit_of_mem_ofNat (h ▸ List.mem_cons_self : Code.scalar '-' ∈ ofNat m)
  exact absurd hdigit (by decide)

/-- Different whole numbers are written differently. -/
theorem ofInt_injective : Function.Injective ofInt := by
  intro i j h
  cases i with
  | ofNat m =>
    cases j with
    | ofNat n => exact congrArg Int.ofNat (ofNat_injective h)
    | negSucc n => exact absurd h (ofNat_ne_minus_cons m _)
  | negSucc m =>
    cases j with
    | ofNat n => exact absurd h.symm (ofNat_ne_minus_cons n _)
    | negSucc n =>
      have hsucc := ofNat_injective (List.cons.inj h).2
      exact congrArg Int.negSucc (Nat.succ.inj hsucc)

end CanvasPrompt.Text
