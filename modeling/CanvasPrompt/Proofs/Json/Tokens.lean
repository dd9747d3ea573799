import CanvasPrompt.Json.Printer
import CanvasPrompt.Json.Reader
import CanvasPrompt.Proofs.Text.Splitting
import CanvasPrompt.Proofs.Text.Trimming
import CanvasPrompt.Proofs.Text.Utf8
import Mathlib.Tactic.SplitIfs

/-!
# Texts and numbers can be read back

A written text is in ASCII: a character is written as it is, behind a backslash, or by its units of
16 bits in hexadecimal digits. What is written is read as pieces that make the text again
(`Text.Makes`), so that the text is had back (`readText_printText`) if it can be encoded: two
surrogates that stand alone, one behind the other, would be joined to a character. A whole number is
had back from its digits, as long as there are not too many (`readScalar_ofInt`). Both hold with
anything behind what is written that may stand behind a value.
-/

namespace CanvasPrompt

/-! ## Pieces of texts -/

namespace Text

/-- Some pieces make a text, whatever follows them. -/
def Makes (ps : List Piece) (t : Text) : Prop :=
  ∀ later, ofPieces (ps ++ later) = t ++ ofPieces later

theorem Makes.append {ps qs : List Piece} {t u : Text} (h : Makes ps t) (h' : Makes qs u) :
    Makes (ps ++ qs) (t ++ u) := by
  intro later
  rw [List.append_assoc, h, h', List.append_assoc]

/-- A unit that begins no pair stands for itself. -/
theorem ofPieces_unit {n : Nat} (h : isHighSurrogate n = false) (ps : List Piece) :
    ofPieces (.unit n :: ps) = Code.ofNat n :: ofPieces ps := by
  match ps with
  | [] => rfl
  | .code c :: ps => rfl
  | .unit m :: ps => rw [ofPieces, h, Bool.false_and, if_neg Bool.false_ne_true]

theorem makes_code (c : Code) : Makes [.code c] [c] :=
  fun _ => rfl

/-- No character is a surrogate. -/
theorem makes_unit {c : Code} (hc : c.isScalar = true) : Makes [.unit c.toNat] [c] := by
  have hhigh : isHighSurrogate c.toNat = false := by
    have hrange := Code.isScalar_iff.mp hc
    simp only [isHighSurrogate, Bool.and_eq_false_iff, decide_eq_false_iff_not]
    omega
  intro later
  rw [List.singleton_append, ofPieces_unit hhigh, Code.ofNat_toNat, List.singleton_append]

/-- The two halves of a pair make the character again. -/
theorem makes_pair {c : Code} (hc : 0x10000 ≤ c.toNat) :
    Makes [.unit (0xD800 + (c.toNat - 0x10000) / 0x400),
      .unit (0xDC00 + (c.toNat - 0x10000) % 0x400)] [c] := by
  have hlt := c.toNat_lt
  -- The two units hold the upper and the lower ten bits above 0x10000.
  have hpair : isHighSurrogate (0xD800 + (c.toNat - 0x10000) / 0x400) = true ∧
      isLowSurrogate (0xDC00 + (c.toNat - 0x10000) % 0x400) = true := by
    simp only [isHighSurrogate, isLowSurrogate, Bool.and_eq_true, decide_eq_true_eq]
    omega
  have hjoined : surrogatePair (0xD800 + (c.toNat - 0x10000) / 0x400)
      (0xDC00 + (c.toNat - 0x10000) % 0x400) = c := by
    have hsum : 0x10000 + (0xD800 + (c.toNat - 0x10000) / 0x400 - 0xD800) * 0x400 +
        (0xDC00 + (c.toNat - 0x10000) % 0x400 - 0xDC00) = c.toNat := by omega
    rw [surrogatePair, hsum, Code.ofNat_toNat]
  intro later
  rw [List.cons_append, List.singleton_append, ofPieces, hpair.1, hpair.2, Bool.and_true,
    if_pos rfl, hjoined, List.singleton_append]

/-! ## Digits -/

theorem onlyOf_ofNat (n : Nat) : OnlyOf isAsciiDigit (ofNat n) :=
  fun _ hc => isAsciiDigit_of_mem_ofNat hc

/-- Only the number zero is written with a zero in front. -/
theorem startsClear_ofNat {n : Nat} (h : n ≠ 0) : StartsClear (· == Code.scalar '0') (ofNat n) := by
  -- The induction takes the last digit away; the first one stays as long as there are two.
  induction n using Nat.strongRecOn with
  | ind n ih =>
    by_cases hn : n < 10
    · rw [ofNat_of_lt hn, startsClear_cons]
      exact (by decide : ∀ n < 10, n ≠ 0 →
        (Code.scalar n.digitChar == Code.scalar '0') = false) n hn h
    · rw [ofNat_of_le (Nat.le_of_not_lt hn), startsClear_append (ofNat_ne_nil _)]
      exact ih (n / 10) (by omega) (by omega)

/-- A number is had back from its digits. -/
theorem decimalsValue_ofNat (n : Nat) : decimalsValue (ofNat n) = n := by
  induction n using Nat.strongRecOn with
  | ind n ih =>
    have hlast (m : Nat) (hm : m < 10) : decimalValue? (Code.scalar m.digitChar) = some m :=
      (by decide : ∀ m < 10, decimalValue? (Code.scalar m.digitChar) = some m) m hm
    by_cases hn : n < 10
    · rw [ofNat_of_lt hn, decimalsValue, List.foldl_cons, List.foldl_nil, hlast n hn]
      exact Nat.zero_add n
    · -- The last digit is the remainder, and those before it are the quotient.
      have hvalue := ih (n / 10) (by omega)
      rw [decimalsValue] at hvalue
      rw [ofNat_of_le (Nat.le_of_not_lt hn), decimalsValue, List.foldl_append, hvalue,
        List.foldl_cons, List.foldl_nil, hlast _ (Nat.mod_lt n (by decide))]
      exact Nat.div_add_mod n 10

theorem hexValue?_digitChar {n : Nat} (h : n < 16) :
    hexValue? (Code.scalar n.digitChar) = some n :=
  (by decide : ∀ n < 16, hexValue? (Code.scalar n.digitChar) = some n) n h

end Text

namespace Json

open Text (OnlyOf Makes Piece makes_code makes_pair makes_unit)

/-! ## Texts -/

variable {opening : Nat} {seen : List Piece} {c : Code} {rest : Text}

/-- The four digits of a unit denote it. -/
theorem readPieces_unitEscape {n : Nat} (hn : n < 0x10000) (hrest : rest ≠ []) :
    readPieces opening seen (unitEscape n ++ rest) = readPieces opening (.unit n :: seen) rest := by
  have hunit : unit? (n / 16 / 16 / 16 % 16).digitChar (n / 16 / 16 % 16).digitChar
      (n / 16 % 16).digitChar (n % 16).digitChar = some n := by
    have hlt (m : Nat) : m % 16 < 16 := Nat.mod_lt _ (by decide)
    simp only [unit?, Text.hexValue?_digitChar (hlt _), Option.bind_eq_bind, Option.bind_some]
    exact congrArg some (by omega)
  simp only [unitEscape, Text.hexDigits, List.nil_append, List.cons_append]
  rw [readPieces, hunit, List.isEmpty_eq_false_iff.mpr hrest]

/-- A backslash and a letter stand for one character. -/
theorem readPieces_unescape {u : Code} (h : unescape? c = some u) :
    readPieces opening seen ('\\' :: c :: rest) = readPieces opening (.code u :: seen) rest := by
  have hletter : c ≠ 'u' := by
    rintro rfl
    cases h
  rw [readPieces]
  · rw [h]
  all_goals simp [hletter]

theorem readPieces_char (hquote : c ≠ '"') (hslash : c ≠ '\\') (hc : 0x20 ≤ c.toNat) :
    readPieces opening seen (c :: rest) = readPieces opening (.code c :: seen) rest := by
  rw [readPieces]
  · rw [if_neg (Nat.not_lt.mpr hc)]
  all_goals simp [hquote, hslash]

/-- However a character is written, pieces are read that make it. -/
theorem exists_readPieces_escapeChar (opening : Nat) (hc : c.isScalar = true) :
    ∃ ps, Makes ps [c] ∧ ∀ seen rest, rest ≠ [] →
      readPieces opening seen (escapeChar c ++ rest) =
        readPieces opening (ps.reverse ++ seen) rest := by
  rw [escapeChar]
  split_ifs with hself hn hr ht hb hf hplain hunit
  · refine ⟨_, makes_code c, fun seen rest _ => readPieces_unescape ?_⟩
    rw [Bool.or_eq_true, beq_iff_eq, beq_iff_eq] at hself
    rcases hself with rfl | rfl
    · rfl
    · rfl
  · rw [beq_iff_eq.mp hn]
    exact ⟨_, makes_code '\n', fun _ _ _ => readPieces_unescape rfl⟩
  · rw [beq_iff_eq.mp hr]
    exact ⟨_, makes_code '\r', fun _ _ _ => readPieces_unescape rfl⟩
  · rw [beq_iff_eq.mp ht]
    exact ⟨_, makes_code '\t', fun _ _ _ => readPieces_unescape rfl⟩
  -- Backspace and form feed are told by their codes, since they have no character literal.
  · rw [Code.toNat_inj.mp (show c.toNat = (Code.ofNat 0x08).toNat from beq_iff_eq.mp hb)]
    exact ⟨_, makes_code (.ofNat 0x08), fun _ _ _ => readPieces_unescape rfl⟩
  · rw [Code.toNat_inj.mp (show c.toNat = (Code.ofNat 0x0C).toNat from beq_iff_eq.mp hf)]
    exact ⟨_, makes_code (.ofNat 0x0C), fun _ _ _ => readPieces_unescape rfl⟩
  · simp only [Bool.or_eq_true, beq_iff_eq, not_or] at hself
    simp only [Bool.and_eq_true, decide_eq_true_eq] at hplain
    exact ⟨_, makes_code c, fun _ _ _ => readPieces_char hself.1 hself.2 hplain.1⟩
  · exact ⟨_, makes_unit hc, fun _ _ hrest => readPieces_unitEscape hunit hrest⟩
  -- A pair of surrogates is two escapes, and the first one is followed by the second.
  · have hlt := c.toNat_lt
    refine ⟨_, makes_pair (Nat.le_of_not_lt hunit), fun seen rest hrest => ?_⟩
    rw [List.append_assoc, readPieces_unitEscape (by omega) (by simp [unitEscape]),
      readPieces_unitEscape (by omega) hrest]
    rfl

/-- From a text that is written, pieces are read that make it. -/
theorem exists_readPieces_flatMap (opening : Nat) {t : Text} (ht : t.isEncodable = true) :
    ∃ ps, Makes ps t ∧ ∀ seen rest,
      readPieces opening seen (t.flatMap escapeChar ++ Code.scalar '"' :: rest) =
        .ok (seen.reverse ++ ps, rest) := by
  -- What has been read so far is kept in reverse, and does not matter to what comes.
  induction t with
  | nil =>
    refine ⟨[], fun _ => rfl, fun seen rest => ?_⟩
    rw [List.append_nil]
    rfl
  | cons c t ih =>
    rw [Text.isEncodable, List.all_cons, Bool.and_eq_true] at ht
    obtain ⟨ps, hps, hc⟩ := exists_readPieces_escapeChar opening ht.1
    obtain ⟨qs, hqs, hrest⟩ := ih ht.2
    refine ⟨ps ++ qs, hps.append hqs, fun seen rest => ?_⟩
    rw [List.flatMap_cons, List.append_assoc, hc _ _ (by simp), hrest, List.reverse_append,
      List.reverse_reverse, List.append_assoc]

/-- A text that can be encoded is had back from its written form, whatever follows. -/
theorem readText_printText {t : Text} (ht : t.isEncodable = true) (rest : Text) :
    readText (t.flatMap escapeChar ++ Code.scalar '"' :: rest) = .ok (t, rest) := by
  obtain ⟨ps, hps, hread⟩ := exists_readPieces_flatMap
    ((t.flatMap escapeChar ++ Code.scalar '"' :: rest).length + 1) ht
  have hmade : Text.ofPieces ps = t := by
    have hall := hps []
    rw [List.append_nil] at hall
    exact hall.trans (List.append_nil t)
  rw [readText, hread, List.reverse_nil, List.nil_append]
  exact congrArg (fun u => Except.ok (u, rest)) hmade

/-! ## Whole numbers -/

/-- Nothing follows, or what may follow a value. -/
def FollowsValue (rest : Text) : Prop :=
  ∀ c ∈ rest.head?, c ∈ ([',', ']', '\x7d'] : Text)

/-- What may follow a value goes on with no number. -/
theorem FollowsValue.ends_number (h : FollowsValue (c :: rest)) :
    Text.isAsciiDigit c = false ∧ c ≠ '.' ∧ (c == 'e' || c == 'E') = false := by
  have hc : c = ',' ∨ c = ']' ∨ c = '\x7d' := by simpa [FollowsValue] using h
  rcases hc with rfl | rfl | rfl
  · decide
  · decide
  · decide

theorem span_of_followsValue {ds : Text} (hds : OnlyOf Text.isAsciiDigit ds)
    (h : FollowsValue rest) : (ds ++ rest).span Text.isAsciiDigit = (ds, rest) := by
  refine hds.span_append ?_
  cases rest with
  | nil => exact Text.startsClear_nil
  | cons c rest => exact Text.startsClear_cons.mpr h.ends_number.1

theorem fractionDigits_of_followsValue (h : FollowsValue rest) : fractionDigits rest = none := by
  rw [fractionDigits.eq_def]
  split
  · exact absurd rfl h.ends_number.2.1
  · rfl

theorem exponentValue_of_followsValue (h : FollowsValue rest) : exponentValue rest = none := by
  cases rest with
  | nil => rfl
  | cons c rest => rw [exponentValue, h.ends_number.2.2, if_neg Bool.false_ne_true]

/-- The digits of a number are read up to its end. -/
theorem wholeDigits_ofNat (n : Nat) (h : FollowsValue rest) :
    wholeDigits (Text.ofNat n ++ rest) = (Text.ofNat n, rest) := by
  by_cases hn : n = 0
  · rw [Text.ofNat_eq_zero_iff.mpr hn]
    rfl
  · have hzero : ∀ t, Text.ofNat n ++ rest ≠ Code.scalar '0' :: t := by
      intro t ht
      have hclear : Text.StartsClear (· == Code.scalar '0') ('0' :: t) :=
        ht ▸ (Text.startsClear_append (Text.ofNat_ne_nil n)).mpr (Text.startsClear_ofNat hn)
      cases Text.startsClear_cons.mp hclear
    rw [wholeDigits.eq_2 _ hzero]
    exact span_of_followsValue (Text.onlyOf_ofNat n) h

/-- Behind the sign the digits make the number. -/
theorem readNumber_ofInt {i : Int} (hi : (Text.ofNat i.natAbs).length ≤ Text.digitLimit)
    (h : FollowsValue rest) : readNumber (Text.ofInt i ++ rest) = .ok (.int i, rest) := by
  have hsome (n : Nat) : (Text.ofNat n).isEmpty = false :=
    List.isEmpty_eq_false_iff.mpr (Text.ofNat_ne_nil n)
  cases i with
  | ofNat n =>
    have hlength : ¬Text.digitLimit < (Text.ofNat n).length := Nat.not_lt.mpr hi
    -- The digits of a number have no sign in front.
    have hsign : ∀ t, Text.ofNat n ++ rest ≠ Code.scalar '-' :: t := by
      obtain ⟨c, cs, hcs⟩ := List.exists_cons_of_ne_nil (Text.ofNat_ne_nil n)
      intro t ht
      rw [hcs, List.cons_append, List.cons.injEq] at ht
      exact Text.ofNat_ne_minus_cons n cs (ht.1 ▸ hcs)
    rw [Text.ofInt, readNumber.eq_2 _ hsign]
    simp only [wholeDigits_ofNat n h, hsome, fractionDigits_of_followsValue h, Option.elim_none,
      exponentValue_of_followsValue h, Text.decimalsValue_ofNat, Bool.false_eq_true, ↓reduceIte,
      hlength]
    rfl
  | negSucc n =>
    have hlength : ¬Text.digitLimit < (Text.ofNat (n + 1)).length := Nat.not_lt.mpr hi
    simp only [Text.ofInt, List.cons_append, readNumber, wholeDigits_ofNat (n + 1) h, hsome,
      fractionDigits_of_followsValue h, Option.elim_none, exponentValue_of_followsValue h,
      Text.decimalsValue_ofNat, Bool.false_eq_true, ↓reduceIte, hlength]
    rfl

/-- A whole number begins with a digit, or with a minus sign and a digit. -/
theorem exists_digit_ofInt (i : Int) : ∃ c cs, Text.isAsciiDigit c = true ∧
    (Text.ofInt i = c :: cs ∨ Text.ofInt i = Code.scalar '-' :: c :: cs) := by
  have hdigits (n : Nat) : ∃ c cs, Text.isAsciiDigit c = true ∧ Text.ofNat n = c :: cs := by
    obtain ⟨c, cs, hcs⟩ := List.exists_cons_of_ne_nil (Text.ofNat_ne_nil n)
    exact ⟨c, cs, Text.isAsciiDigit_of_mem_ofNat (hcs ▸ List.mem_cons_self), hcs⟩
  cases i with
  | ofNat n =>
    obtain ⟨c, cs, hc, hcs⟩ := hdigits n
    exact ⟨c, cs, hc, .inl hcs⟩
  | negSucc n =>
    obtain ⟨c, cs, hc, hcs⟩ := hdigits (n + 1)
    exact ⟨c, cs, hc, .inr (congrArg (Code.scalar '-' :: ·) hcs)⟩

/-- A whole number is had back from its digits, if there are not too many. -/
theorem readScalar_ofInt {i : Int} (hi : (Text.ofNat i.natAbs).length ≤ Text.digitLimit)
    (h : FollowsValue rest) : readScalar (Text.ofInt i ++ rest) = .ok (.int i, rest) := by
  have hnone : constants.find? (fun w => w.1.isPrefixOf (Text.ofInt i ++ rest)) = none := by
    obtain ⟨c, cs, hc, hcs⟩ := exists_digit_ofInt i
    have hne (d : Char) (hd : Text.isAsciiDigit d = false) : Code.scalar d ≠ c := by
      rintro rfl
      rw [hd] at hc
      cases hc
    -- The only word with a minus sign in front goes on with a letter.
    rcases hcs with hcs | hcs
    · simp [hcs, constants, String.codes, hne, Text.isAsciiDigit, Code.isBetween, Code.toNat]
    · simp [hcs, constants, String.codes, hne, Text.isAsciiDigit, Code.isBetween, Code.toNat]
  rw [readScalar, hnone]
  exact readNumber_ofInt hi h

end Json

end CanvasPrompt
