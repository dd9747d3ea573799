import CanvasPrompt.Proofs.Text.Splitting
import CanvasPrompt.Proofs.Text.Trimming
import CanvasPrompt.Text.Numeral
import Mathlib.Data.List.TakeDrop
import Mathlib.Tactic.SplitIfs

/-!
# The form of numerals

Which texts are read as numbers, said with no regard to how they are read:

* `Padded body t`: the text `t` is `body` with white space around it at will;
* `Loosened written plain`: `written` is `plain` with single underscores between decimal digits at
  will;
* `WholeNumeral t n`: the text `t` is a numeral of the whole number `n`;
* `RealNumeral t`: the text `t` is a numeral of a real number, or a word for infinity or for a NaN.

The main statements are `readInteger_eq_ok_iff` and `exists_readReal?_iff`: exactly the numerals are
read.
-/

namespace CanvasPrompt.Text

/-- The text `t` is `body` with white space around it at will. -/
def Padded (body t : Text) : Prop :=
  ∃ front back, OnlyOf isNumeralBlank front ∧ OnlyOf isNumeralBlank back ∧
    t = front ++ body ++ back

/-- A sign in front of a numeral, or none; only a minus makes it negative. -/
inductive Sign : Bool → Text → Prop
  | absent : Sign false []
  | plus : Sign false ['+']
  | minus : Sign true ['-']

/-- Single underscores may stand between decimal digits, and nowhere else. -/
inductive Loosened : Text → Text → Prop
  | nil : Loosened [] []
  | char {c : Code} {written plain : Text} (hc : c ≠ '_') (h : Loosened written plain) :
    Loosened (c :: written) (c :: plain)
  | gap {c d : Code} {written plain : Text} (hc : isDecimal c = true) (hd : isDecimal d = true)
    (h : Loosened (d :: written) plain) : Loosened (c :: '_' :: d :: written) (c :: plain)

/-- The whole number of this sign and this size. -/
def signed (negative : Bool) (size : Nat) : Int :=
  if negative then -(size : Int) else size

/-- A numeral of the whole number `n`: a sign at will and decimal digits, not too many of them. -/
def WholeNumeral (t : Text) (n : Int) : Prop :=
  ∃ negative sign written digits, Padded (sign ++ written) t ∧ Sign negative sign ∧
    Loosened written digits ∧ OnlyOf isDecimal digits ∧ digits ≠ [] ∧
    digits.length ≤ digitLimit ∧ n = signed negative (decimalsValue digits)

/-- The point of a numeral and the digits behind it, or nothing at all. -/
inductive Fraction : Text → Text → Prop
  | absent : Fraction [] []
  | point {digits : Text} (h : OnlyOf isDecimal digits) : Fraction ('.' :: digits) digits

/-- The exponent of a numeral, or nothing at all. -/
inductive Exponent : Text → Prop
  | absent : Exponent []
  | power {e : Code} {negative : Bool} {sign digits : Text} (he : e = 'e' ∨ e = 'E')
    (hsign : Sign negative sign) (hne : digits ≠ []) (h : OnlyOf isDecimal digits) :
    Exponent (e :: (sign ++ digits))

/-- The words for infinity and for a NaN. -/
def realWords : List Text :=
  ["inf".codes, "infinity".codes, "nan".codes]

/-- Decimal digits, with a point in front of, between or behind them at will, and an exponent. -/
inductive DecimalNumeral : Text → Prop
  | digits {whole fraction part exponent : Text} (hwhole : OnlyOf isDecimal whole)
    (hfraction : Fraction fraction part) (hne : whole ≠ [] ∨ part ≠ [])
    (hexponent : Exponent exponent) : DecimalNumeral (whole ++ (fraction ++ exponent))

/-- A numeral of a real number: a sign at will, and digits or one of `realWords` in any letter case.
-/
def RealNumeral (t : Text) : Prop :=
  ∃ negative sign body written, Padded written t ∧ Sign negative sign ∧
    (lowerAscii body ∈ realWords ∨ DecimalNumeral body) ∧ Loosened written (sign ++ body)

variable {t : Text}

/-! ## White space around a numeral -/

theorem padded_trim (t : Text) : Padded (trim isNumeralBlank t) t :=
  exists_append_trim isNumeralBlank t

/-- A text without white space is had back from the white space around it. -/
theorem Padded.trim_eq {body : Text} (h : Padded body t)
    (hclear : ∀ c ∈ body, isNumeralBlank c = false) : trim isNumeralBlank t = body := by
  obtain ⟨front, back, hfront, hback, rfl⟩ := h
  by_cases hbody : body = []
  · have hall : OnlyOf isNumeralBlank (front ++ back) := onlyOf_append.mpr ⟨hfront, hback⟩
    rw [hbody, List.append_nil, trim, List.dropWhile_eq_nil_iff.mpr hall]
    rfl
  · have hstart : StartsClear isNumeralBlank body := fun c hc => hclear c (List.mem_of_mem_head? hc)
    have hend : EndsClear isNumeralBlank body := fun c hc => hclear c (List.mem_of_mem_getLast? hc)
    rw [trim_around hstart hend hbody, List.dropWhile_eq_nil_iff.mpr hfront, dropEndWhile,
      List.dropWhile_eq_nil_iff.mpr (onlyOf_reverse.mpr hback)]
    simp

/-- No decimal digit is white space. -/
theorem isNumeralBlank_of_isDecimal {c : Code} (h : isDecimal c = true) :
    isNumeralBlank c = false := by
  -- Each digit is found by its distance from the digit zero of its script.
  have hall : ∀ z ∈ decimalZeros, ∀ k < 10, isNumeralBlank (Code.ofNat (z + k)) = false := by
    decide +kernel
  rw [isDecimal, decimalValue?, Option.isSome_map] at h
  obtain ⟨z, hz⟩ := Option.isSome_iff_exists.mp h
  have hrange := List.find?_some hz
  simp only [Bool.and_eq_true, decide_eq_true_eq] at hrange
  have hc := hall z (List.mem_of_find?_eq_some hz) (c.toNat - z) (by omega)
  rw [Nat.add_sub_cancel' hrange.1, Code.ofNat_toNat] at hc
  exact hc

theorem ne_of_isDecimal {c d : Code} (hc : isDecimal c = true) (hd : isDecimal d = false) :
    c ≠ d := by
  rintro rfl
  rw [hc] at hd
  cases hd

/-! ## Underscores -/

/-- What may follow a character in a loosened text; `afterDigit` says whether it is a digit. -/
def LoosenedAfter (afterDigit : Bool) (written plain : Text) : Prop :=
  Loosened written plain ∨ afterDigit = true ∧ ∃ d later, written = Code.scalar '_' :: d :: later ∧
    isDecimal d = true ∧ Loosened (d :: later) plain

theorem loosened_cons_iff {c : Code} {plain : Text} :
    Loosened (c :: t) plain ↔
      c ≠ '_' ∧ ∃ rest, plain = c :: rest ∧ LoosenedAfter (isDecimal c) t rest := by
  constructor
  · intro h
    cases h with
    | char hc h => exact ⟨hc, _, rfl, .inl h⟩
    | gap hc hd h =>
      exact ⟨ne_of_isDecimal hc (by decide), _, rfl, .inr ⟨hc, _, _, rfl, hd, h⟩⟩
  · rintro ⟨hc, rest, rfl, h | ⟨hdigit, d, later, rfl, hd, h⟩⟩
    · exact .char hc h
    · exact .gap hdigit hd h

@[simp]
theorem loosened_nil_iff : Loosened [] t ↔ t = [] := by
  constructor
  · rintro ⟨⟩
    rfl
  · rintro rfl
    exact .nil

theorem not_loosened_underscore {plain : Text} : ¬Loosened ('_' :: t) plain :=
  fun h => (loosened_cons_iff.mp h).1 rfl

/-- No underscore stands alone. -/
theorem Loosened.eq_nil (h : Loosened t []) : t = [] := by
  cases h
  rfl

/-- Loosening adds underscores only. -/
theorem Loosened.mem {written plain : Text} (h : Loosened written plain) {c : Code}
    (hc : c ∈ written) : c = '_' ∨ c ∈ plain := by
  -- Nothing but gaps is added to the digits.
  induction h with
  | nil => cases hc
  | char _ _ ih =>
    obtain rfl | hc := List.mem_cons.mp hc
    · exact .inr List.mem_cons_self
    · exact (ih hc).imp_right (List.mem_cons_of_mem _)
  | gap _ _ _ ih =>
    obtain rfl | hc := List.mem_cons.mp hc
    · exact .inr List.mem_cons_self
    · obtain rfl | hc := List.mem_cons.mp hc
      · exact .inl rfl
      · exact (ih hc).imp_right (List.mem_cons_of_mem _)

theorem loosenedAfter_iff_of_ne {afterDigit : Bool} {plain : Text}
    (h : ∀ u, t ≠ Code.scalar '_' :: u) :
    LoosenedAfter afterDigit t plain ↔ Loosened t plain := by
  refine or_iff_left ?_
  rintro ⟨-, d, later, rfl, -⟩
  exact h _ rfl

theorem loosenedAfter_gap {afterDigit : Bool} {c : Code} {plain : Text} :
    LoosenedAfter afterDigit ('_' :: c :: t) plain ↔
      (afterDigit = true ∧ isDecimal c = true) ∧ Loosened (c :: t) plain := by
  constructor
  · rintro (h | ⟨hafter, d, later, hsplit, hd, h⟩)
    · exact absurd h not_loosened_underscore
    · obtain ⟨-, rfl, rfl⟩ : '_' = '_' ∧ c = d ∧ t = later := by simpa using hsplit
      exact ⟨⟨hafter, hd⟩, h⟩
  · rintro ⟨⟨hafter, hc⟩, h⟩
    exact .inr ⟨hafter, c, t, rfl, hc, h⟩

/-- A character is kept, and what follows it goes on. -/
theorem map_dropSeparators?_iff {c : Code} {plain : Text} (hc : c ≠ '_')
    (ih : ∀ rest,
      dropSeparators? (isDecimal c) t = some rest ↔ LoosenedAfter (isDecimal c) t rest) :
    (dropSeparators? (isDecimal c) t).map (c :: ·) = some plain ↔ Loosened (c :: t) plain := by
  rw [Option.map_eq_some_iff, loosened_cons_iff, and_iff_right hc]
  exact exists_congr fun rest => by rw [ih, and_comm, eq_comm]

/-- The underscores that may be dropped are those that a loosened text has. -/
theorem dropSeparators?_eq_some_iff {afterDigit : Bool} {plain : Text} :
    dropSeparators? afterDigit t = some plain ↔ LoosenedAfter afterDigit t plain := by
  -- An underscore is dropped between two digits and refused everywhere else.
  fun_induction dropSeparators? afterDigit t generalizing plain with
  | case1 =>
    rw [loosenedAfter_iff_of_ne fun _ => (List.cons_ne_nil _ _).symm, loosened_nil_iff,
      Option.some_inj, eq_comm]
  | case2 afterDigit c rest hgap ih =>
    obtain ⟨hafter, hc⟩ := Bool.and_eq_true _ _ ▸ hgap
    have hne : c ≠ '_' := ne_of_isDecimal hc (by decide)
    rw [loosenedAfter_gap, and_iff_right ⟨hafter, hc⟩, ← hc,
      map_dropSeparators?_iff hne fun _ => hc ▸ ih]
  | case3 afterDigit c rest hgap =>
    rw [loosenedAfter_gap, ← Bool.and_eq_true]
    exact iff_of_false nofun fun h => hgap h.1
  | case4 afterDigit c rest hother hc =>
    obtain rfl := beq_iff_eq.mp hc
    refine iff_of_false nofun ?_
    rintro (h | ⟨-, d, later, hsplit, -⟩)
    · exact not_loosened_underscore h
    · exact hother d later rfl (List.cons.inj hsplit).2
  | case5 afterDigit c rest hother hc ih =>
    have hne : c ≠ '_' := by simpa using hc
    rw [loosenedAfter_iff_of_ne fun u hu => hne (List.cons.inj hu).1,
      map_dropSeparators?_iff hne fun _ => ih]

/-! ## Groups of digits -/

theorem loosened_of_onlyOf (h : OnlyOf isDecimal t) : Loosened t t := by
  induction t with
  | nil => exact .nil
  | cons c t ih =>
    obtain ⟨hc, ht⟩ := List.forall_mem_cons.mp h
    exact .char (ne_of_isDecimal hc (by decide)) (ih ht)

/-- An underscore may follow a group of digits if a digit follows it. -/
theorem Loosened.group {d : Code} {group later plain : Text} (hgroup : OnlyOf isDecimal group)
    (hne : group ≠ []) (hd : isDecimal d = true) (h : Loosened (d :: later) plain) :
    Loosened (group ++ Code.scalar '_' :: d :: later) (group ++ plain) := by
  induction group with
  | nil => exact absurd rfl hne
  | cons c group ih =>
    obtain ⟨hc, hgroup⟩ := List.forall_mem_cons.mp hgroup
    by_cases hlast : group = []
    · rw [hlast]
      exact .gap hc hd h
    · exact .char (ne_of_isDecimal hc (by decide)) (ih hgroup hlast)

/-- Loosened digits are groups of digits with underscores between the groups. -/
theorem Loosened.exists_groups {written digits : Text} (h : Loosened written digits)
    (hdigits : OnlyOf isDecimal digits) (hne : digits ≠ []) :
    ∃ groups : List Text, groups ≠ [] ∧ (∀ g ∈ groups, g ≠ [] ∧ OnlyOf isDecimal g) ∧
      written = [Code.scalar '_'].intercalate groups ∧ digits = groups.flatten := by
  induction h with
  | nil => exact absurd rfl hne
  | @char c written plain hc h ih =>
    obtain ⟨hdigit, hplain⟩ := List.forall_mem_cons.mp hdigits
    -- The digit stands alone, or goes in front of the first group.
    by_cases hlast : plain = []
    · subst hlast
      obtain rfl := h.eq_nil
      refine ⟨[[c]], List.cons_ne_nil _ _, ?_, rfl, rfl⟩
      exact List.forall_mem_singleton.mpr ⟨List.cons_ne_nil _ _, hdigits⟩
    · obtain ⟨groups, hgroups, hall, rfl, rfl⟩ := ih hplain hlast
      obtain ⟨g, groups, rfl⟩ := List.exists_cons_of_ne_nil hgroups
      obtain ⟨hg, hrest⟩ := List.forall_mem_cons.mp hall
      refine ⟨(c :: g) :: groups, List.cons_ne_nil _ _, ?_, ?_, rfl⟩
      · refine List.forall_mem_cons.mpr ⟨⟨List.cons_ne_nil _ _, ?_⟩, hrest⟩
        exact List.forall_mem_cons.mpr ⟨hdigit, hg.2⟩
      · exact (intercalate_cons_head g groups).symm
  | @gap c d written plain hc hd h ih =>
    obtain ⟨-, hplain⟩ := List.forall_mem_cons.mp hdigits
    have hmore : plain ≠ [] := by
      rintro rfl
      cases h.eq_nil
    obtain ⟨groups, hgroups, hall, hwritten, rfl⟩ := ih hplain hmore
    obtain ⟨g, groups, rfl⟩ := List.exists_cons_of_ne_nil hgroups
    refine ⟨[c] :: g :: groups, List.cons_ne_nil _ _, ?_, ?_, rfl⟩
    · refine List.forall_mem_cons.mpr ⟨⟨List.cons_ne_nil _ _, ?_⟩, hall⟩
      exact List.forall_mem_singleton.mpr hc
    · rw [List.intercalate_cons_cons, ← hwritten]
      rfl

theorem loosened_intercalate {groups : List Text}
    (h : ∀ g ∈ groups, g ≠ [] ∧ OnlyOf isDecimal g) :
    Loosened ([Code.scalar '_'].intercalate groups) groups.flatten := by
  induction groups with
  | nil => exact .nil
  | cons g groups ih =>
    obtain ⟨⟨hg, hdigits⟩, hrest⟩ := List.forall_mem_cons.mp h
    cases groups with
    | nil =>
      rw [List.flatten_cons, List.flatten_nil, List.append_nil, List.intercalate_singleton]
      exact loosened_of_onlyOf hdigits
    | cons next groups =>
      obtain ⟨⟨hnext, hdigits'⟩, -⟩ := List.forall_mem_cons.mp hrest
      -- A gap has to be followed by a digit, which is the first of the next group.
      obtain ⟨d, next, rfl⟩ := List.exists_cons_of_ne_nil hnext
      have hlater := ih hrest
      rw [intercalate_cons_head] at hlater
      rw [List.intercalate_cons_cons, intercalate_cons_head, List.append_assoc]
      exact Loosened.group hdigits hg (hdigits' d List.mem_cons_self) hlater

/-- A decimal digit or an underscore. -/
def isDigitOrGap (c : Code) : Bool :=
  isDecimal c || c == '_'

theorem not_mem_of_onlyOf_isDecimal (h : OnlyOf isDecimal t) : Code.scalar '_' ∉ t :=
  fun hmem => absurd (h '_' hmem) (by decide)

/-- The groups of a loosened run of digits are its pieces. -/
theorem loosened_digits_iff {digits : Text} :
    Loosened t digits ∧ OnlyOf isDecimal digits ∧ digits ≠ [] ↔
      OnlyOf isDigitOrGap t ∧ (splitAtChar '_' t).any List.isEmpty = false ∧
        digits = (splitAtChar '_' t).flatten := by
  constructor
  · rintro ⟨h, hdigits, hne⟩
    have hrun : OnlyOf isDigitOrGap t := by
      intro c hc
      obtain rfl | hc := h.mem hc
      · exact Bool.or_true _
      · rw [isDigitOrGap, hdigits c hc, Bool.true_or]
    -- Digits with gaps are groups with one gap between each two, and no group is empty.
    obtain ⟨groups, hgroups, hall, rfl, rfl⟩ := h.exists_groups hdigits hne
    rw [splitAtChar_intercalate hgroups fun g hg => not_mem_of_onlyOf_isDecimal (hall g hg).2]
    refine ⟨hrun, List.any_eq_false.mpr fun g hg => ?_, rfl⟩
    rw [List.isEmpty_iff]
    exact (hall g hg).1
  · rintro ⟨hrun, hnone, rfl⟩
    have hall : ∀ g ∈ splitAtChar '_' t, g ≠ [] ∧ OnlyOf isDecimal g := by
      intro g hg
      refine ⟨fun hempty => List.any_eq_false.mp hnone g hg (List.isEmpty_iff.mpr hempty), ?_⟩
      intro c hc
      obtain ⟨hmem, hclear⟩ := mem_of_mem_splitWhere hg hc
      have hdigit := hrun c hmem
      rwa [isDigitOrGap, hclear, Bool.or_false] at hdigit
    have hloose := loosened_intercalate hall
    rw [intercalate_splitAtChar] at hloose
    refine ⟨hloose, fun c hc => ?_, ?_⟩
    · obtain ⟨g, hg, hcg⟩ := List.mem_flatten.mp hc
      exact (hall g hg).2 c hcg
    · intro hempty
      obtain ⟨g, hg⟩ := List.exists_mem_of_ne_nil _ (splitWhere_ne_nil (· == Code.scalar '_') t)
      exact (hall g hg).1 (List.flatten_eq_nil_iff.mp hempty g hg)

/-! ## Whole numbers -/

/-- A character that is taken for a sign. -/
def isSign (c : Code) : Bool :=
  c == '-' || c == '+'

theorem exists_sign (t : Text) :
    ∃ sign, Sign (splitSign t).1 sign ∧ t = sign ++ (splitSign t).2 := by
  fun_cases splitSign t with
  | case1 => exact ⟨_, .minus, rfl⟩
  | case2 => exact ⟨_, .plus, rfl⟩
  | case3 => exact ⟨_, .absent, rfl⟩

/-- A sign is told from what starts with none. -/
theorem Sign.splitSign_append {negative : Bool} {sign : Text} (h : Sign negative sign)
    (ht : StartsClear isSign t) : splitSign (sign ++ t) = (negative, t) := by
  cases h with
  | minus => rfl
  | plus => rfl
  | absent =>
    rw [List.nil_append]
    fun_cases splitSign t with
    | case1 => exact absurd (startsClear_cons.mp ht) (by decide)
    | case2 => exact absurd (startsClear_cons.mp ht) (by decide)
    | case3 => rfl

theorem isSign_of_isDecimal {c : Code} (h : isDecimal c = true) : isSign c = false := by
  rw [isSign, Bool.or_eq_false_iff, beq_eq_false_iff_ne, beq_eq_false_iff_ne]
  exact ⟨ne_of_isDecimal h (by decide), ne_of_isDecimal h (by decide)⟩

theorem startsClear_isSign_of_onlyOf (h : OnlyOf isDecimal t) : StartsClear isSign t :=
  fun c hc => isSign_of_isDecimal (h c (List.mem_of_mem_head? hc))

/-- A loosened text starts as it does without the underscores. -/
theorem Loosened.head?_eq {written plain : Text} (h : Loosened written plain) :
    written.head? = plain.head? := by
  cases h <;> rfl

theorem Sign.isNumeralBlank_of_mem {negative : Bool} {sign : Text} (h : Sign negative sign) :
    ∀ c ∈ sign, isNumeralBlank c = false := by
  cases h with
  | absent => exact List.forall_mem_nil _
  | plus => exact List.forall_mem_singleton.mpr (by decide)
  | minus => exact List.forall_mem_singleton.mpr (by decide)

/-- What is read behind the sign: nothing but groups of digits, none of them empty. -/
theorem readInteger_eq_ok_iff_groups {negative : Bool} {body : Text} {n : Int}
    (hbody : splitSign (trim isNumeralBlank t) = (negative, body)) :
    readInteger t = .ok n ↔
      OnlyOf isDigitOrGap body ∧ (splitAtChar '_' body).any List.isEmpty = false ∧
        (splitAtChar '_' body).flatten.length ≤ digitLimit ∧
        n = signed negative (decimalsValue (splitAtChar '_' body).flatten) := by
  have hread : (fun c => isDecimal c || c == '_') = isDigitOrGap := rfl
  rw [readInteger, hbody]
  dsimp only
  rw [hread, List.span_eq_takeWhile_dropWhile]
  dsimp only
  by_cases hrun : OnlyOf isDigitOrGap body
  · -- All of the body is digits and gaps, so that nothing is left behind it.
    rw [List.takeWhile_eq_self_iff.mpr hrun, List.dropWhile_eq_nil_iff.mpr hrun, and_iff_right hrun]
    cases (splitAtChar '_' body).any List.isEmpty with
    | true =>
      rw [if_pos rfl]
      exact iff_of_false nofun fun h => nomatch h.1
    | false =>
      rw [if_neg Bool.false_ne_true, and_iff_right rfl]
      by_cases hlimit : digitLimit < (splitAtChar '_' body).flatten.length
      · rw [if_pos hlimit]
        exact iff_of_false nofun fun h => absurd h.1 (Nat.not_le.mpr hlimit)
      · rw [if_neg hlimit, and_iff_right (Nat.not_lt.mp hlimit), List.isEmpty_nil, Bool.not_true,
          if_neg Bool.false_ne_true, Except.ok.injEq, eq_comm]
        rfl
  · -- With something else behind the digits, no branch gives a number.
    have hrest : (body.dropWhile isDigitOrGap).isEmpty = false := by
      rw [List.isEmpty_eq_false_iff, ne_eq, List.dropWhile_eq_nil_iff]
      exact hrun
    refine iff_of_false ?_ fun h => hrun h.1
    rw [hrest, Bool.not_false, if_pos rfl]
    split_ifs <;> nofun

/-- Exactly the numerals of whole numbers are read, each as its number. -/
theorem readInteger_eq_ok_iff {n : Int} : readInteger t = .ok n ↔ WholeNumeral t n := by
  constructor
  · intro h
    obtain ⟨sign, hsign, hsplit⟩ := exists_sign (trim isNumeralBlank t)
    have hpadded : Padded (sign ++ (splitSign (trim isNumeralBlank t)).2) t := by
      rw [← hsplit]
      exact padded_trim t
    obtain ⟨hrun, hnone, hlimit, rfl⟩ := (readInteger_eq_ok_iff_groups rfl).mp h
    obtain ⟨hloose, hdigits, hne⟩ := loosened_digits_iff.mpr ⟨hrun, hnone, rfl⟩
    exact ⟨_, sign, _, _, hpadded, hsign, hloose, hdigits, hne, hlimit, rfl⟩
  · rintro ⟨negative, sign, written, digits, hpadded, hsign, hloose, hdigits, hne, hlimit, rfl⟩
    obtain ⟨hrun, hnone, rfl⟩ := loosened_digits_iff.mp ⟨hloose, hdigits, hne⟩
    -- The white space ends where the sign begins, and the sign where the digits do.
    have hclear : ∀ c ∈ sign ++ written, isNumeralBlank c = false := by
      refine List.forall_mem_append.mpr ⟨hsign.isNumeralBlank_of_mem, fun c hc => ?_⟩
      obtain rfl | hc := hloose.mem hc
      · decide
      · exact isNumeralBlank_of_isDecimal (hdigits c hc)
    have hstart : StartsClear isSign written := by
      rw [StartsClear, hloose.head?_eq]
      exact startsClear_isSign_of_onlyOf hdigits
    refine (readInteger_eq_ok_iff_groups ?_).mpr ⟨hrun, hnone, hlimit, rfl⟩
    rw [hpadded.trim_eq hclear, hsign.splitSign_append hstart]

/-! ## Real numbers -/

theorem Exponent.startsClear {exponent : Text} (h : Exponent exponent) :
    StartsClear isDecimal exponent ∧ StartsClear (· == Code.scalar '.') exponent := by
  cases h with
  | absent => exact ⟨startsClear_nil, startsClear_nil⟩
  | power he _ _ _ =>
    rw [startsClear_cons, startsClear_cons]
    obtain rfl | rfl := he <;> decide

theorem readExponent?_isSome_iff : (readExponent? t).isSome = true ↔ Exponent t := by
  constructor
  · intro h
    fun_cases readExponent? t with
    | case1 => exact .absent
    | case2 c rest he negative digits hsplit hbad =>
      rw [readExponent?, if_pos he, hsplit] at h
      simp [hbad] at h
    | case3 c rest he negative digits hsplit hgood =>
      obtain ⟨sign, hsign, hrest⟩ := exists_sign rest
      rw [hsplit] at hsign hrest
      rw [Bool.or_eq_true, not_or, Bool.not_eq_true', Bool.not_eq_false, List.isEmpty_iff] at hgood
      rw [hrest]
      exact .power (by simpa using he) hsign hgood.1 (List.all_eq_true.mp hgood.2)
    | case4 c rest he =>
      rw [readExponent?, if_neg he] at h
      cases h
  · intro h
    cases h with
    | absent => rfl
    | @power e negative sign digits he hsign hne hdigits =>
      have hempty : digits.isEmpty = false := List.isEmpty_eq_false_iff.mpr hne
      have hall : digits.all isDecimal = true := List.all_eq_true.mpr hdigits
      rw [readExponent?, hsign.splitSign_append (startsClear_isSign_of_onlyOf hdigits)]
      simp [he, hempty, hall]

/-- The digits behind a point at the start, and what follows them. -/
def splitFraction : Text → Text × Text
  | '.' :: t => t.span isDecimal
  | t => ([], t)

theorem exists_fraction (t : Text) :
    ∃ fraction, Fraction fraction (splitFraction t).1 ∧ t = fraction ++ (splitFraction t).2 := by
  fun_cases splitFraction t with
  | case1 t =>
    rw [List.span_eq_takeWhile_dropWhile]
    refine ⟨_, .point fun c hc => List.mem_takeWhile_imp hc, ?_⟩
    rw [List.cons_append, List.takeWhile_append_dropWhile]
  | case2 => exact ⟨[], .absent, rfl⟩

theorem Fraction.startsClear_append {fraction part : Text} (h : Fraction fraction part)
    (ht : StartsClear isDecimal t) : StartsClear isDecimal (fraction ++ t) := by
  cases h with
  | absent => exact ht
  | point _ => exact startsClear_cons.mpr (by decide)

theorem Fraction.splitFraction_append {fraction part : Text} (h : Fraction fraction part)
    (hdigit : StartsClear isDecimal t) (hpoint : StartsClear (· == Code.scalar '.') t) :
    splitFraction (fraction ++ t) = (part, t) := by
  cases h with
  | point h => exact h.span_append hdigit
  | absent =>
    rw [List.nil_append]
    fun_cases splitFraction t with
    | case1 => exact absurd (startsClear_cons.mp hpoint) (by decide)
    | case2 => rfl

/-- Digits are read if there is one on either side of the point, and an exponent behind them. -/
theorem readDigits?_isSome_iff_parts {negative : Bool} {whole rest part later : Text}
    (hwhole : t.span isDecimal = (whole, rest)) (hpart : splitFraction rest = (part, later)) :
    (readDigits? negative t).isSome = true ↔
      (whole ≠ [] ∨ part ≠ []) ∧ (readExponent? later).isSome = true := by
  have hread : readDigits? negative t =
      if (t.span isDecimal).1.isEmpty && (splitFraction (t.span isDecimal).2).1.isEmpty then none
      else (readExponent? (splitFraction (t.span isDecimal).2).2).map fun e =>
        Double.ofDecimal negative
          (decimalsValue ((t.span isDecimal).1 ++ (splitFraction (t.span isDecimal).2).1))
          (e - ((splitFraction (t.span isDecimal).2).1.length : Int)) := rfl
  rw [hread, hwhole]
  dsimp only
  rw [hpart, ← not_and_or, ← List.isEmpty_iff, ← List.isEmpty_iff, ← Bool.and_eq_true]
  dsimp only
  split_ifs with hnone
  · exact iff_of_false nofun fun h => h.1 hnone
  · rw [Option.isSome_map, and_iff_right hnone]

theorem readDigits?_isSome_iff (negative : Bool) :
    (readDigits? negative t).isSome = true ↔ DecimalNumeral t := by
  constructor
  · intro h
    obtain ⟨fraction, hfraction, hrest⟩ := exists_fraction (t.dropWhile isDecimal)
    rw [readDigits?_isSome_iff_parts (List.span_eq_takeWhile_dropWhile isDecimal t) rfl] at h
    obtain ⟨hne, hexponent⟩ := h
    rw [← List.takeWhile_append_dropWhile (p := isDecimal) (l := t), hrest]
    exact .digits (fun c hc => List.mem_takeWhile_imp hc) hfraction hne
      (readExponent?_isSome_iff.mp hexponent)
  · rintro ⟨hwhole, hfraction, hne, hexponent⟩
    -- What follows the digits on either side of the point does not go on with a digit.
    obtain ⟨hdigit, hpoint⟩ := hexponent.startsClear
    rw [readDigits?_isSome_iff_parts (hwhole.span_append (hfraction.startsClear_append hdigit))
      (hfraction.splitFraction_append hdigit hpoint)]
    exact ⟨hne, readExponent?_isSome_iff.mpr hexponent⟩

/-- What has a letter for its small form is a letter itself, of either case. -/
theorem range_of_isAsciiLetter_toLower {c : Code} (h : isAsciiLetter c.toLower = true) :
    65 ≤ c.toNat ∧ c.toNat ≤ 90 ∨ 97 ≤ c.toNat ∧ c.toNat ≤ 122 := by
  by_cases hcapital : c.isBetween 'A' 'Z' = true
  · exact .inl (Code.isBetween_iff.mp hcapital)
  · rw [Code.toLower_eq_self hcapital, isAsciiLetter, Bool.or_eq_true] at h
    exact .inr (Code.isBetween_iff.mp (h.resolve_right hcapital))

/-- There is no white space in a word, and no sign in front of it. -/
theorem clear_of_realWord (h : lowerAscii t ∈ realWords) :
    (∀ c ∈ t, isNumeralBlank c = false) ∧ StartsClear isSign t := by
  have hletters : ∀ word ∈ realWords, OnlyOf isAsciiLetter word := by decide
  have hclear : ∀ c ∈ t, isNumeralBlank c = false ∧ isSign c = false := by
    intro c hc
    have hsmall : c.toLower ∈ lowerAscii t := List.mem_map_of_mem hc
    have hrange := range_of_isAsciiLetter_toLower (hletters _ h _ hsmall)
    constructor
    · simp only [isNumeralBlank, isBlank, Bool.and_eq_false_iff, Bool.or_eq_false_iff,
        decide_eq_false_iff_not, beq_eq_false_iff_ne]
      omega
    · rw [isSign, Bool.or_eq_false_iff, beq_eq_false_iff_ne, beq_eq_false_iff_ne]
      constructor
      · rintro rfl
        exact absurd hrange (by decide)
      · rintro rfl
        exact absurd hrange (by decide)
  exact ⟨fun c hc => (hclear c hc).1, fun c hc => (hclear c (List.mem_of_mem_head? hc)).2⟩

theorem Fraction.isNumeralBlank_of_mem {fraction part : Text} (h : Fraction fraction part) :
    ∀ c ∈ fraction, isNumeralBlank c = false := by
  cases h with
  | absent => exact List.forall_mem_nil _
  | point h =>
    refine List.forall_mem_cons.mpr ⟨by decide, fun c hc => ?_⟩
    exact isNumeralBlank_of_isDecimal (h c hc)

theorem Exponent.isNumeralBlank_of_mem {exponent : Text} (h : Exponent exponent) :
    ∀ c ∈ exponent, isNumeralBlank c = false := by
  cases h with
  | absent => exact List.forall_mem_nil _
  | power he hsign _ h =>
    refine List.forall_mem_cons.mpr ⟨?_, List.forall_mem_append.mpr ⟨?_, fun c hc => ?_⟩⟩
    · obtain rfl | rfl := he <;> decide
    · exact hsign.isNumeralBlank_of_mem
    · exact isNumeralBlank_of_isDecimal (h c hc)

/-- There is no white space among the digits, and no sign in front of them. -/
theorem DecimalNumeral.clear (h : DecimalNumeral t) :
    (∀ c ∈ t, isNumeralBlank c = false) ∧ StartsClear isSign t := by
  obtain @⟨whole, fraction, part, exponent, hwhole, hfraction, hne, hexponent⟩ := h
  constructor
  · refine List.forall_mem_append.mpr ⟨fun c hc => isNumeralBlank_of_isDecimal (hwhole c hc), ?_⟩
    exact List.forall_mem_append.mpr
      ⟨hfraction.isNumeralBlank_of_mem, hexponent.isNumeralBlank_of_mem⟩
  · -- The first character is a digit, or the point if there are none in front of it.
    by_cases hempty : whole = []
    · cases hfraction with
      | absent => simp [hempty] at hne
      | point _ =>
        rw [hempty]
        exact startsClear_cons.mpr (by decide)
    · exact (startsClear_append hempty).mpr (startsClear_isSign_of_onlyOf hwhole)

/-- What is read behind the sign and without the underscores: a word, or digits. -/
theorem exists_readReal?_iff_body :
    (∃ d, readReal? t = some d) ↔ ∃ plain, Loosened (trim isNumeralBlank t) plain ∧
      (lowerAscii (splitSign plain).2 ∈ realWords ∨ DecimalNumeral (splitSign plain).2) := by
  have hplain : ∀ plain, dropSeparators? false (trim isNumeralBlank t) = some plain ↔
      Loosened (trim isNumeralBlank t) plain := by
    intro plain
    rw [dropSeparators?_eq_some_iff]
    exact or_iff_left fun h => nomatch h.1
  -- Only whether there is a number matters, not which one it is.
  simp only [readReal?, Option.bind_eq_bind, Option.bind_eq_some_iff, hplain]
  rw [exists_comm]
  refine exists_congr fun plain => ?_
  rw [exists_and_left]
  refine and_congr_right fun _ => ?_
  cases splitSign plain with
  | mk negative body =>
    dsimp only
    rw [← readDigits?_isSome_iff negative, Option.isSome_iff_exists]
    simp only [Bool.or_eq_true, beq_iff_eq]
    split_ifs with hinfinity hnan
    · refine iff_of_true ⟨_, rfl⟩ (.inl ?_)
      obtain h | h := hinfinity <;> rw [h] <;> decide
    · refine iff_of_true ⟨_, rfl⟩ (.inl ?_)
      rw [hnan]
      decide
    · refine (or_iff_right ?_).symm
      rw [realWords, List.mem_cons, List.mem_cons, List.mem_singleton, ← or_assoc]
      exact not_or.mpr ⟨hinfinity, hnan⟩

/-- Exactly the numerals of real numbers are read. -/
theorem exists_readReal?_iff : (∃ d, readReal? t = some d) ↔ RealNumeral t := by
  rw [exists_readReal?_iff_body]
  constructor
  · rintro ⟨plain, hloose, hbody⟩
    obtain ⟨sign, hsign, hsplit⟩ := exists_sign plain
    rw [hsplit] at hloose
    exact ⟨_, sign, _, _, padded_trim t, hsign, hbody, hloose⟩
  · rintro ⟨negative, sign, body, written, hpadded, hsign, hbody, hloose⟩
    obtain ⟨hblank, hstart⟩ : (∀ c ∈ body, isNumeralBlank c = false) ∧ StartsClear isSign body :=
      hbody.elim clear_of_realWord DecimalNumeral.clear
    have hclear : ∀ c ∈ written, isNumeralBlank c = false := by
      intro c hc
      obtain rfl | hc := hloose.mem hc
      · decide
      · exact (List.mem_append.mp hc).elim (hsign.isNumeralBlank_of_mem c) (hblank c)
    refine ⟨sign ++ body, ?_, ?_⟩
    · rwa [hpadded.trim_eq hclear]
    · rwa [hsign.splitSign_append hstart]

/-! ## Short numbers -/

theorem IsShort.mono {m n : Nat} (h : IsShort n) (hmn : m ≤ n) : IsShort m :=
  (length_ofNat_mono hmn).trans h

end CanvasPrompt.Text
