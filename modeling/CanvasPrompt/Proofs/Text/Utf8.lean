import CanvasPrompt.Proofs.Text.Codes
import CanvasPrompt.Text.Utf8

/-!
# UTF-8 can be read back

A character takes one to four bytes, by its code. The first byte tells how many follow and holds the
highest bits (`pendingAfter?_two`, `pendingAfter?_three`, `pendingAfter?_four`), each further byte
six more bits, down to the lowest ones in the last byte (`ofUtf8From_last`). Reading goes on behind
a character as after the character itself (`ofUtf8From_utf8Char`), so that a text is had back from
its bytes (`ofUtf8?_utf8`).
-/

namespace CanvasPrompt.Text

/-- A number below 256 is kept by its byte. -/
theorem toNat_byte {n : Nat} (h : n < 0x100) : (UInt8.ofNat n).toNat = n :=
  UInt8.toNat_ofNat_of_lt h

/-! ## First bytes -/

variable {b k : Nat}

theorem pendingAfter?_of_lt (h : b < 0x80) : pendingAfter? b = none := by
  grind [pendingAfter?]

theorem pendingAfter?_two (hleast : 2 ≤ k) (hk : k < 0x20) :
    pendingAfter? (0xC0 + k) = some ⟨1, 0x80, 0xBF, k⟩ := by
  grind [pendingAfter?]

theorem pendingAfter?_three (hk : k < 0x10) :
    pendingAfter? (0xE0 + k) = some ⟨2, if k = 0 then 0xA0 else 0x80, 0xBF, k⟩ := by
  grind [pendingAfter?]

theorem pendingAfter?_four (hk : k < 5) :
    pendingAfter? (0xF0 + k) =
      some ⟨3, if k = 0 then 0x90 else 0x80, if k = 4 then 0x8F else 0xBF, k⟩ := by
  grind [pendingAfter?]

/-! ## Reading characters -/

variable {seen : Text} {p : Pending} {d : Nat} (rest : Bytes)

theorem ofUtf8From_first (hb : b < 0x100) (hp : pendingAfter? b = some p) :
    ofUtf8From seen none (UInt8.ofNat b :: rest) = ofUtf8From seen (some p) rest := by
  have hascii : ¬b < 0x80 := by
    intro h
    rw [pendingAfter?_of_lt h] at hp
    cases hp
  rw [ofUtf8From, toNat_byte hb, if_neg hascii, hp]

/-- A byte inside a character adds six bits, and ends the character if no other byte is owed. -/
theorem ofUtf8From_next (hd : d < 0x40) (hleast : p.least ≤ 0x80 + d)
    (hgreatest : 0x80 + d ≤ p.greatest) :
    ofUtf8From seen (some p) (UInt8.ofNat (0x80 + d) :: rest) =
      if p.owed ≤ 1 then ofUtf8From (Code.ofNat (p.value * 0x40 + d) :: seen) none rest
      else ofUtf8From seen (some ⟨p.owed - 1, 0x80, 0xBF, p.value * 0x40 + d⟩) rest := by
  have hbounds : (p.least ≤ 0x80 + d && 0x80 + d ≤ p.greatest) = true := by
    simp [hleast, hgreatest]
  simp only [ofUtf8From, toNat_byte (by omega : 0x80 + d < 0x100), hbounds, ↓reduceIte,
    Nat.add_sub_cancel_left]

variable {n least greatest : Nat}

/-- The last byte of a character, with its lowest six bits. -/
theorem ofUtf8From_last (hleast : least ≤ 0x80 + n % 0x40)
    (hgreatest : 0x80 + n % 0x40 ≤ greatest) :
    ofUtf8From seen (some ⟨1, least, greatest, n / 0x40⟩)
        (UInt8.ofNat (0x80 + n % 0x40) :: rest) =
      ofUtf8From (Code.ofNat n :: seen) none rest := by
  rw [ofUtf8From_next rest (by omega) hleast hgreatest, if_pos (Nat.le_refl 1), Nat.div_add_mod']

theorem ofUtf8From_last_two (hleast : least ≤ 0x80 + n / 0x40 % 0x40)
    (hgreatest : 0x80 + n / 0x40 % 0x40 ≤ greatest) :
    ofUtf8From seen (some ⟨2, least, greatest, n / 0x1000⟩)
        (UInt8.ofNat (0x80 + n / 0x40 % 0x40) :: UInt8.ofNat (0x80 + n % 0x40) :: rest) =
      ofUtf8From (Code.ofNat n :: seen) none rest := by
  have hbits : n / 0x1000 * 0x40 + n / 0x40 % 0x40 = n / 0x40 := by omega
  rw [ofUtf8From_next _ (by omega) hleast hgreatest, if_neg (by decide : ¬2 ≤ 1)]
  simp only [hbits]
  exact ofUtf8From_last rest (by omega) (by omega)

theorem ofUtf8From_last_three (hleast : least ≤ 0x80 + n / 0x1000 % 0x40)
    (hgreatest : 0x80 + n / 0x1000 % 0x40 ≤ greatest) :
    ofUtf8From seen (some ⟨3, least, greatest, n / 0x40000⟩)
        (UInt8.ofNat (0x80 + n / 0x1000 % 0x40) :: UInt8.ofNat (0x80 + n / 0x40 % 0x40) ::
          UInt8.ofNat (0x80 + n % 0x40) :: rest) =
      ofUtf8From (Code.ofNat n :: seen) none rest := by
  have hbits : n / 0x40000 * 0x40 + n / 0x1000 % 0x40 = n / 0x1000 := by omega
  rw [ofUtf8From_next _ (by omega) hleast hgreatest, if_neg (by decide : ¬3 ≤ 1)]
  simp only [hbits]
  exact ofUtf8From_last_two rest (by omega) (by omega)

/-- Reading goes on behind a character as after the character itself. -/
theorem ofUtf8From_utf8Char (c : Code) :
    ofUtf8From seen none (utf8Char c ++ rest) = ofUtf8From (c :: seen) none rest := by
  have hmax : c.toNat < 0x110000 := c.toNat_lt
  have hc : Code.ofNat c.toNat = c := c.ofNat_toNat
  generalize hn : c.toNat = n at hmax hc
  simp only [utf8Char, hn]
  -- The bounds of a second byte shut out forms that are longer than needed, and none is written.
  by_cases h1 : n < 0x80
  · simp only [h1, ↓reduceIte, List.singleton_append, ofUtf8From,
      toNat_byte (by omega : n < 0x100), hc]
  by_cases h2 : n < 0x800
  · have hp := pendingAfter?_two (k := n / 0x40) (by omega) (by omega)
    simp only [h1, h2, ↓reduceIte, List.cons_append, List.nil_append]
    rw [ofUtf8From_first _ (by omega) hp, ofUtf8From_last _ (by omega) (by omega), hc]
  by_cases h3 : n < 0x10000
  · have hp := pendingAfter?_three (k := n / 0x1000) (by omega)
    simp only [h1, h2, h3, ↓reduceIte, List.cons_append, List.nil_append]
    rw [ofUtf8From_first _ (by omega) hp,
      ofUtf8From_last_two _ (by split <;> omega) (by omega), hc]
  · have hp := pendingAfter?_four (k := n / 0x40000) (by omega)
    simp only [h1, h2, h3, ↓reduceIte, List.cons_append, List.nil_append]
    rw [ofUtf8From_first _ (by omega) hp,
      ofUtf8From_last_three _ (by split <;> omega) (by split <;> omega), hc]

theorem ofUtf8From_utf8 (t : Text) :
    ofUtf8From seen none (utf8 t ++ rest) = ofUtf8From (t.reverse ++ seen) none rest := by
  induction t generalizing seen with
  | nil => rfl
  | cons c t ih =>
    rw [utf8, List.flatMap_cons, List.append_assoc, ofUtf8From_utf8Char, ← utf8, ih,
      List.reverse_cons, List.append_assoc, List.singleton_append]

/-- A text can be had back from its UTF-8 form. -/
theorem ofUtf8?_utf8 (t : Text) : ofUtf8? (utf8 t) = some t := by
  have h : ofUtf8From [] none (utf8 t ++ []) = ofUtf8From (t.reverse ++ []) none [] :=
    ofUtf8From_utf8 [] t
  rw [List.append_nil, List.append_nil] at h
  rw [ofUtf8?, h, ofUtf8From, List.reverse_reverse]

/-- A text that can be encoded is had back from UTF-8 proper. -/
theorem ofProperUtf8?_utf8 {t : Text} (ht : t.isEncodable = true) :
    ofProperUtf8? (utf8 t) = some t := by
  rw [ofProperUtf8?, ofUtf8?_utf8, Option.filter_some, if_pos ht]

/-! ## Texts that can be encoded -/

theorem isEncodable_iff {t : Text} : t.isEncodable = true ↔ ∀ c ∈ t, c.isScalar = true :=
  List.all_eq_true

theorem isEncodable_map_scalar (cs : List Char) : isEncodable (cs.map .scalar) = true := by
  rw [isEncodable_iff, List.forall_mem_map]
  exact fun _ _ => rfl

theorem isEncodable_ofInt (i : Int) : (ofInt i).isEncodable = true := by
  cases i with
  | ofNat n => exact isEncodable_map_scalar _
  | negSucc n => exact isEncodable_map_scalar ('-' :: Nat.toDigits 10 (n + 1))

end CanvasPrompt.Text
