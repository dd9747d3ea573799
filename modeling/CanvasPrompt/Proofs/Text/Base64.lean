import CanvasPrompt.Text.Base64

/-!
# Base64 loses nothing

Three bytes become four characters; of one or two bytes at the end the last character holds fewer
bits, and `=` fills the group. In all three cases the bytes are read back (`decode_encode`), for
every alphabet in which the characters of the 64 numbers can be told apart and from the fill.

`IsPadded a t` says what a text in base64 looks like, and `isPadded_encode` that this is what is
written.
-/

namespace CanvasPrompt.Base64

/-- The characters of the numbers below 64 can be told apart, and from the fill. -/
structure Alphabet.Proper (a : Alphabet) : Prop where
  /-- Each number is had back from its character. -/
  value?_digit : ∀ n < 64, a.value? (a.digit n) = some n
  /-- No character is that of the fill. -/
  digit_ne : ∀ n < 64, a.digit n ≠ '='

theorem standard_proper : standard.Proper :=
  ⟨by decide, by decide⟩

example : (List.range 64).map standard.digit =
    "ABCDEFGHIJKLMNOPQRSTUVWXYZabcdefghijklmnopqrstuvwxyz0123456789+/".codes := by
  decide +kernel

/-- The text consists of characters of the alphabet and at most two `=` that fill it up to groups of
four. -/
def IsPadded (a : Alphabet) (t : Text) : Prop :=
  ∃ digits fill, t = digits ++ List.replicate fill (Code.scalar '=') ∧
    (∀ c ∈ digits, ∃ n < 64, c = a.digit n) ∧ fill ≤ 2 ∧ 4 ∣ t.length

variable {a : Alphabet}

/-! ## What is written -/

theorem IsPadded.group {t : Text} (h : IsPadded a t) {n m k l : Nat} (hn : n < 64) (hm : m < 64)
    (hk : k < 64) (hl : l < 64) :
    IsPadded a (a.digit n :: a.digit m :: a.digit k :: a.digit l :: t) := by
  obtain ⟨digits, fill, rfl, hdigits, hfill, hlength⟩ := h
  refine ⟨a.digit n :: a.digit m :: a.digit k :: a.digit l :: digits, fill, rfl, ?_, hfill, ?_⟩
  · simp only [List.forall_mem_cons]
    exact ⟨⟨n, hn, rfl⟩, ⟨m, hm, rfl⟩, ⟨k, hk, rfl⟩, ⟨l, hl, rfl⟩, hdigits⟩
  · simp only [List.length_cons]
    omega

theorem isPadded_encode (a : Alphabet) (bs : Bytes) : IsPadded a (encode a bs) := by
  -- Three bytes make a group of four; one or two at the end are filled up.
  induction bs using encode.induct with
  | case1 => exact ⟨[], 0, rfl, List.forall_mem_nil _, by decide, ⟨0, rfl⟩⟩
  | case2 x =>
    have hx := x.toNat_lt
    refine ⟨[_, _], 2, rfl, ?_, Nat.le_refl 2, ⟨1, rfl⟩⟩
    rw [List.forall_mem_cons, List.forall_mem_singleton]
    exact ⟨⟨_, by omega, rfl⟩, _, by omega, rfl⟩
  | case3 x y =>
    have hx := x.toNat_lt
    have hy := y.toNat_lt
    refine ⟨[_, _, _], 1, rfl, ?_, by decide, ⟨1, rfl⟩⟩
    rw [List.forall_mem_cons, List.forall_mem_cons, List.forall_mem_singleton]
    exact ⟨⟨_, by omega, rfl⟩, ⟨_, by omega, rfl⟩, _, by omega, rfl⟩
  | case4 x y z rest ih =>
    have hx := x.toNat_lt
    have hy := y.toNat_lt
    have hz := z.toNat_lt
    rw [encode]
    exact ih.group (by omega) (by omega) (by omega) (by omega)

/-! ## Bytes and their groups -/

theorem ofNat_eq {n : Nat} {b : UInt8} (h : n = b.toNat) : UInt8.ofNat n = b := by
  rw [h, UInt8.ofNat_toNat]

theorem first_byte (x : UInt8) {k : Nat} (hk : k < 16) :
    UInt8.ofNat (x.toNat / 4 * 4 + (x.toNat % 4 * 16 + k) / 16) = x :=
  ofNat_eq (by omega)

theorem second_byte (j : Nat) (y : UInt8) {k : Nat} (hk : k < 4) :
    UInt8.ofNat ((j * 16 + y.toNat / 16) % 16 * 16 + (y.toNat % 16 * 4 + k) / 4) = y :=
  ofNat_eq (by have := y.toNat_lt; omega)

theorem third_byte (j : Nat) (z : UInt8) :
    UInt8.ofNat ((j * 4 + z.toNat / 64) % 4 * 64 + z.toNat % 64) = z :=
  ofNat_eq (by have := z.toNat_lt; omega)

/-- The bytes are read back as they were written. -/
theorem decode_encode (ha : a.Proper) (bs : Bytes) : decode a (encode a bs) = some bs := by
  induction bs using encode.induct with
  | case1 => rfl
  | case2 x =>
    have hx := x.toNat_lt
    -- The second character holds two bits of the byte and four that are zero.
    have hfirst := first_byte x (k := 0) (by decide)
    have hrest : (x.toNat % 4 * 16 % 16 == 0) = true := by simp
    rw [encode, decode.eq_2, ha.value?_digit _ (by omega), ha.value?_digit _ (by omega)]
    simp only [Option.bind_eq_bind, Option.bind_some, hrest, ↓reduceIte]
    rw [Nat.add_zero] at hfirst
    rw [hfirst]
  | case3 x y =>
    have hx := x.toNat_lt
    have hy := y.toNat_lt
    have hfirst := first_byte x (k := y.toNat / 16) (by omega)
    -- The third character holds four bits of the last byte and two that are zero.
    have hsecond := second_byte (x.toNat % 4) y (k := 0) (by decide)
    have hrest : (y.toNat % 16 * 4 % 4 == 0) = true := by simp
    rw [encode, decode.eq_3 _ _ _ _ (ha.digit_ne _ (by omega)), ha.value?_digit _ (by omega),
      ha.value?_digit _ (by omega), ha.value?_digit _ (by omega)]
    simp only [Option.bind_eq_bind, Option.bind_some, hrest, ↓reduceIte]
    rw [Nat.add_zero] at hsecond
    rw [hfirst, hsecond]
  | case4 x y z rest ih =>
    have hx := x.toNat_lt
    have hy := y.toNat_lt
    have hz := z.toNat_lt
    have hfirst := first_byte x (k := y.toNat / 16) (by omega)
    have hsecond := second_byte (x.toNat % 4) y (k := z.toNat / 64) (by omega)
    have hthird := third_byte (y.toNat % 16) z
    -- The last character of the group is none of the fill.
    have hfill := ha.digit_ne (z.toNat % 64) (by omega)
    rw [encode, decode.eq_4 _ _ _ _ _ _ (fun _ h _ => hfill h) (fun h _ => hfill h),
      ha.value?_digit _ (by omega), ha.value?_digit _ (by omega), ha.value?_digit _ (by omega),
      ha.value?_digit _ (by omega), ih]
    simp only [Option.bind_eq_bind, Option.bind_some, hfirst, hsecond, hthird, Option.pure_def]

end CanvasPrompt.Base64
