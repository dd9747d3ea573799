import CanvasPrompt.Proofs.Text.Splitting
import CanvasPrompt.Proofs.Text.Utf8
import CanvasPrompt.Text.Percent

/-!
# Percent encoding loses nothing

A text is read back from a path or a query as it was written, whatever characters it has; only
surrogates cannot be read. This module introduces

* `Escaped t`: the text `t` consists of unreserved characters and of bytes written with `%`;
* `decodeQuery t`: the pairs of a query, split at `&` and each at its first `=`.

No delimiter is left in what is written (`Escaped.not_mem`), and reading takes up one character
after the other (`decodeBytes_encodeChar`). The main statements are `decode_encode`,
`decodeForm_encodeForm` and `decodeQuery_encodeQuery`.
-/

namespace CanvasPrompt.Percent

/-- The text consists of unreserved characters and of bytes that are written as `%` and two digits.
-/
inductive Escaped : Text → Prop where
  | nil : Escaped []
  | plain {c : Code} {t : Text} (hc : isUnreserved c = true) (ht : Escaped t) : Escaped (c :: t)
  | byte {a b : Code} {t : Text} (ha : (Text.hexValue? a).isSome = true)
      (hb : (Text.hexValue? b).isSome = true) (ht : Escaped t) : Escaped ('%' :: a :: b :: t)

variable {c d : Code} {t u : Text}

/-! ## Escaped texts -/

theorem Escaped.append (ht : Escaped t) (hu : Escaped u) : Escaped (t ++ u) := by
  induction ht with
  | nil => exact hu
  | plain hc _ ih => exact .plain hc ih
  | byte ha hb _ ih => exact .byte ha hb ih

theorem isUnreserved_of_hexValue? (h : (Text.hexValue? c).isSome = true) :
    isUnreserved c = true := by
  have hf : c.isBetween 'a' 'f' = true → c.isBetween 'a' 'z' = true :=
    fun hc => Code.isBetween_mono hc (by decide)
  have hF : c.isBetween 'A' 'F' = true → c.isBetween 'A' 'Z' = true :=
    fun hc => Code.isBetween_mono hc (by decide)
  grind [Text.hexValue?, isUnreserved, Text.isAsciiLetter, Text.isAsciiDigit]

theorem Escaped.isUnreserved_or (h : Escaped t) : ∀ c ∈ t, isUnreserved c = true ∨ c = '%' := by
  induction h with
  | nil => exact List.forall_mem_nil _
  | plain hc _ ih => exact List.forall_mem_cons.mpr ⟨.inl hc, ih⟩
  | byte ha hb _ ih =>
    rw [List.forall_mem_cons, List.forall_mem_cons, List.forall_mem_cons]
    exact ⟨.inr rfl, .inl (isUnreserved_of_hexValue? ha), .inl (isUnreserved_of_hexValue? hb), ih⟩

theorem Escaped.not_mem (h : Escaped t) (hd : isUnreserved d = false) (hpercent : d ≠ '%') :
    d ∉ t := by
  intro hmem
  rcases h.isUnreserved_or d hmem with hun | rfl
  · rw [hd] at hun
    cases hun
  · exact hpercent rfl

/-! ## Bytes -/

theorem hexValue?_hexDigit {n : Nat} (h : n < 16) : Text.hexValue? (hexDigit n) = some n :=
  (by decide : ∀ n < 16, Text.hexValue? (hexDigit n) = some n) n h

theorem escaped_encodeByte (b : UInt8) : Escaped (encodeByte b) := by
  have hb := b.toNat_lt
  refine .byte ?_ ?_ .nil
  · rw [hexValue?_hexDigit (by omega)]
    rfl
  · rw [hexValue?_hexDigit (by omega)]
    rfl

theorem decodeBytes_encodeByte (b : UInt8) (rest : Text) :
    decodeBytes (encodeByte b ++ rest) = b :: decodeBytes rest := by
  have hb := b.toNat_lt
  have hhigh := hexValue?_hexDigit (n := b.toNat / 16) (by omega)
  have hlow := hexValue?_hexDigit (n := b.toNat % 16) (by omega)
  simp only [encodeByte, List.cons_append, List.nil_append, decodeBytes, hhigh, hlow,
    Nat.div_add_mod', UInt8.ofNat_toNat]

theorem decodeBytes_encodeBytes (bs : Bytes) (rest : Text) :
    decodeBytes (bs.flatMap encodeByte ++ rest) = bs ++ decodeBytes rest := by
  induction bs with
  | nil => rfl
  | cons b bs ih =>
    rw [List.flatMap_cons, List.append_assoc, decodeBytes_encodeByte, ih, List.cons_append]

theorem decodeBytes_cons (hc : c ≠ '%') (rest : Text) :
    decodeBytes (c :: rest) = Text.utf8Char c ++ decodeBytes rest := by
  -- The other case of reading begins with a `%`.
  rw [decodeBytes]
  rintro a b _ rfl
  exact absurd rfl hc

/-! ## Paths -/

theorem escaped_encodeChar (c : Code) : Escaped (encodeChar c) := by
  rw [encodeChar]
  split
  · next hc => exact .plain hc .nil
  · induction Text.utf8Char c with
    | nil => exact .nil
    | cons b bs ih => exact (escaped_encodeByte b).append ih

theorem escaped_encode (t : Text) : Escaped (encode t) := by
  induction t with
  | nil => exact .nil
  | cons c t ih => exact (escaped_encodeChar c).append ih

/-- Reading takes up a written character as the bytes of it, whatever follows. -/
theorem decodeBytes_encodeChar (c : Code) (rest : Text) :
    decodeBytes (encodeChar c ++ rest) = Text.utf8Char c ++ decodeBytes rest := by
  rw [encodeChar]
  split
  · next hc =>
    refine decodeBytes_cons ?_ rest
    rintro rfl
    exact absurd hc (by decide)
  · exact decodeBytes_encodeBytes _ _

/-- The bytes in a path are those of the text, so that only UTF-8 is left to be read. -/
theorem decodeBytes_encode (t : Text) : decodeBytes (encode t) = Text.utf8 t := by
  induction t with
  | nil => rfl
  | cons c t ih =>
    rw [encode, List.flatMap_cons, decodeBytes_encodeChar, ← encode, ih]
    rfl

/-- A text that can be encoded is read back from a path as it was written. -/
theorem decode_encode {t : Text} (ht : t.isEncodable = true) : decode (encode t) = some t := by
  rw [decode, decodeBytes_encode, Text.ofProperUtf8?_utf8 ht]

/-! ## Names and values of queries -/

/-- The character that `c` stands for in a query. -/
def unplus (c : Code) : Code :=
  if c == '+' then ' ' else c

theorem decodeForm_eq (t : Text) : decodeForm t = decode (t.map unplus) := rfl

theorem map_unplus_of_not_mem (h : Code.scalar '+' ∉ t) : t.map unplus = t := by
  have hsame : ∀ c ∈ t, unplus c = c := by
    intro c hc
    have hne : c ≠ '+' := by
      rintro rfl
      exact h hc
    simp [unplus, hne]
  rw [List.map_congr_left hsame, List.map_id']

/-- What is written for a character in a query: a plus sign for a space, and else the same as in a
path, where no plus sign is left. -/
theorem map_unplus_encodeFormChar (c : Code) :
    (encodeFormChar c).map unplus = if c = ' ' then [Code.scalar ' '] else encodeChar c := by
  rw [encodeFormChar]
  by_cases hc : c = ' '
  · subst hc
    rfl
  · have hplus : Code.scalar '+' ∉ encodeChar c :=
      (escaped_encodeChar c).not_mem (by decide) (by decide)
    simp only [beq_iff_eq, hc, ↓reduceIte]
    exact map_unplus_of_not_mem hplus

/-- The bytes of a name or value in a query are those of the text. -/
theorem decodeBytes_encodeForm (t : Text) :
    decodeBytes ((encodeForm t).map unplus) = Text.utf8 t := by
  induction t with
  | nil => rfl
  | cons c t ih =>
    have hchar : decodeBytes ((encodeFormChar c).map unplus ++ (encodeForm t).map unplus) =
        Text.utf8Char c ++ decodeBytes ((encodeForm t).map unplus) := by
      rw [map_unplus_encodeFormChar]
      split
      · -- A space is written as a plus sign, which is turned back before it is read.
        next hc =>
        subst hc
        exact decodeBytes_cons (by decide) _
      · exact decodeBytes_encodeChar c _
    rw [encodeForm, List.flatMap_cons, List.map_append, ← encodeForm, hchar, ih]
    rfl

/-- A name or value that can be encoded is read back from a query as it was written. -/
theorem decodeForm_encodeForm {t : Text} (ht : t.isEncodable = true) :
    decodeForm (encodeForm t) = some t := by
  rw [decodeForm_eq, decode, decodeBytes_encodeForm, Text.ofProperUtf8?_utf8 ht]

theorem not_mem_encodeForm (hd : isUnreserved d = false) (hpercent : d ≠ '%') (hplus : d ≠ '+')
    (t : Text) : d ∉ encodeForm t := by
  intro hmem
  obtain ⟨c, -, hc⟩ := List.mem_flatMap.mp hmem
  rw [encodeFormChar] at hc
  split at hc
  · exact hplus (List.mem_singleton.mp hc)
  · exact (escaped_encodeChar c).not_mem hd hpercent hc

/-! ## Queries -/

/-- The pair that is written up to its first `=` and behind it. -/
def decodePair (t : Text) : Option (Text × Text) := do
  pure (← decodeForm (Text.before '=' t), ← decodeForm (Text.after '=' t))

/-- The pairs of a query, if all their names and values are UTF-8. -/
def decodeQuery (t : Text) : Option (List (Text × Text)) :=
  (Text.splitAtChar '&' t).mapM decodePair

/-- Name and value of the pair can be encoded. -/
def IsEncodable (p : Text × Text) : Prop :=
  p.1.isEncodable = true ∧ p.2.isEncodable = true

theorem decodePair_encodePair {p : Text × Text} (hp : IsEncodable p) :
    decodePair (encodePair p) = some p := by
  have hname : Code.scalar '=' ∉ encodeForm p.1 :=
    not_mem_encodeForm (by decide) (by decide) (by decide) p.1
  rw [decodePair, encodePair, Text.before_append_cons hname, Text.after_append_cons hname,
    decodeForm_encodeForm hp.1, decodeForm_encodeForm hp.2]
  rfl

theorem not_mem_encodePair (hd : isUnreserved d = false) (hpercent : d ≠ '%') (hplus : d ≠ '+')
    (hequals : d ≠ '=') (p : Text × Text) : d ∉ encodePair p := by
  have hname := not_mem_encodeForm hd hpercent hplus p.1
  have hvalue := not_mem_encodeForm hd hpercent hplus p.2
  simp [encodePair, hname, hvalue, hequals]

/-- The pairs of a query are read back as they were written, in order. -/
theorem decodeQuery_encodeQuery {ps : List (Text × Text)} (hne : ps ≠ [])
    (hps : ∀ p ∈ ps, IsEncodable p) :
    decodeQuery (encodeQuery ps) = some ps := by
  have hclear : ∀ piece ∈ ps.map encodePair, Code.scalar '&' ∉ piece := by
    intro piece hpiece
    obtain ⟨p, -, rfl⟩ := List.mem_map.mp hpiece
    exact not_mem_encodePair (by decide) (by decide) (by decide) (by decide) p
  rw [decodeQuery, encodeQuery, Text.splitAtChar_intercalate (by simpa using hne) hclear]
  -- The pieces are read one by one, and it does not matter any more whether there are any.
  clear hne hclear
  induction ps with
  | nil => rfl
  | cons p ps ih =>
    obtain ⟨hp, hps⟩ := List.forall_mem_cons.mp hps
    rw [List.map_cons, List.mapM_cons, decodePair_encodePair hp, ih hps]
    rfl

/-- Of the characters that have to be escaped, a query holds at most its own delimiters. -/
theorem not_mem_encodeQuery (hd : isUnreserved d = false) (hpercent : d ≠ '%') (hplus : d ≠ '+')
    (hequals : d ≠ '=') (hand : d ≠ '&') (ps : List (Text × Text)) : d ∉ encodeQuery ps := by
  rw [encodeQuery]
  induction ps with
  | nil => simp
  | cons p ps ih =>
    have hp := not_mem_encodePair hd hpercent hplus hequals p
    cases ps with
    | nil => simpa using hp
    | cons q ps =>
      rw [List.map_cons, List.map_cons, List.intercalate_cons_cons, ← List.map_cons]
      simp only [List.mem_append, not_or]
      exact ⟨⟨hp, by simpa using hand⟩, ih⟩

end CanvasPrompt.Percent
