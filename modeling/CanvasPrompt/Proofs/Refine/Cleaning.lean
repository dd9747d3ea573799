import CanvasPrompt.Proofs.Refine.Preamble

/-!
# What cleaning removes

Cleaning loses nothing of a reply but white space, quotes and one preamble, and it undoes what is
put around a prompt. This module introduces

* `isWrapping c`: the character `c` is white space or a quote;
* `IsBare b`: the text `b` has no such character at its ends;
* `unwrapFront` and `unwrapBack`: what unwrapping leaves of what stands before and behind a bare
  text.

The main statements are `clean_loses_no_content` and `clean_undoes_wrapping`.
-/

namespace CanvasPrompt.Refine

open Text (OnlyOf StartsClear EndsClear isBlank)

/-- The characters that may stand around a prompt: white space and quotes. -/
def isWrapping (c : Code) : Bool :=
  isBlank c || isQuote c

/-- A text that is not empty and has no white space and no quotes at its ends. -/
structure IsBare (b : Text) : Prop where
  ne_nil : b ≠ []
  startsClear : StartsClear isWrapping b
  endsClear : EndsClear isWrapping b

instance (b : Text) : Decidable (IsBare b) :=
  decidable_of_iff (b ≠ [] ∧ StartsClear isWrapping b ∧ EndsClear isWrapping b)
    ⟨fun h => ⟨h.1, h.2.1, h.2.2⟩, fun h => ⟨h.ne_nil, h.startsClear, h.endsClear⟩⟩

theorem isWrapping_of_isBlank {c : Code} (h : isBlank c = true) : isWrapping c = true := by
  simp [isWrapping, h]

theorem isWrapping_of_isQuote {c : Code} (h : isQuote c = true) : isWrapping c = true := by
  simp [isWrapping, h]

theorem wrapping_of_blank {t : Text} (h : OnlyOf isBlank t) : OnlyOf isWrapping t :=
  h.mono fun _ => isWrapping_of_isBlank

theorem wrapping_of_quote {t : Text} (h : OnlyOf isQuote t) : OnlyOf isWrapping t :=
  h.mono fun _ => isWrapping_of_isQuote

/-! ## Nothing else is lost -/

theorem startsClear_unwrap (t : Text) : StartsClear isBlank (unwrap t) :=
  Text.startsClear_trim isBlank _

theorem endsClear_unwrap (t : Text) : EndsClear isBlank (unwrap t) :=
  Text.endsClear_trim isBlank _

theorem exists_append_unwrap (t : Text) :
    ∃ front back, OnlyOf isWrapping front ∧ OnlyOf isWrapping back ∧
      t = front ++ unwrap t ++ back := by
  -- Each of the three trimmings takes one run away in front and one behind.
  obtain ⟨f₁, b₁, hf₁, hb₁, h₁⟩ := Text.exists_append_trim isBlank t
  obtain ⟨f₂, b₂, hf₂, hb₂, h₂⟩ := Text.exists_append_trim isQuote (Text.strip t)
  obtain ⟨f₃, b₃, hf₃, hb₃, h₃⟩ :=
    Text.exists_append_trim isBlank (Text.trim isQuote (Text.strip t))
  refine ⟨f₁ ++ f₂ ++ f₃, b₃ ++ b₂ ++ b₁, ?_, ?_, ?_⟩
  · simp only [Text.onlyOf_append]
    exact ⟨⟨wrapping_of_blank hf₁, wrapping_of_quote hf₂⟩, wrapping_of_blank hf₃⟩
  · simp only [Text.onlyOf_append]
    exact ⟨⟨wrapping_of_blank hb₃, wrapping_of_quote hb₂⟩, wrapping_of_blank hb₁⟩
  · calc t = f₁ ++ Text.strip t ++ b₁ := h₁
      _ = f₁ ++ (f₂ ++ Text.trim isQuote (Text.strip t) ++ b₂) ++ b₁ := by rw [← h₂]
      _ = f₁ ++ (f₂ ++ (f₃ ++ unwrap t ++ b₃) ++ b₂) ++ b₁ := by
        rw [show f₃ ++ unwrap t ++ b₃ = Text.trim isQuote (Text.strip t) from h₃.symm]
      _ = f₁ ++ f₂ ++ f₃ ++ unwrap t ++ (b₃ ++ b₂ ++ b₁) := by simp only [List.append_assoc]

/-- A reply is its clean prompt, a preamble if the unwrapped reply begins with one, and white space
and quotes around both. -/
theorem clean_loses_no_content (t : Text) :
    ∃ a p c d d', OnlyOf isWrapping a ∧ OnlyOf isWrapping c ∧ OnlyOf isWrapping d ∧
      OnlyOf isWrapping d' ∧
      t = a ++ p ++ c ++ clean t ++ (d ++ d') ∧
      unwrap t = p ++ (c ++ clean t ++ d) ∧
      (p = [] ∨ Preamble p) ∧
      (p ≠ [] ↔ BeginsWithPreamble (unwrap t)) ∧
      StartsClear isBlank (c ++ clean t ++ d) ∧
      StartsClear isBlank (clean t) ∧ EndsClear isBlank (clean t) := by
  obtain ⟨a, d', ha, hd', ht⟩ := exists_append_unwrap t
  -- The preamble is what stands before the text that is unwrapped last.
  obtain ⟨p, rest, hclean, hsplit, hp, hrest⟩ : ∃ p rest, clean t = unwrap rest ∧
      unwrap t = p ++ rest ∧ (p = [] ∧ ¬BeginsWithPreamble (unwrap t) ∨ Preamble p) ∧
      StartsClear isBlank rest := by
    cases hread : dropPreamble? (unwrap t) with
    | none =>
      refine ⟨[], unwrap t, ?_, rfl, .inl ⟨rfl, dropPreamble?_eq_none_iff.mp hread⟩,
        startsClear_unwrap t⟩
      rw [clean, hread]
      rfl
    | some rest =>
      obtain ⟨p, hp, hrest, hsplit⟩ := dropPreamble?_eq_some_iff.mp hread
      refine ⟨p, rest, ?_, hsplit, .inr hp, hrest⟩
      rw [clean, hread]
      rfl
  -- It is unwrapped in its turn, between `c` and `d`.
  obtain ⟨c, d, hc, hd, hu⟩ := exists_append_unwrap rest
  rw [← hclean] at hu
  rw [hu] at hsplit hrest
  refine ⟨a, p, c, d, d', ha, hc, hd, hd', ?_, hsplit, hp.imp_left And.left, ?_, hrest, ?_, ?_⟩
  · rw [hsplit] at ht
    simpa only [List.append_assoc] using ht
  · rcases hp with ⟨rfl, hnone⟩ | hp
    · simp [hnone]
    · -- A preamble has at least one letter.
      obtain ⟨letter, p', rfl, -⟩ := hp.exists_cons
      exact iff_of_true (List.cons_ne_nil _ _) ⟨_, _, hp, hsplit⟩
  · rw [hclean]
    exact startsClear_unwrap rest
  · rw [hclean]
    exact endsClear_unwrap rest

/-- An opening with other words before the colon is a part of the prompt. -/
example :
    clean "\"Here is a lone lighthouse: dusk\"".codes =
      "Here is a lone lighthouse: dusk".codes := by
  decide +kernel

/-! ## What is put around a bare text -/

/-- What unwrapping leaves of a text that stands before a bare one. -/
def unwrapFront (t : Text) : Text :=
  ((t.dropWhile isBlank).dropWhile isQuote).dropWhile isBlank

/-- What unwrapping leaves of a text that stands behind a bare one. -/
def unwrapBack (t : Text) : Text :=
  (unwrapFront t.reverse).reverse

theorem unwrap_around {b : Text} (hb : IsBare b) (front back : Text) :
    unwrap (front ++ b ++ back) = unwrapFront front ++ b ++ unwrapBack back := by
  obtain ⟨hne, hstart, hend⟩ := hb
  -- A bare text is clear for trimming of either kind.
  have hblank (front back : Text) :=
    Text.trim_around (hstart.mono fun _ => isWrapping_of_isBlank)
      (hend.mono fun _ => isWrapping_of_isBlank) hne front back
  have hquote (front back : Text) :=
    Text.trim_around (hstart.mono fun _ => isWrapping_of_isQuote)
      (hend.mono fun _ => isWrapping_of_isQuote) hne front back
  rw [unwrap, Text.strip, Text.strip, hblank, hquote, hblank]
  simp [unwrapFront, unwrapBack, Text.dropEndWhile]

theorem onlyOf_unwrapFront {t : Text} {p : Code → Bool} (h : OnlyOf p t) :
    OnlyOf p (unwrapFront t) :=
  ((h.dropWhile isBlank).dropWhile isQuote).dropWhile isBlank

theorem onlyOf_unwrapBack {t : Text} {p : Code → Bool} (h : OnlyOf p t) :
    OnlyOf p (unwrapBack t) :=
  Text.onlyOf_reverse.mpr (onlyOf_unwrapFront (Text.onlyOf_reverse.mpr h))

@[simp]
theorem unwrapFront_dropWhile (t : Text) : unwrapFront (t.dropWhile isBlank) = unwrapFront t := by
  simp only [unwrapFront, List.dropWhile_idempotent]

theorem unwrapFront_suffix_unwrapFront {t u : Text} (h : u <:+ t) :
    unwrapFront u <:+ unwrapFront t :=
  Text.dropWhile_suffix_dropWhile (Text.dropWhile_suffix_dropWhile
    (Text.dropWhile_suffix_dropWhile h))

/-- One layer of quotes, with white space on both sides of it, is unwrapped. -/
theorem unwrapFront_append_suffix {w q w' : Text} (hw : OnlyOf isBlank w) (hq : OnlyOf isQuote q)
    (hw' : OnlyOf isBlank w') (t : Text) : unwrapFront (w ++ (q ++ (w' ++ t))) <:+ t := by
  have h₁ : (w ++ (q ++ (w' ++ t))).dropWhile isBlank <:+ q ++ (w' ++ t) :=
    hw.dropWhile_append_suffix _
  have h₂ : (q ++ (w' ++ t)).dropWhile isQuote <:+ w' ++ t := hq.dropWhile_append_suffix _
  have h₃ : (w' ++ t).dropWhile isBlank <:+ t := hw'.dropWhile_append_suffix _
  -- A run that an earlier round has dropped already leaves less to the next one.
  exact (Text.dropWhile_suffix_dropWhile ((Text.dropWhile_suffix_dropWhile h₁).trans h₂)).trans h₃

theorem unwrapFront_eq_nil {w q w' : Text} (hw : OnlyOf isBlank w) (hq : OnlyOf isQuote q)
    (hw' : OnlyOf isBlank w') : unwrapFront (w ++ (q ++ w')) = [] := by
  have h := unwrapFront_append_suffix hw hq hw' []
  rw [List.append_nil] at h
  exact List.suffix_nil.mp h

/-- Two layers of quotes are unwrapped in two rounds. -/
theorem unwrapFront_unwrapFront_eq_nil {w q w' q' w'' : Text} (hw : OnlyOf isBlank w)
    (hq : OnlyOf isQuote q) (hw' : OnlyOf isBlank w') (hq' : OnlyOf isQuote q')
    (hw'' : OnlyOf isBlank w'') :
    unwrapFront (unwrapFront (w ++ (q ++ (w' ++ (q' ++ w''))))) = [] := by
  have h := unwrapFront_suffix_unwrapFront (unwrapFront_append_suffix hw hq hw' (q' ++ w''))
  have hgone : unwrapFront (q' ++ w'') = [] := unwrapFront_eq_nil Text.onlyOf_nil hq' hw''
  rw [hgone] at h
  exact List.suffix_nil.mp h

theorem unwrapBack_unwrapBack_eq_nil {w q w' q' w'' : Text} (hw : OnlyOf isBlank w)
    (hq : OnlyOf isQuote q) (hw' : OnlyOf isBlank w') (hq' : OnlyOf isQuote q')
    (hw'' : OnlyOf isBlank w'') :
    unwrapBack (unwrapBack (w ++ (q ++ (w' ++ (q' ++ w''))))) = [] := by
  have h := unwrapFront_unwrapFront_eq_nil (Text.onlyOf_reverse.mpr hw'')
    (Text.onlyOf_reverse.mpr hq') (Text.onlyOf_reverse.mpr hw') (Text.onlyOf_reverse.mpr hq)
    (Text.onlyOf_reverse.mpr hw)
  simpa [unwrapBack] using h

/-! ## Decorations are undone -/

theorem Preamble.isBare_append {p b : Text} (hp : Preamble p) (hb : IsBare b) (t : Text) :
    IsBare (p ++ t ++ b) := by
  obtain ⟨c, p, rfl, hblank, hquote⟩ := hp.exists_cons
  refine ⟨by simp, ?_, (Text.endsClear_append hb.ne_nil).mpr hb.endsClear⟩
  simp [isWrapping, hblank, hquote]

theorem not_begins_unwrap {b front back : Text} (hb : IsBare b) (hnone : ¬BeginsWithPreamble b)
    (hfront : OnlyOf isWrapping front) (hback : OnlyOf isWrapping back) :
    ¬BeginsWithPreamble (unwrap (front ++ b ++ back)) := by
  -- A preamble would end before what is left behind, since there is no colon in it.
  have hcolon : Code.scalar ':' ∉ unwrapBack back := by
    intro h
    exact absurd (onlyOf_unwrapBack hback _ h) (by decide)
  have hleft : OnlyOf isWrapping (unwrapFront front) := onlyOf_unwrapFront hfront
  rw [unwrap_around hb]
  intro h
  have hbegins := h.of_append hcolon
  cases hf : unwrapFront front with
  | nil => exact hnone (by simpa [hf] using hbegins)
  | cons c rest =>
    -- What is left in front starts with a quote, and a preamble with a letter.
    rw [hf] at hbegins hleft
    obtain ⟨p, tail, hp, hsplit⟩ := hbegins
    obtain ⟨letter, p, rfl, hblank, hquote⟩ := hp.exists_cons
    obtain ⟨rfl, -⟩ := List.cons.inj hsplit
    have hc := hleft c List.mem_cons_self
    simp [isWrapping, hblank, hquote] at hc

theorem clean_of_not_begins {t : Text} (h : ¬BeginsWithPreamble (unwrap t)) :
    clean t = unwrap (unwrap t) := by
  rw [clean, dropPreamble?_eq_none_iff.mpr h]
  rfl

theorem clean_of_preamble {t p rest : Text} (hp : Preamble p) (h : unwrap t = p ++ rest) :
    clean t = unwrap (rest.dropWhile isBlank) := by
  rw [clean, h, dropPreamble?_append hp]
  rfl

/-- What stands before a preamble goes in the first round, what stands between it and the text in
the second one, and what stands behind the text in both. -/
theorem clean_preamble_around {b p front middle back : Text} (hb : IsBare b) (hp : Preamble p)
    (hfront : unwrapFront front = []) (hmiddle : unwrapFront middle = [])
    (hback : unwrapBack (unwrapBack back) = []) :
    clean (front ++ (p ++ middle ++ b) ++ back) = b := by
  have hunwrap : unwrap (front ++ (p ++ middle ++ b) ++ back) =
      p ++ (middle ++ (b ++ unwrapBack back)) := by
    rw [unwrap_around (hp.isBare_append hb middle), hfront]
    simp only [List.nil_append, List.append_assoc]
  -- The white space that follows the preamble goes with it, before the second round.
  have hclear : StartsClear isBlank (b ++ unwrapBack back) :=
    (Text.startsClear_append hb.ne_nil).mpr (hb.startsClear.mono fun _ => isWrapping_of_isBlank)
  calc clean (front ++ (p ++ middle ++ b) ++ back)
      = unwrap ((middle ++ (b ++ unwrapBack back)).dropWhile isBlank) :=
        clean_of_preamble hp hunwrap
    _ = unwrap (middle.dropWhile isBlank ++ b ++ unwrapBack back) := by
        rw [Text.dropWhile_append_of_startsClear hclear, List.append_assoc]
    _ = b := by
        rw [unwrap_around hb, unwrapFront_dropWhile, hmiddle, hback, List.nil_append,
          List.append_nil]

/-- Without a preamble, what stands around the text goes in the two rounds. -/
theorem clean_around {b front back : Text} (hb : IsBare b) (hnone : ¬BeginsWithPreamble b)
    (hfront : OnlyOf isWrapping front) (hback : OnlyOf isWrapping back)
    (hfront' : unwrapFront (unwrapFront front) = [])
    (hback' : unwrapBack (unwrapBack back) = []) : clean (front ++ b ++ back) = b := by
  rw [clean_of_not_begins (not_begins_unwrap hb hnone hfront hback), unwrap_around hb,
    unwrap_around hb, hfront', hback', List.nil_append, List.append_nil]

/-- Two layers of quotes on each side, and a preamble between the two in front, are removed around a
bare text; a bare text that begins with no preamble stays as it is. -/
theorem clean_undoes_wrapping {b w₁ w₂ w₃ w₄ w₅ w₆ q₁ q₂ q₃ q₄ : Text} (hb : IsBare b)
    (hw : ∀ w ∈ [w₁, w₂, w₃, w₄, w₅, w₆], OnlyOf isBlank w)
    (hq : ∀ q ∈ [q₁, q₂, q₃, q₄], OnlyOf isQuote q) :
    (∀ p, Preamble p →
      clean (w₁ ++ q₁ ++ w₂ ++ p ++ q₂ ++ w₃ ++ b ++ w₄ ++ q₃ ++ w₅ ++ q₄ ++ w₆) = b) ∧
    (¬BeginsWithPreamble b →
      clean (w₁ ++ q₁ ++ w₂ ++ q₂ ++ w₃ ++ b ++ w₄ ++ q₃ ++ w₅ ++ q₄ ++ w₆) = b ∧
      clean b = b) := by
  simp only [List.forall_mem_cons, List.not_mem_nil, false_imp_iff, implies_true, and_true] at hw hq
  obtain ⟨hw₁, hw₂, hw₃, hw₄, hw₅, hw₆⟩ := hw
  obtain ⟨hq₁, hq₂, hq₃, hq₄⟩ := hq
  let back := w₄ ++ (q₃ ++ (w₅ ++ (q₄ ++ w₆)))
  have hback : unwrapBack (unwrapBack back) = [] :=
    unwrapBack_unwrapBack_eq_nil hw₄ hq₃ hw₅ hq₄ hw₆
  refine ⟨?_, ?_⟩
  · intro p hp
    -- The quotes before the preamble go in the first round, those behind it in the second one.
    have hfront : unwrapFront (w₁ ++ (q₁ ++ w₂)) = [] := unwrapFront_eq_nil hw₁ hq₁ hw₂
    have hmiddle : unwrapFront (q₂ ++ w₃) = [] := unwrapFront_eq_nil Text.onlyOf_nil hq₂ hw₃
    simpa only [back, List.append_assoc] using clean_preamble_around hb hp hfront hmiddle hback
  · intro hnone
    -- Now the two layers stand side by side, and each round takes one of them.
    let front := w₁ ++ (q₁ ++ (w₂ ++ (q₂ ++ w₃)))
    have hfront : unwrapFront (unwrapFront front) = [] :=
      unwrapFront_unwrapFront_eq_nil hw₁ hq₁ hw₂ hq₂ hw₃
    have hwrapped : OnlyOf isWrapping front := by
      simp only [front, Text.onlyOf_append]
      exact ⟨wrapping_of_blank hw₁, wrapping_of_quote hq₁, wrapping_of_blank hw₂,
        wrapping_of_quote hq₂, wrapping_of_blank hw₃⟩
    have hwrapped' : OnlyOf isWrapping back := by
      simp only [back, Text.onlyOf_append]
      exact ⟨wrapping_of_blank hw₄, wrapping_of_quote hq₃, wrapping_of_blank hw₅,
        wrapping_of_quote hq₄, wrapping_of_blank hw₆⟩
    constructor
    · simpa only [front, back, List.append_assoc] using
        clean_around hb hnone hwrapped hwrapped' hfront hback
    · -- A text on its own is one with nothing around it.
      simpa using clean_around hb hnone Text.onlyOf_nil Text.onlyOf_nil rfl rfl

/-- Quotes around a whole reply and around the prompt in it, with a preamble between them and
without one. -/
theorem kite_is_unwrapped :
    let b := "a red kite".codes
    let p := "HERE’s the Final prompt : ".codes
    IsBare b ∧ Preamble p ∧ ¬BeginsWithPreamble b ∧
      clean (" “ ".codes ++ p ++ "\"' ".codes ++ b ++ "'\" ”\n".codes) = b ∧
      clean (" “ \"' ".codes ++ b ++ "'\" ”\n".codes) = b := by
  intro b p
  have hb : IsBare b := by decide +kernel
  have hp : Preamble p := by decide +kernel
  have hnone : ¬BeginsWithPreamble b := by decide +kernel
  obtain ⟨hwith, hwithout⟩ := @clean_undoes_wrapping b
    " ".codes " ".codes " ".codes "".codes " ".codes "\n".codes
    "“".codes "\"'".codes "'\"".codes "”".codes hb (by decide +kernel) (by decide +kernel)
  exact ⟨hb, hp, hnone, hwith p hp, (hwithout hnone).1⟩

end CanvasPrompt.Refine
