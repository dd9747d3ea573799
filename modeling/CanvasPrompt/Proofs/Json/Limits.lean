import CanvasPrompt.Json.Reader
import CanvasPrompt.Proofs.Text.Numerals
import Mathlib.Data.List.Infix
import Mathlib.Data.List.TakeDrop

/-!
# Which texts go beyond a limit

The reader has two limits, and a text goes beyond one of them only if it looks like it: it has a
run of that many digits in it, or that many brackets that open a container. This module introduces

* `Exceeds room t limit`: the text `t` has what it takes to go beyond the limit;
* `Sound room t p`: the part `p` may have been read at the start of `t`, with `room` containers left
  to be nested.

Each reader is sound, by induction on the number of its steps (`sound_readers`). The main statement
is `exceeds_of_read`.
-/

namespace CanvasPrompt.Json

open Text (OnlyOf isAsciiDigit)

/-- The character opens a container. -/
def opensContainer (c : Code) : Bool :=
  c == '[' || c == '\x7b'

/-- The text has what it takes to go beyond the limit: that many digits in a row, and more than a
whole number may have; or more than `room` brackets that open a container. -/
def Exceeds (room : Nat) (t : Text) : Limit → Prop
  | .digits count =>
    Text.digitLimit < count ∧ ∃ ds, OnlyOf isAsciiDigit ds ∧ ds.length = count ∧ ds <:+: t
  | .nesting _ => room < t.countP opensContainer

/-- What is left after reading ends the text, and the text is to blame for a limit that is passed.
-/
def Sound {α : Type} (room : Nat) (t : Text) : Part α → Prop
  | .ok (_, rest) => rest <:+ t
  | .error (.malformed _) => True
  | .error (.beyond limit) => Exceeds room t limit

variable {α β : Type} {n room : Nat} {t u : Text} {limit : Limit}

/-! ## Sound parts -/

theorem Exceeds.mono (h : Exceeds room t limit) (htu : t <:+ u) : Exceeds room u limit := by
  cases limit with
  | digits count =>
    obtain ⟨hcount, ds, hds, hlength, hinfix⟩ := h
    exact ⟨hcount, ds, hds, hlength, hinfix.trans htu.isInfix⟩
  | nesting inner => exact Nat.lt_of_lt_of_le h (htu.sublist.countP_le)

namespace Sound

theorem mono {p : Part α} (h : Sound room t p) (htu : t <:+ u) : Sound room u p := by
  rcases p with (left | limit) | ⟨a, rest⟩
  · trivial
  · exact Exceeds.mono h htu
  · exact List.IsSuffix.trans h htu

theorem map {p : Part α} (h : Sound room t p) (f : α → β) :
    Sound room t (p.map fun q => (f q.1, q.2)) := by
  rcases p with (left | limit) | ⟨a, rest⟩
  · trivial
  · exact h
  · exact h

/-- A failure is no matter of what was to be read. -/
theorem error {e : Stop} (h : Sound room t (.error e : Part α)) :
    Sound room t (.error e : Part β) := by
  cases e with
  | malformed left => trivial
  | beyond limit => exact h

/-- One more container may be nested where one opens. -/
theorem inside {p : Part α} {c : Code} (h : Sound room t p) (hc : opensContainer c = true) :
    Sound (room + 1) (c :: t) p := by
  rcases p with (left | limit) | ⟨a, rest⟩
  · trivial
  · cases limit with
    -- A run of digits is too long whatever the room is.
    | digits count =>
      have hdigits : Exceeds (room + 1) t (.digits count) := h
      exact hdigits.mono (List.suffix_cons c t)
    | nesting inner =>
      show room + 1 < (c :: t).countP opensContainer
      rw [List.countP_cons_of_pos hc]
      exact Nat.succ_lt_succ h
  · exact List.IsSuffix.trans h (List.suffix_cons c t)

/-- Where a container opens and none may be nested any more, its bracket is to blame. -/
theorem full {c : Code} (hc : opensContainer c = true) (t : Text) (inner : Container) :
    Sound 0 (c :: t) (.error (.beyond (.nesting inner)) : Part α) := by
  show 0 < (c :: t).countP opensContainer
  rw [List.countP_cons_of_pos hc]
  exact Nat.succ_pos _

end Sound

theorem skipGap_suffix (t : Text) : skipGap t <:+ t :=
  List.dropWhile_suffix isGap

/-- What follows a character behind a gap ends the text. -/
theorem suffix_of_skipGap {c : Code} {rest : Text} (h : skipGap t = c :: rest) : rest <:+ t :=
  (List.suffix_cons c rest).trans (h ▸ skipGap_suffix t)

/-! ## Texts and numbers -/

theorem sound_readPieces (opening : Nat) (seen : List Text.Piece) (t : Text) :
    Sound room t (readPieces opening seen t) := by
  fun_induction readPieces opening seen t with
  | case1 => trivial
  | case2 => exact List.suffix_cons _ _
  | case3 seen a b c d rest n hrest hunit ih => exact ih.mono ⟨['\\', 'u', a, b, c, d], rfl⟩
  | case4 => trivial
  | case5 => trivial
  | case6 => trivial
  | case7 seen c rest hfour hshort u hescape ih => exact ih.mono ⟨['\\', c], rfl⟩
  | case8 => trivial
  | case9 => trivial
  | case10 seen c rest _ _ _ _ _ _ ih => exact ih.mono (List.suffix_cons c rest)

theorem sound_readText (t : Text) : Sound room t (readText t) :=
  (sound_readPieces _ _ t).map Text.ofPieces

theorem splitSign_suffix (t : Text) : (Text.splitSign t).2 <:+ t := by
  obtain ⟨sign, -, hsplit⟩ := Text.exists_sign t
  exact ⟨sign, hsplit.symm⟩

/-- The digits of the whole part stand in front of what follows them. -/
theorem wholeDigits_append (t : Text) :
    OnlyOf isAsciiDigit (wholeDigits t).1 ∧ (wholeDigits t).1 ++ (wholeDigits t).2 = t := by
  fun_cases wholeDigits t with
  | case1 rest => exact ⟨(by decide : OnlyOf isAsciiDigit ['0']), rfl⟩
  | case2 =>
    rw [List.span_eq_takeWhile_dropWhile]
    exact ⟨fun c hc => List.mem_takeWhile_imp hc, List.takeWhile_append_dropWhile⟩

theorem suffix_of_fractionDigits (t : Text) : ∀ part ∈ fractionDigits t, part.2 <:+ t := by
  fun_cases fractionDigits t with
  | case1 => nofun
  | case2 rest ds after hspan hsome =>
    rintro _ ⟨⟩
    rw [List.span_eq_takeWhile_dropWhile, Prod.mk.injEq] at hspan
    exact (hspan.2 ▸ List.dropWhile_suffix isAsciiDigit).trans
      (List.suffix_cons (Code.scalar '.') rest)
  | case3 => nofun

/-- Whether or not there is a fraction, the exponent stands behind it. -/
theorem elim_fractionDigits_suffix (t : Text) :
    (fractionDigits t).elim t Prod.snd <:+ t := by
  cases h : fractionDigits t with
  | none => exact List.suffix_rfl
  | some part => exact suffix_of_fractionDigits t part h

theorem suffix_of_exponentValue (t : Text) : ∀ part ∈ exponentValue t, part.2 <:+ t := by
  fun_cases exponentValue t with
  | case1 => nofun
  | case2 c rest hc negative body hsign ds after hspan hsome =>
    rintro _ ⟨⟩
    rw [List.span_eq_takeWhile_dropWhile, Prod.mk.injEq] at hspan
    have hafter : after <:+ body := hspan.2 ▸ List.dropWhile_suffix isAsciiDigit
    have hbody : body <:+ rest := by
      have hsuffix := splitSign_suffix rest
      rw [hsign] at hsuffix
      exact hsuffix
    exact (hafter.trans hbody).trans (List.suffix_cons c rest)
  | case3 => nofun
  | case4 => nofun

/-- Behind the sign, if there is one, a number begins with the digits of its whole part. -/
theorem digits_of_number {negative : Bool} {body whole rest : Text}
    (hsign : (match t with | '-' :: rest => (true, rest) | t => (false, t)) = (negative, body))
    (hwhole : wholeDigits body = (whole, rest)) :
    OnlyOf isAsciiDigit whole ∧ whole <:+: t ∧ rest <:+ t := by
  -- The body is what stands behind the sign, if there is one.
  have hbody : body <:+ t := by
    split at hsign
    · cases hsign
      exact List.suffix_cons _ _
    · cases hsign
      exact List.suffix_rfl
  obtain ⟨hdigits, happend⟩ := wholeDigits_append body
  rw [hwhole] at hdigits happend
  refine ⟨hdigits, ?_, ?_⟩
  · exact List.IsInfix.trans (happend ▸ List.infix_append [] whole rest) hbody.isInfix
  · exact List.IsSuffix.trans (happend ▸ List.suffix_append whole rest) hbody

theorem sound_readNumber (t : Text) : Sound room t (readNumber t) := by
  fun_cases readNumber t with
  | case1 => trivial
  -- Only a whole number can have too many digits, and these are a part of the text.
  | case2 negative body hsign whole rest hwhole hsome hexponent hfraction hlong =>
    obtain ⟨hdigits, hinfix, -⟩ := digits_of_number hsign hwhole
    exact ⟨hlong, whole, hdigits, rfl, hinfix⟩
  | case3 negative body hsign whole rest hwhole =>
    exact (digits_of_number hsign hwhole).2.2
  | case4 negative body hsign whole rest hwhole hsome ds after hexponent hfraction =>
    exact (suffix_of_fractionDigits rest _ hfraction).trans (digits_of_number hsign hwhole).2.2
  | case5 negative body hsign whole rest hwhole hsome e after hexponent hfraction =>
    have hafter := suffix_of_exponentValue _ _ hexponent
    exact (hafter.trans (elim_fractionDigits_suffix rest)).trans
      (digits_of_number hsign hwhole).2.2
  | case6 negative body hsign whole rest hwhole hsome ds _ e after hexponent hfraction =>
    have hafter := suffix_of_exponentValue _ _ hexponent
    exact (hafter.trans (elim_fractionDigits_suffix rest)).trans
      (digits_of_number hsign hwhole).2.2

theorem sound_readScalar (t : Text) : Sound room t (readScalar t) := by
  rw [readScalar]
  split
  · exact List.drop_suffix _ t
  · exact sound_readNumber t

/-! ## Values -/

theorem sound_readValue_succ (hitems : ∀ room t, Sound room t (readItems n room t))
    (hmembers : ∀ room t, Sound room t (readMembers n room t)) (room : Nat) (t : Text) :
    Sound room t (readValue (n + 1) room t) := by
  rw [readValue.eq_def]
  dsimp only
  split
  · trivial
  · exact ((sound_readText _).mono (List.suffix_cons _ _)).map Json.str
  -- A list: refused, empty, or read in a room that is smaller by one. An object is alike.
  · exact .full rfl _ _
  · split
    · next hclose => exact (suffix_of_skipGap hclose).trans (List.suffix_cons _ _)
    · exact (((hitems _ _).mono (skipGap_suffix _)).inside rfl).map Json.arr
  · exact .full rfl _ _
  · split
    · next hclose => exact (suffix_of_skipGap hclose).trans (List.suffix_cons _ _)
    · refine Sound.map ?_ fun ps => Json.obj (ofPairs ps)
      exact ((hmembers _ _).mono (skipGap_suffix _)).inside rfl
  · exact sound_readScalar _

theorem sound_readItems_succ (hvalue : ∀ room t, Sound room t (readValue n room t))
    (hitems : ∀ room t, Sound room t (readItems n room t)) (room : Nat) (t : Text) :
    Sound room t (readItems (n + 1) room t) := by
  have hv := hvalue room t
  rw [readItems.eq_def]
  dsimp only
  split
  · next hread =>
    rw [hread] at hv
    exact hv.error
  · next v rest hread =>
    rw [hread] at hv
    split
    · next hclose => exact (suffix_of_skipGap hclose).trans hv
    · next later hcomma =>
      -- What is left behind the comma is an end of what was left behind the value.
      have hlater := (hitems room (skipGap later)).mono
        ((skipGap_suffix later).trans ((suffix_of_skipGap hcomma).trans hv))
      exact hlater.map (v :: ·)
    · trivial

theorem sound_readMembers_succ (hvalue : ∀ room t, Sound room t (readValue n room t))
    (hmembers : ∀ room t, Sound room t (readMembers n room t)) (room : Nat) (t : Text) :
    Sound room t (readMembers (n + 1) room t) := by
  rw [readMembers.eq_def]
  dsimp only
  split
  · next quoted =>
    -- Each part is read from what the parts before it left: the name, the value, the rest.
    have hread : Sound room quoted (readText quoted) := sound_readText quoted
    have hname := hread.mono (List.suffix_cons (Code.scalar '"') quoted)
    split
    · next hread =>
      rw [hread] at hname
      exact hname.error
    · next name afterName hread =>
      rw [hread] at hname
      split
      · next afterColon hcolon =>
        have hv := (hvalue room (skipGap afterColon)).mono
          ((skipGap_suffix afterColon).trans ((suffix_of_skipGap hcolon).trans hname))
        split
        · next hread =>
          rw [hread] at hv
          exact hv.error
        · next v afterValue hread =>
          rw [hread] at hv
          split
          · next hclose => exact (suffix_of_skipGap hclose).trans hv
          · next later hcomma =>
            have hlater := (hmembers room (skipGap later)).mono
              ((skipGap_suffix later).trans ((suffix_of_skipGap hcomma).trans hv))
            exact hlater.map ((name, v) :: ·)
          · trivial
      · trivial
  · trivial

/-- However many steps they may take, the readers are sound. -/
theorem sound_readers (n : Nat) :
    (∀ room t, Sound room t (readValue n room t)) ∧ (∀ room t, Sound room t (readItems n room t)) ∧
      ∀ room t, Sound room t (readMembers n room t) := by
  induction n with
  | zero => exact ⟨fun _ _ => trivial, fun _ _ => trivial, fun _ _ => trivial⟩
  | succ n ih =>
    -- With one step more, a reader calls only readers that have one step less.
    obtain ⟨hvalue, hitems, hmembers⟩ := ih
    exact ⟨sound_readValue_succ hitems hmembers, sound_readItems_succ hvalue hitems,
      sound_readMembers_succ hvalue hmembers⟩

theorem exceeds_of_readWhole (h : readWhole room t = .error (.beyond limit)) :
    Exceeds room t limit := by
  have hvalue := (sound_readers (2 * t.length + 2)).1 room (skipGap t)
  rw [readWhole] at h
  split at h
  · next e hread =>
    cases h
    rw [hread] at hvalue
    exact Exceeds.mono hvalue (skipGap_suffix t)
  · split at h
    · cases h
    · cases h

/-- A text that goes beyond a limit has that many digits in a row, or opens that many containers. -/
theorem exceeds_of_read (h : read room t = .error (.beyond limit)) : Exceeds room t limit := by
  rw [read] at h
  split at h
  · cases h
  · cases h
  · next hwhole =>
    cases h
    exact exceeds_of_readWhole hwhole

end CanvasPrompt.Json
