import CanvasPrompt.Proofs.Text.Codes
import CanvasPrompt.Proofs.Text.Trimming
import CanvasPrompt.Refine.Cleanup
import Mathlib.Data.List.Forall2

/-!
# Preambles

The grammar of preambles, and that it is what cleaning goes by. This module introduces

* `Spells word t`: the text `t` is the word in any letter case;
* `IsGap t`: the text `t` is white space, and not empty;
* `Preamble t`: the text `t` is a preamble, put together from `Qualifier`, `Here`, `Phrase`
  and `Lead`;
* `BeginsWithPreamble t`: the text `t` begins with one.

Each reader gets its own equivalence with the part of the grammar that it reads, without regard to
what the other readers do. No word of the grammar is the beginning of another one that may stand in
its place, so that a text can be read in one way only. The main statement is
`dropPreamble?_eq_some_iff`.
-/

namespace CanvasPrompt.Refine

open Text (OnlyOf StartsClear isBlank)

/-! ## The grammar -/

/-- The characters that stand for a small letter if letter case does not matter. -/
def forms (letter : Code) : List Code :=
  letter :: letter.toUpper ::
    if letter = 'i' then ['İ', 'ı'] else if letter = 's' then ['ſ'] else []

/-- The text is the word in any letter case. -/
def Spells (word t : Text) : Prop :=
  List.Forall₂ (fun letter c => c ∈ forms letter) word t

/-- The text is one of the words in any letter case. -/
def SpellsOneOf (ws : List Text) (t : Text) : Prop :=
  ∃ word ∈ ws, Spells word t

/-- White space that keeps words apart. -/
structure IsGap (t : Text) : Prop where
  ne_nil : t ≠ []
  blank : OnlyOf isBlank t

/-- At most one of some words, with white space behind it. -/
inductive Qualifier (ws : List Text) : Text → Prop where
  | absent : Qualifier ws []
  | present {word gap : Text} (hword : SpellsOneOf ws word) (hgap : IsGap gap) :
      Qualifier ws (word ++ gap)

/-- The words `here is`, or `here's` with a straight or a curly apostrophe. -/
inductive Here : Text → Prop where
  | two {here gap verb : Text} (hhere : Spells "here".codes here) (hgap : IsGap gap)
      (hverb : Spells "is".codes verb) : Here (here ++ (gap ++ verb))
  | one {here s : Text} {apostrophe : Code} (hhere : Spells "here".codes here)
      (h : apostrophe = '\'' ∨ apostrophe = '’') (hs : Spells "s".codes s) :
      Here (here ++ apostrophe :: s)

/-- A phrase such as `the prompt` or `your improved prompt`, with white space before it. -/
inductive Phrase : Text → Prop where
  | mk {gap article gap' qualifier noun : Text} (hgap : IsGap gap)
      (harticle : SpellsOneOf ["the".codes, "your".codes] article) (hgap' : IsGap gap')
      (hqualifier : Qualifier
        ["refined".codes, "final".codes, "improved".codes, "enhanced".codes, "image".codes]
        qualifier)
      (hnoun : Spells "prompt".codes noun) :
      Phrase (gap ++ (article ++ (gap' ++ (qualifier ++ noun))))

/-- What stands before the colon: an opening, at will with a phrase, or an announcement such as
`the final prompt is`. -/
inductive Lead : Text → Prop where
  | opening {here : Text} (hhere : Here here) : Lead here
  | openingPhrase {here phrase : Text} (hhere : Here here) (hphrase : Phrase phrase) :
      Lead (here ++ phrase)
  | announcement {article gap qualifier noun gap' verb : Text}
      (harticle : Spells "the".codes article) (hgap : IsGap gap)
      (hqualifier : Qualifier
        ["refined".codes, "final".codes, "improved".codes, "enhanced".codes] qualifier)
      (hnoun : Spells "prompt".codes noun) (hgap' : IsGap gap')
      (hverb : Spells "is".codes verb) :
      Lead (article ++ (gap ++ (qualifier ++ (noun ++ (gap' ++ verb)))))

/-- A preamble: its words, a colon, and white space on both sides of it. -/
inductive Preamble : Text → Prop where
  | mk {lead space space' : Text} (hlead : Lead lead) (hspace : OnlyOf isBlank space)
      (hspace' : OnlyOf isBlank space') : Preamble (lead ++ (space ++ Code.scalar ':' :: space'))

/-- A text begins with a preamble. -/
def BeginsWithPreamble (t : Text) : Prop :=
  ∃ p rest, Preamble p ∧ t = p ++ rest

/-! ## Letters and words -/

/-- The letters that words are made of. -/
def letters : Text :=
  "abcdefghijklmnopqrstuvwxyz".codes

theorem isLetter_iff {letter c : Code} : isLetter letter c = true ↔ c ∈ forms letter := by
  have hdotted : c.toNat = 0x130 ↔ c = 'İ' := Code.toNat_inj (d := 'İ')
  have hdotless : c.toNat = 0x131 ↔ c = 'ı' := Code.toNat_inj (d := 'ı')
  have hlong : c.toNat = 0x17F ↔ c = 'ſ' := Code.toNat_inj (d := 'ſ')
  by_cases hi : letter = 'i'
  · subst hi
    simp [isLetter, forms, hdotted, hdotless, or_assoc]
  · by_cases hs : letter = 's'
    · subst hs
      simp [isLetter, forms, hlong, or_assoc]
    · simp [isLetter, forms, hi, hs]

/-- The forms of a letter are no white space, no quotes and no punctuation. -/
theorem clear_of_mem_forms {letter c : Code} (hletter : letter ∈ letters) (h : c ∈ forms letter) :
    isBlank c = false ∧ isQuote c = false ∧ c ≠ '\'' ∧ c ≠ '’' ∧ c ≠ ':' := by
  -- The letters and their forms are few enough to go through.
  have hall : (letters.all fun letter => (forms letter).all fun c =>
      !isBlank c && !isQuote c && c != '\'' && c != '’' && c != ':') = true := by decide +kernel
  have hclear := List.all_eq_true.mp (List.all_eq_true.mp hall letter hletter) c h
  simpa [and_assoc] using hclear

theorem eq_of_mem_forms {letter letter' c : Code} (hletter : letter ∈ letters)
    (hletter' : letter' ∈ letters) (h : c ∈ forms letter) (h' : c ∈ forms letter') :
    letter = letter' := by
  have hall : (letters.all fun letter => letters.all fun letter' => (forms letter).all fun c =>
      !(forms letter').contains c || letter == letter') = true := by decide +kernel
  have happart := List.all_eq_true.mp
    (List.all_eq_true.mp (List.all_eq_true.mp hall letter hletter) letter' hletter') c h
  simpa [h'] using happart

/-- The text is not empty, and made of letters. -/
def IsWord (word : Text) : Prop :=
  word ≠ [] ∧ ∀ letter ∈ word, letter ∈ letters

instance (word : Text) : Decidable (IsWord word) :=
  decidable_of_iff (word ≠ [] ∧ Text.OnlyOf letters.contains word)
    (and_congr_right fun _ => forall₂_congr fun _ _ => List.contains_iff_mem)

theorem Spells.exists_cons {word t : Text} (hword : IsWord word) (h : Spells word t) :
    ∃ letter ∈ letters, ∃ c ∈ forms letter, ∃ rest, t = c :: rest := by
  obtain ⟨hne, hletters⟩ := hword
  cases h with
  | nil => exact absurd rfl hne
  | @cons letter c word rest hc _ =>
    exact ⟨letter, hletters letter List.mem_cons_self, c, hc, rest, rfl⟩

theorem Spells.startsClear {word t : Text} (hword : IsWord word) (h : Spells word t)
    (rest : Text) : StartsClear isBlank (t ++ rest) := by
  obtain ⟨letter, hletter, c, hc, t, rfl⟩ := h.exists_cons hword
  exact Text.startsClear_cons.mpr (clear_of_mem_forms hletter hc).1

theorem SpellsOneOf.startsClear {ws : List Text} {t : Text} (hws : ∀ word ∈ ws, IsWord word)
    (h : SpellsOneOf ws t) (rest : Text) : StartsClear isBlank (t ++ rest) := by
  obtain ⟨word, hword, hspells⟩ := h
  exact hspells.startsClear (hws word hword) rest

theorem dropWord?_eq_some_iff {word t rest : Text} :
    dropWord? word t = some rest ↔ ∃ spelled, Spells word spelled ∧ t = spelled ++ rest := by
  -- The word and its spelling are compared letter by letter.
  induction word generalizing t with
  | nil => simp [dropWord?, Spells, eq_comm]
  | cons letter word ih =>
    cases t with
    | nil => simp [dropWord?, Spells, List.forall₂_cons_left_iff]
    | cons c t =>
      rw [dropWord?]
      constructor
      · intro h
        split at h
        · next hc =>
          obtain ⟨spelled, hspelled, rfl⟩ := ih.mp h
          exact ⟨c :: spelled, .cons (isLetter_iff.mp hc) hspelled, rfl⟩
        · cases h
      · rintro ⟨_, hspelled, heq⟩
        cases hspelled with
        | @cons _ d _ spelled hd hspelled =>
          obtain ⟨rfl, rfl⟩ := List.cons.inj heq
          rw [if_pos (isLetter_iff.mpr hd)]
          exact ih.mpr ⟨spelled, hspelled, rfl⟩

/-- Of two words that a text begins with, one is the beginning of the other. -/
theorem prefix_or_prefix_of_dropWord? {word word' t rest rest' : Text}
    (hword : ∀ letter ∈ word, letter ∈ letters) (hword' : ∀ letter ∈ word', letter ∈ letters)
    (h : dropWord? word t = some rest) (h' : dropWord? word' t = some rest') :
    word <+: word' ∨ word' <+: word := by
  -- The other word and the text get shorter along with this one.
  induction word generalizing word' t with
  | nil => exact .inl List.nil_prefix
  | cons letter word ih =>
    cases word' with
    | nil => exact .inr List.nil_prefix
    | cons letter' word' =>
      cases t with
      | nil => cases h
      | cons c t =>
        obtain ⟨hletter, htail⟩ := List.forall_mem_cons.mp hword
        obtain ⟨hletter', htail'⟩ := List.forall_mem_cons.mp hword'
        rw [dropWord?] at h h'
        split at h
        · next hc =>
          split at h'
          · next hc' =>
            -- The first character is a form of both letters.
            obtain rfl :=
              eq_of_mem_forms hletter hletter' (isLetter_iff.mp hc) (isLetter_iff.mp hc')
            exact (ih htail htail' h h').imp (List.prefix_cons_inj letter).mpr
              (List.prefix_cons_inj letter).mpr
          · cases h'
        · cases h

/-- The words can be told apart by how a text begins. -/
structure Distinct (ws : List Text) : Prop where
  words : ∀ word ∈ ws, IsWord word
  apart : ∀ word ∈ ws, ∀ word' ∈ ws, word <+: word' → word = word'

instance (ws : List Text) : Decidable (Distinct ws) :=
  decidable_of_iff
    ((∀ word ∈ ws, IsWord word) ∧ ∀ word ∈ ws, ∀ word' ∈ ws, word <+: word' → word = word')
    ⟨fun h => ⟨h.1, h.2⟩, fun h => ⟨h.words, h.apart⟩⟩

theorem Distinct.eq {ws : List Text} (hws : Distinct ws) {word word' t rest rest' : Text}
    (hword : word ∈ ws) (hword' : word' ∈ ws) (h : dropWord? word t = some rest)
    (h' : dropWord? word' t = some rest') : word = word' := by
  rcases prefix_or_prefix_of_dropWord? (hws.words word hword).2 (hws.words word' hword').2 h h'
    with hprefix | hprefix
  · exact hws.apart word hword word' hword' hprefix
  · exact (hws.apart word' hword' word hword hprefix).symm

theorem dropOneOf?_eq_some_iff {ws : List Text} (hws : Distinct ws) {t rest : Text} :
    dropOneOf? ws t = some rest ↔ ∃ spelled, SpellsOneOf ws spelled ∧ t = spelled ++ rest := by
  constructor
  · intro h
    obtain ⟨word, hword, h⟩ := List.exists_of_findSome?_eq_some h
    obtain ⟨spelled, hspelled, rfl⟩ := dropWord?_eq_some_iff.mp h
    exact ⟨spelled, ⟨word, hword, hspelled⟩, rfl⟩
  · rintro ⟨spelled, ⟨word, hword, hspelled⟩, rfl⟩
    have h : dropWord? word (spelled ++ rest) = some rest :=
      dropWord?_eq_some_iff.mpr ⟨spelled, hspelled, rfl⟩
    -- The word that is found first is this one.
    cases hfound : dropOneOf? ws (spelled ++ rest) with
    | none =>
      have := List.findSome?_eq_none_iff.mp hfound word hword
      rw [h] at this
      cases this
    | some rest' =>
      obtain ⟨word', hword', h'⟩ := List.exists_of_findSome?_eq_some hfound
      obtain rfl := hws.eq hword hword' h h'
      exact h'.symm.trans h

/-! ## White space -/

theorem dropGap?_eq_some_iff {t rest : Text} :
    dropGap? t = some rest ↔ ∃ gap, IsGap gap ∧ StartsClear isBlank rest ∧ t = gap ++ rest := by
  constructor
  · intro h
    cases t with
    | nil => cases h
    | cons c t =>
      rw [dropGap?] at h
      split at h
      · next hc =>
        cases h
        refine ⟨c :: t.takeWhile isBlank, ⟨List.cons_ne_nil _ _, ?_⟩,
          Text.startsClear_dropWhile isBlank t, ?_⟩
        · exact List.forall_mem_cons.mpr ⟨hc, fun d hd => List.mem_takeWhile_imp hd⟩
        · rw [List.cons_append, List.takeWhile_append_dropWhile]
      · cases h
  · rintro ⟨gap, ⟨hne, hblank⟩, hrest, rfl⟩
    cases gap with
    | nil => exact absurd rfl hne
    | cons c gap =>
      -- The gap is read to its end, where the rest starts clear.
      obtain ⟨hc, hgap⟩ := List.forall_mem_cons.mp hblank
      rw [List.cons_append, dropGap?, if_pos hc, List.dropWhile_append_of_pos hgap,
        hrest.dropWhile_eq]

theorem dropColon?_eq_some_iff {t rest : Text} :
    dropColon? t = some rest ↔
      ∃ space space', OnlyOf isBlank space ∧ OnlyOf isBlank space' ∧ StartsClear isBlank rest ∧
        t = space ++ Code.scalar ':' :: (space' ++ rest) := by
  rw [dropColon?]
  constructor
  · intro h
    split at h
    · next u hu =>
      cases h
      refine ⟨t.takeWhile isBlank, u.takeWhile isBlank, fun c hc => List.mem_takeWhile_imp hc,
        fun c hc => List.mem_takeWhile_imp hc, Text.startsClear_dropWhile isBlank u, ?_⟩
      rw [List.takeWhile_append_dropWhile, ← hu, List.takeWhile_append_dropWhile]
    · cases h
  · rintro ⟨space, space', hspace, hspace', hrest, rfl⟩
    -- A colon is no white space, so that skipping ends at it.
    have hcolon : (Code.scalar ':' :: (space' ++ rest)).dropWhile isBlank =
        Code.scalar ':' :: (space' ++ rest) :=
      (Text.startsClear_cons.mpr (by decide)).dropWhile_eq
    rw [List.dropWhile_append_of_pos hspace, hcolon]
    show some ((space' ++ rest).dropWhile isBlank) = some rest
    rw [List.dropWhile_append_of_pos hspace', hrest.dropWhile_eq]

/-! ## Phrases -/

/-- A noun is read behind a qualifier, if there is one. -/
theorem dropWord?_dropAdjective_iff {ws : List Text} {noun : Text} (hws : Distinct (noun :: ws))
    (hnoun : noun ∉ ws) {t rest : Text} :
    dropWord? noun (dropAdjective ws t) = some rest ↔
      ∃ qualifier spelled, Qualifier ws qualifier ∧ Spells noun spelled ∧
        t = qualifier ++ (spelled ++ rest) := by
  have hws' : Distinct ws :=
    ⟨fun word hword => hws.words word (List.mem_cons_of_mem _ hword),
      fun word hword word' hword' =>
        hws.apart word (List.mem_cons_of_mem _ hword) word' (List.mem_cons_of_mem _ hword')⟩
  rw [dropAdjective]
  constructor
  · intro h
    -- A qualifier counts only together with the gap behind it.
    cases hread : (dropOneOf? ws t).bind dropGap? with
    | none =>
      rw [hread] at h
      obtain ⟨spelled, hspelled, rfl⟩ := dropWord?_eq_some_iff.mp h
      exact ⟨[], spelled, .absent, hspelled, rfl⟩
    | some u =>
      rw [hread] at h
      obtain ⟨v, hv, hu⟩ := Option.bind_eq_some_iff.mp hread
      obtain ⟨word, hword, rfl⟩ := (dropOneOf?_eq_some_iff hws').mp hv
      obtain ⟨gap, hgap, -, rfl⟩ := dropGap?_eq_some_iff.mp hu
      obtain ⟨spelled, hspelled, rfl⟩ := dropWord?_eq_some_iff.mp h
      exact ⟨word ++ gap, spelled, .present hword hgap, hspelled, (List.append_assoc _ _ _).symm⟩
  · rintro ⟨qualifier, spelled, hqualifier, hspelled, rfl⟩
    have hread : dropWord? noun (spelled ++ rest) = some rest :=
      dropWord?_eq_some_iff.mpr ⟨spelled, hspelled, rfl⟩
    cases hqualifier with
    | absent =>
      -- A text that begins with the noun does not begin with a qualifier.
      have hnone : dropOneOf? ws (spelled ++ rest) = none := by
        rw [dropOneOf?, List.findSome?_eq_none_iff]
        intro word hword
        by_contra hsome
        obtain ⟨rest', hrest'⟩ := Option.ne_none_iff_exists'.mp hsome
        obtain rfl := hws.eq List.mem_cons_self (List.mem_cons_of_mem _ hword) hread hrest'
        exact hnoun hword
      rw [List.nil_append, hnone]
      exact hread
    | @present word gap hword hgap =>
      have hfirst : dropOneOf? ws (word ++ (gap ++ (spelled ++ rest))) =
          some (gap ++ (spelled ++ rest)) :=
        (dropOneOf?_eq_some_iff hws').mpr ⟨word, hword, rfl⟩
      have hclear := hspelled.startsClear (hws.words noun List.mem_cons_self) rest
      have hsecond : dropGap? (gap ++ (spelled ++ rest)) = some (spelled ++ rest) :=
        dropGap?_eq_some_iff.mpr ⟨gap, hgap, hclear, rfl⟩
      rw [List.append_assoc, hfirst, Option.bind_some, hsecond]
      exact hread

theorem Qualifier.startsClear {ws : List Text} {t rest : Text} (hws : ∀ word ∈ ws, IsWord word)
    (h : Qualifier ws t) (hrest : StartsClear isBlank rest) : StartsClear isBlank (t ++ rest) := by
  cases h with
  | absent => exact hrest
  | @present word gap hword hgap =>
    rw [List.append_assoc]
    exact hword.startsClear hws _

theorem distinct_phrase :
    Distinct ("prompt".codes :: (adjectives ++ ["image".codes])) ∧
      Distinct ["the".codes, "your".codes] := by
  decide +kernel

theorem dropPhrase?_eq_some_iff {t rest : Text} :
    dropPhrase? t = some rest ↔ ∃ phrase, Phrase phrase ∧ t = phrase ++ rest := by
  obtain ⟨hnouns, harticles⟩ := distinct_phrase
  have hqualified := @dropWord?_dropAdjective_iff _ _ hnouns (by decide +kernel)
  simp only [dropPhrase?, Option.bind_eq_bind, Option.bind_eq_some_iff, hqualified,
    dropGap?_eq_some_iff, dropOneOf?_eq_some_iff harticles]
  constructor
  · rintro ⟨_, ⟨gap, hgap, -, rfl⟩, _, ⟨article, harticle, rfl⟩, _, ⟨gap', hgap', -, rfl⟩,
      qualifier, noun, hqualifier, hnoun, rfl⟩
    exact ⟨_, .mk hgap harticle hgap' hqualifier hnoun, by simp⟩
  · rintro ⟨_, ⟨hgap, harticle, hgap', hqualifier, hnoun⟩, rfl⟩
    -- Each gap ends where the next word starts.
    have hclear := harticle.startsClear harticles.words
    refine ⟨_, ⟨_, hgap, ?_, by simp only [List.append_assoc]⟩, _, ⟨_, harticle, rfl⟩, _,
      ⟨_, hgap', ?_, rfl⟩, _, _, hqualifier, hnoun, rfl⟩
    · exact hclear _
    · exact hqualifier.startsClear
        (fun word hword => hnouns.words word (List.mem_cons_of_mem _ hword))
        (hnoun.startsClear (hnouns.words _ List.mem_cons_self) rest)

/-! ## Openings and announcements -/

theorem not_apostrophe_of_isBlank {c : Code} (h : isBlank c = true) :
    (c == '\'' || c == '’') = false := by
  rw [Bool.or_eq_false_iff, beq_eq_false_iff_ne, beq_eq_false_iff_ne]
  constructor
  · rintro rfl
    exact absurd h (by decide)
  · rintro rfl
    exact absurd h (by decide)

theorem dropHere?_eq_some_iff {t rest : Text} :
    dropHere? t = some rest ↔ ∃ here, Here here ∧ t = here ++ rest := by
  simp only [dropHere?, Option.bind_eq_bind, Option.bind_eq_some_iff, dropWord?_eq_some_iff]
  constructor
  · rintro ⟨_, ⟨here, hhere, rfl⟩, h⟩
    split at h
    · cases h
    · next c u =>
      split at h
      · next hc =>
        obtain ⟨s, hs, rfl⟩ := dropWord?_eq_some_iff.mp h
        exact ⟨_, .one hhere (by simpa using hc) hs, by simp⟩
      · obtain ⟨_, hu, hread⟩ := Option.bind_eq_some_iff.mp h
        obtain ⟨verb, hverb, rfl⟩ := dropWord?_eq_some_iff.mp hread
        obtain ⟨gap, hgap, -, hsplit⟩ := dropGap?_eq_some_iff.mp hu
        rw [hsplit]
        exact ⟨_, .two hhere hgap hverb, by simp⟩
  · rintro ⟨_, hhere, rfl⟩
    -- Which of the two forms is read depends on the character behind `here`.
    cases hhere with
    | @two here gap verb hhere hgap hverb =>
      refine ⟨gap ++ (verb ++ rest), ⟨here, hhere, by simp⟩, ?_⟩
      have hread : (dropGap? (gap ++ (verb ++ rest))).bind (dropWord? "is".codes) = some rest := by
        refine Option.bind_eq_some_iff.mpr ⟨verb ++ rest, ?_, ?_⟩
        · exact dropGap?_eq_some_iff.mpr
            ⟨gap, hgap, hverb.startsClear (by decide +kernel) rest, rfl⟩
        · exact dropWord?_eq_some_iff.mpr ⟨verb, hverb, rfl⟩
      obtain ⟨hne, hblank⟩ := hgap
      cases gap with
      | nil => exact absurd rfl hne
      | cons c gap =>
        have hc := not_apostrophe_of_isBlank (hblank c List.mem_cons_self)
        rw [List.cons_append] at hread ⊢
        dsimp only
        rw [hc]
        exact hread
    | @one here s apostrophe hhere h hs =>
      refine ⟨apostrophe :: (s ++ rest), ⟨here, hhere, by simp⟩, ?_⟩
      have hc : (apostrophe == '\'' || apostrophe == '’') = true := by simpa using h
      dsimp only
      rw [hc]
      exact dropWord?_eq_some_iff.mpr ⟨s, hs, rfl⟩

theorem dropAnnouncement?_eq_some_iff {t rest : Text} :
    dropAnnouncement? t = some rest ↔
      ∃ article gap qualifier noun gap' verb, Spells "the".codes article ∧ IsGap gap ∧
        Qualifier adjectives qualifier ∧ Spells "prompt".codes noun ∧ IsGap gap' ∧
        Spells "is".codes verb ∧
        t = article ++ (gap ++ (qualifier ++ (noun ++ (gap' ++ (verb ++ rest))))) := by
  have hnouns : Distinct ("prompt".codes :: adjectives) := by decide +kernel
  have hverbs : IsWord "is".codes := by decide +kernel
  -- The noun is none of the adjectives, so that no adjective is taken for it.
  have hqualified := @dropWord?_dropAdjective_iff _ _ hnouns (by decide +kernel)
  simp only [dropAnnouncement?, dropWordAndGap?, Option.bind_eq_bind, Option.bind_eq_some_iff,
    hqualified, dropGap?_eq_some_iff, dropWord?_eq_some_iff]
  constructor
  · rintro ⟨_, ⟨_, ⟨article, harticle, rfl⟩, gap, hgap, -, rfl⟩, _,
      ⟨_, ⟨qualifier, noun, hqualifier, hnoun, rfl⟩, gap', hgap', -, rfl⟩, verb, hverb, rfl⟩
    exact ⟨article, gap, qualifier, noun, gap', verb, harticle, hgap, hqualifier, hnoun, hgap',
      hverb, rfl⟩
  · rintro ⟨article, gap, qualifier, noun, gap', verb, harticle, hgap, hqualifier, hnoun, hgap',
      hverb, rfl⟩
    refine ⟨_, ⟨_, ⟨article, harticle, rfl⟩, gap, hgap, ?_, rfl⟩, _,
      ⟨_, ⟨qualifier, noun, hqualifier, hnoun, rfl⟩, gap', hgap', ?_, rfl⟩, verb, hverb, rfl⟩
    · -- A gap takes all the white space there is: what comes next begins with a letter.
      exact hqualifier.startsClear
        (fun word hword => hnouns.words word (List.mem_cons_of_mem _ hword))
        (hnoun.startsClear (hnouns.words _ List.mem_cons_self) _)
    · exact hverb.startsClear hverbs rest

/-! ## Preambles -/

/-- Before a colon there is no phrase. -/
theorem dropPhrase?_of_colon {space : Text} (hspace : OnlyOf isBlank space) (rest : Text) :
    dropPhrase? (space ++ Code.scalar ':' :: rest) = none := by
  by_contra hsome
  obtain ⟨u, hu⟩ := Option.ne_none_iff_exists'.mp hsome
  obtain ⟨_, ⟨hgap, harticle, -, -, -⟩, hsplit⟩ := dropPhrase?_eq_some_iff.mp hu
  -- Without the white space in front, one side starts with a colon and the other with a letter.
  obtain ⟨word, hword, hspells⟩ := harticle
  obtain ⟨letter, hletter, c, hc, article, rfl⟩ :=
    hspells.exists_cons (distinct_phrase.2.words word hword)
  obtain ⟨hblank, -, -, -, hcolon⟩ := clear_of_mem_forms hletter hc
  have hdropped := congrArg (List.dropWhile isBlank) hsplit
  rw [List.append_assoc, List.dropWhile_append_of_pos hspace,
    List.dropWhile_append_of_pos hgap.blank] at hdropped
  simp [hblank, show isBlank ':' = false by decide] at hdropped
  exact hcolon hdropped.1.symm

theorem dropHere?_of_the {article : Text} (h : Spells "the".codes article) (rest : Text) :
    dropHere? (article ++ rest) = none := by
  have hwords : Distinct ["here".codes, "the".codes] := by decide +kernel
  have hread : dropWord? "the".codes (article ++ rest) = some rest :=
    dropWord?_eq_some_iff.mpr ⟨article, h, rfl⟩
  -- No text begins with both words.
  have hnone : dropWord? "here".codes (article ++ rest) = none := by
    by_contra hsome
    obtain ⟨u, hu⟩ := Option.ne_none_iff_exists'.mp hsome
    have : "here".codes = "the".codes := hwords.eq (by simp) (by simp) hu hread
    exact absurd this (by decide +kernel)
  rw [dropHere?, hnone]
  rfl

/-- What is read as an opening or as an announcement stands before a colon. -/
theorem exists_lead {t u : Text}
    (h : ((dropOpening? t).orElse fun _ => dropAnnouncement? t) = some u) :
    ∃ lead, Lead lead ∧ t = lead ++ u := by
  cases hopening : dropOpening? t with
  | some v =>
    rw [hopening] at h
    cases h
    obtain ⟨v, hread, hv⟩ := Option.map_eq_some_iff.mp hopening
    obtain ⟨here, hhere, rfl⟩ := dropHere?_eq_some_iff.mp hread
    -- A phrase belongs to the opening if there is one.
    cases hread' : dropPhrase? v with
    | none =>
      rw [hread'] at hv
      cases hv
      exact ⟨here, .opening hhere, rfl⟩
    | some w =>
      rw [hread'] at hv
      cases hv
      obtain ⟨phrase, hphrase, rfl⟩ := dropPhrase?_eq_some_iff.mp hread'
      exact ⟨here ++ phrase, .openingPhrase hhere hphrase, (List.append_assoc _ _ _).symm⟩
  | none =>
    rw [hopening] at h
    obtain ⟨article, gap, qualifier, noun, gap', verb, harticle, hgap, hqualifier, hnoun, hgap',
      hverb, rfl⟩ := dropAnnouncement?_eq_some_iff.mp h
    exact ⟨_, .announcement harticle hgap hqualifier hnoun hgap' hverb, by simp⟩

/-- Before white space and a colon, all of the opening or the announcement is read. -/
theorem dropLead_append {lead space : Text} (hlead : Lead lead) (hspace : OnlyOf isBlank space)
    (rest : Text) :
    let u := space ++ Code.scalar ':' :: rest
    ((dropOpening? (lead ++ u)).orElse fun _ => dropAnnouncement? (lead ++ u)) = some u := by
  intro u
  -- An announcement begins with another word than an opening, which is tried first.
  cases hlead with
  | opening hhere =>
    have hread : dropHere? (lead ++ u) = some u := dropHere?_eq_some_iff.mpr ⟨_, hhere, rfl⟩
    rw [dropOpening?, hread, Option.map_some, dropPhrase?_of_colon hspace]
    rfl
  | @openingPhrase here phrase hhere hphrase =>
    have hread : dropHere? (here ++ (phrase ++ u)) = some (phrase ++ u) :=
      dropHere?_eq_some_iff.mpr ⟨_, hhere, rfl⟩
    have hread' : dropPhrase? (phrase ++ u) = some u :=
      dropPhrase?_eq_some_iff.mpr ⟨_, hphrase, rfl⟩
    rw [List.append_assoc, dropOpening?, hread, Option.map_some, hread']
    rfl
  | announcement harticle hgap hqualifier hnoun hgap' hverb =>
    simp only [List.append_assoc]
    rw [dropOpening?, dropHere?_of_the harticle]
    exact dropAnnouncement?_eq_some_iff.mpr
      ⟨_, _, _, _, _, _, harticle, hgap, hqualifier, hnoun, hgap', hverb, rfl⟩

/-- What is dropped is a preamble with all the white space that follows it. -/
theorem dropPreamble?_eq_some_iff {t rest : Text} :
    dropPreamble? t = some rest ↔ ∃ p, Preamble p ∧ StartsClear isBlank rest ∧ t = p ++ rest := by
  rw [dropPreamble?, Option.bind_eq_some_iff]
  constructor
  · rintro ⟨u, hread, hcolon⟩
    obtain ⟨lead, hlead, rfl⟩ := exists_lead hread
    obtain ⟨space, space', hspace, hspace', hrest, rfl⟩ := dropColon?_eq_some_iff.mp hcolon
    exact ⟨_, .mk hlead hspace hspace', hrest, by simp⟩
  · rintro ⟨_, ⟨hlead, hspace, hspace'⟩, hrest, rfl⟩
    refine ⟨_, ?_, dropColon?_eq_some_iff.mpr ⟨_, _, hspace, hspace', hrest, rfl⟩⟩
    simpa using dropLead_append hlead hspace _

/-- White space behind a preamble belongs to it. -/
theorem Preamble.append {p space : Text} (hp : Preamble p) (hspace : OnlyOf isBlank space) :
    Preamble (p ++ space) := by
  obtain ⟨hlead, hbefore, hbehind⟩ := hp
  simpa using Preamble.mk hlead hbefore (Text.onlyOf_append.mpr ⟨hbehind, hspace⟩)

theorem dropPreamble?_append {p : Text} (hp : Preamble p) (t : Text) :
    dropPreamble? (p ++ t) = some (t.dropWhile isBlank) := by
  have hspace : OnlyOf isBlank (t.takeWhile isBlank) := fun c hc => List.mem_takeWhile_imp hc
  refine dropPreamble?_eq_some_iff.mpr
    ⟨_, hp.append hspace, Text.startsClear_dropWhile isBlank t, ?_⟩
  rw [List.append_assoc, List.takeWhile_append_dropWhile]

theorem dropPreamble?_eq_none_iff {t : Text} :
    dropPreamble? t = none ↔ ¬BeginsWithPreamble t := by
  constructor
  · rintro h ⟨p, rest, hp, rfl⟩
    rw [dropPreamble?_append hp] at h
    cases h
  · intro h
    by_contra hsome
    obtain ⟨rest, hrest⟩ := Option.ne_none_iff_exists'.mp hsome
    obtain ⟨p, hp, -, rfl⟩ := dropPreamble?_eq_some_iff.mp hrest
    exact h ⟨p, rest, hp, rfl⟩

theorem preamble_iff {p : Text} : Preamble p ↔ dropPreamble? p = some [] := by
  rw [dropPreamble?_eq_some_iff]
  simp

instance (p : Text) : Decidable (Preamble p) :=
  decidable_of_iff _ preamble_iff.symm

instance (t : Text) : Decidable (BeginsWithPreamble t) :=
  decidable_of_iff (dropPreamble? t ≠ none) (not_iff_comm.mp dropPreamble?_eq_none_iff.symm)

/-! ## How a preamble starts and where its colon is -/

theorem Lead.exists_cons {lead : Text} (h : Lead lead) :
    ∃ letter ∈ letters, ∃ c ∈ forms letter, ∃ rest, lead = c :: rest := by
  -- Each of the three begins with a word, and a word with a letter.
  have hhere {here : Text} (h : Here here) :
      ∃ letter ∈ letters, ∃ c ∈ forms letter, ∃ rest, here = c :: rest := by
    cases h with
    | two hhere _ _ =>
      obtain ⟨letter, hletter, c, hc, rest, rfl⟩ := hhere.exists_cons (by decide +kernel)
      exact ⟨letter, hletter, c, hc, _, rfl⟩
    | one hhere _ _ =>
      obtain ⟨letter, hletter, c, hc, rest, rfl⟩ := hhere.exists_cons (by decide +kernel)
      exact ⟨letter, hletter, c, hc, _, rfl⟩
  cases h with
  | opening h => exact hhere h
  | openingPhrase h _ =>
    obtain ⟨letter, hletter, c, hc, rest, rfl⟩ := hhere h
    exact ⟨letter, hletter, c, hc, _, rfl⟩
  | announcement harticle _ _ _ _ _ =>
    obtain ⟨letter, hletter, c, hc, rest, rfl⟩ := harticle.exists_cons (by decide +kernel)
    exact ⟨letter, hletter, c, hc, _, rfl⟩

theorem Preamble.exists_cons {p : Text} (hp : Preamble p) :
    ∃ c rest, p = c :: rest ∧ isBlank c = false ∧ isQuote c = false := by
  obtain ⟨hlead, -, -⟩ := hp
  obtain ⟨letter, hletter, c, hc, rest, rfl⟩ := hlead.exists_cons
  obtain ⟨hblank, hquote, -⟩ := clear_of_mem_forms hletter hc
  exact ⟨c, _, rfl, hblank, hquote⟩

/-- The colon of a preamble is not in what follows a text, if there is no colon. -/
theorem BeginsWithPreamble.of_append {t u : Text} (h : BeginsWithPreamble (t ++ u))
    (hu : Code.scalar ':' ∉ u) : BeginsWithPreamble t := by
  obtain ⟨_, rest, @⟨lead, space, space', hlead, hspace, -⟩, heq⟩ := h
  -- Up to its colon, the preamble is a part of the text.
  have hsplit : t ++ u = (lead ++ space) ++ Code.scalar ':' :: (space' ++ rest) := by
    rw [heq]
    simp
  rcases List.append_eq_append_iff.mp hsplit with ⟨v, -, hv⟩ | ⟨v, ht, hv⟩
  · -- The colon would be in what follows.
    rw [hv] at hu
    simp at hu
  · cases v with
    | nil =>
      rw [List.nil_append] at hv
      rw [← hv] at hu
      simp at hu
    | cons c v =>
      obtain ⟨rfl, -⟩ := List.cons.inj hv
      refine ⟨lead ++ (space ++ [Code.scalar ':']), v, .mk hlead hspace Text.onlyOf_nil, ?_⟩
      rw [ht]
      simp

end CanvasPrompt.Refine
