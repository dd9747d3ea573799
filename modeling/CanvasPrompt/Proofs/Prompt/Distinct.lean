import CanvasPrompt.Proofs.Refine.Request
import CanvasPrompt.Proofs.Text.Lowering
import Mathlib.Data.List.Induction
import Mathlib.Data.List.Nodup

/-!
# Distinct lines

The request to the reasoning service lists each relationship once. This module introduces

* `Alike line line'`: the lines have the same words in small letters;
* `firstOfEachKind lines`: the lines that are not like an earlier one.

Two lines have one key exactly if they are alike (`lineKey_eq_iff`): what stands between words is
white space, and letters of one word have no influence on those of another. The keys that were seen
are those of all earlier lines, kept or not (`distinctAfter_append`), so that the lines kept are
just those of `firstOfEachKind`. The main statement is `first_of_each_kind_is_listed`.
-/

namespace CanvasPrompt.Prompt

/-! ## Lines that are alike -/

/-- Two lines differ only in white space and letter case: they have the same words in small letters.
-/
def Alike (line line' : Text) : Prop :=
  (Text.words line).map Text.lower = (Text.words line').map Text.lower

instance (line line' : Text) : Decidable (Alike line line') :=
  inferInstanceAs (Decidable ((Text.words line).map Text.lower = (Text.words line').map Text.lower))

theorem lineKey_eq_iff {line line' : Text} : lineKey line = lineKey line' ↔ Alike line line' := by
  constructor
  · intro h
    have hwords : ∀ l : Text, Text.words (lineKey l) = (Text.words l).map Text.lower :=
      fun l => Text.words_lower_intercalate fun w hw => Text.mem_words hw
    rw [Alike, ← hwords, ← hwords, h]
  · intro h
    rw [lineKey, lineKey, Text.lower_intercalate, Text.lower_intercalate, h]

/-- The lines that no line before them is like, in order. -/
def firstOfEachKind (lines : List Text) : List Text :=
  (List.range lines.length).filterMap fun i =>
    lines[i]?.filter fun line => ∀ earlier ∈ lines.take i, ¬Alike earlier line

theorem firstOfEachKind_concat (lines : List Text) (line : Text) :
    firstOfEachKind (lines ++ [line]) =
      firstOfEachKind lines ++ if ∃ earlier ∈ lines, Alike earlier line then [] else [line] := by
  have hbefore : ∀ i ∈ List.range lines.length, (lines ++ [line])[i]? = lines[i]? ∧
      (lines ++ [line]).take i = lines.take i := by
    intro i hi
    have hlt := List.mem_range.mp hi
    exact ⟨List.getElem?_append_left hlt, List.take_append_of_le_length (Nat.le_of_lt hlt)⟩
  rw [firstOfEachKind, List.length_append, List.length_singleton, List.range_succ,
    List.filterMap_append, firstOfEachKind]
  congr 1
  -- Earlier places see what they saw before, and the last one sees all of `lines`.
  · refine List.filterMap_congr fun i hi => ?_
    rw [(hbefore i hi).1, (hbefore i hi).2]
  · simp only [List.filterMap_cons, List.filterMap_nil, List.getElem?_concat_length,
      List.take_left, Option.filter_some]
    by_cases hlike : ∃ earlier ∈ lines, Alike earlier line
    · rw [if_pos hlike, if_neg (by simpa using hlike)]
    · rw [if_neg hlike, if_pos (by simpa using hlike)]

/-! ## The lines that are kept -/

theorem distinctAfter_congr {seen seen' : List Text} (h : ∀ key, key ∈ seen ↔ key ∈ seen')
    (lines : List Text) : distinctAfter seen lines = distinctAfter seen' lines := by
  induction lines generalizing seen seen' with
  | nil => rfl
  | cons line rest ih =>
    have hcontains : seen.contains (lineKey line) = seen'.contains (lineKey line) := by
      rw [Bool.eq_iff_iff, List.contains_iff_mem, List.contains_iff_mem]
      exact h _
    have hcons : ∀ key, key ∈ lineKey line :: seen ↔ key ∈ lineKey line :: seen' := by
      intro key
      rw [List.mem_cons, List.mem_cons, h]
    rw [distinctAfter, distinctAfter, hcontains, ih h, ih hcons]

/-- Later lines are compared with all earlier ones, whether these were kept or not: a line that is
not kept brings no new key. -/
theorem distinctAfter_append (seen lines more : List Text) :
    distinctAfter seen (lines ++ more) =
      distinctAfter seen lines ++ distinctAfter (lines.map lineKey ++ seen) more := by
  induction lines generalizing seen with
  | nil => rfl
  | cons line rest ih =>
    rw [List.cons_append, distinctAfter, distinctAfter]
    split
    · -- A key that has been seen changes nothing when it is seen again.
      next hseen =>
      have hmem := List.contains_iff_mem.mp hseen
      rw [ih seen, distinctAfter_congr _ more]
      intro key
      grind
    · rw [ih (lineKey line :: seen), List.cons_append, distinctAfter_congr _ more]
      intro key
      grind

theorem distinct_append (lines more : List Text) :
    distinct (lines ++ more) = distinct lines ++ distinctAfter (lines.map lineKey) more := by
  rw [distinct, distinctAfter_append, List.append_nil, distinct]

theorem distinct_concat (lines : List Text) (line : Text) :
    distinct (lines ++ [line]) =
      distinct lines ++ if ∃ earlier ∈ lines, Alike earlier line then [] else [line] := by
  have hkey : lineKey line ∈ lines.map lineKey ↔ ∃ earlier ∈ lines, Alike earlier line := by
    simp only [List.mem_map, lineKey_eq_iff]
  rw [distinct_append, distinctAfter, distinctAfter, distinctAfter]
  simp only [List.contains_iff_mem, hkey]

theorem distinct_eq_firstOfEachKind (lines : List Text) :
    distinct lines = firstOfEachKind lines := by
  induction lines using List.reverseRecOn with
  | nil => rfl
  | append_singleton lines line ih => rw [distinct_concat, firstOfEachKind_concat, ih]

theorem distinct_sublist (lines : List Text) : (distinct lines).Sublist lines := by
  induction lines using List.reverseRecOn with
  | nil => exact List.Sublist.slnil
  | append_singleton lines line ih =>
    rw [distinct_concat]
    refine ih.append ?_
    split
    · exact List.nil_sublist _
    · exact List.Sublist.refl _

theorem mem_keys_distinct {lines : List Text} {key : Text} :
    key ∈ (distinct lines).map lineKey ↔ key ∈ lines.map lineKey := by
  induction lines using List.reverseRecOn with
  | nil => rfl
  | append_singleton lines line ih =>
    rw [distinct_concat, List.map_append, List.mem_append, ih, List.map_append, List.mem_append]
    split
    · next hlike =>
      -- The line is not kept, but an earlier one has its key.
      obtain ⟨earlier, hearlier, hlike⟩ := hlike
      have hkey : lineKey line ∈ lines.map lineKey :=
        List.mem_map.mpr ⟨earlier, hearlier, lineKey_eq_iff.mpr hlike⟩
      simp only [List.map_nil, List.not_mem_nil, or_false, List.map_cons, List.mem_singleton]
      refine ⟨.inl, ?_⟩
      rintro (h | rfl)
      · exact h
      · exact hkey
    · rfl

theorem nodup_keys_distinct (lines : List Text) : ((distinct lines).map lineKey).Nodup := by
  -- The last line is added only if none before it is like it.
  induction lines using List.reverseRecOn with
  | nil => exact List.nodup_nil
  | append_singleton lines line ih =>
    rw [distinct_concat]
    split
    · rwa [List.append_nil]
    · next hlike =>
      have hkey : lineKey line ∉ (distinct lines).map lineKey := by
        rw [mem_keys_distinct, List.mem_map]
        rintro ⟨earlier, hearlier, hsame⟩
        exact hlike ⟨earlier, hearlier, lineKey_eq_iff.mp hsame⟩
      rw [List.map_append, List.map_cons, List.map_nil, ← List.concat_eq_append]
      exact ih.concat hkey

/-- Lines with keys of their own are all kept. -/
theorem distinct_of_nodup {lines : List Text} (h : (lines.map lineKey).Nodup) :
    distinct lines = lines := by
  induction lines using List.reverseRecOn with
  | nil => rfl
  | append_singleton lines line ih =>
    rw [List.map_append, List.map_cons, List.map_nil] at h
    obtain ⟨hlines, -, happart⟩ := List.nodup_append.mp h
    rw [distinct_concat, ih hlines, if_neg]
    rintro ⟨earlier, hearlier, hlike⟩
    exact happart _ (List.mem_map_of_mem hearlier) _ (List.mem_singleton_self _)
      (lineKey_eq_iff.mpr hlike)

theorem distinct_distinct (lines : List Text) : distinct (distinct lines) = distinct lines :=
  distinct_of_nodup (nodup_keys_distinct lines)

/-! ## The request -/

/-- Of each kind of lines the first is kept, as it is and in its place. So no two of the lines kept
have one key, and every line has the key of one; the lines that are kept are kept again, and more
lines behind them change nothing about them. The request is the same for the relationships of a
context and for those that are kept of them, and it does not matter how the roles of the attached
images are listed. -/
theorem first_of_each_kind_is_listed :
    (∀ lines : List Text,
      distinct lines = firstOfEachKind lines ∧ (distinct lines).Sublist lines ∧
        ((distinct lines).map lineKey).Nodup ∧
        (∀ line ∈ lines, lineKey line ∈ (distinct lines).map lineKey) ∧
        distinct (distinct lines) = distinct lines ∧
        ∀ more, distinct lines <+: distinct (lines ++ more)) ∧
    (∀ line line' : Text, lineKey line = lineKey line' ↔ Alike line line') ∧
    ∀ c : Context,
      (∀ names, instruction { c with relationships := distinct c.relationships } names =
        instruction c names) ∧
      ∀ names names', (∀ name, name ∈ names ↔ name ∈ names') →
        instruction c names = instruction c names' := by
  refine ⟨fun lines => ⟨distinct_eq_firstOfEachKind lines, distinct_sublist lines,
    nodup_keys_distinct lines, ?_, distinct_distinct lines, ?_⟩, fun _ _ => lineKey_eq_iff, ?_⟩
  · intro line hline
    exact mem_keys_distinct.mpr (List.mem_map_of_mem hline)
  · intro more
    rw [distinct_append]
    exact List.prefix_append _ _
  · intro c
    refine ⟨fun names => ?_, fun names names' h => Refine.instruction_congr c h⟩
    simp only [instruction, instructionLines, intentLines, distinct_distinct]

/-- Two ways to write that the cat is on the road are one relationship, whichever sigma ends the
word, and the roles of a scene and a subject may be listed the other way round. -/
theorem cat_on_the_road_is_listed_once :
    let lines : List Text :=
      ["Cat -> on -> ΟΔΟΣ".codes, " cat ->  ON -> οδος".codes, "Cat -> on -> Mat".codes]
    let kept : List Text := ["Cat -> on -> ΟΔΟΣ".codes, "Cat -> on -> Mat".codes]
    let c : Context := ⟨[], [], [], [], [], lines, [], [], 0⟩
    distinct lines = kept ∧
      instruction { c with relationships := kept } ["scene".codes, "subject".codes] =
        instruction c ["subject".codes, "scene".codes, "subject".codes] := by
  intro lines kept c
  have hkept : distinct lines = kept := by decide +kernel
  obtain ⟨-, -, hrequest⟩ := first_of_each_kind_is_listed
  obtain ⟨hdistinct, hnames⟩ := hrequest c
  refine ⟨hkept, ?_⟩
  -- First the lines are replaced by the ones that are kept, then the names are reordered.
  calc instruction { c with relationships := kept } ["scene".codes, "subject".codes]
      = instruction c ["scene".codes, "subject".codes] := by rw [← hkept, hdistinct]
    _ = instruction c ["subject".codes, "scene".codes, "subject".codes] :=
        hnames _ _ (by intro name; simp only [List.mem_cons]; tauto)

end CanvasPrompt.Prompt
