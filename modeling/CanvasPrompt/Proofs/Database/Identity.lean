import CanvasPrompt.Proofs.Database.Deleting

/-!
# Identities of rows

The database numbers rows on, so an identity is given to one row only, and never again after that
row is gone. This needs that different numbers have different identities, as those of
`Issuer.counting` have (`counting_id_injective`). This module introduces

* `Store.Identifies issuer s`: the images have distinct identities, all of them issued;
* `Grows issuer s t`: from `s` to `t` images were only added under new identities, and deleted.

The main statement is `eq_of_grows`: an image that is found again is the same.
-/

namespace CanvasPrompt.Database

namespace Issuer

/-- The number of a row can be had back from its padded digits. -/
theorem padded_injective (width : Nat) : Function.Injective (padded width) := by
  intro m n h
  let digits (n : Nat) := List.replicate (width - (Text.ofNat n).length) '0' ++ Nat.toDigits 10 n
  have hvalue (n : Nat) : Nat.ofDigitChars 10 (digits n) 0 = n := by
    rw [Nat.ofDigitChars_append, Nat.ofDigitChars_replicate_zero, Nat.mul_zero,
      Nat.ofDigitChars_toDigits (by decide) (by decide)]
  have hpadded (n : Nat) : padded width n = (digits n).map .scalar := by
    simp only [padded, digits, Text.ofNat, List.map_append, List.map_replicate]
  rw [hpadded, hpadded] at h
  rw [← hvalue m, (List.map_inj_right fun _ _ => Code.scalar.inj).mp h, hvalue]

/-- Identities that end in the number of the row are distinct. -/
theorem counting_id_injective : Function.Injective counting.id := by
  intro m n h
  exact padded_injective 12 (List.append_cancel_left h)

end Issuer

variable {issuer : Issuer} {s t u : Store}

/-! ## New identities -/

theorem id_of_mem_numbered {issued : Nat} {images : List NewImage} {row : ImageRow}
    (h : row ∈ numbered issuer issued images) :
    ∃ n, issued < n ∧ n ≤ issued + images.length ∧ row.id = issuer.id n := by
  obtain ⟨k, hk, rfl⟩ := List.mem_mapIdx.mp h
  exact ⟨issued + 1 + k, by omega, by omega, rfl⟩

theorem nodup_numbered (unique : Function.Injective issuer.id) (issued : Nat)
    (images : List NewImage) : ((numbered issuer issued images).map ImageRow.id).Nodup := by
  induction images generalizing issued with
  | nil => exact List.nodup_nil
  | cons i rest ih =>
    rw [numbered_cons, List.map_cons, List.nodup_cons]
    refine ⟨?_, ih (issued + 1)⟩
    rw [List.mem_map]
    rintro ⟨row, hrow, hid⟩
    obtain ⟨n, hlt, -, hn⟩ := id_of_mem_numbered hrow
    have : n = issued + 1 := unique (hn.symm.trans hid)
    omega

/-! ## Identities of a log -/

/-- The images of a store have distinct identities, and these were issued. -/
structure Store.Identifies (issuer : Issuer) (s : Store) : Prop where
  /-- No two images have the same identity. -/
  distinct : (s.images.map ImageRow.id).Nodup
  /-- Each identity is that of a number that is used up. -/
  issued : ∀ row ∈ s.images, ∃ n ≤ s.issued, row.id = issuer.id n

namespace Store.Identifies

theorem of_no_images (h : s.images = []) : s.Identifies issuer := by
  constructor
  · rw [h]
    exact List.nodup_nil
  · rw [h]
    exact List.forall_mem_nil _

/-- Images may be dropped, and numbers used up. -/
theorem of_sublist (hs : s.Identifies issuer) (himages : t.images.Sublist s.images)
    (hissued : s.issued ≤ t.issued) : t.Identifies issuer := by
  constructor
  · exact hs.distinct.sublist (himages.map _)
  · intro row hrow
    obtain ⟨n, hn, hid⟩ := hs.issued row (himages.subset hrow)
    exact ⟨n, Nat.le_trans hn hissued, hid⟩

/-- Images may be added if they are numbered on. -/
theorem logged (unique : Function.Injective issuer.id) (hs : s.Identifies issuer)
    (images : List NewImage) : (s.logged (numbered issuer s.issued images)).Identifies issuer := by
  constructor
  · rw [Store.logged, List.map_append]
    refine hs.distinct.append (nodup_numbered unique s.issued images) ?_
    -- What was issued before has smaller numbers than what is added.
    intro id hold hnew
    obtain ⟨old, hmem, rfl⟩ := List.mem_map.mp hold
    obtain ⟨new, hmem', hid⟩ := List.mem_map.mp hnew
    obtain ⟨m, hm, hidm⟩ := hs.issued old hmem
    obtain ⟨n, hn, -, hidn⟩ := id_of_mem_numbered hmem'
    have : m = n := unique (hidm.symm.trans (hid.symm.trans hidn))
    omega
  · intro row hrow
    have hlength : (s.logged (numbered issuer s.issued images)).issued =
        s.issued + images.length := by
      rw [Store.logged, length_numbered]
    rw [hlength]
    rcases List.mem_append.mp hrow with hold | hnew
    · obtain ⟨n, hn, hid⟩ := hs.issued row hold
      exact ⟨n, by omega, hid⟩
    · obtain ⟨n, -, hn, hid⟩ := id_of_mem_numbered hnew
      exact ⟨n, hn, hid⟩

end Store.Identifies

/-! ## Identities over time -/

/-- From the first store to the second one, images were only added under new identities, and
deleted. -/
structure Grows (issuer : Issuer) (s t : Store) : Prop where
  /-- No number is taken back. -/
  issued : s.issued ≤ t.issued
  /-- An image that was not there has an identity that was issued since. -/
  images : ∀ row ∈ t.images, row ∈ s.images ∨ ∃ n, s.issued < n ∧ row.id = issuer.id n

namespace Grows

theorem of_subset (himages : t.images ⊆ s.images) (hissued : s.issued ≤ t.issued) :
    Grows issuer s t :=
  ⟨hissued, fun _ hrow => .inl (himages hrow)⟩

theorem refl (s : Store) : Grows issuer s s :=
  of_subset (List.Subset.refl _) (Nat.le_refl _)

theorem trans (hst : Grows issuer s t) (htu : Grows issuer t u) : Grows issuer s u := by
  refine ⟨Nat.le_trans hst.issued htu.issued, ?_⟩
  intro row hrow
  rcases htu.images row hrow with hmem | ⟨n, hn, hid⟩
  · exact hst.images row hmem
  · exact .inr ⟨n, Nat.lt_of_le_of_lt hst.issued hn, hid⟩

theorem logged (s : Store) (images : List NewImage) :
    Grows issuer s (s.logged (numbered issuer s.issued images)) := by
  refine ⟨Nat.le_add_right _ _, ?_⟩
  intro row hrow
  rcases List.mem_append.mp hrow with hold | hnew
  · exact .inl hold
  · obtain ⟨n, hn, -, hid⟩ := id_of_mem_numbered hnew
    exact .inr ⟨n, hn, hid⟩

end Grows

/-- An identity that is used up is not given to another image later. -/
theorem mem_of_grows (unique : Function.Injective issuer.id) (h : Grows issuer s t)
    {row : ImageRow} (hrow : row ∈ t.images) {n : Nat} (hn : n ≤ s.issued)
    (hid : row.id = issuer.id n) : row ∈ s.images := by
  rcases h.images row hrow with hmem | ⟨m, hm, hidm⟩
  · exact hmem
  · have : n = m := unique (hid.symm.trans hidm)
    omega

/-- An image that is found again under its identity is the same in all of its columns. -/
theorem eq_of_grows (unique : Function.Injective issuer.id) (hs : s.Identifies issuer)
    (h : Grows issuer s t) {row row' : ImageRow} (hrow : row ∈ s.images) (hrow' : row' ∈ t.images)
    (hid : row'.id = row.id) : row' = row := by
  obtain ⟨n, hn, hidn⟩ := hs.issued row hrow
  have hold : row' ∈ s.images := mem_of_grows unique h hrow' hn (hid.trans hidn)
  exact List.inj_on_of_nodup_map hs.distinct hold hrow hid

end CanvasPrompt.Database
