import CanvasPrompt.Proofs.Database.Writing
import CanvasPrompt.Proofs.Text.Splitting
import Mathlib.Data.List.Nodup

/-!
# Deleting images

An image is deleted by its project and its identity at once, and the service reads from the tag of
the command whether there was one. The last word of the tag is the number of rows, whatever that
number is, so the tag is read as it is meant: `affectedRows?_tag`.

What is left is said for the whole log (`deleteImage_of_absent`, `exists_deleteImage_of_mem`) and
for the images of the project (`imagesOf_deleteImage`).
-/

namespace CanvasPrompt

namespace Database

/-! ## The tag of a command -/

/-- The tag of a command tells for every number of rows whether there were any. -/
theorem affectedRows?_tag (n : Nat) :
    affectedRows? ("DELETE ".codes ++ Text.ofNat n) = some (n != 0) := by
  have hverb : ∀ c ∈ "DELETE".codes, Text.isBlank c = false := by
    have hall : ("DELETE".codes.all fun c => !Text.isBlank c) = true := by decide +kernel
    intro c hc
    exact (Bool.not_eq_true' _).mp (List.all_eq_true.mp hall c hc)
  have hwords : "DELETE ".codes = "DELETE".codes ++ [Code.scalar ' '] := by decide +kernel
  rw [affectedRows?, hwords, List.append_assoc, List.singleton_append,
    Text.getLast?_words hverb (by decide) (fun _ => Text.isBlank_of_mem_ofNat)
      (Text.ofNat_ne_nil n), Option.map_some]
  -- Only the number zero is written as `0`.
  rw [Option.some_inj, Bool.eq_iff_iff, bne_iff_ne, bne_iff_ne, ne_eq, ne_eq,
    Text.ofNat_eq_zero_iff]

/-! ## The rows that are left -/

namespace Store

variable (s : Store) {project id : Text}

theorem isImage_iff {row : ImageRow} :
    isImage project id row = true ↔ row.project = project ∧ row.id = id := by
  rw [isImage, Bool.and_eq_true, beq_iff_eq, beq_iff_eq]

/-- The tag tells whether the image is there. -/
theorem affectedRows?_deleteImage (project id : Text) :
    affectedRows? (s.deleteImage project id).1 = some (s.images.any (isImage project id)) := by
  have hcount : (s.images.countP (isImage project id) != 0) =
      s.images.any (isImage project id) := by
    rw [Bool.eq_iff_iff, bne_iff_ne, ← Nat.pos_iff_ne_zero, List.countP_pos_iff, List.any_eq_true]
  rw [← hcount]
  exact affectedRows?_tag _

/-- To delete an image that is not there changes nothing. -/
theorem deleteImage_of_absent (h : s.images.any (isImage project id) = false) :
    (s.deleteImage project id).2 = s := by
  have hall : s.images.filter (fun row => !isImage project id row) = s.images := by
    rw [List.filter_eq_self]
    intro row hrow
    rw [Bool.not_eq_true', ← Bool.not_eq_true]
    exact List.any_eq_false.mp h row hrow
  rw [deleteImage_snd, hall]

/-- If identities are distinct, exactly one row goes, and the others stay in order. -/
theorem exists_deleteImage_of_mem (hdistinct : (s.images.map ImageRow.id).Nodup) {row : ImageRow}
    (hrow : row ∈ s.images) :
    ∃ before later, s.images = before ++ row :: later ∧
      (s.deleteImage row.project row.id).2 = { s with images := before ++ later } := by
  obtain ⟨before, later, hsplit⟩ := List.append_of_mem hrow
  refine ⟨before, later, hsplit, ?_⟩
  rw [hsplit, List.map_append, List.map_cons, List.nodup_middle, List.nodup_cons,
    ← List.map_append] at hdistinct
  -- No other row has the identity.
  have hothers : ∀ other ∈ before ++ later, (!isImage row.project row.id other) = true := by
    intro other hother
    rw [Bool.not_eq_true', ← Bool.not_eq_true, isImage_iff]
    rintro ⟨-, hid⟩
    exact hdistinct.1 (hid ▸ List.mem_map_of_mem hother)
  have hself : isImage row.project row.id row = true := isImage_iff.mpr ⟨rfl, rfl⟩
  obtain ⟨hbefore, hlater⟩ := List.forall_mem_append.mp hothers
  rw [deleteImage_snd, hsplit, List.filter_append, List.filter_cons_of_neg (by simp [hself]),
    List.filter_eq_self.mpr hbefore, List.filter_eq_self.mpr hlater]

/-- What is left of the images of the project. -/
theorem imagesOf_deleteImage :
    (s.deleteImage project id).2.imagesOf project =
      (s.imagesOf project).filter fun row => row.id != id := by
  rw [deleteImage_snd, imagesOf, imagesOf, List.filter_filter, List.filter_filter]
  refine List.filter_congr ?_
  intro row _
  by_cases hrow : row.project = project
  · simp [isImage, hrow, bne]
  · rw [beq_false_of_ne hrow, Bool.false_and, Bool.and_false]

end Store

end Database

end CanvasPrompt
