import CanvasPrompt.Database.Store
import Mathlib.Data.List.Basic

/-!
# What the statements write

The statements of the service write prompts and images, and each of them for one project. This
module introduces

* `ChangesOnly project s t`: from `s` to `t` nothing has changed but prompts and images of the
  project, and numbers that were used up;
* `Faults.LogWorks count`: nothing goes wrong while `count` images are added;
* `numbered issuer issued images`: the rows of images that are numbered on from `issued`.

Images are added all or not at all, although they are added one by one: `addImages_of_logWorks` and
`addImages_of_not_logWorks`.
-/

namespace CanvasPrompt.Database

/-- The prompts of a project. -/
def Store.promptsOf (s : Store) (project : Text) : List PromptRow :=
  s.prompts.filter fun r => r.project == project

/-- From the first store to the second one, at most prompts and images of one project have changed,
and numbers were used up. -/
structure ChangesOnly (project : Text) (s t : Store) : Prop where
  /-- The projects have their owners. -/
  owners : t.owners = s.owners
  /-- The stored canvases are as they were. -/
  canvases : t.nodes = s.nodes ∧ t.edges = s.edges
  /-- The prompts of another project are as they were. -/
  prompts : ∀ other ≠ project, t.promptsOf other = s.promptsOf other
  /-- The images of another project are as they were. -/
  images : ∀ other ≠ project, t.imagesOf other = s.imagesOf other

/-- To use up numbers changes no rows. -/
theorem ChangesOnly.of_issued (project : Text) (s : Store) (n : Nat) :
    ChangesOnly project s { s with issued := n } :=
  ⟨rfl, ⟨rfl, rfl⟩, fun _ _ => rfl, fun _ _ => rfl⟩

theorem ChangesOnly.refl (project : Text) (s : Store) : ChangesOnly project s s :=
  .of_issued project s s.issued

/-- Rows that are added for one project are not found among those of another. -/
theorem filter_append_of_project {α : Type} (project : α → Text) {p other : Text}
    (hother : other ≠ p) (rows : List α) {added : List α} (hadded : ∀ r ∈ added, project r = p) :
    (rows ++ added).filter (fun r => project r == other) =
      rows.filter fun r => project r == other := by
  -- None of the added rows is kept by the filter.
  have hnone : added.filter (fun r => project r == other) = [] := by
    rw [List.filter_eq_nil_iff]
    intro r hr hfound
    exact hother ((beq_iff_eq.mp hfound).symm.trans (hadded r hr))
  rw [List.filter_append, hnone, List.append_nil]

variable (issuer : Issuer) (faults : Faults) (s : Store)

/-! ## Prompts -/

/-- A prompt is added for its project. -/
theorem addPrompt_changesOnly (p : NewPrompt) :
    ChangesOnly p.project s (s.addPrompt issuer faults p).2 := by
  rw [Store.addPrompt]
  split
  · exact .refl _ _
  · refine ⟨rfl, ⟨rfl, rfl⟩, ?_, fun _ _ => rfl⟩
    intro other hother
    refine filter_append_of_project PromptRow.project hother s.prompts ?_
    intro r hr
    rw [List.mem_singleton.mp hr]
    rfl

/-! ## Images -/

/-- Nothing goes wrong while so many images are added to the log. -/
structure Faults.LogWorks (faults : Faults) (count : Nat) : Prop where
  /-- A connection is had. -/
  connects : faults.connecting = false
  /-- Images can be added at least so many times. -/
  inserts : ∀ n ∈ faults.imagesAfter, count ≤ n
  /-- What was added can be made to last. -/
  commits : faults.committing = false

/-- The rows of images that are numbered on from `issued`. -/
def numbered (issued : Nat) (images : List NewImage) : List ImageRow :=
  images.mapIdx fun k i => i.row issuer (issued + 1 + k)

@[simp]
theorem length_numbered (issued : Nat) (images : List NewImage) :
    (numbered issuer issued images).length = images.length :=
  List.length_mapIdx

theorem numbered_cons (issued : Nat) (i : NewImage) (rest : List NewImage) :
    numbered issuer issued (i :: rest) =
      i.row issuer (issued + 1) :: numbered issuer (issued + 1) rest := by
  simp only [numbered, List.mapIdx_cons, Nat.add_assoc, Nat.add_comm 1]

/-- Numbered rows belong to the project of their images. -/
theorem project_of_mem_numbered {issued : Nat} {project : Text} {images : List NewImage}
    (h : ∀ i ∈ images, i.project = project) {row : ImageRow}
    (hrow : row ∈ numbered issuer issued images) : row.project = project := by
  obtain ⟨k, hk, rfl⟩ := List.mem_mapIdx.mp hrow
  exact h _ (List.getElem_mem hk)

/-- The store with rows at the end of the log. -/
def Store.logged (s : Store) (rows : List ImageRow) : Store :=
  { s with images := s.images ++ rows, issued := s.issued + rows.length }

theorem Store.logged_nil : s.logged [] = s := by
  rw [logged, List.append_nil]
  rfl

theorem Store.logged_singleton_logged (r : ImageRow) (rows : List ImageRow) :
    (s.logged [r]).logged rows = s.logged (r :: rows) := by
  simp only [logged, List.append_assoc, List.singleton_append, List.length_cons, List.length_nil,
    Nat.zero_add, Nat.add_assoc, Nat.add_comm 1]

theorem insertImage_of_ne {added : Nat} (h : faults.imagesAfter ≠ some added) (i : NewImage) :
    let row := i.row issuer (s.issued + 1)
    Store.insertImage issuer faults added s i = (some row, s.logged [row]) := by
  intro row
  rw [Store.insertImage, if_neg h]
  rfl

/-- An image that can be added after `added` others is, and then those that follow it. -/
theorem insertImages_cons_of_ne {added : Nat} (h : faults.imagesAfter ≠ some added) (i : NewImage)
    (rest : List NewImage) :
    let row := i.row issuer (s.issued + 1)
    let later := Store.insertImages issuer faults (added + 1) (s.logged [row]) rest
    Store.insertImages issuer faults added s (i :: rest) =
      (later.1.map (row :: ·), later.2) := by
  intro row later
  rw [Store.insertImages, insertImage_of_ne issuer faults s h]
  dsimp only [later]
  generalize Store.insertImages issuer faults (added + 1) (s.logged [row]) rest = later
  obtain ⟨rows, t⟩ := later
  cases rows with
  | none => rfl
  | some rows => rfl

/-- If one of some images cannot be added, they are not all added. -/
theorem insertImages_eq_none {n : Nat} (hn : faults.imagesAfter = some n) (images : List NewImage)
    {added : Nat} (hfrom : added ≤ n) (hto : n < added + images.length) :
    (Store.insertImages issuer faults added s images).1 = none := by
  -- Each image that is added brings the next one nearer to the one that cannot be.
  induction images generalizing added s with
  | nil => exact absurd hto (Nat.not_lt.mpr hfrom)
  | cons i rest ih =>
    rw [List.length_cons] at hto
    by_cases hlast : n = added
    · rw [Store.insertImages, Store.insertImage, if_pos (hlast ▸ hn)]
    · have hne : faults.imagesAfter ≠ some added := by
        rw [hn]
        exact fun h => hlast (Option.some.inj h)
      have hrest := ih (s.logged [i.row issuer (s.issued + 1)])
        (show added + 1 ≤ n by omega) (by omega)
      rw [insertImages_cons_of_ne issuer faults s hne, hrest]
      rfl

/-- If each of some images can be added, all their rows come to the end of the log. -/
theorem insertImages_eq_some (images : List NewImage) {added : Nat}
    (h : ∀ n ∈ faults.imagesAfter, n < added ∨ added + images.length ≤ n) :
    Store.insertImages issuer faults added s images =
      (some (numbered issuer s.issued images), s.logged (numbered issuer s.issued images)) := by
  -- The store and the number of images before go along, as the rows are numbered on.
  induction images generalizing added s with
  | nil =>
    rw [Store.insertImages]
    exact Prod.ext rfl s.logged_nil.symm
  | cons i rest ih =>
    rw [List.length_cons] at h
    have hne : faults.imagesAfter ≠ some added := by
      intro heq
      have := h added heq
      omega
    have hrest := ih (s.logged [i.row issuer (s.issued + 1)])
      (show ∀ n ∈ faults.imagesAfter, n < added + 1 ∨ added + 1 + rest.length ≤ n by
        intro n hn
        have := h n hn
        omega)
    have hissued : (s.logged [i.row issuer (s.issued + 1)]).issued = s.issued + 1 := rfl
    rw [hissued] at hrest
    rw [insertImages_cons_of_ne issuer faults s hne, hrest, Store.logged_singleton_logged,
      numbered_cons]
    rfl

/-- If nothing goes wrong, the rows of all images come to the end of the log. -/
theorem addImages_of_logWorks {images : List NewImage} (h : faults.LogWorks images.length) :
    s.addImages issuer faults images =
      (some (numbered issuer s.issued images), s.logged (numbered issuer s.issued images)) := by
  have hroom : ∀ n ∈ faults.imagesAfter, n < 0 ∨ 0 + images.length ≤ n := by
    intro n hn
    rw [Nat.zero_add]
    exact .inr (h.inserts n hn)
  have hall := insertImages_eq_some issuer faults s images hroom
  rw [Store.addImages, h.connects, Store.transaction, hall, h.commits]
  rfl

/-- If something goes wrong, at whatever point, no row is left in the log. -/
theorem addImages_of_not_logWorks {images : List NewImage} (h : ¬faults.LogWorks images.length) :
    ∃ n, s.addImages issuer faults images = (none, { s with issued := n }) := by
  by_cases hconnects : faults.connecting = true
  · rw [Store.addImages, hconnects]
    exact ⟨s.issued, rfl⟩
  rw [Bool.not_eq_true] at hconnects
  rw [Store.addImages, hconnects, Store.transaction]
  -- What is left to go wrong is an image that cannot be added, or the end of the transaction.
  by_cases hinserts : ∀ n ∈ faults.imagesAfter, images.length ≤ n
  · have hcommits : faults.committing = true := by
      by_contra hcommits
      exact h ⟨hconnects, hinserts, Bool.not_eq_true _ ▸ hcommits⟩
    have hroom : ∀ n ∈ faults.imagesAfter, n < 0 ∨ 0 + images.length ≤ n := by
      intro n hn
      rw [Nat.zero_add]
      exact .inr (hinserts n hn)
    rw [insertImages_eq_some issuer faults s images hroom, hcommits]
    exact ⟨_, rfl⟩
  · obtain ⟨n, hn, hlt⟩ : ∃ n ∈ faults.imagesAfter, n < images.length := by
      by_contra hnone
      exact hinserts fun n hn => Nat.not_lt.mp fun hlt => hnone ⟨n, hn, hlt⟩
    rw [← Nat.zero_add images.length] at hlt
    have hnone := insertImages_eq_none issuer faults s hn images (Nat.zero_le n) hlt
    cases hadded : Store.insertImages issuer faults 0 s images with
    | mk rows t =>
      rw [hadded] at hnone
      obtain rfl : rows = none := hnone
      exact ⟨t.issued, rfl⟩

/-- The images of a project are added for it. -/
theorem addImages_changesOnly {project : Text} {images : List NewImage}
    (h : ∀ i ∈ images, i.project = project) :
    ChangesOnly project s (s.addImages issuer faults images).2 := by
  by_cases hworks : faults.LogWorks images.length
  · -- The new rows are those of the images, and so of the project.
    rw [addImages_of_logWorks issuer faults s hworks]
    refine ⟨rfl, ⟨rfl, rfl⟩, fun _ _ => rfl, ?_⟩
    intro other hother
    exact filter_append_of_project ImageRow.project hother s.images
      fun _ => project_of_mem_numbered issuer h
  · obtain ⟨n, hn⟩ := addImages_of_not_logWorks issuer faults s hworks
    rw [hn]
    exact .of_issued project s n

theorem deleteImage_snd (project id : Text) :
    (s.deleteImage project id).2 =
      { s with images := s.images.filter fun r => !Store.isImage project id r } := rfl

/-- Only the images of the given project are deleted, whatever the identity is. -/
theorem deleteImage_changesOnly (project id : Text) :
    ChangesOnly project s (s.deleteImage project id).2 := by
  rw [deleteImage_snd]
  refine ⟨rfl, ⟨rfl, rfl⟩, fun _ _ => rfl, ?_⟩
  intro other hother
  rw [Store.imagesOf, Store.imagesOf, List.filter_filter]
  refine List.filter_congr ?_
  intro r _
  by_cases hr : r.project = other
  · -- A row of another project is not the image that is deleted, even if it has its identity.
    have hkept : Store.isImage project id r = false := by
      rw [Store.isImage, hr, beq_false_of_ne hother, Bool.false_and]
    rw [hkept, Bool.not_false, Bool.and_true]
  · rw [beq_false_of_ne hr, Bool.false_and]

end CanvasPrompt.Database
