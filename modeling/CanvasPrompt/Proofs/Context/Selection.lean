import CanvasPrompt.Context.Basic

/-!
# Which images a context keeps

Two caps decide which references of a canvas get into its context: one counts within a role, the
other one over all roles in the order of the canvas. This module says for each index of the
references whether it is selected, without a look at the buckets:

* `PassesRoleCap cap refs i`: fewer than `cap` references before index `i` have the same role;
* `IsSelected perRoleCap maxImages refs i`: moreover fewer than `maxImages` references before index
  `i`, of whatever role, pass the caps of their roles.

A negative cap counts as zero. Indices tell apart references that are equal.

The main statement is `assemble_selects`: the context has exactly the selected references, each in
the bucket of its role and in the order of the canvas.
-/

namespace CanvasPrompt.Context

/-- The number of references before index `i` that have the role. -/
def earlierOfRole (refs : List ImageReference) (i : Nat) (role : Role) : Nat :=
  (refs.take i).countP fun r => r.role == role

/-- The reference at index `i` passes the cap of its role. -/
def PassesRoleCap (cap : Int) (refs : List ImageReference) (i : Fin refs.length) : Prop :=
  (earlierOfRole refs i refs[i].role : Int) < max cap 0

instance (cap : Int) (refs : List ImageReference) : DecidablePred (PassesRoleCap cap refs) :=
  fun _ => inferInstanceAs (Decidable (_ < _))

/-- The number of references before index `i` that pass the caps of their roles. -/
def passedBefore (cap : Int) (refs : List ImageReference) (i : Fin refs.length) : Nat :=
  (List.finRange refs.length).countP fun j => decide (j < i) && decide (PassesRoleCap cap refs j)

/-- The reference at index `i` is kept under both caps. -/
def IsSelected (perRoleCap : Int) (maxImages : Option Int) (refs : List ImageReference)
    (i : Fin refs.length) : Prop :=
  PassesRoleCap perRoleCap refs i ∧
    ∀ n ∈ maxImages, (passedBefore perRoleCap refs i : Int) < max n 0

instance (perRoleCap : Int) (maxImages : Option Int) (refs : List ImageReference) :
    DecidablePred (IsSelected perRoleCap maxImages refs) :=
  fun _ => inferInstanceAs (Decidable (_ ∧ _))

/-- The indices that are kept under both caps, in order. -/
def selected (perRoleCap : Int) (maxImages : Option Int) (refs : List ImageReference) :
    List (Fin refs.length) :=
  (List.finRange refs.length).filter fun i => IsSelected perRoleCap maxImages refs i

theorem length_selected_le (perRoleCap : Int) (maxImages : Option Int)
    (refs : List ImageReference) :
    (selected perRoleCap maxImages refs).length ≤ refs.length := by
  calc
    (selected perRoleCap maxImages refs).length
      ≤ (List.finRange refs.length).length := List.length_filter_le _ _
    _ = refs.length := List.length_finRange

/-! ## The cap of each role -/

/-- The role of the reference at index `i` has more room than earlier references take. -/
def HasRoom (room : Role → Nat) (refs : List ImageReference) (i : Fin refs.length) : Prop :=
  earlierOfRole refs i refs[i].role < room refs[i].role

instance (room : Role → Nat) (refs : List ImageReference) : DecidablePred (HasRoom room refs) :=
  fun _ => inferInstanceAs (Decidable (_ < _))

/-- A reference in front takes one place of its role from those behind it. -/
theorem hasRoom_succ (room : Role → Nat) (r : ImageReference) (rest : List ImageReference)
    (i : Fin rest.length) :
    HasRoom room (r :: rest) i.succ ↔
      earlierOfRole rest i rest[i].role + (if r.role = rest[i].role then 1 else 0) <
        room rest[i].role := by
  simp [HasRoom, earlierOfRole, List.countP_cons]

/-- Keeping references while there is room for their role keeps exactly those that have room. -/
theorem capPerRole_eq (room : Role → Nat) (refs : List ImageReference) :
    capPerRole room refs =
      ((List.finRange refs.length).filter fun i => HasRoom room refs i).map refs.get := by
  induction refs generalizing room with
  | nil => rfl
  | cons r rest ih =>
    -- What is kept of the rest, for whatever room `r` leaves to it.
    have htail : ∀ room' : Role → Nat,
        (∀ i, HasRoom room (r :: rest) (Fin.succ i) ↔ HasRoom room' rest i) →
        (((List.finRange rest.length).map Fin.succ).filter fun i =>
          HasRoom room (r :: rest) i).map (r :: rest).get = capPerRole room' rest := by
      intro room' h
      rw [ih, List.filter_map, List.map_map]
      simp only [Function.comp_def, h]
      rfl
    have hhead : HasRoom room (r :: rest) 0 ↔ 0 < room r.role := by
      simp [HasRoom, earlierOfRole]
    simp only [capPerRole, List.length_cons, List.finRange_succ, List.filter_cons, hhead]
    cases hroom : room r.role with
    | zero =>
      rw [if_neg (by simp)]
      refine (htail room fun i => ?_).symm
      rw [hasRoom_succ, HasRoom]
      split
      · next h => rw [← h, hroom]; omega
      · omega
    | succ n =>
      rw [if_pos (by simp), List.map_cons]
      refine congrArg (r :: ·) (htail _ fun i => ?_).symm
      rw [hasRoom_succ, HasRoom]
      by_cases h : r.role = rest[i].role
      · rw [if_pos h, if_pos h.symm, ← h, hroom]; omega
      · rw [if_neg h, if_neg (Ne.symm h)]; omega

/-! ## The cap over all roles -/

/-- The first `n` of the indices that satisfy `p` are those with fewer than `n` such indices before
them. -/
theorem take_filter_finRange {k : Nat} (p : Fin k → Bool) (n : Nat) :
    ((List.finRange k).filter p).take n =
      (List.finRange k).filter fun i =>
        p i && decide ((List.finRange k).countP (fun j => decide (j < i) && p j) < n) := by
  induction k generalizing n with
  | zero => simp
  | succ k ih =>
    -- Whether index 0 satisfies `p` decides how many indices are left for the others.
    have hcount : ∀ i : Fin k,
        (List.finRange (k + 1)).countP (fun j => decide (j < i.succ) && p j) =
          (List.finRange k).countP (fun j => decide (j < i) && p j.succ) +
            if p 0 then 1 else 0 := by
      intro i
      simp [List.finRange_succ, List.countP_cons, List.countP_map, Function.comp_def]
    have hzero : (List.finRange (k + 1)).countP (fun j => decide (j < 0) && p j) = 0 := by
      simp
    rw [List.finRange_succ] at hcount hzero ⊢
    simp only [List.filter_cons, hzero, List.filter_map, Function.comp_def, hcount]
    cases hp : p 0 with
    | false =>
      simp only [Bool.false_eq_true, ↓reduceIte, Bool.false_and, Nat.add_zero]
      rw [← List.map_take, ih]
    | true =>
      cases n with
      | zero => simp
      | succ n =>
        simp only [↓reduceIte, Nat.zero_lt_succ, decide_true, Bool.and_self, List.take_succ_cons,
          Nat.add_lt_add_iff_right]
        rw [← List.map_take, ih]

/-- The references that are kept are those at the selected indices. -/
theorem included_eq (perRoleCap : Int) (maxImages : Option Int) (refs : List ImageReference) :
    included perRoleCap maxImages refs =
      (selected perRoleCap maxImages refs).map refs.get := by
  -- To have room and to pass the cap are both to have few of the role in front.
  have hpass : ∀ i,
      HasRoom (fun _ => perRoleCap.toNat) refs i ↔ PassesRoleCap perRoleCap refs i := by
    intro i
    rw [HasRoom, PassesRoleCap]
    omega
  simp only [included, capPerRole_eq, hpass]
  cases maxImages with
  | none => simp [capTotal, selected, IsSelected]
  | some n =>
    rw [capTotal, ← List.map_take, take_filter_finRange, selected]
    congr 1
    refine List.filter_congr fun i _ => ?_
    have hn : ∀ m : Nat, m < n.toNat ↔ (m : Int) < max n 0 := by omega
    simp [IsSelected, passedBefore, hn]

/-! ## The buckets -/

/-- Every reference is in the bucket of its role and in no other. -/
theorem length_flatMap_ofRole (refs : List ImageReference) :
    (Role.all.flatMap fun role => ofRole role refs).length = refs.length := by
  induction refs with
  | nil => rfl
  | cons r rest ih =>
    simp only [Role.all, ofRole, List.flatMap_cons, List.flatMap_nil, List.length_append,
      List.length_nil, List.filter_cons] at ih ⊢
    cases r.role <;> simp <;> omega

theorem bucket_assemble (s : Snapshot) (userPrompt : Text) (perRoleCap : Int)
    (maxImages : Option Int) (role : Role) :
    (assemble s userPrompt perRoleCap maxImages).bucket role =
      ofRole role (included perRoleCap maxImages (references s)) := by
  cases role <;> rfl

/-- The references of a canvas are those of the image nodes with a persisted URL. -/
theorem references_eq (s : Snapshot) :
    references s =
      (s.imageNodes.filter fun n => Url.isPersistedOption n.sourceUrl).map fun n =>
        ⟨Text.strip (n.sourceUrl.getD []), n.altLabel, n.note, n.role⟩ := by
  rw [references]
  induction s.imageNodes with
  | nil => rfl
  | cons n rest ih =>
    rw [List.filterMap_cons, ih, List.filter_cons]
    cases hurl : n.sourceUrl with
    | none => simp [reference?, hurl, Url.isPersistedOption]
    | some url =>
      by_cases hp : Url.isPersisted url = true
      · simp [reference?, hurl, hp, Url.isPersistedOption]
      · simp [reference?, hurl, hp, Url.isPersistedOption]

/-- Assembling a context selects exactly the references that both caps keep. Each bucket has those
of its role in the order of the canvas, the images of the context are the buckets one after another,
and the rest is counted as dropped. -/
theorem assemble_selects (s : Snapshot) (userPrompt : Text) (perRoleCap : Int)
    (maxImages : Option Int) :
    let refs : List ImageReference :=
      (s.imageNodes.filter fun n => Url.isPersistedOption n.sourceUrl).map fun n =>
        ⟨Text.strip (n.sourceUrl.getD []), n.altLabel, n.note, n.role⟩
    let kept := selected perRoleCap maxImages refs
    let c := assemble s userPrompt perRoleCap maxImages
    (∀ role, c.bucket role = (kept.filter fun i => refs[i].role = role).map refs.get) ∧
      c.images = c.subjectImages ++ c.sceneImages ++ c.styleImages ++ c.referenceImages ∧
      (c.droppedImages : Int) = refs.length - c.images.length := by
  intro refs kept c
  -- The buckets and the count are about the references that the caps leave.
  have hrefs : references s = refs := references_eq s
  have hkept : included perRoleCap maxImages (references s) = kept.map refs.get := by
    rw [hrefs, included_eq]
  have hbucket : ∀ role, c.bucket role = ofRole role (kept.map refs.get) := by
    intro role
    rw [← hkept]
    exact bucket_assemble s userPrompt perRoleCap maxImages role
  have himages : c.images.length = kept.length := by
    rw [images, funext hbucket, length_flatMap_ofRole, List.length_map]
  refine ⟨?_, ?_, ?_⟩
  · intro role
    rw [hbucket, ofRole, List.filter_map]
    congr 1
  · simp [images, Role.all, bucket]
  · have hdropped : c.droppedImages = refs.length - kept.length := by
      show (references s).length - (included perRoleCap maxImages (references s)).length = _
      rw [hkept, List.length_map, hrefs]
    have hle : kept.length ≤ refs.length := length_selected_le perRoleCap maxImages refs
    rw [hdropped, himages]
    omega

/-- Two of three equal references pass the cap of their role, and one more reference the cap over
all roles. -/
example :
    let style : ImageReference := ⟨[], none, none, .style⟩
    let scene : ImageReference := ⟨[], none, none, .scene⟩
    selected 2 (some 3) [style, style, style, scene, scene] = [0, 1, 3] := by
  decide

end CanvasPrompt.Context
