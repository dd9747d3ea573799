import CanvasPrompt.Proofs.Canvas.Resolution
import CanvasPrompt.Proofs.Context.Selection

/-!
# Contexts of growing canvases

A canvas grows when the editor adds nodes and edges at the end, and what a context has taken from it
stays: nothing that was kept gives way to what comes later. The same holds when a cap is raised.
This module introduces

* `GrowsTo c d`: each list of the context `c` is the beginning of that list of `d`, and `d` drops no
  fewer images;
* `resolveNodes_append_eq_ok`: entries are resolved one list after the other;
* `ofRole_capPerRole`: without a cap over all roles, each bucket has the first images of its role.

The main statement is `earliest_kept`.
-/

namespace CanvasPrompt

namespace Canvas

variable {xs ys : List Json}

/-! ## Entries that are added -/

/-- An object in front of some entries resolves, if they all do, to its node in front of theirs. -/
theorem resolveNodes_cons_obj_eq_ok {ms : Members} {rest : List Json} {ns : List Node} :
    resolveNodes (.obj ms :: rest) = .ok ns ↔
      ∃ n later, resolveNode ms = .ok n ∧ resolveNodes rest = .ok later ∧
        ns = n.toList ++ later := by
  rw [resolveNodes]
  constructor
  · intro h
    split at h
    · cases h
    · next n hnode =>
      split at h
      · cases h
      · next later hrest =>
        cases h
        exact ⟨n, later, hnode, hrest, rfl⟩
  · rintro ⟨n, later, hnode, hrest, rfl⟩
    rw [hnode]
    dsimp only
    rw [hrest]

/-- Two lists of entries resolve together if each of them does, to the nodes of both. -/
theorem resolveNodes_append_eq_ok {ns : List Node} :
    resolveNodes (xs ++ ys) = .ok ns ↔
      ∃ earlier later, resolveNodes xs = .ok earlier ∧ resolveNodes ys = .ok later ∧
        ns = earlier ++ later := by
  -- The entries in front are taken one by one, since a failure of one ends the whole.
  induction xs generalizing ns with
  | nil =>
    constructor
    · intro h
      exact ⟨[], ns, rfl, h, rfl⟩
    · rintro ⟨_, later, ⟨⟩, hlater, rfl⟩
      exact hlater
  | cons v rest ih =>
    rw [List.cons_append]
    cases hv : v.isObject with
    | false =>
      rw [resolveNodes_cons_of_no_object hv, resolveNodes_cons_of_no_object hv]
      exact ih
    | true =>
      obtain ⟨ms, rfl⟩ := eq_obj_of_isObject hv
      constructor
      · intro h
        obtain ⟨n, _, hnode, htail, rfl⟩ := resolveNodes_cons_obj_eq_ok.mp h
        obtain ⟨earlier, later, hrest, hlater, rfl⟩ := ih.mp htail
        exact ⟨n.toList ++ earlier, later,
          resolveNodes_cons_obj_eq_ok.mpr ⟨n, earlier, hnode, hrest, rfl⟩, hlater,
          (List.append_assoc _ _ _).symm⟩
      · rintro ⟨_, later, hearlier, hlater, rfl⟩
        obtain ⟨n, earlier, hnode, hrest, rfl⟩ := resolveNodes_cons_obj_eq_ok.mp hearlier
        exact resolveNodes_cons_obj_eq_ok.mpr ⟨n, earlier ++ later, hnode,
          ih.mpr ⟨earlier, later, hrest, hlater, rfl⟩, List.append_assoc _ _ _⟩

/-- The first node of each identity stays the first one when nodes are added. -/
theorem firstOfEachId_prefix_append (taken : List Text) (ns later : List Node) :
    firstOfEachId taken ns <+: firstOfEachId taken (ns ++ later) := by
  induction ns generalizing taken with
  | nil => exact List.nil_prefix
  | cons n rest ih =>
    rw [List.cons_append, firstOfEachId, firstOfEachId]
    split
    · exact ih taken
    · exact (List.prefix_cons_inj n).mpr (ih (n.id :: taken))

theorem resolveEdges_append (xs ys : List Json) :
    resolveEdges (xs ++ ys) = resolveEdges xs ++ resolveEdges ys :=
  List.filterMap_append

/-- What two lists resolve to. -/
theorem resolve_arr_eq_ok {ns es : List Json} {s : Snapshot} :
    resolve (.arr ns) (.arr es) = .ok s ↔
      ∃ nodes, resolveNodes ns = .ok nodes ∧ s = ⟨firstOfEachId [] nodes, resolveEdges es⟩ := by
  rw [resolve_arr]
  cases resolveNodes ns with
  | error e =>
    constructor
    · nofun
    · rintro ⟨_, ⟨⟩, -⟩
  | ok nodes =>
    constructor
    · rintro ⟨⟩
      exact ⟨nodes, rfl, rfl⟩
    · rintro ⟨_, ⟨⟩, rfl⟩
      rfl

section

variable {ns₁ ns₂ es₁ es₂ : List Json}

/-- A canvas resolves with what is added to it exactly if both parts resolve. -/
theorem exists_resolve_append_iff :
    (∃ s, resolve (.arr (ns₁ ++ ns₂)) (.arr (es₁ ++ es₂)) = .ok s) ↔
      (∃ s, resolve (.arr ns₁) (.arr es₁) = .ok s) ∧
        ∃ s, resolve (.arr ns₂) (.arr es₂) = .ok s := by
  simp only [resolve_arr_eq_ok, resolveNodes_append_eq_ok]
  constructor
  · rintro ⟨_, _, ⟨earlier, later, hearlier, hlater, -⟩, -⟩
    exact ⟨⟨_, earlier, hearlier, rfl⟩, ⟨_, later, hlater, rfl⟩⟩
  · rintro ⟨⟨_, earlier, hearlier, -⟩, ⟨_, later, hlater, -⟩⟩
    exact ⟨_, _, ⟨earlier, later, hearlier, hlater, rfl⟩, rfl⟩

/-- The nodes and edges of a canvas are the first ones of the canvas that it grows to. -/
theorem prefix_of_resolve_append {s₁ s : Snapshot}
    (h₁ : resolve (.arr ns₁) (.arr es₁) = .ok s₁)
    (h : resolve (.arr (ns₁ ++ ns₂)) (.arr (es₁ ++ es₂)) = .ok s) :
    s₁.nodes <+: s.nodes ∧ s₁.edges <+: s.edges := by
  obtain ⟨nodes, hnodes, rfl⟩ := resolve_arr_eq_ok.mp h₁
  obtain ⟨_, hall, rfl⟩ := resolve_arr_eq_ok.mp h
  obtain ⟨_, later, hearlier, -, rfl⟩ := resolveNodes_append_eq_ok.mp hall
  rw [hnodes] at hearlier
  cases hearlier
  refine ⟨firstOfEachId_prefix_append [] nodes later, ?_⟩
  rw [resolveEdges_append]
  exact List.prefix_append _ _

end

end Canvas

namespace Context

/-! ## References that are added -/

/-- What is kept of some references under the cap of each role does not depend on later ones, and
what is kept of those comes after it. -/
theorem exists_capPerRole_append (room : Role → Nat) (refs later : List ImageReference) :
    ∃ left, capPerRole room (refs ++ later) = capPerRole room refs ++ capPerRole left later := by
  -- The room that is left when the turn of the later references comes.
  induction refs generalizing room with
  | nil => exact ⟨room, rfl⟩
  | cons r rest ih =>
    rw [List.cons_append, capPerRole, capPerRole]
    cases room r.role with
    | zero => exact ih room
    | succ n =>
      obtain ⟨left, hleft⟩ := ih fun role => if role = r.role then n else room role
      exact ⟨left, congrArg (r :: ·) hleft⟩

theorem length_capPerRole_le (room : Role → Nat) (refs : List ImageReference) :
    (capPerRole room refs).length ≤ refs.length := by
  induction refs generalizing room with
  | nil => exact Nat.le_refl 0
  | cons r rest ih =>
    rw [capPerRole]
    split
    · exact Nat.le_succ_of_le (ih room)
    · exact Nat.succ_le_succ (ih _)

theorem capTotal_prefix (cap : Option Int) {kept more : List ImageReference} (h : kept <+: more) :
    capTotal cap kept <+: capTotal cap more := by
  obtain ⟨rest, rfl⟩ := h
  cases cap with
  | none => exact List.prefix_append kept rest
  | some n =>
    simp only [capTotal, List.take_append]
    exact List.prefix_append _ _

/-- At most the later references are kept beyond those that were kept before them. -/
theorem length_included_append_le (perRoleCap : Int) (maxImages : Option Int)
    (refs later : List ImageReference) :
    (included perRoleCap maxImages (refs ++ later)).length ≤
      (included perRoleCap maxImages refs).length + later.length := by
  obtain ⟨left, hleft⟩ := exists_capPerRole_append (fun _ => perRoleCap.toNat) refs later
  have hlater := length_capPerRole_le left later
  rw [included, included, hleft]
  cases maxImages with
  | none =>
    rw [capTotal, capTotal, List.length_append]
    omega
  | some n =>
    rw [capTotal, capTotal, List.length_take, List.length_take, List.length_append]
    omega

theorem included_prefix_append (perRoleCap : Int) (maxImages : Option Int)
    (refs later : List ImageReference) :
    included perRoleCap maxImages refs <+: included perRoleCap maxImages (refs ++ later) := by
  obtain ⟨left, hleft⟩ := exists_capPerRole_append (fun _ => perRoleCap.toNat) refs later
  rw [included, included, hleft]
  exact capTotal_prefix maxImages (List.prefix_append _ _)

/-! ## Caps that are raised -/

/-- Of each role the first references are kept, as many as there is room for, whatever the other
roles have. -/
theorem ofRole_capPerRole (room : Role → Nat) (role : Role) (refs : List ImageReference) :
    ofRole role (capPerRole room refs) = (ofRole role refs).take (room role) := by
  induction refs generalizing room with
  | nil => rw [capPerRole, ofRole, List.filter_nil, List.take_nil]
  | cons r rest ih =>
    simp only [ofRole] at ih ⊢
    rw [capPerRole]
    by_cases hrole : r.role = role
    · -- The reference takes a place of the role, or finds none.
      subst hrole
      cases hroom : room r.role with
      | zero => simp only [ih, hroom, List.take_zero]
      | succ n =>
        simp only [List.filter_cons, beq_self_eq_true, ↓reduceIte, ih, List.take_succ_cons]
    · -- The reference takes a place of another role, which this one does not depend on.
      have hother : (r.role == role) = false := beq_false_of_ne hrole
      cases room r.role with
      | zero => simp only [List.filter_cons, hother, Bool.false_eq_true, ↓reduceIte, ih]
      | succ n =>
        simp only [List.filter_cons, hother, Bool.false_eq_true, ↓reduceIte, ih,
          if_neg (Ne.symm hrole)]

/-- A reference has the role of its image node. -/
theorem role_of_reference? {n : ImageNode} {r : ImageReference} (h : reference? n = some r) :
    r.role = n.role := by
  rw [reference?] at h
  split at h
  · cases h
  · split at h
    · cases h
      rfl
    · cases h

/-- The references of a role are those of the image nodes of the role. -/
theorem ofRole_references (role : Role) (s : Snapshot) :
    ofRole role (references s) =
      (s.imageNodes.filter fun n => n.role = role).filterMap reference? := by
  rw [ofRole, references]
  -- A reference has the role of its image, so that either may be asked for it.
  induction s.imageNodes with
  | nil => rfl
  | cons n rest ih =>
    rw [List.filterMap_cons, List.filter_cons]
    cases href : reference? n with
    | none =>
      by_cases hrole : n.role = role
      · simp [hrole, href, ih]
      · simp [hrole, ih]
    | some r =>
      by_cases hrole : n.role = role
      · simp [hrole, role_of_reference? href, href, ih]
      · simp [hrole, role_of_reference? href, ih]

/-- Without a cap over all roles, a bucket has the first references of its role. -/
theorem bucket_assemble_none (s : Snapshot) (userPrompt : Text) (perRoleCap : Int) (role : Role) :
    (assemble s userPrompt perRoleCap none).bucket role =
      (ofRole role (references s)).take perRoleCap.toNat := by
  rw [bucket_assemble, included, capTotal, ofRole_capPerRole]

/-! ## Contexts -/

/-- What the first context has is the beginning of what the second one has, and the second one drops
no fewer images. -/
structure GrowsTo (c d : Context) : Prop where
  /-- The images of a role come first among those of the role. -/
  buckets : ∀ role, c.bucket role <+: d.bucket role
  /-- The descriptions come first. -/
  textDescriptors : c.textDescriptors <+: d.textDescriptors
  /-- The relationships come first. -/
  relationships : c.relationships <+: d.relationships
  /-- The images that are dropped stay dropped. -/
  droppedImages : c.droppedImages ≤ d.droppedImages

/-- The context of a canvas grows when nodes and edges are added at its end. -/
theorem growsTo_of_prefix {s t : Snapshot} (hnodes : s.nodes <+: t.nodes)
    (hedges : s.edges <+: t.edges) (userPrompt : Text) (perRoleCap : Int)
    (maxImages : Option Int) :
    (assemble s userPrompt perRoleCap maxImages).GrowsTo
      (assemble t userPrompt perRoleCap maxImages) := by
  obtain ⟨later, hlater⟩ : references s <+: references t :=
    (hnodes.filterMap _).filterMap reference?
  refine ⟨?_, ?_, hedges.filterMap _, ?_⟩
  · intro role
    rw [bucket_assemble, bucket_assemble, ← hlater]
    exact (included_prefix_append perRoleCap maxImages (references s) later).filter _
  · exact ((hnodes.filterMap _).map TextNode.text).filter _
  · -- Of the later references no more can be included than there are.
    have hkept := length_included_append_le perRoleCap maxImages (references s) later
    show (references s).length - (included perRoleCap maxImages (references s)).length ≤
      (references t).length - (included perRoleCap maxImages (references t)).length
    rw [← hlater, List.length_append]
    omega

/-- What is kept under a cap over all roles is kept under a higher one. -/
theorem bucket_prefix_of_maxImages_le (s : Snapshot) (userPrompt : Text) (perRoleCap : Int)
    {m n : Int} (h : m ≤ n) (role : Role) :
    (assemble s userPrompt perRoleCap (some m)).bucket role <+:
      (assemble s userPrompt perRoleCap (some n)).bucket role := by
  rw [bucket_assemble, bucket_assemble]
  exact (List.take_prefix_take_left (Int.toNat_le_toNat h)).filter _

/-- What is kept under a cap over all roles is kept without one. -/
theorem bucket_prefix_of_maxImages_none (s : Snapshot) (userPrompt : Text) (perRoleCap : Int)
    (m : Int) (role : Role) :
    (assemble s userPrompt perRoleCap (some m)).bucket role <+:
      (assemble s userPrompt perRoleCap none).bucket role := by
  rw [bucket_assemble, bucket_assemble]
  exact (List.take_prefix _ _).filter _

/-- What is kept under a cap of each role is kept under a higher one. -/
theorem bucket_prefix_of_perRoleCap_le (s : Snapshot) (userPrompt : Text) {cap cap' : Int}
    (h : cap ≤ cap') (role : Role) :
    (assemble s userPrompt cap none).bucket role <+:
      (assemble s userPrompt cap' none).bucket role := by
  rw [bucket_assemble_none, bucket_assemble_none]
  exact List.take_prefix_take_left (Int.toNat_le_toNat h)

/-- Without a cap over all roles, a bucket follows from the image nodes of its role. -/
theorem bucket_congr_of_imageNodes {s t : Snapshot} {role : Role}
    (h : (s.imageNodes.filter fun n => n.role = role) =
      t.imageNodes.filter fun n => n.role = role)
    (userPrompt userPrompt' : Text) (perRoleCap : Int) :
    (assemble s userPrompt perRoleCap none).bucket role =
      (assemble t userPrompt' perRoleCap none).bucket role := by
  rw [bucket_assemble_none, bucket_assemble_none, ofRole_references, ofRole_references, h]

/-- What is kept earliest stays. Two canvases resolve one after the other exactly if each of them
does, and the context of the first one then grows to that of both, under any caps. For one canvas,
each bucket grows when the cap over all roles is raised or given up. Without that cap each bucket
grows with the cap of its role, and follows from the image nodes of its role alone. -/
theorem earliest_kept (ns₁ ns₂ es₁ es₂ : List Json) :
    ((∃ s, Canvas.resolve (.arr (ns₁ ++ ns₂)) (.arr (es₁ ++ es₂)) = .ok s) ↔
        (∃ s, Canvas.resolve (.arr ns₁) (.arr es₁) = .ok s) ∧
          ∃ s, Canvas.resolve (.arr ns₂) (.arr es₂) = .ok s) ∧
      (∀ s₁ s, Canvas.resolve (.arr ns₁) (.arr es₁) = .ok s₁ →
        Canvas.resolve (.arr (ns₁ ++ ns₂)) (.arr (es₁ ++ es₂)) = .ok s →
          ∀ userPrompt perRoleCap maxImages,
            (assemble s₁ userPrompt perRoleCap maxImages).GrowsTo
              (assemble s userPrompt perRoleCap maxImages)) ∧
      ∀ (s : Snapshot) (userPrompt : Text) (role : Role),
        (∀ perRoleCap m n, m ≤ n →
          (assemble s userPrompt perRoleCap (some m)).bucket role <+:
            (assemble s userPrompt perRoleCap (some n)).bucket role) ∧
        (∀ perRoleCap m,
          (assemble s userPrompt perRoleCap (some m)).bucket role <+:
            (assemble s userPrompt perRoleCap none).bucket role) ∧
        (∀ cap cap', cap ≤ cap' →
          (assemble s userPrompt cap none).bucket role <+:
            (assemble s userPrompt cap' none).bucket role) ∧
        ∀ (t : Snapshot) (userPrompt' : Text) (perRoleCap : Int),
          (s.imageNodes.filter fun n => n.role = role) =
              (t.imageNodes.filter fun n => n.role = role) →
            (assemble s userPrompt perRoleCap none).bucket role =
              (assemble t userPrompt' perRoleCap none).bucket role := by
  refine ⟨Canvas.exists_resolve_append_iff, ?_, ?_⟩
  · intro s₁ s h₁ h userPrompt perRoleCap maxImages
    obtain ⟨hnodes, hedges⟩ := Canvas.prefix_of_resolve_append h₁ h
    exact growsTo_of_prefix hnodes hedges userPrompt perRoleCap maxImages
  · intro s userPrompt role
    refine ⟨?_, ?_, ?_, ?_⟩
    · intro perRoleCap m n hle
      exact bucket_prefix_of_maxImages_le s userPrompt perRoleCap hle role
    · intro perRoleCap m
      exact bucket_prefix_of_maxImages_none s userPrompt perRoleCap m role
    · intro cap cap' hle
      exact bucket_prefix_of_perRoleCap_le s userPrompt hle role
    · intro t userPrompt' perRoleCap h
      exact bucket_congr_of_imageNodes h userPrompt userPrompt' perRoleCap

/-- Of two style images, the second one is dropped under a cap of one. An entry under the identity
of the first one does not take its place, and the bucket of subjects stays as it is. -/
theorem style_image_stays :
    let entry (id role : String) : Json :=
      .obj [("id".codes, .str id.codes), ("type".codes, .str "image".codes),
        ("data".codes, .obj
          [("src".codes, .str "https://x/i".codes), ("role".codes, .str role.codes)])]
    let node (id role : String) : Node :=
      .image ⟨id.codes, some "https://x/i".codes, none, none, some role.codes, .idle, .origin⟩
    let s₁ : Snapshot := ⟨[node "a" "style"], []⟩
    let s : Snapshot := ⟨[node "a" "style", node "b" "style"], []⟩
    let ns₁ := [entry "a" "style"]
    let ns₂ := [entry "a" "subject", entry "b" "style"]
    Canvas.resolve (.arr ns₁) (.arr []) = .ok s₁ ∧
      Canvas.resolve (.arr (ns₁ ++ ns₂)) (.arr ([] ++ [])) = .ok s ∧
      (assemble s₁ [] 1 none).GrowsTo (assemble s [] 1 none) ∧
      (assemble s₁ [] 1 none).droppedImages = 0 ∧ (assemble s [] 1 none).droppedImages = 1 ∧
      (assemble s [] 2 (some 1)).bucket .style <+: (assemble s [] 2 (some 2)).bucket .style ∧
      (assemble s [] 1 none).bucket .style <+: (assemble s [] 2 none).bucket .style ∧
      (assemble s₁ [] 2 none).bucket .subject = (assemble s [] 2 none).bucket .subject := by
  intro entry node s₁ s ns₁ ns₂
  have h₁ : Canvas.resolve (.arr ns₁) (.arr []) = .ok s₁ := by decide +kernel
  have h : Canvas.resolve (.arr (ns₁ ++ ns₂)) (.arr ([] ++ [])) = .ok s := by decide +kernel
  obtain ⟨-, hgrows, hcaps⟩ := earliest_kept ns₁ ns₂ [] []
  obtain ⟨hmax, -, hrole, -⟩ := hcaps s [] .style
  obtain ⟨-, -, -, hown⟩ := hcaps s₁ [] .subject
  refine ⟨h₁, h, hgrows s₁ s h₁ h [] 1 none, ?_, ?_, ?_, ?_, ?_⟩
  · decide +kernel
  · decide +kernel
  · exact hmax 2 1 2 (by decide)
  · exact hrole 1 2 (by decide)
  · exact hown s [] 2 (by decide +kernel)

end Context

end CanvasPrompt
