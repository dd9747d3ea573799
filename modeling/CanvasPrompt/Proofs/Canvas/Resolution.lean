import CanvasPrompt.Canvas.Resolve
import CanvasPrompt.Context.Basic
import CanvasPrompt.Proofs.Number.Overflow
import Mathlib.Data.List.Forall2
import Mathlib.Data.List.ReduceOption

/-!
# Resolving any editor data

Whatever values stand in the lists of nodes and edges, they resolve to a canvas, with one exception:
a coordinate that is a whole number too large for a double. This module says apart from the program
what an entry stands for:

* `Means v d`: a coordinate means a number; `Oversized v`: it is too large;
* `LiesAt v p`: the place of a node; `Unplaceable v`: it cannot be worked out;
* `TextOf data n`, `ImageOf data n`: what the data of a node holds, field by field, with the default
  of each field that is malformed;
* `NodeOf v n`, `EdgeOf v e`: what an entry stands for, or that it is passed over.

The main statement is `resolves_unless_oversized`, and `oversized_coordinate_is_refused` is a canvas
of the exceptional kind.
-/

namespace CanvasPrompt.Canvas

open Json (field)

/-! ## Coordinates -/

/-- The number that a coordinate means. -/
inductive Means : Json → Double → Prop where
  /-- An absent one means zero. -/
  | absent {v : Json} (h : v.truthy = false) : Means v .zero
  /-- The truth value means one. -/
  | truth {d : Double} (h : Double.ofInt? 1 = some d) : Means (.bool true) d
  /-- A whole number means the nearest double. -/
  | whole {i : Int} {d : Double} (hi : i ≠ 0) (h : Double.ofInt? i = some d) : Means (.int i) d
  /-- A double means itself. -/
  | real {d : Double} (hd : d.isZero = false) : Means (.float d) d
  /-- A text means the number that it reads as. -/
  | text {t : Text} {d : Double} (ht : t ≠ []) (h : Text.readReal? t = some d) : Means (.str t) d

/-- The coordinate is a whole number that is too large for a double. -/
def Oversized (v : Json) : Prop :=
  ∃ i : Int, v = .int i ∧ Double.overflowBound ≤ i.natAbs

theorem coordinate_of_falsy {v : Json} (h : v.truthy = false) :
    coordinate v = .ok (some .zero) := by
  unfold coordinate
  rw [h]
  rfl

theorem coordinate_of_truthy (v : Json) : v.truthy = true →
    coordinate v =
      match v with
      | .bool _ => .ok (Double.ofInt? 1)
      | .int i =>
        match Double.ofInt? i with
        | some d => .ok (some d)
        | none => .error .coordinateTooLarge
      | .float d => .ok (some d)
      | .str t => .ok (Text.readReal? t)
      | _ => .ok none := by
  intro h
  unfold coordinate
  rw [h]
  rfl

theorem truthy_of_oversized {v : Json} (h : Oversized v) : v.truthy = true := by
  obtain ⟨i, rfl, hi⟩ := h
  rw [← Double.ofInt?_eq_none_iff] at hi
  apply bne_iff_ne.mpr
  -- Zero is no such number.
  rintro rfl
  exact absurd hi (by decide)

/-- A coordinate is refused exactly if it is too large. -/
theorem coordinate_eq_error_iff {v : Json} {e : ResolveError} :
    coordinate v = .error e ↔ e = .coordinateTooLarge ∧ Oversized v := by
  constructor
  · intro h
    -- Nothing but a whole number can be refused, and it is for its size.
    cases htruthy : v.truthy with
    | false =>
      rw [coordinate_of_falsy htruthy] at h
      cases h
    | true =>
      rw [coordinate_of_truthy v htruthy] at h
      cases v with
      | int i =>
        dsimp only at h
        cases hi : Double.ofInt? i with
        | some d =>
          rw [hi] at h
          cases h
        | none =>
          rw [hi] at h
          cases h
          exact ⟨rfl, i, rfl, Double.ofInt?_eq_none_iff i |>.mp hi⟩
      | null => cases h
      | bool b => cases h
      | float d => cases h
      | str t => cases h
      | arr items => cases h
      | obj ms => cases h
  · rintro ⟨rfl, h⟩
    rw [coordinate_of_truthy v (truthy_of_oversized h)]
    obtain ⟨i, rfl, hi⟩ := h
    dsimp only
    rw [(Double.ofInt?_eq_none_iff i).mpr hi]

/-- A coordinate gives a number exactly if it means it. -/
theorem coordinate_eq_some_iff {v : Json} {d : Double} :
    coordinate v = .ok (some d) ↔ Means v d := by
  constructor
  · intro h
    cases htruthy : v.truthy with
    | false =>
      rw [coordinate_of_falsy htruthy] at h
      cases h
      exact .absent htruthy
    | true =>
      rw [coordinate_of_truthy v htruthy] at h
      cases v with
      | bool b =>
        obtain rfl : b = true := htruthy
        exact .truth (Except.ok.inj h)
      | int i =>
        dsimp only at h
        cases hi : Double.ofInt? i with
        | some d' =>
          rw [hi] at h
          cases h
          exact .whole (bne_iff_ne.mp htruthy) hi
        | none =>
          rw [hi] at h
          cases h
      | float d' =>
        cases h
        exact .real (Bool.not_eq_true' _ ▸ htruthy)
      | str t =>
        refine .text ?_ (Except.ok.inj h)
        rintro rfl
        cases htruthy
      | null => cases h
      | arr items => cases h
      | obj ms => cases h
  · intro h
    -- Each meaning but that of an absent value is one of a value that counts as true.
    cases h with
    | absent h => exact coordinate_of_falsy h
    | truth h => rw [coordinate_of_truthy (.bool true) rfl, h]
    | @whole i d hi h =>
      have htruthy : (Json.int i).truthy = true := bne_iff_ne.mpr hi
      rw [coordinate_of_truthy _ htruthy]
      dsimp only
      rw [h]
    | real hd =>
      have htruthy : (Json.float d).truthy = true := by rw [Json.truthy, hd, Bool.not_false]
      rw [coordinate_of_truthy _ htruthy]
    | @text t d ht h =>
      have htruthy : (Json.str t).truthy = true := by
        rw [Json.truthy, List.isEmpty_eq_false_iff.mpr ht, Bool.not_false]
      rw [coordinate_of_truthy _ htruthy]
      dsimp only
      rw [h]

/-- A coordinate is refused, means a number, or means none. -/
theorem coordinate_cases (v : Json) :
    (coordinate v = .error .coordinateTooLarge ∧ Oversized v) ∨
      (∃ d, coordinate v = .ok (some d) ∧ Means v d ∧ ¬Oversized v) ∨
      (coordinate v = .ok none ∧ (∀ d, ¬Means v d) ∧ ¬Oversized v) := by
  -- What is refused is oversized and nothing else is, so the other two cases exclude it.
  have hoversized : Oversized v → coordinate v = .error .coordinateTooLarge :=
    fun h => coordinate_eq_error_iff.mpr ⟨rfl, h⟩
  cases h : coordinate v with
  | error e =>
    obtain ⟨rfl, hv⟩ := coordinate_eq_error_iff.mp h
    exact .inl ⟨rfl, hv⟩
  | ok d =>
    rw [h] at hoversized
    cases d with
    | some d => exact .inr (.inl ⟨d, rfl, coordinate_eq_some_iff.mp h, nofun ∘ hoversized⟩)
    | none =>
      refine .inr (.inr ⟨rfl, ?_, nofun ∘ hoversized⟩)
      intro d hd
      rw [coordinate_eq_some_iff.mpr hd] at h
      cases h

/-! ## Places -/

/-- The place of a node: the origin, unless both coordinates mean numbers. -/
inductive LiesAt : Json → Position → Prop where
  /-- Both coordinates mean numbers. -/
  | there {ms : Members} {x y : Double} (hx : Means (field ms "x") x)
      (hy : Means (field ms "y") y) : LiesAt (.obj ms) ⟨x, y⟩
  /-- There are no two coordinates that mean numbers. -/
  | origin {v : Json}
      (h : ∀ ms x y, v = .obj ms → Means (field ms "x") x → ¬Means (field ms "y") y) :
      LiesAt v .origin

/-- The first coordinate is too large, or else the second one, if it is looked at. -/
def Unplaceable (v : Json) : Prop :=
  ∃ ms, v = .obj ms ∧
    (Oversized (field ms "x") ∨ (∃ x, Means (field ms "x") x) ∧ Oversized (field ms "y"))

theorem eq_obj_of_isObject {v : Json} (h : v.isObject = true) : ∃ ms, v = .obj ms := by
  cases v with
  | obj ms => exact ⟨ms, rfl⟩
  | _ => cases h

theorem position_of_no_object {v : Json} (h : v.isObject = false) : position v = .ok .origin := by
  cases v with
  | obj ms => cases h
  | _ => rfl

theorem not_unplaceable_of_no_object {v : Json} (h : v.isObject = false) : ¬Unplaceable v := by
  rintro ⟨ms, rfl, -⟩
  cases h

theorem not_unplaceable {ms : Members} (hx : ¬Oversized (field ms "x"))
    (hy : ∀ x, Means (field ms "x") x → ¬Oversized (field ms "y")) :
    ¬Unplaceable (.obj ms) := by
  rintro ⟨_, ⟨⟩, hover | ⟨⟨x, hmeans⟩, hover⟩⟩
  · exact hx hover
  · exact hy x hmeans hover

/-- The second coordinate is looked at if the first one means a number. -/
theorem position_of_first {ms : Members} {x : Double}
    (hx : coordinate (field ms "x") = .ok (some x)) :
    position (.obj ms) =
      (coordinate (field ms "y")).map fun y => (y.map (Position.mk x)).getD .origin := by
  rw [position, hx]
  dsimp only
  cases coordinate (field ms "y") with
  | error e => rfl
  | ok y =>
    cases y with
    | none => rfl
    | some y => rfl

/-- A place is refused, or it is where the node lies. -/
theorem position_cases (v : Json) :
    (position v = .error .coordinateTooLarge ∧ Unplaceable v) ∨
      ∃ p, position v = .ok p ∧ LiesAt v p ∧ ¬Unplaceable v := by
  cases hv : v.isObject with
  | false =>
    refine .inr ⟨_, position_of_no_object hv, .origin ?_, not_unplaceable_of_no_object hv⟩
    rintro ms x y rfl
    cases hv
  | true =>
    obtain ⟨ms, rfl⟩ := eq_obj_of_isObject hv
    rcases coordinate_cases (field ms "x") with ⟨hx, hover⟩ | ⟨x, hx, hmeans, hfits⟩ |
      ⟨hx, hmeans, hfits⟩
    · refine .inl ⟨?_, ms, rfl, .inl hover⟩
      rw [position, hx]
    · -- The first coordinate is a number, so that all depends on the second one.
      rw [position_of_first hx]
      rcases coordinate_cases (field ms "y") with ⟨hy, hover⟩ | ⟨y, hy, hmeans', hfits'⟩ |
        ⟨hy, hmeans', hfits'⟩
      · rw [hy]
        exact .inl ⟨rfl, ms, rfl, .inr ⟨⟨x, hmeans⟩, hover⟩⟩
      · rw [hy]
        exact .inr ⟨_, rfl, .there hmeans hmeans', not_unplaceable hfits fun _ _ => hfits'⟩
      · rw [hy]
        refine .inr ⟨_, rfl, .origin ?_, not_unplaceable hfits fun _ _ => hfits'⟩
        rintro _ _ y ⟨⟩ -
        exact hmeans' y
    · -- The first coordinate is no number, so that the second one is not looked at.
      refine .inr ⟨.origin, ?_, .origin ?_, not_unplaceable hfits ?_⟩
      · rw [position, hx]
      · rintro _ x y ⟨⟩ h
        exact absurd h (hmeans x)
      · intro x h
        exact absurd h (hmeans x)

/-! ## Data -/

/-- What the data of a text node holds. -/
structure TextOf (data : Members) (n : TextNode) : Prop where
  described : (field data "text").kind ≠ .null → n.text = (field data "text").display
  undescribed : (field data "text").kind = .null → n.text = []
  tagged : ∀ items, field data "tags" = .arr items →
    n.tags = (items.filter fun v => v.kind != .null).map Json.display
  untagged : (field data "tags").kind ≠ .list → n.tags = []

/-- What the data of an image node holds. -/
structure ImageOf (data : Members) (n : ImageNode) : Prop where
  url : n.sourceUrl = Json.trimmed? ((field data "src").orElse (field data "url"))
  unfetchable : (∀ url ∈ n.sourceUrl, Url.isPersisted url = false) → Context.reference? n = none
  altLabel : n.altLabel = Json.trimmed? (field data "alt")
  note : n.note = Json.trimmed? (field data "note")
  roleLabel : n.roleLabel = Json.trimmed? (field data "role")
  named : ∀ t ∈ n.roleLabel, ∀ role : Role, Text.lower (Text.strip t) = role.name → n.role = role
  unnamed : (∀ t ∈ n.roleLabel, ∀ role : Role, Text.lower (Text.strip t) ≠ role.name) →
    n.role = .reference
  failed : (field data "uploadError").truthy = true → n.uploadState = .failed
  uploading : (field data "uploadError").truthy = false → (field data "uploading").truthy = true →
    n.uploadState = .uploading
  stored : (field data "uploadError").truthy = false → (field data "uploading").truthy = false →
    ∀ t, field data "uploadState" = .str t →
      ∀ state : UploadState, Text.lower t = state.name → n.uploadState = state
  idle : (field data "uploadError").truthy = false → (field data "uploading").truthy = false →
    (∀ t, field data "uploadState" = .str t → ∀ state : UploadState, Text.lower t ≠ state.name) →
      n.uploadState = .idle

theorem description_eq {v : Json} (h : v.kind ≠ .null) : description v = v.display := by
  cases v with
  | null => exact absurd rfl h
  | _ => rfl

theorem tags_eq_nil {v : Json} (h : v.kind ≠ .list) : tags v = [] := by
  cases v with
  | arr items => exact absurd rfl h
  | _ => rfl

/-- A name is the name of one role. -/
theorem role_named? (role : Role) : Role.named? role.name = some role := by
  cases role with
  | subject => decide
  | scene => decide
  | style => decide
  | reference => decide

theorem role_named?_eq_none {t : Text} (h : ∀ role : Role, t ≠ role.name) :
    Role.named? t = none := by
  rw [Role.named?, List.find?_eq_none]
  intro role _ hname
  exact h role (beq_iff_eq.mp hname).symm

/-- A name is the name of one state. -/
theorem uploadState_named? (state : UploadState) : UploadState.named? state.name = some state := by
  cases state with
  | idle => decide
  | uploading => decide
  | failed => decide

theorem uploadState_named?_eq_none {t : Text} (h : ∀ state : UploadState, t ≠ state.name) :
    UploadState.named? t = none := by
  rw [UploadState.named?, List.find?_eq_none]
  intro state _ hname
  exact h state (beq_iff_eq.mp hname).symm

/-- A label that names no role means a reference, and so does no label at all. -/
theorem ofLabel_eq_reference {label : Option Text}
    (h : ∀ t ∈ label, ∀ role : Role, Text.lower (Text.strip t) ≠ role.name) :
    Role.ofLabel label = .reference := by
  cases label with
  | none => decide
  | some t =>
    rw [Role.ofLabel, Option.getD_some, role_named?_eq_none (h t rfl)]
    rfl

theorem textOf_read (data : Members) (id : Text) (p : Position) :
    TextOf data ⟨id, description (field data "text"), tags (field data "tags"), p⟩ where
  described := description_eq
  undescribed h := by
    dsimp only
    cases hv : field data "text" with
    | null => rfl
    | _ => rw [hv] at h; cases h
  tagged items h := by
    dsimp only
    rw [h]
    rfl
  untagged := tags_eq_nil

theorem imageOf_read (data : Members) (id : Text) (p : Position) :
    ImageOf data
      { id
        sourceUrl := Json.trimmed? ((field data "src").orElse (field data "url"))
        altLabel := Json.trimmed? (field data "alt")
        note := Json.trimmed? (field data "note")
        roleLabel := Json.trimmed? (field data "role")
        uploadState := uploadState data
        position := p } where
  url := rfl
  -- The address is looked at when the image is made a reference.
  unfetchable h := by
    dsimp only at h
    rw [Context.reference?]
    dsimp only
    cases hurl : Json.trimmed? ((field data "src").orElse (field data "url")) with
    | none => rfl
    | some url =>
      dsimp only
      rw [h url hurl]
      rfl
  altLabel := rfl
  note := rfl
  roleLabel := rfl
  named t ht role hname := by
    dsimp only at ht
    rw [ImageNode.role, Role.ofLabel]
    dsimp only
    rw [ht, Option.getD_some, hname, role_named?]
    rfl
  unnamed := ofLabel_eq_reference
  failed h := by
    dsimp only
    rw [uploadState, h]
    rfl
  uploading h h' := by
    dsimp only
    rw [uploadState, h, h']
    rfl
  stored h h' t ht state hname := by
    dsimp only
    rw [uploadState, h, h', ht]
    dsimp only
    rw [hname, uploadState_named?]
    rfl
  -- A state that is named wrongly, or not as a text, counts as none.
  idle h h' hnone := by
    dsimp only
    rw [uploadState, h, h']
    cases hv : field data "uploadState" with
    | str t =>
      dsimp only
      rw [uploadState_named?_eq_none (hnone t hv)]
      rfl
    | _ => rfl

/-! ## Entries -/

/-- What an entry in the list of nodes stands for. -/
inductive NodeOf : Json → Option Node → Prop where
  /-- An entry that is no object is passed over. -/
  | noObject {v : Json} (h : v.isObject = false) : NodeOf v none
  /-- An entry without an identity is passed over. -/
  | noIdentity {ms : Members} (h : Json.trimmed? (field ms "id") = none) : NodeOf (.obj ms) none
  /-- An entry of an unknown type is passed over. -/
  | noType {ms : Members} (h : nodeType? ms = none) : NodeOf (.obj ms) none
  /-- A text node. Data that are no object hold nothing. -/
  | text {ms : Members} {n : TextNode} (hid : Json.trimmed? (field ms "id") = some n.id)
      (htype : nodeType? ms = some .text) (hplace : LiesAt (field ms "position") n.position)
      (hdata : TextOf (field ms "data").members n) : NodeOf (.obj ms) (some (.text n))
  /-- An image node. Data that are no object hold nothing. -/
  | image {ms : Members} {n : ImageNode} (hid : Json.trimmed? (field ms "id") = some n.id)
      (htype : nodeType? ms = some .image) (hplace : LiesAt (field ms "position") n.position)
      (hdata : ImageOf (field ms "data").members n) : NodeOf (.obj ms) (some (.image n))

/-- An entry with an identity whose place cannot be worked out. -/
def Refused (v : Json) : Prop :=
  ∃ ms, v = .obj ms ∧ Json.trimmed? (field ms "id") ≠ none ∧ Unplaceable (field ms "position")

/-- An object in the list of nodes is refused, or it stands for a node or for none. -/
theorem resolveNode_cases (ms : Members) :
    (resolveNode ms = .error .coordinateTooLarge ∧ Refused (.obj ms)) ∨
      ∃ n, resolveNode ms = .ok n ∧ NodeOf (.obj ms) n ∧ ¬Refused (.obj ms) := by
  cases hid : Json.trimmed? (field ms "id") with
  | none =>
    refine .inr ⟨none, ?_, .noIdentity hid, ?_⟩
    · rw [resolveNode, hid]
    · rintro ⟨_, ⟨⟩, hid', -⟩
      exact hid' hid
  | some id =>
    -- The place is worked out before the type is looked at.
    rcases position_cases (field ms "position") with ⟨hplace, hun⟩ | ⟨p, hplace, hlies, hun⟩
    · refine .inl ⟨?_, ms, rfl, ?_, hun⟩
      · rw [resolveNode, hid]
        dsimp only
        rw [hplace]
      · rw [hid]
        exact nofun
    · have hfits : ¬Refused (.obj ms) := by
        rintro ⟨_, ⟨⟩, -, hun'⟩
        exact hun hun'
      rw [resolveNode, hid]
      dsimp only
      rw [hplace]
      dsimp only
      cases htype : nodeType? ms with
      | none => exact .inr ⟨_, rfl, .noType htype, hfits⟩
      | some type =>
        cases type with
        | text => exact .inr ⟨_, rfl, .text hid htype hlies (textOf_read _ id p), hfits⟩
        | image => exact .inr ⟨_, rfl, .image hid htype hlies (imageOf_read _ id p), hfits⟩

theorem resolveNodes_cons_of_no_object {v : Json} (h : v.isObject = false) (rest : List Json) :
    resolveNodes (v :: rest) = resolveNodes rest := by
  cases v with
  | obj ms => cases h
  | _ => rfl

theorem not_refused_of_no_object {v : Json} (h : v.isObject = false) : ¬Refused v := by
  rintro ⟨ms, rfl, -⟩
  cases h

/-- The entries of a list of nodes are resolved each on its own, unless one of them is refused. -/
theorem resolveNodes_cases (entries : List Json) :
    (resolveNodes entries = .error .coordinateTooLarge ∧ ∃ v ∈ entries, Refused v) ∨
      ∃ ns, resolveNodes entries = .ok ns.reduceOption ∧ List.Forall₂ NodeOf entries ns ∧
        ∀ v ∈ entries, ¬Refused v := by
  -- The entry in front is looked at first, so that the first refused entry ends the induction.
  induction entries with
  | nil => exact .inr ⟨[], rfl, .nil, nofun⟩
  | cons v rest ih =>
    cases hv : v.isObject with
    | false =>
      have hfits := not_refused_of_no_object hv
      rw [resolveNodes_cons_of_no_object hv]
      rcases ih with ⟨hrest, w, hw, hrefused⟩ | ⟨ns, hrest, hnodes, hnone⟩
      · exact .inl ⟨hrest, w, List.mem_cons_of_mem v hw, hrefused⟩
      · exact .inr ⟨none :: ns, hrest, .cons (.noObject hv) hnodes,
          List.forall_mem_cons.mpr ⟨hfits, hnone⟩⟩
    | true =>
      obtain ⟨ms, rfl⟩ := eq_obj_of_isObject hv
      rw [resolveNodes]
      rcases resolveNode_cases ms with ⟨hnode, hrefused⟩ | ⟨n, hnode, hstands, hfits⟩
      · rw [hnode]
        exact .inl ⟨rfl, _, List.mem_cons_self, hrefused⟩
      rw [hnode]
      dsimp only
      rcases ih with ⟨hrest, w, hw, hrefused⟩ | ⟨ns, hrest, hnodes, hnone⟩
      · rw [hrest]
        exact .inl ⟨rfl, w, List.mem_cons_of_mem _ hw, hrefused⟩
      · rw [hrest]
        refine .inr ⟨n :: ns, ?_, .cons hstands hnodes, List.forall_mem_cons.mpr ⟨hfits, hnone⟩⟩
        cases n with
        | none => rfl
        | some n => rfl

/-- What an object in the list of edges holds. -/
structure EdgeFrom (ms : Members) (e : Edge) : Prop where
  source : Json.trimmed? (field ms "source") = some e.source
  target : Json.trimmed? (field ms "target") = some e.target
  named : ∀ id, Json.trimmed? (field ms "id") = some id → e.id = id
  unnamed : Json.trimmed? (field ms "id") = none → e.id = e.source ++ "->".codes ++ e.target
  labelled : ∀ t, field ms "label" = .str t → e.label = some t
  unlabelled : (field ms "label").kind ≠ .text → e.label = none

/-- What an entry in the list of edges stands for. -/
inductive EdgeOf : Json → Option Edge → Prop where
  /-- An entry that is no object is passed over. -/
  | noObject {v : Json} (h : v.isObject = false) : EdgeOf v none
  /-- An entry that names no start is passed over. -/
  | noSource {ms : Members} (h : Json.trimmed? (field ms "source") = none) : EdgeOf (.obj ms) none
  /-- An entry that names no end is passed over. -/
  | noTarget {ms : Members} (h : Json.trimmed? (field ms "target") = none) : EdgeOf (.obj ms) none
  /-- An edge. -/
  | edge {ms : Members} {e : Edge} (h : EdgeFrom ms e) : EdgeOf (.obj ms) (some e)

theorem text?_eq_none {v : Json} (h : v.kind ≠ .text) : v.text? = none := by
  cases v with
  | str t => exact absurd rfl h
  | _ => rfl

theorem edgeOf_resolveEdge (ms : Members) : EdgeOf (.obj ms) (resolveEdge ms) := by
  rw [resolveEdge]
  cases hsource : Json.trimmed? (field ms "source") with
  | none => exact .noSource hsource
  | some source =>
    cases htarget : Json.trimmed? (field ms "target") with
    | none => exact .noTarget htarget
    | some target =>
      -- Both ends are there; the identity is told, or made of the ends.
      refine .edge ⟨hsource, htarget, ?_, ?_, ?_, text?_eq_none⟩
      · intro id hid
        dsimp only
        rw [hid]
        rfl
      · intro hid
        dsimp only
        rw [hid]
        rfl
      · intro t ht
        dsimp only
        rw [ht]
        rfl

theorem resolveEdges_cons_of_no_object {v : Json} (h : v.isObject = false) (rest : List Json) :
    resolveEdges (v :: rest) = resolveEdges rest := by
  cases v with
  | obj ms => cases h
  | _ => rfl

theorem resolveEdges_cons_obj (ms : Members) (rest : List Json) :
    resolveEdges (.obj ms :: rest) = (resolveEdge ms).toList ++ resolveEdges rest := by
  rw [resolveEdges, List.filterMap_cons]
  dsimp only
  cases resolveEdge ms with
  | none => rfl
  | some e => rfl

/-- The entries of a list of edges are resolved each on its own. -/
theorem exists_edges (entries : List Json) :
    ∃ es, resolveEdges entries = es.reduceOption ∧ List.Forall₂ EdgeOf entries es := by
  -- An entry that is no edge leaves its place empty.
  induction entries with
  | nil => exact ⟨[], rfl, .nil⟩
  | cons v rest ih =>
    obtain ⟨es, hrest, hedges⟩ := ih
    cases hv : v.isObject with
    | false =>
      refine ⟨none :: es, ?_, .cons (.noObject hv) hedges⟩
      rw [resolveEdges_cons_of_no_object hv, hrest]
      rfl
    | true =>
      obtain ⟨ms, rfl⟩ := eq_obj_of_isObject hv
      refine ⟨resolveEdge ms :: es, ?_, .cons (edgeOf_resolveEdge ms) hedges⟩
      rw [resolveEdges_cons_obj, hrest]
      cases resolveEdge ms with
      | none => rfl
      | some e => rfl

theorem entries_arr (items : List Json) : entries (.arr items) = .ok items := by
  cases items with
  | nil => rfl
  | cons v rest => rfl

theorem resolve_arr (nodes edges : List Json) :
    resolve (.arr nodes) (.arr edges) =
      (resolveNodes nodes).map fun ns => ⟨firstOfEachId [] ns, resolveEdges edges⟩ := by
  rw [resolve, entries_arr, entries_arr]
  change (resolveNodes nodes >>= fun ns =>
    Except.ok (Snapshot.mk (firstOfEachId [] ns) (resolveEdges edges))) = _
  cases resolveNodes nodes with
  | error e => rfl
  | ok ns => rfl

/-- Any lists of any values resolve to a context, unless a node has a coordinate that is a whole
number too large for a double. An entry is resolved on its own: it is passed over, or each of its
fields that is malformed takes its default. -/
theorem resolves_unless_oversized (nodes edges : List Json) (userPrompt : Text) (perRoleCap : Int)
    (maxImages : Option Int) :
    let context := (resolve (.arr nodes) (.arr edges)).map fun snapshot =>
      Context.assemble snapshot userPrompt perRoleCap maxImages
    (context = .error .coordinateTooLarge ∧ ∃ v ∈ nodes, Refused v) ∨
      ((∀ v ∈ nodes, ¬Refused v) ∧ ∃ ns es, List.Forall₂ NodeOf nodes ns ∧
        List.Forall₂ EdgeOf edges es ∧
        context = .ok (Context.assemble ⟨firstOfEachId [] ns.reduceOption, es.reduceOption⟩
          userPrompt perRoleCap maxImages)) := by
  intro context
  obtain ⟨es, hedges, hedgeOf⟩ := exists_edges edges
  rcases resolveNodes_cases nodes with ⟨hnodes, hrefused⟩ | ⟨ns, hnodes, hnodeOf, hnone⟩
  · refine .inl ⟨?_, hrefused⟩
    simp only [context, resolve_arr, hnodes]
    rfl
  · refine .inr ⟨hnone, ns, es, hnodeOf, hedgeOf, ?_⟩
    simp only [context, resolve_arr, hnodes, hedges]
    rfl

/-- A text node that lies too far away makes the whole canvas fail. -/
theorem oversized_coordinate_is_refused :
    let place := .obj [("x".codes, .int (Nat.pow 10 400)), ("y".codes, .int 0)]
    let data := .obj [("text".codes, .str "sunset".codes)]
    let node := .obj [("id".codes, .str "n1".codes), ("type".codes, .str "textNode".codes),
      ("position".codes, place), ("data".codes, data)]
    resolve (.arr [node]) (.arr []) = .error .coordinateTooLarge := by
  decide +kernel

end CanvasPrompt.Canvas
