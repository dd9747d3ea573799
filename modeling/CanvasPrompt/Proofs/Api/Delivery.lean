import CanvasPrompt.Proofs.Api.Handlers
import CanvasPrompt.Proofs.Database.Writing
import Mathlib.Data.List.Forall2

/-!
# Delivery of images

Once a context is loaded, the answer to a request for images follows from what the providers made of
it, whatever that is and wherever the log of images fails. This module introduces

* `Item.Shows provider item image`: what a user sees of an image that a provider made;
* `Service.rowsFor s user r result issued`: the rows that the log gains for a result.

An image is answered with in either case, from its row if all images could be kept and with an
identity of its own if not (`keepImages_of_logWorks`, `keepImages_of_not_logWorks`). The main
statement is `images_delivered`. Without images the answer is 502, unless the error of the provider
holds a number or a text that no answer can hold: `unwritable_error_breaks_down` is such a case.
-/

namespace CanvasPrompt.Api

open Database (Faults ImageRow NewImage Store numbered)
open Generate (GeneratedImage)

/-- An item shows an image that a provider made. -/
structure Item.Shows (provider : Option Text) (item : Item) (image : GeneratedImage) : Prop where
  /-- It is where the image is. -/
  url : item.url = image.url
  /-- It was made from the same prompt. -/
  prompt : item.prompt = image.prompt
  /-- It was made by the provider. -/
  provider : item.provider = provider

namespace Service

variable (s : Service) (faults : Faults) (user : Text) (r : ImageRequest)
  (result : Generate.Result) (store : Store)

/-- The rows that the log gains for a result, numbered on from `issued`. -/
def rowsFor (issued : Nat) : List ImageRow :=
  numbered s.issuer issued (newImages user r result)

theorem length_newImages : (newImages user r result).length = result.images.length :=
  List.length_map _

/-- The rows of a result belong to the request. -/
theorem of_mem_rowsFor {issued : Nat} {row : ImageRow}
    (h : row ∈ s.rowsFor user r result issued) :
    row.project = r.graph.project.toText ∧ row.user = user ∧
      row.promptId = r.promptId.map Uuid.toText := by
  rw [rowsFor, numbered, newImages] at h
  obtain ⟨k, hk, hrow⟩ := List.mem_mapIdx.mp h
  rw [List.getElem_map] at hrow
  rw [← hrow]
  refine ⟨?_, ?_, ?_⟩
  all_goals dsimp only [NewImage.row]

/-- The rows of a result show its images in order. -/
theorem shows_rowsFor (issued : Nat) :
    List.Forall₂ (Item.Shows result.provider) ((s.rowsFor user r result issued).map Item.ofRow)
      result.images := by
  rw [List.forall₂_iff_get]
  constructor
  · rw [List.length_map, rowsFor, Database.length_numbered, length_newImages]
  · intro k hk hk'
    simp only [List.get_eq_getElem, List.getElem_map, rowsFor, numbered, newImages,
      List.getElem_mapIdx]
    exact ⟨rfl, rfl, rfl⟩

/-- The images of a result are shown in order although they are not kept. -/
theorem shows_unkept :
    List.Forall₂ (Item.Shows result.provider) (s.unkept result) result.images := by
  rw [List.forall₂_iff_get]
  constructor
  · rw [unkept, List.length_mapIdx]
  · intro k hk hk'
    simp only [List.get_eq_getElem, unkept, List.getElem_mapIdx]
    exact ⟨rfl, rfl, rfl⟩

/-- If the log works, all images are kept, and answered with from their rows. -/
theorem keepImages_of_logWorks (h : faults.LogWorks result.images.length) :
    let rows := s.rowsFor user r result store.issued
    s.keepImages faults user r result store = (rows.map Item.ofRow, store.logged rows) := by
  rw [← length_newImages user r result] at h
  rw [keepImages, Database.addImages_of_logWorks s.issuer faults store h]
  rfl

/-- If the log fails at any point, no image is kept. -/
theorem keepImages_of_not_logWorks (h : ¬faults.LogWorks result.images.length) :
    ∃ n, s.keepImages faults user r result store =
      (s.unkept result, { store with issued := n }) := by
  rw [← length_newImages user r result] at h
  obtain ⟨n, hn⟩ := Database.addImages_of_not_logWorks s.issuer faults store h
  rw [keepImages, hn]
  exact ⟨n, rfl⟩

/-- Images that are delivered are kept all or not at all, and shown either way. -/
theorem keepImages_cases :
    let kept := s.keepImages faults user r result store
    List.Forall₂ (Item.Shows result.provider) kept.1 result.images ∧
      ((faults.LogWorks result.images.length ∧
          ∃ rows, kept = (rows.map Item.ofRow, store.logged rows) ∧
            ∀ row ∈ rows, row.project = r.graph.project.toText ∧ row.user = user ∧
              row.promptId = r.promptId.map Uuid.toText) ∨
        (¬faults.LogWorks result.images.length ∧
          ∃ n, kept = (s.unkept result, { store with issued := n }))) := by
  intro kept
  -- The items are those of the added rows, or else are made up from the images.
  by_cases hworks : faults.LogWorks result.images.length
  · have hkept : kept = _ := s.keepImages_of_logWorks faults user r result store hworks
    refine ⟨?_, .inl ⟨hworks, _, hkept, fun row => s.of_mem_rowsFor user r result⟩⟩
    rw [hkept]
    exact s.shows_rowsFor user r result store.issued
  · obtain ⟨n, hn⟩ := s.keepImages_of_not_logWorks faults user r result store hworks
    have hkept : kept = _ := hn
    refine ⟨?_, .inr ⟨hworks, n, hkept⟩⟩
    rw [hkept]
    exact s.shows_unkept result

/-! ## Answers that can be written -/

/-- The web framework writes just the values whose numbers are all finite and not too long, whose
texts can all be encoded, and in which at most `room` containers are nested. -/
def Renders (room : Nat) (writes : Json → Bool) : Prop :=
  ∀ v, writes v = true ↔
    v.isFinite = true ∧ v.isEncodable = true ∧ Json.excess? room v = none

theorem renders_isStandard (room : Nat) : Renders room (Json.isStandard room) := by
  intro v
  rw [Json.isStandard, Bool.and_eq_true, Bool.and_eq_true, Option.isNone_iff_eq_none, and_assoc]

theorem isFinite_detailOf (v : Json) : (Answer.detailOf v).isFinite = v.isFinite :=
  Bool.and_true _

theorem isEncodable_detailOf (v : Json) : (Answer.detailOf v).isEncodable = v.isEncodable :=
  Bool.and_true _

theorem isFiniteItems_map_toJson (items : List Item) :
    Json.isFiniteItems (items.map Item.toJson) = true := by
  induction items with
  | nil => rfl
  | cons i rest ih =>
    rw [List.map_cons, Json.isFiniteItems, ih]
    cases hprovider : i.provider with
    | none => simp [Item.toJson, hprovider, optionalText, Json.isFinite, Json.isFiniteMembers]
    | some provider =>
      simp [Item.toJson, hprovider, optionalText, Json.isFinite, Json.isFiniteMembers]

theorem itemExcess?_map_toJson (room : Nat) (items : List Item) :
    Json.itemExcess? (room + 1) (items.map Item.toJson) = none := by
  induction items with
  | nil => rfl
  | cons i rest ih =>
    rw [List.map_cons, Json.itemExcess?, ih, Option.or_none]
    cases hprovider : i.provider with
    | none => simp [Item.toJson, hprovider, optionalText, Json.excess?, Json.memberExcess?]
    | some provider =>
      simp [Item.toJson, hprovider, optionalText, Json.excess?, Json.memberExcess?]

/-- Images can be written if their texts can, as they are objects in a list in an object. -/
theorem writes_toJson {room : Nat} (hroom : 3 ≤ room) {writes : Json → Bool}
    (hwrites : Renders room writes) (a : ImageAnswer) :
    writes a.toJson = a.toJson.isEncodable := by
  obtain ⟨room, rfl⟩ := Nat.exists_eq_add_of_le' hroom
  have hfinite : a.toJson.isFinite = true := by
    simp [ImageAnswer.toJson, Json.isFinite, Json.isFiniteMembers, isFiniteItems_map_toJson]
  have hexcess : Json.excess? (room + 3) a.toJson = none := by
    simp [ImageAnswer.toJson, Json.excess?, Json.memberExcess?, itemExcess?_map_toJson]
  rw [Bool.eq_iff_iff, hwrites, and_iff_right hfinite, and_iff_left hexcess]

/-- Whatever the providers make of the context that a request loads, and wherever the log fails:
without success nothing is kept, and the answer is 502 if the error can be written at all; with
success each image is shown once and in order under the name of its provider, if the answer can be
encoded, and the log gains either exactly the rows that are shown or nothing. -/
theorem images_delivered {room : Nat} (hroom : 3 ≤ room) {writes : Json → Bool}
    (hwrites : Renders room writes) (make : Context → Run (Except Web.Failure Generate.Result))
    (w : World) {c : Context} (h : s.context faults w.store user r.graph = .ok c)
    {result : Generate.Result} (hmade : ((make c).run w.trace).1 = .ok result) :
    let done := generateBy make s faults user r w
    let answer := (answerOf (done.1.map .generated)).sent writes
    let detail := result.error.orElse (.str "Generation failed".codes)
    (result.isSuccess = false →
      done.2.store = w.store ∧
        answer =
          if detail.isFinite = true ∧ detail.isEncodable = true ∧
            Json.excess? room (Answer.detailOf detail) = none
          then .detail 502 detail else .breakdown) ∧
    (result.isSuccess = true → ∀ provider, result.provider = some provider →
      ∃ items,
        let body := (ImageAnswer.mk items provider result.mode).toJson
        answer = (if body.isEncodable then .json 200 body else .breakdown) ∧
        List.Forall₂ (Item.Shows (some provider)) items result.images ∧
        ((faults.LogWorks result.images.length ∧
            ∃ rows, items = rows.map Item.ofRow ∧ done.2.store = w.store.logged rows ∧
              ∀ row ∈ rows, row.project = r.graph.project.toText ∧ row.user = user ∧
                row.promptId = r.promptId.map Uuid.toText) ∨
          (¬faults.LogWorks result.images.length ∧
            items = s.unkept result ∧ ∃ n, done.2.store = { w.store with issued := n }))) ∧
    (result.isSuccess = true → result.provider = none → answer = .breakdown) := by
  intro done answer detail
  have hdone : done = s.deliver faults user r result
      { w with trace := ((make c).run w.trace).2 } := s.generateBy_of_made faults user make h hmade
  have hanswered : answer = (answerOf (done.1.map .generated)).sent writes := rfl
  refine ⟨?_, ?_, ?_⟩
  · -- The error is shown as it is, if the answer can hold it.
    intro hfailed
    rw [s.deliver_of_not_success faults user _ hfailed] at hdone
    have hanswer : answer =
        if writes (Answer.detailOf detail) then .detail 502 detail else .breakdown := by
      rw [hanswered, hdone]
      rfl
    rw [hanswer, hdone]
    refine ⟨rfl, ?_⟩
    simp only [hwrites (Answer.detailOf detail), isFinite_detailOf, isEncodable_detailOf]
  · -- What is answered with is what `keepImages` gives, in both of its cases.
    intro hsuccess provider hprovider
    rw [s.deliver_of_provider faults user _ hsuccess hprovider] at hdone
    obtain ⟨hshows, hlog⟩ := s.keepImages_cases faults user r result w.store
    rw [hprovider] at hshows
    refine ⟨_, ?_, hshows, ?_⟩
    · rw [hanswered, hdone, ← writes_toJson hroom hwrites]
      rfl
    rw [hdone]
    rcases hlog with ⟨hworks, rows, hkept, hrows⟩ | ⟨hfails, n, hkept⟩
    · refine .inl ⟨hworks, rows, ?_, ?_, hrows⟩
      · rw [hkept]
      · rw [hkept]
    · refine .inr ⟨hfails, ?_, n, ?_⟩
      · rw [hkept]
      · rw [hkept]
  · intro hsuccess hprovider
    rw [s.deliver_of_no_provider faults user _ hsuccess hprovider] at hdone
    rw [hanswered, hdone]
    rfl

/-- If the second of two images cannot be added to the log, it stays empty, and both are shown. -/
theorem two_images_shown_although_not_kept :
    let project : Uuid := ⟨0x11111111111141118111111111111111⟩
    let s : Service :=
      { reasoner := none
        options := .default
        config := .default
        client := fun _ _ => .error ⟨.readTimeout, []⟩
        nesting := 985
        chance := 0
        issuer := .counting
        unkeptId := fun _ => []
        unkeptTime := [] }
    let faults : Faults := { Faults.none with imagesAfter := some 1 }
    let r : ImageRequest := ⟨⟨project, "a beach".codes, some [], some []⟩, true, .gemini, none⟩
    let images : List GeneratedImage := [⟨"u".codes, "p".codes⟩, ⟨"v".codes, "p".codes⟩]
    let make : Context → Run (Except Web.Failure Generate.Result) :=
      fun _ => pure (.ok ⟨images, some "gemini".codes, .generate, .null⟩)
    let w : World := ⟨⟨[(project.toText, "ann".codes)], [], [], [], [], 0⟩, .empty⟩
    let done := generateBy make s faults "ann".codes r w
    done.2.store.images = [] ∧
      ∃ items, items.length = 2 ∧
        (answerOf (done.1.map .generated)).sent (Json.isStandard 985) =
          .json 200 (ImageAnswer.mk items "gemini".codes .generate).toJson := by
  intro project s faults r images make w done
  have howns : w.store.owns project.toText "ann".codes = true := by decide +kernel
  have h := s.context_of_blank_canvas (q := r.graph) faults "ann".codes howns rfl rfl
  obtain ⟨-, hsuccess, -⟩ := s.images_delivered faults "ann".codes r (by decide)
    (renders_isStandard 985) make w h rfl
  obtain ⟨items, hanswer, hshows, hlog⟩ := hsuccess rfl "gemini".codes rfl
  rcases hlog with ⟨hworks, -⟩ | ⟨-, hitems, n, hstore⟩
  · -- The log does not work for two images.
    have htwo : 2 ≤ 1 := hworks.inserts 1 rfl
    exact absurd htwo (by decide)
  · -- The items are not from the store, and their texts can be encoded.
    have hencodable :
        (ImageAnswer.mk items "gemini".codes .generate).toJson.isEncodable = true := by
      rw [hitems]
      decide +kernel
    refine ⟨?_, items, hshows.length_eq, hanswer.trans (if_pos hencodable)⟩
    rw [hstore]

/-- An answer of the provider whose error is no text, but a number that is too large: without
another provider there are no images, but the answer is not 502. -/
theorem unwritable_error_breaks_down :
    let project : Uuid := ⟨0x11111111111141118111111111111111⟩
    let reply := "\x7b\"error\":\x7b\"message\":1e400\x7d\x7d".codes
    let s : Service :=
      { reasoner := none
        options := .default
        config :=
          { Generate.Config.default with geminiApiKey := some "k".codes, keylessEnabled := false }
        client := fun _ _ => .ok ⟨400, none, Text.utf8 reply⟩
        nesting := 985
        chance := 0
        issuer := .counting
        unkeptId := fun _ => []
        unkeptTime := [] }
    let r : ImageRequest := ⟨⟨project, "a beach".codes, some [], some []⟩, true, .gemini, none⟩
    let w : World := ⟨⟨[(project.toText, "u1".codes)], [], [], [], [], 0⟩, .empty⟩
    ∃ c, s.context .none w.store "u1".codes r.graph = .ok c ∧
      ((s.makeImages r c).run w.trace).1.toOption.map Generate.Result.isSuccess = some false ∧
      ((answerOf ((s.generate .none "u1".codes r w).1.map .generated)).sent
        (Json.isStandard 985)).status = 500 := by
  intro project reply s r w
  -- The canvas comes with the request, so that only the owner is looked up.
  have howns : w.store.owns project.toText "u1".codes = true := by decide +kernel
  have h := s.context_of_blank_canvas (q := r.graph) .none "u1".codes howns rfl rfl
  refine ⟨_, h, ?_, ?_⟩
  · decide +kernel
  · decide +kernel

end Service

end CanvasPrompt.Api
