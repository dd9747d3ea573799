import CanvasPrompt.Proofs.Api.Delivery
import CanvasPrompt.Proofs.Database.Identity
import CanvasPrompt.Proofs.Generate.Chain

/-!
# What actions do to the log of images

While the database works, an action of an owner logs images, deletes one, or leaves the log alone.
This module introduces `Logs issuer s t a result`: all that can happen to the log from `s` to `t` in
an action `a`, with what comes of the action. It is shown for one handler after the other, and put
together in `Service.perform_logs`.

In each of these ways the log keeps its identities distinct (`Logs.identifies`), and gives out only
new ones (`Logs.grows`).
-/

namespace CanvasPrompt.Api

open Database (Grows Issuer NewImage Store numbered)

/-- What an action of an owner does to the log while the database works, from one store to the next,
and what comes of it. -/
inductive Logs (issuer : Issuer) (s t : Store) : Action → Except Refusal Reply → Prop where
  /-- Refining uses up a number at most. -/
  | refined {r : GraphRequest} {result : Except Refusal RefineAnswer}
      (images : t.images = s.images) (issued : s.issued ≤ t.issued) :
      Logs issuer s t (.refine r) (result.map .refined)
  /-- Without images nothing is logged. -/
  | refused {r : ImageRequest} {refusal : Refusal} (same : t = s) :
      Logs issuer s t (.generate r) (.error refusal)
  /-- Images are logged for their project, and answered with from their rows. -/
  | generated {r : ImageRequest} {a : ImageAnswer} {images : List NewImage}
      (project : ∀ i ∈ images, i.project = r.graph.project.toText)
      (logged : t = s.logged (numbered issuer s.issued images))
      (items : a.images = (numbered issuer s.issued images).map Item.ofRow) :
      Logs issuer s t (.generate r) (.ok (.generated a))
  /-- Listing changes nothing. -/
  | listed {project : Uuid} (same : t = s) :
      Logs issuer s t (.list project) (.ok (.listed ((s.imagesOf project.toText).map Item.ofRow)))
  /-- An image that is there is deleted. -/
  | deleted {project item : Uuid}
      (found : s.images.any (Store.isImage project.toText item.toText) = true)
      (left : t = (s.deleteImage project.toText item.toText).2) :
      Logs issuer s t (.delete project item) (.ok .deleted)
  /-- For an image that is not there nothing changes. -/
  | missing {project item : Uuid}
      (absent : s.images.any (Store.isImage project.toText item.toText) = false) (same : t = s) :
      Logs issuer s t (.delete project item) (.error .imageNotFound)

namespace Service

variable (s : Service) (user : Text)

theorem exists_provider_of_makeImages (r : ImageRequest) (c : Context) (t : Run.Trace)
    {result : Generate.Result} (hmade : ((s.makeImages r c).run t).1 = .ok result)
    (hsuccess : result.isSuccess = true) : ∃ provider, result.provider = some provider := by
  obtain ⟨called, uncalled, t', -, -, hend⟩ :=
    Generate.run_dispatchAfter (Generate.effectivePrompt (some c.basePrompt))
      (if r.useReferences then c.images else []) Generate.noProvider
      ((s.config.providers (some r.provider.name)).map
        (Generate.Provider.strategy s.access s.chance)) t
  exact hend.exists_provider hmade hsuccess

/-- Nothing goes wrong while images are logged, however many there are. -/
theorem logWorks_none (count : Nat) : Database.Faults.none.LogWorks count :=
  ⟨rfl, nofun, rfl⟩

theorem refine_logs (r : GraphRequest) (w : World) :
    Logs s.issuer w.store (s.refine .none user r w).2.store (.refine r)
      ((s.refine .none user r w).1.map .refined) := by
  cases hcontext : s.context .none w.store user r with
  | error refusal =>
    rw [s.refine_of_refused .none user hcontext]
    exact .refined rfl (Nat.le_refl _)
  | ok c =>
    rw [s.refine_of_context .none user hcontext]
    exact .refined rfl (Nat.le_succ _)

theorem deliver_logs (r : ImageRequest) {result : Generate.Result}
    (hprovider : result.isSuccess = true → ∃ provider, result.provider = some provider)
    (w : World) :
    Logs s.issuer w.store (s.deliver .none user r result w).2.store (.generate r)
      ((s.deliver .none user r result w).1.map .generated) := by
  cases hsuccess : result.isSuccess with
  | false =>
    rw [s.deliver_of_not_success .none user w hsuccess]
    exact .refused rfl
  | true =>
    obtain ⟨provider, hprovider⟩ := hprovider hsuccess
    rw [s.deliver_of_provider .none user w hsuccess hprovider,
      s.keepImages_of_logWorks .none user r result w.store (logWorks_none _)]
    exact .generated (fun _ => project_of_mem_newImages user) rfl rfl

theorem generate_logs (r : ImageRequest) (w : World) :
    Logs s.issuer w.store (s.generate .none user r w).2.store (.generate r)
      ((s.generate .none user r w).1.map .generated) := by
  rcases s.generate_cases .none user r w with
    ⟨refusal, t, hdone⟩ | ⟨c, result, t, -, hmade, hdone⟩
  · rw [hdone]
    exact .refused rfl
  · have hprovider := s.exists_provider_of_makeImages r c w.trace (congrArg Prod.fst hmade)
    rw [hdone]
    exact s.deliver_logs user r hprovider { w with trace := t }

theorem perform_list_of_owner (project : Uuid) {w : World}
    (howns : w.store.owns project.toText user = true) :
    s.perform .none user (.list project) w =
      (.ok (.listed ((w.store.imagesOf project.toText).map Item.ofRow)), w) := by
  rw [perform, list, if_pos howns]
  rfl

/-- The tag of the command is understood: what comes of it tells whether the image was there. -/
theorem perform_delete_of_owner (project item : Uuid) {w : World}
    (howns : w.store.owns project.toText user = true) :
    s.perform .none user (.delete project item) w =
      (if w.store.images.any (Store.isImage project.toText item.toText) then .ok .deleted
        else .error .imageNotFound,
        { w with store := (w.store.deleteImage project.toText item.toText).2 }) := by
  have htag := w.store.affectedRows?_deleteImage project.toText item.toText
  rw [perform, delete, if_pos howns]
  generalize w.store.deleteImage project.toText item.toText = deleted at htag ⊢
  obtain ⟨tag, t⟩ := deleted
  dsimp only at htag ⊢
  rw [htag]
  cases w.store.images.any (Store.isImage project.toText item.toText) with
  | false => rfl
  | true => rfl

/-- An action of an owner does to the log what `Logs` says. -/
theorem perform_logs {a : Action} {w : World}
    (howns : w.store.owns a.project.toText user = true) :
    Logs s.issuer w.store (s.perform .none user a w).2.store a (s.perform .none user a w).1 := by
  cases a with
  | refine r => exact s.refine_logs user r w
  | generate r => exact s.generate_logs user r w
  | list project =>
    rw [s.perform_list_of_owner user project howns]
    exact .listed rfl
  | delete project item =>
    rw [s.perform_delete_of_owner user project item howns]
    cases hany : w.store.images.any (Store.isImage project.toText item.toText) with
    | false => exact .missing hany (w.store.deleteImage_of_absent hany)
    | true => exact .deleted hany rfl

end Service

/-! ## Identities -/

variable {issuer : Issuer} {s t : Store} {a : Action} {result : Except Refusal Reply}

/-- In an action images are only added under new identities, and only dropped otherwise. -/
theorem Logs.images_cases (h : Logs issuer s t a result) :
    (t.images.Sublist s.images ∧ s.issued ≤ t.issued) ∨
      ∃ images, t = s.logged (numbered issuer s.issued images) := by
  cases h with
  | refined images issued => exact .inl ⟨images ▸ List.Sublist.refl _, issued⟩
  | refused same => exact .inl ⟨same ▸ List.Sublist.refl _, same ▸ Nat.le_refl _⟩
  | generated _ logged _ => exact .inr ⟨_, logged⟩
  | listed same => exact .inl ⟨same ▸ List.Sublist.refl _, same ▸ Nat.le_refl _⟩
  | deleted _ left =>
    rw [left]
    exact .inl ⟨List.filter_sublist, Nat.le_refl _⟩
  | missing _ same => exact .inl ⟨same ▸ List.Sublist.refl _, same ▸ Nat.le_refl _⟩

theorem Logs.grows (h : Logs issuer s t a result) : Grows issuer s t := by
  rcases h.images_cases with ⟨hsublist, hissued⟩ | ⟨images, rfl⟩
  · exact .of_subset hsublist.subset hissued
  · exact .logged s images

theorem Logs.identifies (unique : Function.Injective issuer.id) (h : Logs issuer s t a result)
    (hs : s.Identifies issuer) : t.Identifies issuer := by
  rcases h.images_cases with ⟨hsublist, hissued⟩ | ⟨images, rfl⟩
  · exact hs.of_sublist hsublist hissued
  · exact hs.logged unique images

end CanvasPrompt.Api
