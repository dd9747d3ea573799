import CanvasPrompt.Proofs.Api.Isolation
import CanvasPrompt.Proofs.Api.Logging

/-!
# The log of images as lists of items

To its users the log is one list of items for each project: the items that a request for images is
answered with come to the end of the list of its project, and an item that is deleted from a project
goes. This module introduces

* `Exchange`: an action of an owner and what came of it, and `exchanges w turns`: those of a run;
* `recorded project es`: the list of a project, by what was asked and answered alone;
* `itemsOf project s`: the list of a project as the store has it;
* `Turn.Works` and `Turn.Brings`: the database works in a turn, and it is the turn of an owner;
* `ShowsItems issuer w items`: what owners are answered if these are the items.

That the two lists agree is shown for one turn (`Logs.itemsOf_eq`) and then for a run
(`itemsOf_after`); other requests may come in between, as they leave the log alone. The main
statement is `log_refines_items`.
-/

namespace CanvasPrompt.Api

open Database (Grows ImageRow Issuer NewImage Store numbered)

/-! ## What owners see -/

/-- An action of an owner and what came of it. -/
structure Exchange where
  /-- What the owner asked for. -/
  action : Action
  /-- What came of it. -/
  result : Except Refusal Reply

namespace Exchange

/-- The items that were made, as they were answered. -/
def made (e : Exchange) : List Item :=
  match e.result with
  | .ok (.generated a) => a.images
  | _ => []

/-- The list of a project after an exchange, by what was asked and answered alone. -/
def record (project : Text) (items : List Item) (e : Exchange) : List Item :=
  if e.action.project.toText = project then
    match e.action with
    | .delete _ item => items.filter fun i => i.id != item.toText
    | _ => items ++ e.made
  else items

end Exchange

/-- The list of a project after exchanges that begin with no images. -/
def recorded (project : Text) (es : List Exchange) : List Item :=
  es.foldl (Exchange.record project) []

/-- The list of a project as the store has it. -/
def itemsOf (project : Text) (s : Store) : List Item :=
  (s.imagesOf project).map Item.ofRow

namespace Turn

/-- The database works in a turn, and names and dates rows as in the other turns. -/
structure Works (issuer : Issuer) (turn : Turn) : Prop where
  /-- Nothing goes wrong. -/
  faults : turn.server.faults = .none
  /-- Rows are named and dated in one way. -/
  issuer : turn.server.service.issuer = issuer

/-- A turn brings an action of an owner of the project that the action is about. -/
structure Brings (w : World) (turn : Turn) (user : Text) (a : Action) : Prop where
  /-- The request is admitted. -/
  admitted : turn.admission = .ok (user, a)
  /-- The project belongs to the user. -/
  owns : w.store.owns a.project.toText user = true

/-- The exchange of a turn, if it is the turn of an owner. -/
def exchange? (w : World) (turn : Turn) : Option Exchange :=
  match turn.admission with
  | .ok (user, a) =>
    if w.store.owns a.project.toText user then
      some ⟨a, (turn.server.service.perform turn.server.faults user a w).1⟩
    else none
  | .error _ => none

end Turn

/-- The exchanges of a run in order. -/
def exchanges (w : World) : List Turn → List Exchange
  | [] => []
  | turn :: rest => (turn.exchange? w).toList ++ exchanges (turn.respond w).2 rest

section

variable {issuer : Issuer} {w : World} {turn : Turn} {user : Text}

/-! ## One turn -/

/-- An owner is answered with what came of the action, which does to the log what `Logs` says. -/
theorem Turn.Brings.served {a : Action} (h : turn.Brings w user a) (hworks : turn.Works issuer) :
    let done := turn.server.service.perform .none user a w
    turn.exchange? w = some ⟨a, done.1⟩ ∧ turn.respond w = (answerOf done.1, done.2) ∧
      Logs issuer w.store done.2.store a done.1 := by
  intro done
  refine ⟨?_, ?_, ?_⟩
  · rw [Turn.exchange?, h.admitted]
    dsimp only
    rw [if_pos h.owns, hworks.faults]
  · rw [Turn.respond, turn.server.respond_of_admission turn.request h.admitted, hworks.faults]
  · rw [← hworks.issuer]
    exact turn.server.service.perform_logs user h.owns

/-- A turn that is one of an owner stays one, since the projects keep their owners. -/
theorem Turn.Brings.afterwards {a : Action} (h : turn.Brings w user a) (turns : List Turn) :
    turn.Brings (after w turns) user a :=
  ⟨h.admitted, (owns_congr (owners_after w turns) _ _).trans h.owns⟩

theorem Turn.Brings.next {a : Action} (h : turn.Brings w user a) (first : Turn) :
    turn.Brings (first.respond w).2 user a :=
  ⟨h.admitted, (owns_congr (owners_respond first w) _ _).trans h.owns⟩

/-- A turn either is one of an owner, or changes nothing. -/
theorem Turn.cases_of_owner (w : World) (turn : Turn) :
    (∃ user a, turn.Brings w user a) ∨ (turn.exchange? w = none ∧ (turn.respond w).2 = w) := by
  rw [Turn.exchange?]
  cases hadmission : turn.admission with
  | error answer =>
    exact .inr ⟨rfl, turn.server.respond_of_not_admitted turn.request hadmission w⟩
  | ok admitted =>
    obtain ⟨user, a⟩ := admitted
    cases howns : w.store.owns a.project.toText user with
    | false =>
      rw [respond_of_not_owner hadmission howns]
      exact .inr ⟨if_neg (Bool.not_eq_true _ ▸ howns), rfl⟩
    | true => exact .inl ⟨user, a, hadmission, howns⟩

theorem mem_itemsOf {project : Text} {s : Store} {i : Item} :
    i ∈ itemsOf project s ↔ ∃ row ∈ s.images, row.project = project ∧ Item.ofRow row = i := by
  simp only [itemsOf, Store.imagesOf, List.mem_map, List.mem_filter, beq_iff_eq, and_assoc]

/-- What is logged for a project comes to the end of its list, and to no other. -/
theorem itemsOf_logged {project : Text} {s : Store} {images : List NewImage}
    (h : ∀ i ∈ images, i.project = project) (other : Text) :
    let rows := numbered issuer s.issued images
    itemsOf other (s.logged rows) =
      if project = other then itemsOf other s ++ rows.map Item.ofRow else itemsOf other s := by
  intro rows
  -- The rows are all of one project, so that a list gains all of them or none.
  have hrows : ∀ row ∈ rows, row.project = project :=
    fun _ => Database.project_of_mem_numbered issuer h
  split
  · next heq =>
    have hall : rows.filter (fun row => row.project == other) = rows := by
      rw [List.filter_eq_self]
      intro row hrow
      rw [beq_iff_eq, hrows row hrow, heq]
    rw [itemsOf, itemsOf, ← List.map_append, Store.imagesOf, Store.logged, List.filter_append, hall]
    rfl
  · next hne =>
    rw [itemsOf, itemsOf, Store.imagesOf, Store.logged,
      Database.filter_append_of_project ImageRow.project (Ne.symm hne) s.images hrows]
    rfl

/-- What is deleted from a project is missing in its list, and in no other. -/
theorem itemsOf_deleteImage (project id : Text) (s : Store) (other : Text) :
    itemsOf other (s.deleteImage project id).2 =
      if project = other then (itemsOf other s).filter fun i => i.id != id
      else itemsOf other s := by
  split
  · next heq =>
    rw [← heq, itemsOf, s.imagesOf_deleteImage, itemsOf, List.filter_map]
    rfl
  · next hne =>
    rw [itemsOf, (Database.deleteImage_changesOnly s project id).images other (Ne.symm hne)]
    rfl

/-- The list of each project changes as the exchange says. -/
theorem Logs.itemsOf_eq {s t : Store} {a : Action} {result : Except Refusal Reply}
    (h : Logs issuer s t a result) (project : Text) :
    itemsOf project t = Exchange.record project (itemsOf project s) ⟨a, result⟩ := by
  rw [Exchange.record]
  cases h with
  | @refined r result images issued =>
    have hmade : Exchange.made ⟨.refine r, result.map .refined⟩ = [] := by
      cases result with
      | error refusal => rfl
      | ok a => rfl
    rw [hmade, List.append_nil, ite_self, itemsOf, itemsOf, Store.imagesOf, images]
    rfl
  | refused same =>
    rw [same]
    exact (ite_eq_right_iff.mpr fun _ => List.append_nil _).symm
  | generated hproject logged items =>
    rw [logged, itemsOf_logged hproject, ← items]
    rfl
  | listed same =>
    rw [same]
    exact (ite_eq_right_iff.mpr fun _ => List.append_nil _).symm
  | deleted found left =>
    rw [left, itemsOf_deleteImage]
    rfl
  | @missing deletedFrom item absent same =>
    -- In a list without the item there is nothing to filter out.
    have hdelete := itemsOf_deleteImage deletedFrom.toText item.toText s project
    rw [s.deleteImage_of_absent absent] at hdelete
    rw [same]
    exact hdelete

/-- Each item that is answered as made has its row in the log. -/
theorem Logs.exists_row_of_made {s t : Store} {e : Exchange}
    (h : Logs issuer s t e.action e.result) {i : Item} (hi : i ∈ e.made) :
    ∃ row ∈ t.images, row.id = i.id ∧ row.project = e.action.project.toText := by
  obtain ⟨a, result⟩ := e
  cases h with
  | @refined r result _ _ =>
    cases result with
    | error refusal => cases hi
    | ok a => cases hi
  | refused _ => cases hi
  | @generated r a images hproject logged items =>
    change i ∈ a.images at hi
    -- Only images make items, and each of these shows a row that was added.
    rw [items] at hi
    obtain ⟨row, hrow, rfl⟩ := List.mem_map.mp hi
    rw [logged]
    exact ⟨row, List.mem_append_right _ hrow, rfl,
      Database.project_of_mem_numbered issuer hproject hrow⟩
  | listed _ => cases hi
  | deleted _ _ => cases hi
  | missing _ _ => cases hi

/-- What a turn does to the log is what its exchange does, or nothing if it has none. -/
theorem Turn.Works.cases (hworks : turn.Works issuer) (w : World) :
    (turn.exchange? w = none ∧ (turn.respond w).2 = w) ∨
      ∃ e, turn.exchange? w = some e ∧
        Logs issuer w.store (turn.respond w).2.store e.action e.result := by
  rcases turn.cases_of_owner w with ⟨user, a, hbrings⟩ | hnone
  · obtain ⟨hexchange, hrespond, hlogs⟩ := hbrings.served hworks
    rw [hrespond]
    exact .inr ⟨_, hexchange, hlogs⟩
  · exact .inl hnone

/-! ## Runs -/

section

variable {turns : List Turn}

/-- The log shows for each project what was asked and answered. -/
theorem itemsOf_after (works : ∀ turn ∈ turns, turn.Works issuer) (w : World) (project : Text) :
    itemsOf project (after w turns).store =
      (exchanges w turns).foldl (Exchange.record project) (itemsOf project w.store) := by
  -- The induction is on the turns; the items that there are at first go along.
  induction turns generalizing w with
  | nil => rfl
  | cons turn rest ih =>
    obtain ⟨hturn, hrest⟩ := List.forall_mem_cons.mp works
    rw [after_cons, ih hrest, exchanges, List.foldl_append]
    rcases hturn.cases w with ⟨hnone, hsame⟩ | ⟨e, hexchange, hlogs⟩
    · rw [hnone, hsame, Option.toList_none, List.foldl_nil]
    · rw [hexchange, hlogs.itemsOf_eq, Option.toList_some, List.foldl_cons, List.foldl_nil]

/-- What each action does to the log, a run does. -/
theorem rel_after {R : Store → Store → Prop} (hrefl : ∀ s, R s s)
    (htrans : ∀ s t u, R s t → R t u → R s u)
    (hlogs : ∀ s t a result, Logs issuer s t a result → R s t)
    (works : ∀ turn ∈ turns, turn.Works issuer) (w : World) : R w.store (after w turns).store := by
  induction turns generalizing w with
  | nil => exact hrefl _
  | cons turn rest ih =>
    obtain ⟨hturn, hrest⟩ := List.forall_mem_cons.mp works
    rw [after_cons]
    refine htrans _ _ _ ?_ (ih hrest _)
    -- A turn leaves the store alone, or does what its exchange logs.
    rcases hturn.cases w with ⟨-, hsame⟩ | ⟨e, -, h⟩
    · rw [hsame]
      exact hrefl _
    · exact hlogs _ _ _ _ h

theorem grows_after (works : ∀ turn ∈ turns, turn.Works issuer) (w : World) :
    Grows issuer w.store (after w turns).store :=
  rel_after Grows.refl (fun _ _ _ => Grows.trans) (fun _ _ _ _ => Logs.grows) works w

theorem identifies_after (unique : Function.Injective issuer.id)
    (works : ∀ turn ∈ turns, turn.Works issuer) {w : World} (hw : w.store.Identifies issuer) :
    (after w turns).store.Identifies issuer :=
  rel_after (fun _ => id) (fun _ _ _ hst htu hs => htu (hst hs))
    (fun _ _ _ _ h => h.identifies unique) works w hw

/-- The identity of an item that was made for a project is found in this project only. -/
theorem project_of_made (unique : Function.Injective issuer.id)
    (works : ∀ turn ∈ turns, turn.Works issuer) {w : World} (hw : w.store.Identifies issuer)
    {e : Exchange} (he : e ∈ exchanges w turns) {i : Item} (hi : i ∈ e.made) {row : ImageRow}
    (hrow : row ∈ (after w turns).store.images) (hid : row.id = i.id) :
    row.project = e.action.project.toText := by
  -- The induction is on the turns: the item is made in the first one or later.
  induction turns generalizing w with
  | nil => cases he
  | cons turn rest ih =>
    obtain ⟨hturn, hrest⟩ := List.forall_mem_cons.mp works
    rw [after_cons] at hrow
    rw [exchanges, List.mem_append] at he
    rcases hturn.cases w with ⟨hnone, hsame⟩ | ⟨first, hexchange, hlogs⟩
    · rw [hnone, hsame] at he
      rw [hsame] at hrow
      exact ih hrest hw (he.resolve_left List.not_mem_nil) hrow
    · have hnext := hlogs.identifies unique hw
      rcases he with he | he
      · rw [hexchange, Option.toList_some, List.mem_singleton] at he
        subst he
        -- A row that is found under its identity later is the one that was logged.
        obtain ⟨old, hold, hidold, hproject⟩ := hlogs.exists_row_of_made hi
        rw [Database.eq_of_grows unique hnext (grows_after hrest _) hold hrow
          (hid.trans hidold.symm), hproject]
      · exact ih hrest hnext he hrow

end

/-- An item is in a list because it was there before, or was made. -/
theorem mem_or_made_of_mem_foldl {project : Text} {items : List Item} {es : List Exchange}
    {i : Item} (h : i ∈ es.foldl (Exchange.record project) items) :
    i ∈ items ∨ ∃ e ∈ es, i ∈ e.made := by
  induction es generalizing items with
  | nil => exact .inl h
  | cons e rest ih =>
    rw [List.foldl_cons] at h
    rcases ih h with hrecord | ⟨later, hmem, hmade⟩
    · -- An exchange drops some items or adds those that it made.
      rw [Exchange.record] at hrecord
      split at hrecord
      · split at hrecord
        · exact .inl (List.mem_filter.mp hrecord).1
        · exact (List.mem_append.mp hrecord).imp_right fun hmade =>
            ⟨e, List.mem_cons_self, hmade⟩
      · exact .inl hrecord
    · exact .inr ⟨later, List.mem_cons_of_mem _ hmem, hmade⟩

/-! ## Answers -/

/-- The answer to the deletion of an image that is not there. -/
def notFound : Answer :=
  .detail 404 (.str "Generated item not found".codes)

theorem any_isImage_iff {s : Store} {project id : Text} :
    s.images.any (Store.isImage project id) = true ↔ ∃ i ∈ itemsOf project s, i.id = id := by
  rw [List.any_eq_true]
  constructor
  · rintro ⟨row, hrow, himage⟩
    obtain ⟨hproject, hid⟩ := Store.isImage_iff.mp himage
    exact ⟨_, mem_itemsOf.mpr ⟨row, hrow, hproject, rfl⟩, hid⟩
  · rintro ⟨i, hi, hid⟩
    obtain ⟨row, hrow, hproject, rfl⟩ := mem_itemsOf.mp hi
    exact ⟨row, hrow, Store.isImage_iff.mpr ⟨hproject, hid⟩⟩

theorem respond_list (hworks : turn.Works issuer) {project : Uuid}
    (h : turn.Brings w user (.list project)) :
    turn.respond w =
      (.json 200 (.arr ((itemsOf project.toText w.store).map Item.toJson)), w) := by
  obtain ⟨-, hrespond, -⟩ := h.served hworks
  rw [hrespond, turn.server.service.perform_list_of_owner user project h.owns]
  rfl

theorem respond_delete (hworks : turn.Works issuer) {project item : Uuid}
    (h : turn.Brings w user (.delete project item)) :
    turn.respond w =
      (if w.store.images.any (Store.isImage project.toText item.toText) then ⟨204, [], .empty⟩
        else notFound,
        { w with store := (w.store.deleteImage project.toText item.toText).2 }) := by
  obtain ⟨-, hrespond, -⟩ := h.served hworks
  rw [hrespond, turn.server.service.perform_delete_of_owner user project item h.owns]
  cases w.store.images.any (Store.isImage project.toText item.toText) with
  | false => rfl
  | true => rfl

theorem respond_delete_of_absent (hworks : turn.Works issuer) {project item : Uuid}
    (h : turn.Brings w user (.delete project item))
    (habsent : ∀ i ∈ itemsOf project.toText w.store, i.id ≠ item.toText) :
    turn.respond w = (notFound, w) := by
  have hnone : w.store.images.any (Store.isImage project.toText item.toText) = false := by
    rw [← Bool.not_eq_true, any_isImage_iff]
    rintro ⟨i, hi, hid⟩
    exact habsent i hi hid
  rw [respond_delete hworks h, hnone, w.store.deleteImage_of_absent hnone]
  rfl

/-- No answer to a request that is not granted is one of success. -/
theorem Refusal.status_answer_ne (refusal : Refusal) : refusal.answer.status ≠ 200 := by
  cases refusal with
  | accessDenied => decide
  | imageNotFound => decide
  | notGenerated v => exact (show 502 ≠ 200 by decide)
  | breakdown b => exact (show 500 ≠ 200 by decide)

/-- What a request for images is answered with is what it is recorded to have made. -/
theorem exists_exchange_of_generate (hworks : turn.Works issuer) {r : ImageRequest}
    (h : turn.Brings w user (.generate r)) :
    ∃ e, turn.exchange? w = some e ∧ e.action = .generate r ∧
      ((∃ a : ImageAnswer, e.made = a.images ∧ (turn.respond w).1 = .json 200 a.toJson) ∨
        (e.made = [] ∧ (turn.respond w).1.status ≠ 200)) := by
  obtain ⟨hexchange, hrespond, hlogs⟩ := h.served hworks
  refine ⟨_, hexchange, rfl, ?_⟩
  rw [hrespond]
  generalize turn.server.service.perform .none user (.generate r) w = done at hlogs ⊢
  obtain ⟨result, next⟩ := done
  cases hlogs with
  | refused same => exact .inr ⟨rfl, Refusal.status_answer_ne _⟩
  | generated _ _ _ => exact .inl ⟨_, rfl, rfl⟩

/-- An image that is in the list is deleted, and nothing else. -/
theorem respond_delete_of_mem (hworks : turn.Works issuer) (hw : w.store.Identifies issuer)
    {project item : Uuid} (h : turn.Brings w user (.delete project item))
    (hmem : ∃ i ∈ itemsOf project.toText w.store, i.id = item.toText) :
    ∃ before row later, w.store.images = before ++ row :: later ∧
      row.project = project.toText ∧ row.id = item.toText ∧
      turn.respond w =
        (⟨204, [], .empty⟩, { w with store := { w.store with images := before ++ later } }) := by
  have hany := any_isImage_iff.mpr hmem
  obtain ⟨i, hi, hid⟩ := hmem
  obtain ⟨row, hrow, hproject, rfl⟩ := mem_itemsOf.mp hi
  change row.id = item.toText at hid
  obtain ⟨before, later, hsplit, hleft⟩ := w.store.exists_deleteImage_of_mem hw.distinct hrow
  refine ⟨before, row, later, hsplit, hproject, hid, ?_⟩
  rw [respond_delete hworks h, hany, ← hproject, ← hid, hleft]
  rfl

/-- The identity of an image that was deleted is not found in the project again. -/
theorem absent_after_deletion (unique : Function.Injective issuer.id)
    (hw : w.store.Identifies issuer) {project id : Text}
    (hfound : ∃ i ∈ itemsOf project w.store, i.id = id) {next : World}
    (hnext : next.store = (w.store.deleteImage project id).2) {turns : List Turn}
    (works : ∀ turn ∈ turns, turn.Works issuer) :
    ∀ i ∈ itemsOf project (after next turns).store, i.id ≠ id := by
  intro i hi hid
  obtain ⟨row, hrow, hproject, rfl⟩ := mem_itemsOf.mp hi
  obtain ⟨j, hj, hidj⟩ := hfound
  obtain ⟨old, hold, -, rfl⟩ := mem_itemsOf.mp hj
  obtain ⟨n, hn, hidn⟩ := hw.issued old hold
  -- The identity was issued before the deletion, so the row was there right after it.
  have hissued : n ≤ next.store.issued := by
    rw [hnext, Database.deleteImage_snd]
    exact hn
  have hrowid : row.id = issuer.id n := hid.trans (hidj.symm.trans hidn)
  have hleft : row ∈ next.store.images :=
    Database.mem_of_grows unique (grows_after works next) hrow hissued hrowid
  -- But no such row was left.
  have himage : Store.isImage project id row = true := Store.isImage_iff.mpr ⟨hproject, hid⟩
  rw [hnext, Database.deleteImage_snd] at hleft
  have hgone := (List.mem_filter.mp hleft).2
  rw [himage] at hgone
  cases hgone

/-- An item that was to be deleted, and is not made since, is not in the list. -/
theorem absent_of_not_made {project id : Text} {next : World}
    (hnext : next.store = (w.store.deleteImage project id).2) {turns : List Turn}
    (works : ∀ turn ∈ turns, turn.Works issuer)
    (hmade : ∀ e ∈ exchanges next turns, ∀ i ∈ e.made, i.id ≠ id) :
    ∀ i ∈ itemsOf project (after next turns).store, i.id ≠ id := by
  intro i hi hid
  rw [itemsOf_after works] at hi
  rcases mem_or_made_of_mem_foldl hi with hleft | ⟨e, he, hmem⟩
  · rw [hnext, itemsOf_deleteImage, if_pos rfl] at hleft
    exact bne_iff_ne.mp (List.mem_filter.mp hleft).2 hid
  · exact hmade e he i hmem hid

/-- What a world shows of its log to the owners of projects, when these are the items. -/
structure ShowsItems (issuer : Issuer) (w : World) (items : Uuid → List Item) : Prop where
  /-- To list a project is answered with its items. -/
  listed : ∀ (turn : Turn) (user : Text) (project : Uuid), turn.Works issuer →
    turn.Brings w user (.list project) →
    turn.respond w = (.json 200 (.arr ((items project).map Item.toJson)), w)
  /-- A request for images is recorded to have made what it is answered with. -/
  made : ∀ (turn : Turn) (user : Text) (r : ImageRequest), turn.Works issuer →
    turn.Brings w user (.generate r) →
    ∃ e, turn.exchange? w = some e ∧ e.action = .generate r ∧
      ((∃ a : ImageAnswer, e.made = a.images ∧ (turn.respond w).1 = .json 200 a.toJson) ∨
        (e.made = [] ∧ (turn.respond w).1.status ≠ 200))
  /-- The row of an item is deleted, and no other one. -/
  deleted : ∀ (turn : Turn) (user : Text) (project item : Uuid), turn.Works issuer →
    turn.Brings w user (.delete project item) → (∃ i ∈ items project, i.id = item.toText) →
    ∃ before row later, w.store.images = before ++ row :: later ∧
      row.project = project.toText ∧ row.id = item.toText ∧
      turn.respond w =
        (⟨204, [], .empty⟩, { w with store := { w.store with images := before ++ later } })
  /-- What is not among the items of a project is not deleted from it. -/
  missing : ∀ (turn : Turn) (user : Text) (project item : Uuid), turn.Works issuer →
    turn.Brings w user (.delete project item) → (∀ i ∈ items project, i.id ≠ item.toText) →
    turn.respond w = (notFound, w)

theorem showsItems (hw : w.store.Identifies issuer) :
    ShowsItems issuer w fun project => itemsOf project.toText w.store where
  listed _ _ _ hworks hbrings := respond_list hworks hbrings
  made _ _ _ hworks hbrings := exists_exchange_of_generate hworks hbrings
  deleted _ _ _ _ hworks hbrings := respond_delete_of_mem hworks hw hbrings
  missing _ _ _ _ hworks hbrings := respond_delete_of_absent hworks hbrings

/-- From an empty log on, while the database works, the items of each project are what its owners
asked and were answered: items that were made are added in order, and those that are deleted go. An
item that was made for another project is not found, nor is one that was deleted before, or that was
looked for in vain and not made since. A row that is found again is as it was. -/
theorem log_refines_items (unique : Function.Injective issuer.id) (empty : w.store.images = [])
    {past : List Turn} (works : ∀ turn ∈ past, turn.Works issuer) :
    let world := after w past
    ShowsItems issuer world (fun project => recorded project.toText (exchanges w past)) ∧
    (∀ (turn : Turn) (user : Text) (project item : Uuid), turn.Works issuer →
      turn.Brings world user (.delete project item) →
      (∀ e ∈ exchanges w past, ∀ i ∈ e.made, i.id = item.toText →
        e.action.project.toText ≠ project.toText → turn.respond world = (notFound, world)) ∧
      ∀ (between : List Turn) (again : Turn) (user' : Text),
        (∀ turn ∈ between, turn.Works issuer) → again.Works issuer →
        let next := (turn.respond world).2
        again.Brings (after next between) user' (.delete project item) →
        ((turn.respond world).1.status = 204 ∨
          ∀ e ∈ exchanges next between, ∀ i ∈ e.made, i.id ≠ item.toText) →
        again.respond (after next between) = (notFound, after next between)) ∧
    ∀ later : List Turn, (∀ turn ∈ later, turn.Works issuer) →
      ∀ row ∈ world.store.images, ∀ row' ∈ (after world later).store.images,
        row'.id = row.id → row' = row := by
  intro world
  have hstart : w.store.Identifies issuer := .of_no_images empty
  have hworld : world.store.Identifies issuer := identifies_after unique works hstart
  refine ⟨?_, ?_, ?_⟩
  · -- The items of the store are those of what was asked and answered.
    have hitems : ∀ project : Uuid,
        itemsOf project.toText world.store = recorded project.toText (exchanges w past) := by
      intro project
      have hnone : itemsOf project.toText w.store = [] := by
        rw [itemsOf, Store.imagesOf, empty]
        rfl
      rw [itemsOf_after works w project.toText, hnone]
      rfl
    rw [← funext hitems]
    exact showsItems hworld
  · intro turn user project item hturn hbrings
    refine ⟨?_, ?_⟩
    · intro e he i hi hid hother
      apply respond_delete_of_absent hturn hbrings
      -- The row of such an item in this project would belong to the other one.
      intro j hj hidj
      obtain ⟨row, hrow, hproject, rfl⟩ := mem_itemsOf.mp hj
      apply hother
      rw [← hproject]
      exact (project_of_made unique works hstart he hi hrow (hidj.trans hid.symm)).symm
    · intro between again user' hbetween hagain next hrepeated hcase
      apply respond_delete_of_absent hagain hrepeated
      have hnext : next.store = (world.store.deleteImage project.toText item.toText).2 := by
        show (turn.respond world).2.store = _
        rw [respond_delete hturn hbrings]
      by_cases hfound : ∃ i ∈ itemsOf project.toText world.store, i.id = item.toText
      · exact absent_after_deletion unique hworld hfound hnext hbetween
      · -- It was not found, so the first answer was not 204.
        push Not at hfound
        rw [respond_delete_of_absent hturn hbrings hfound] at hcase
        exact absent_of_not_made hnext hbetween (hcase.resolve_left (show ¬404 = 204 by decide))
  · intro later hlater row hrow row' hrow' hid
    exact Database.eq_of_grows unique hworld (grows_after hlater world) hrow hrow' hid

/-- Ann has an image made and deletes it. After the next image was made, the first one is not found
any more. -/
theorem deleted_image_is_gone :
    let project : Uuid := ⟨0x11111111111141118111111111111111⟩
    let service : Service :=
      { reasoner := none
        options := .default
        config := .default
        client := fun _ _ => .error ⟨.readTimeout, []⟩
        nesting := 985
        chance := 0
        issuer := .counting
        unkeptId := fun _ => []
        unkeptTime := [] }
    let gateway : Gateway := ⟨.always "ann".codes, [], true, 985, Json.isStandard 985⟩
    let server : Server := ⟨service, gateway.admission, .none⟩
    let body := "\x7b\"project_id\":\"11111111-1111-4111-8111-111111111111\",\"nodes\":[]\x7d".codes
    let json := ("content-type".codes, "application/json".codes)
    let make : Turn := ⟨server, ⟨"POST".codes, "/generate".codes, [json], Text.utf8 body⟩⟩
    let path := "/projects/11111111-1111-4111-8111-111111111111/generated/".codes ++
      "00000000-0000-4000-8000-000000000001".codes
    let remove : Turn := ⟨server, ⟨"DELETE".codes, path, [], []⟩⟩
    let w : World := ⟨⟨[(project.toText, "ann".codes)], [], [], [], [], 0⟩, .empty⟩
    ∃ next, remove.respond (after w [make]) = (⟨204, [], .empty⟩, next) ∧
      remove.respond (after next [make]) = (notFound, after next [make]) := by
  intro project service gateway server body json make path remove w
  let item : Uuid := ⟨0x00000000000040008000000000000001⟩
  have works : ∀ turn ∈ [make], turn.Works .counting := by
    intro turn hturn
    rw [List.mem_singleton.mp hturn]
    exact ⟨rfl, rfl⟩
  have hremove : remove.Works .counting := ⟨rfl, rfl⟩
  have hmade : ∃ i ∈ recorded project.toText (exchanges w [make]), i.id = item.toText := by
    decide +kernel
  have hadmitted : remove.admission = .ok ("ann".codes, .delete project item) := by rfl
  have howns : w.store.owns project.toText "ann".codes = true := by decide +kernel
  have hbrings : remove.Brings w "ann".codes (.delete project item) := ⟨hadmitted, howns⟩
  -- Nothing in the run changes who owns the project.
  have hfirst := hbrings.afterwards [make]
  have hagain := (hfirst.next remove).afterwards [make]
  obtain ⟨shows, history, -⟩ :=
    log_refines_items Issuer.counting_id_injective (show w.store.images = [] from rfl) works
  obtain ⟨before, row, later, -, -, -, hdone⟩ :=
    shows.deleted remove "ann".codes project item hremove hfirst hmade
  obtain ⟨-, hrepeated⟩ := history remove "ann".codes project item hremove hfirst
  rw [hdone] at hagain hrepeated
  exact ⟨_, hdone, hrepeated [make] remove "ann".codes works hremove hagain (.inl rfl)⟩

end

end CanvasPrompt.Api
