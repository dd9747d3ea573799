import CanvasPrompt.Proofs.Api.ItemLog

/-!
# Links from images to prompts

An image in the log may be linked to a prompt in the history. The link is what the request for
images names: it is written down as it is, and not looked up. This module introduces

* `Store.HasPrompt s project id` and `Store.Linked s`: the history of a project has a prompt, and
  each link in the log leads to a prompt of the project of its image;
* `Writes user s t a`: all that an action may write, whatever goes wrong in the database;
* `Turn.Adds`, `Turn.LinksWithin` and `Turn.Tells`: a turn logs a row, it links images to the
  history of their own project, and it is answered with the identity of a prompt.

So the links are as good as the requests: `linked_respond_iff` tells this of one turn, and the main
statement `links_follow_requests` of a run. Users who only name what they were told for the same
project keep all links in it. `prompt_of_another_project_is_linked` is a run that does not.
-/

namespace CanvasPrompt

namespace Database

/-- The history of a project has a prompt of this identity. -/
def Store.HasPrompt (s : Store) (project id : Text) : Prop :=
  ∃ p ∈ s.prompts, p.project = project ∧ p.id = id

/-- Each link in the log leads to a prompt of the project of its image. -/
def Store.Linked (s : Store) : Prop :=
  ∀ row ∈ s.images, ∀ id ∈ row.promptId, s.HasPrompt row.project id

instance (s : Store) (project id : Text) : Decidable (s.HasPrompt project id) :=
  inferInstanceAs (Decidable (∃ p ∈ s.prompts, p.project = project ∧ p.id = id))

instance (s : Store) : Decidable s.Linked :=
  inferInstanceAs (Decidable (∀ row ∈ s.images, ∀ id ∈ row.promptId, s.HasPrompt row.project id))

theorem Store.HasPrompt.mono {s t : Store} {project id : Text} (h : s.HasPrompt project id)
    (hprompts : s.prompts <+: t.prompts) : t.HasPrompt project id := by
  obtain ⟨p, hp, hproject, hid⟩ := h
  exact ⟨p, hprompts.subset hp, hproject, hid⟩

theorem Store.linked_of_no_images {s : Store} (h : s.images = []) : s.Linked := by
  simp [Store.Linked, h]

/-- A prompt is added at the end of the history, or not at all. -/
theorem addPrompt_cases (issuer : Issuer) (faults : Faults) (s : Store) (p : NewPrompt) :
    s.addPrompt issuer faults p = (none, s) ∨
      ∃ row, row.project = p.project ∧ s.addPrompt issuer faults p =
        (some row.id, { s with prompts := s.prompts ++ [row], issued := s.issued + 1 }) := by
  rw [Store.addPrompt]
  split
  · exact .inl rfl
  · exact .inr ⟨p.row issuer (s.issued + 1), rfl, rfl⟩

/-- The identity that is given back is one in the history. -/
theorem hasPrompt_of_addPrompt {issuer : Issuer} {faults : Faults} {s : Store} {p : NewPrompt}
    {id : Text} (h : (s.addPrompt issuer faults p).1 = some id) :
    (s.addPrompt issuer faults p).2.HasPrompt p.project id := by
  rcases addPrompt_cases issuer faults s p with hnone | ⟨row, hproject, hsome⟩
  · rw [hnone] at h
    cases h
  · rw [hsome] at h ⊢
    exact ⟨row, List.mem_append_right _ List.mem_cons_self, hproject, Option.some.inj h⟩

end Database

namespace Api

open Database (Faults ImageRow Store)

/-- The prompt that an action names for the images it asks for. -/
def Action.link? : Action → Option Uuid
  | .generate r => r.promptId
  | _ => none

/-! ## What actions write -/

/-- What an action of a user may write, from one store to the next. -/
inductive Writes (user : Text) (s t : Store) : Action → Prop where
  /-- Refining writes to the history. -/
  | refined {r : GraphRequest} (prompts : s.prompts <+: t.prompts) (images : t.images = s.images) :
      Writes user s t (.refine r)
  /-- Images are logged with the link that the request names. -/
  | generated {r : ImageRequest} {rows : List ImageRow} (prompts : t.prompts = s.prompts)
      (images : t.images = s.images ++ rows)
      (rows_eq : ∀ row ∈ rows, row.project = r.graph.project.toText ∧ row.user = user ∧
        row.promptId = r.promptId.map Uuid.toText) :
      Writes user s t (.generate r)
  /-- Listing writes nothing. -/
  | listed {project : Uuid} (same : t = s) : Writes user s t (.list project)
  /-- Deleting takes rows away. -/
  | deleted {project item : Uuid} (prompts : t.prompts = s.prompts)
      (images : t.images.Sublist s.images) : Writes user s t (.delete project item)

/-- A request for images that changes neither the history nor the log. -/
theorem Writes.generated_of_eq {user : Text} {s t : Store} {r : ImageRequest}
    (prompts : t.prompts = s.prompts) (images : t.images = s.images) :
    Writes user s t (.generate r) :=
  .generated prompts (images.trans (List.append_nil _).symm) (List.forall_mem_nil _)

namespace Service

variable (s : Service) (faults : Faults) (user : Text)

theorem refine_writes (r : GraphRequest) (w : World) :
    Writes user w.store (s.refine faults user r w).2.store (.refine r) := by
  cases hcontext : s.context faults w.store user r with
  | error refusal =>
    rw [s.refine_of_refused faults user hcontext]
    exact .refined List.prefix_rfl rfl
  | ok c =>
    rw [s.refine_of_context faults user hcontext]
    dsimp only
    rcases Database.addPrompt_cases s.issuer faults w.store _ with h | ⟨row, -, h⟩
    · rw [h]
      exact .refined List.prefix_rfl rfl
    · rw [h]
      exact .refined (List.prefix_append _ _) rfl

theorem keepImages_writes (r : ImageRequest) (result : Generate.Result) (store : Store) :
    Writes user store (s.keepImages faults user r result store).2 (.generate r) := by
  rcases (s.keepImages_cases faults user r result store).2 with
    ⟨-, rows, hkept, hrows⟩ | ⟨-, n, hkept⟩
  · rw [hkept]
    exact .generated rfl rfl hrows
  · rw [hkept]
    exact .generated_of_eq rfl rfl

theorem deliver_writes (r : ImageRequest) (result : Generate.Result) (w : World) :
    Writes user w.store (s.deliver faults user r result w).2.store (.generate r) := by
  rw [deliver_snd]
  split
  · exact s.keepImages_writes faults user r result w.store
  · exact .generated_of_eq rfl rfl

theorem generate_writes (r : ImageRequest) (w : World) :
    Writes user w.store (s.generate faults user r w).2.store (.generate r) := by
  rcases s.generate_cases faults user r w with ⟨refusal, t, hdone⟩ | ⟨c, result, t, -, -, hdone⟩
  · rw [hdone]
    exact .generated_of_eq rfl rfl
  · rw [hdone]
    exact s.deliver_writes faults user r result { w with trace := t }

theorem delete_writes (store : Store) (project item : Uuid) :
    Writes user store (delete store user project item).2 (.delete project item) := by
  cases howns : store.owns project.toText user with
  | false =>
    rw [delete_of_not_owner howns]
    exact .deleted rfl (List.Sublist.refl _)
  | true =>
    rw [delete_snd_of_owner howns, Database.deleteImage_snd]
    exact .deleted rfl List.filter_sublist

/-- An action writes what `Writes` says, whatever goes wrong. -/
theorem perform_writes (a : Action) (w : World) :
    Writes user w.store (s.perform faults user a w).2.store a := by
  cases a with
  | refine r => exact s.refine_writes faults user r w
  | generate r => exact s.generate_writes faults user r w
  | list project => exact .listed rfl
  | delete project item => exact delete_writes user w.store project item

/-- An identity that refining gives back is one in the history of the project. -/
theorem hasPrompt_of_refine {r : GraphRequest} {w : World} {a : RefineAnswer}
    (h : (s.refine faults user r w).1 = .ok a) {id : Text} (hid : a.promptId = some id) :
    (s.refine faults user r w).2.store.HasPrompt r.project.toText id := by
  cases hcontext : s.context faults w.store user r with
  | error refusal =>
    rw [s.refine_of_refused faults user hcontext] at h
    cases h
  | ok c =>
    let run := (Refine.refine s.reasoner s.options s.access c).run w.trace
    have hadded := @Database.hasPrompt_of_addPrompt s.issuer faults w.store
      ⟨r.project.toText, user, c.basePrompt, run.1.prompt⟩ id
    dsimp only at hadded
    rw [s.refine_of_context faults user hcontext] at h ⊢
    rw [← Except.ok.inj h] at hid
    exact hadded hid

end Service

/-! ## One turn -/

section

variable {w : World} {turn : Turn}

theorem Turn.Brings.writes {user : Text} {a : Action} (h : turn.Brings w user a) :
    Writes user w.store (turn.respond w).2.store a := by
  rw [Turn.respond, turn.server.respond_of_admission turn.request h.admitted]
  exact turn.server.service.perform_writes turn.server.faults user a w

theorem prompts_prefix_respond (turn : Turn) (w : World) :
    w.store.prompts <+: (turn.respond w).2.store.prompts := by
  rcases turn.cases_of_owner w with ⟨user, a, hbrings⟩ | ⟨-, hsame⟩
  · cases hbrings.writes with
    | refined prompts _ => exact prompts
    | generated prompts _ _ => exact prompts ▸ List.prefix_rfl
    | listed same => exact same ▸ List.prefix_rfl
    | deleted prompts _ => exact prompts ▸ List.prefix_rfl
  · have hprompts : (turn.respond w).2.store.prompts = w.store.prompts := by rw [hsame]
    exact hprompts ▸ List.prefix_rfl

namespace Turn

/-- A turn logs rows of this kind: it brings a request for images of an owner, and the row has its
project, its user and the link that it names. -/
def Adds (w : World) (turn : Turn) (row : ImageRow) : Prop :=
  ∃ user r, turn.Brings w user (.generate r) ∧ row.project = r.graph.project.toText ∧
    row.user = user ∧ row.promptId = r.promptId.map Uuid.toText

/-- If a turn logs images, their link leads to the history of their project. -/
def LinksWithin (w : World) (turn : Turn) : Prop :=
  ∀ user a, turn.Brings w user a → (turn.respond w).2.store.images ≠ w.store.images →
    ∀ id ∈ a.link?, w.store.HasPrompt a.project.toText id.toText

/-- A turn brings a request to refine of an owner of the project, and is answered with the identity
of the prompt. -/
def Tells (w : World) (turn : Turn) (project id : Text) : Prop :=
  ∃ user r a, turn.Brings w user (.refine r) ∧ r.project.toText = project ∧
    (turn.respond w).1 = .json 200 (RefineAnswer.toJson a) ∧ a.promptId = some id

/-- A row in the log was there before, or the turn has logged it. -/
theorem mem_or_adds {row : ImageRow} (h : row ∈ (turn.respond w).2.store.images) :
    row ∈ w.store.images ∨
      turn.Adds w row ∧ (turn.respond w).2.store.images ≠ w.store.images := by
  rcases turn.cases_of_owner w with ⟨user, a, hbrings⟩ | ⟨-, hsame⟩
  · cases hbrings.writes with
    | refined _ images => exact .inl (images ▸ h)
    | @generated r rows _ images hrows =>
      rw [images, List.mem_append] at h
      refine h.imp_right fun hrow => ⟨⟨user, r, hbrings, hrows row hrow⟩, ?_⟩
      rw [images, ne_eq, List.append_right_eq_self]
      exact List.ne_nil_of_mem hrow
    | listed same => exact .inl (same ▸ h)
    | deleted _ images => exact .inl (images.subset h)
  · exact .inl (hsame ▸ h)

end Turn

/-- After a turn all links lead to their projects exactly if those do that the turn has added. -/
theorem linked_respond_iff (hw : w.store.Linked) :
    (turn.respond w).2.store.Linked ↔ turn.LinksWithin w := by
  have hprompts := prompts_prefix_respond turn w
  constructor
  · intro hlinked user a hbrings hchanged id hid
    -- Only a request for images names a link, and none of them writes to the history.
    cases hbrings.writes with
    | refined _ _ | listed _ | deleted _ _ => cases hid
    | @generated r rows prompts images hrows =>
      rw [images, ne_eq, List.append_right_eq_self] at hchanged
      -- Any row that was logged has this link.
      obtain ⟨row, hrow⟩ := List.exists_mem_of_ne_nil rows hchanged
      obtain ⟨hproject, -, hlink⟩ := hrows row hrow
      have hnamed : row.promptId = some id.toText := hlink.trans (congrArg _ hid)
      have hfound := hlinked row (images ▸ List.mem_append_right _ hrow) id.toText hnamed
      rw [Store.HasPrompt, prompts, hproject] at hfound
      exact hfound
  · intro hwithin row hrow id hid
    rcases turn.mem_or_adds hrow with hold | ⟨⟨user, r, hbrings, hproject, -, hlink⟩, hchanged⟩
    · exact (hw row hold id hid).mono hprompts
    · rw [hlink] at hid
      obtain ⟨u, hu, rfl⟩ := Option.map_eq_some_iff.mp hid
      rw [hproject]
      exact (hwithin user (.generate r) hbrings hchanged u hu).mono hprompts

theorem promptId_of_toJson_eq {a b : RefineAnswer} (h : a.toJson = b.toJson) :
    a.promptId = b.promptId := by
  simp only [RefineAnswer.toJson, Json.obj.injEq, List.cons.injEq, Prod.mk.injEq, true_and,
    and_true] at h
  exact optionalText_inj.mp h.2.2.2

/-- What came of an exchange is what an owner is answered with. -/
theorem Turn.exists_brings_of_exchange {e : Exchange} (h : turn.exchange? w = some e) :
    ∃ user, turn.Brings w user e.action ∧ (turn.respond w).1 = answerOf e.result ∧
      e.result = (turn.server.service.perform turn.server.faults user e.action w).1 := by
  rw [Turn.exchange?] at h
  split at h
  · next user a hadmitted =>
    split at h
    · next howns =>
      obtain rfl := Option.some.inj h
      refine ⟨user, ⟨hadmitted, howns⟩, ?_, rfl⟩
      rw [Turn.respond, turn.server.respond_of_admission turn.request hadmitted]
    · cases h
  · cases h

theorem map_ne_refined {α : Type} {f : α → Reply} (hf : ∀ x a, f x ≠ .refined a)
    (result : Except Refusal α) (a : RefineAnswer) : result.map f ≠ .ok (.refined a) := by
  cases result with
  | error refusal => exact nofun
  | ok x => exact fun h => hf x a (Except.ok.inj h)

/-- A turn from which a refined prompt comes tells the identity of the prompt. -/
theorem Turn.tells_of_exchange {e : Exchange} (h : turn.exchange? w = some e) {a : RefineAnswer}
    (hresult : e.result = .ok (.refined a)) {id : Text} (hid : a.promptId = some id) :
    turn.Tells w e.action.project.toText id := by
  obtain ⟨user, hbrings, hanswer, hperform⟩ := Turn.exists_brings_of_exchange h
  rw [hresult] at hanswer hperform
  obtain ⟨action, result⟩ := e
  dsimp only at hbrings hperform ⊢
  -- Only a request to refine ends with a refined prompt.
  cases action with
  | refine r => exact ⟨user, r, a, hbrings, rfl, hanswer, hid⟩
  | generate r => exact absurd hperform.symm (map_ne_refined nofun _ a)
  | list project => exact absurd hperform.symm (map_ne_refined nofun _ a)
  | delete project item => exact absurd hperform.symm (map_ne_refined nofun _ a)

theorem Turn.Tells.hasPrompt {project id : Text} (h : turn.Tells w project id) :
    (turn.respond w).2.store.HasPrompt project id := by
  obtain ⟨user, r, a, hbrings, rfl, hanswer, hid⟩ := h
  have hrespond := turn.server.respond_of_admission turn.request hbrings.admitted w
  rw [Turn.respond, hrespond] at hanswer ⊢
  rw [Service.perform] at hanswer ⊢
  dsimp only at hanswer ⊢
  cases hresult : (turn.server.service.refine turn.server.faults user r w).1 with
  | error refusal =>
    rw [hresult] at hanswer
    exact absurd (congrArg Answer.status hanswer) refusal.status_answer_ne
  | ok b =>
    rw [hresult] at hanswer
    -- The client has read the very answer that refining gave.
    have hsame : b.toJson = a.toJson := Body.json.inj (congrArg Answer.body hanswer)
    exact turn.server.service.hasPrompt_of_refine turn.server.faults user hresult
      ((promptId_of_toJson_eq hsame).trans hid)

end

/-! ## Runs -/

section

variable {w : World} {turns : List Turn}

/-- The world after so many turns of a run. -/
def worldAt (w : World) (turns : List Turn) (k : Nat) : World :=
  after w (turns.take k)

theorem worldAt_succ {k : Nat} {turn : Turn} (h : turns[k]? = some turn) :
    worldAt w turns (k + 1) = (turn.respond (worldAt w turns k)).2 := by
  rw [worldAt, List.take_add_one, h, after, List.foldl_append]
  rfl

theorem worldAt_succ_of_none {k : Nat} (h : turns[k]? = none) :
    worldAt w turns (k + 1) = worldAt w turns k := by
  rw [worldAt, List.take_add_one, h, Option.toList_none, List.append_nil, worldAt]

theorem prompts_prefix_worldAt {j k : Nat} (h : j ≤ k) :
    (worldAt w turns j).store.prompts <+: (worldAt w turns k).store.prompts := by
  induction h with
  | refl => exact List.prefix_rfl
  | @step k _ ih =>
    cases hturn : turns[k]? with
    | none => rwa [worldAt_succ_of_none hturn]
    | some turn =>
      rw [worldAt_succ hturn]
      exact ih.trans (prompts_prefix_respond turn _)

/-- A row in the log was there at first, or a turn has logged it. -/
theorem mem_or_exists_adds {k : Nat} {row : ImageRow}
    (h : row ∈ (worldAt w turns k).store.images) :
    row ∈ w.store.images ∨
      ∃ j < k, ∃ turn : Turn, turns[j]? = some turn ∧ turn.Adds (worldAt w turns j) row := by
  induction k with
  | zero => exact .inl h
  | succ k ih =>
    -- What was in the log before the last turn is accounted for.
    have hearlier (hold : row ∈ (worldAt w turns k).store.images) : row ∈ w.store.images ∨
        ∃ j < k + 1, ∃ turn : Turn, turns[j]? = some turn ∧ turn.Adds (worldAt w turns j) row := by
      rcases ih hold with hfirst | ⟨j, hj, hadds⟩
      · exact .inl hfirst
      · exact .inr ⟨j, Nat.lt_succ_of_lt hj, hadds⟩
    cases hturn : turns[k]? with
    | none =>
      rw [worldAt_succ_of_none hturn] at h
      exact hearlier h
    | some turn =>
      rw [worldAt_succ hturn] at h
      rcases turn.mem_or_adds h with hold | ⟨hadds, -⟩
      · exact hearlier hold
      · exact .inr ⟨k, Nat.lt_succ_self k, turn, hturn, hadds⟩

/-- All links lead to their projects all the time exactly if each turn only adds such links. -/
theorem linked_worldAt_iff (hw : w.store.Linked) :
    (∀ k, (worldAt w turns k).store.Linked) ↔
      ∀ (k : Nat) (turn : Turn), turns[k]? = some turn →
        turn.LinksWithin (worldAt w turns k) := by
  -- Each world is made of the one before by a turn.
  constructor
  · intro hlinked k turn hturn
    have hnext := hlinked (k + 1)
    rw [worldAt_succ hturn] at hnext
    exact (linked_respond_iff (hlinked k)).mp hnext
  · intro hwithin k
    induction k with
    | zero => exact hw
    | succ k ih =>
      cases hturn : turns[k]? with
      | none => rwa [worldAt_succ_of_none hturn]
      | some turn =>
        rw [worldAt_succ hturn]
        exact (linked_respond_iff ih).mpr (hwithin k turn hturn)

/-- From an empty log on, whatever goes wrong in the database, the link of each row is the one that
an owner of its project has named in the request that the row was logged for. So all links lead to
prompts of the projects of their images exactly if each turn that logs images names such a prompt or
none. This holds if users only name what they were told before, when they had a prompt of the same
project refined. -/
theorem links_follow_requests (empty : w.store.images = []) (turns : List Turn) :
    let world := worldAt w turns
    (∀ k, ∀ row ∈ (world k).store.images,
      ∃ j < k, ∃ turn : Turn, turns[j]? = some turn ∧ turn.Adds (world j) row) ∧
    ((∀ k, (world k).store.Linked) ↔
      ∀ (k : Nat) (turn : Turn), turns[k]? = some turn → turn.LinksWithin (world k)) ∧
    ((∀ (k : Nat) (turn : Turn) (user : Text) (a : Action), turns[k]? = some turn →
        turn.Brings (world k) user a → ∀ id ∈ a.link?,
          ∃ j < k, ∃ earlier : Turn, turns[j]? = some earlier ∧
            earlier.Tells (world j) a.project.toText id.toText) →
      ∀ k, (world k).store.Linked) := by
  intro world
  have hstart : w.store.Linked := Database.Store.linked_of_no_images empty
  refine ⟨?_, linked_worldAt_iff hstart, ?_⟩
  · intro k row hrow
    refine (mem_or_exists_adds hrow).resolve_left ?_
    rw [empty]
    exact List.not_mem_nil
  · intro htold
    refine (linked_worldAt_iff hstart).mpr ?_
    intro k turn hturn user a hbrings _ id hid
    obtain ⟨j, hj, earlier, hearlier, htells⟩ := htold k turn user a hturn hbrings id hid
    -- What was told is in the history from then on.
    have hfound := htells.hasPrompt
    rw [← worldAt_succ hearlier] at hfound
    exact hfound.mono (prompts_prefix_worldAt hj)

end

/-! ## Two runs -/

/-- A server on its own: nothing goes wrong in its database, and no other service is reached. -/
def loneServer (user : Text) : Server :=
  { service :=
      { reasoner := none
        options := .default
        config := .default
        client := fun _ _ => .error ⟨.readTimeout, []⟩
        nesting := 985
        chance := 0
        issuer := .counting
        unkeptId := fun _ => []
        unkeptTime := [] }
    admission := Gateway.admission ⟨.always user, [], true, 985, Json.isStandard 985⟩
    faults := .none }

/-- Ann sends a project, a canvas with nothing on it, and further fields. -/
def annPosts (path project fields : String) : Turn :=
  let json := ("content-type".codes, "application/json".codes)
  let body := "\x7b\"project_id\":\"".codes ++ project.codes ++ "\",\"nodes\":[]".codes ++
    fields.codes ++ "\x7d".codes
  ⟨loneServer "ann".codes, ⟨"POST".codes, path.codes, [json], Text.utf8 body⟩⟩

/-- Ann has a prompt refined and names it in a request for images of the same project. -/
theorem kite_is_linked_to_its_prompt :
    let kites : Uuid := ⟨0x11111111111141118111111111111111⟩
    let told : Uuid := ⟨0x00000000000040008000000000000001⟩
    let ask := annPosts "/refine" "11111111-1111-4111-8111-111111111111"
      ",\"prompt\":\"a red kite\""
    let make := annPosts "/generate" "11111111-1111-4111-8111-111111111111"
      ",\"prompt_id\":\"00000000-0000-4000-8000-000000000001\""
    let w : World := ⟨⟨[(kites.toText, "ann".codes)], [], [], [], [], 0⟩, .empty⟩
    let world := worldAt w [ask, make]
    (world 2).store.images.map ImageRow.promptId = [some told.toText] ∧
      ∀ k, (world k).store.Linked := by
  intro kites told ask make w world
  let answer : RefineAnswer :=
    ⟨"a red kite".codes, [], "simple".codes, some told.toText⟩
  have hask : ask.admission.toOption.map (fun p => p.2.link?) = some none ∧
      (ask.exchange? w).bind (fun e =>
        e.result.toOption.map fun reply => (e.action.project, reply)) =
        some (kites, .refined answer) := by
    decide +kernel
  have hmake : make.admission.toOption.map (fun p => (p.2.project, p.2.link?)) =
      some (kites, some told) := by
    decide +kernel
  have hlog : (world 2).store.images.map ImageRow.promptId = [some told.toText] := by
    decide +kernel
  obtain ⟨-, -, hlinked⟩ := links_follow_requests (w := w) rfl [ask, make]
  refine ⟨hlog, hlinked ?_⟩
  clear hlog hlinked
  -- From here on the texts of the two requests do not matter.
  clear_value ask make
  obtain ⟨hnone, hreply⟩ := hask
  obtain ⟨e, hexchange, hmap⟩ := Option.bind_eq_some_iff.mp hreply
  obtain ⟨reply, hresult, heq⟩ := Option.map_eq_some_iff.mp hmap
  obtain ⟨hproject, rfl⟩ := Prod.mk.inj heq
  have hresult : e.result = .ok (.refined answer) := by
    cases h : e.result with
    | error refusal =>
      rw [h] at hresult
      cases hresult
    | ok reply =>
      rw [h] at hresult
      exact congrArg _ (Option.some.inj hresult)
  have htells := Turn.tells_of_exchange hexchange hresult rfl
  intro k turn user a hturn hbrings id hlink
  have hadmitted := hbrings.admitted
  rcases k with _ | _ | k
  · obtain rfl : ask = turn := Option.some.inj hturn
    rw [hadmitted] at hnone
    cases hlink.symm.trans (Option.some.inj hnone)
  · obtain rfl : make = turn := Option.some.inj hturn
    rw [hadmitted] at hmake
    obtain ⟨hmade, hnamed⟩ := Prod.mk.inj (Option.some.inj hmake)
    obtain rfl : told = id := Option.some.inj (hnamed.symm.trans hlink)
    refine ⟨0, Nat.zero_lt_one, ask, rfl, ?_⟩
    rw [hproject] at htells
    dsimp only at hmade
    rw [hmade]
    exact htells
  · cases hturn

/-- Ann names the prompt of another project. -/
theorem prompt_of_another_project_is_linked :
    let kites : Uuid := ⟨0x11111111111141118111111111111111⟩
    let boats : Uuid := ⟨0x22222222222242228222222222222222⟩
    let ask := annPosts "/refine" "22222222-2222-4222-8222-222222222222"
      ",\"prompt\":\"a red kite\""
    let make := annPosts "/generate" "11111111-1111-4111-8111-111111111111"
      ",\"prompt_id\":\"00000000-0000-4000-8000-000000000001\""
    let owners := [(kites.toText, "ann".codes), (boats.toText, "ann".codes)]
    let w : World := ⟨⟨owners, [], [], [], [], 0⟩, .empty⟩
    ¬(after w [ask, make]).store.Linked := by
  decide +kernel

end Api

end CanvasPrompt
