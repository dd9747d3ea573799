import CanvasPrompt.Api.Service
import CanvasPrompt.Database.Connection
import CanvasPrompt.Proofs.Database.StoredCanvas

/-!
# Graph data in its written form

A canvas may come as values or as texts in which these values are written: in a request, and in the
data column of a stored node. This module introduces

* `IsShallow room v`: no more than `room` containers of the value `v` are nested, as many as may be
  written and read;
* `WrittenField room m m'`: the member `m'` of a request is `m`, or `m` with its list of objects
  written;
* `WrittenRow room r r'`: the row `r'` is `r`, or `r` with its data written.

The main statement is `written_form_means_the_same`.
-/

namespace CanvasPrompt

open Api (GraphRequest ImageRequest Service graphRequest imageRequest objects)
open Database (Faults NodeRow Store dataObject jsonCodec)
open Json (Plain depth field find?)

/-- The value is not nested too deeply to be written and read back. -/
def Json.IsShallow (room : Nat) (v : Json) : Prop :=
  depth v ≤ room

instance (room : Nat) (v : Json) : Decidable (v.IsShallow room) :=
  Nat.decLe (depth v) room

/-! ## Objects and lists of them -/

/-- The list of some objects. -/
def Json.ofObjects (L : List Members) : Json :=
  .arr (L.map .obj)

theorem Json.plain_ofObjects {L : List Members} (h : ∀ ms ∈ L, Plain (.obj ms)) :
    Plain (ofObjects L) := by
  refine .arr fun v hv => ?_
  obtain ⟨ms, hms, rfl⟩ := List.mem_map.mp hv
  exact h ms hms

namespace Api

variable {room : Nat} {L : List Members}

theorem listedObjects_ofObjects (L : List Members) : listedObjects (.ofObjects L) = .ok L := by
  have hobjects : (L.map Json.obj).mapM object? = some L := by
    induction L with
    | nil => rfl
    | cons ms L ih => rw [List.map_cons, List.mapM_cons, ih]; rfl
  rw [Json.ofObjects, listedObjects, hobjects]

theorem objects_ofObjects (room : Nat) (L : List Members) :
    objects room (.ofObjects L) = .ok (some L) := by
  rw [objects.eq_def]
  show (listedObjects (.ofObjects L)).map some = _
  rw [listedObjects_ofObjects]
  rfl

/-- What a text means that is not empty. -/
theorem objects_str {t : Text} (ht : t ≠ []) :
    objects room (.str t) =
      match Json.read room t with
      | .ok v => (listedObjects v).map some
      | .error (.malformed _) => .error .malformedText
      | .error (.beyond limit) => .error (.beyond limit) := by
  cases t with
  | nil => exact absurd rfl ht
  | cons c t => rfl

theorem print_ne_nil {v : Json} (h : Plain v) : v.print ≠ [] := by
  obtain ⟨c, cs, hcs, -⟩ := Json.startsValue_print h
  exact hcs ▸ List.cons_ne_nil c cs

theorem objects_print (h : ∀ ms ∈ L, Plain (.obj ms))
    (hshallow : (Json.ofObjects L).IsShallow room) :
    objects room (.str (Json.ofObjects L).print) = .ok (some L) := by
  have hplain := Json.plain_ofObjects h
  rw [objects_str (print_ne_nil hplain), Json.read_print hplain hshallow]
  show (listedObjects (.ofObjects L)).map some = _
  rw [listedObjects_ofObjects]
  rfl

theorem objects_print_of_too_deep (h : ∀ ms ∈ L, Plain (.obj ms))
    (hdeep : ¬(Json.ofObjects L).IsShallow room) :
    ∃ inner, Json.write room (.ofObjects L) = .error (.nesting inner) ∧
      objects room (.str (Json.ofObjects L).print) = .error (.beyond (.nesting inner)) := by
  have hplain := Json.plain_ofObjects h
  obtain ⟨inner, hwrite, hread⟩ := Json.read_print_of_too_deep hplain (Nat.not_le.mp hdeep)
  exact ⟨inner, hwrite, by rw [objects_str (print_ne_nil hplain), hread]⟩

end Api

/-! ## Requests -/

namespace Api

/-- A member of a request is kept, or its list of objects is written as a text. Only the nodes and
the edges may be written. -/
inductive WrittenField (room : Nat) : Text × Json → Text × Json → Prop where
  | kept (m : Text × Json) : WrittenField room m m
  | written {name : Text} {L : List Members} (graph : name ∈ ["nodes".codes, "edges".codes])
      (plain : ∀ ms ∈ L, Plain (.obj ms)) (shallow : (Json.ofObjects L).IsShallow room) :
      WrittenField room (name, .ofObjects L) (name, .str (Json.ofObjects L).print)

variable {room : Nat} {body body' : Members}

/-- The value of a name is the same, or it is a list of objects that is written. -/
theorem find?_of_written (h : List.Forall₂ (WrittenField room) body body') (name : Text) :
    find? name body' = find? name body ∨
      name ∈ ["nodes".codes, "edges".codes] ∧
        ∃ v w L, find? name body = some v ∧ find? name body' = some w ∧
          objects room v = .ok (some L) ∧ objects room w = .ok (some L) := by
  -- The first field of the name decides in both bodies, and it is the same one.
  induction h with
  | nil => exact .inl rfl
  | @cons m m' rest rest' hm hrest ih =>
    cases hm with
    | kept =>
      rw [find?, find?]
      split
      · exact .inl rfl
      · exact ih
    | @written n L graph plain shallow =>
      rw [find?, find?]
      split
      · next hname =>
        refine .inr ⟨beq_iff_eq.mp hname ▸ graph, _, _, L, rfl, rfl, ?_, ?_⟩
        · exact objects_ofObjects room L
        · exact objects_print plain shallow
      · exact ih

/-- A member that is no list of objects has the same value. -/
theorem find?_eq_of_written (h : List.Forall₂ (WrittenField room) body body') {name : Text}
    (hname : name ∉ ["nodes".codes, "edges".codes]) : find? name body' = find? name body :=
  (find?_of_written h name).resolve_right fun hgraph => hname hgraph.1

theorem optionalField_eq_of_written {α : Type} (h : List.Forall₂ (WrittenField room) body body')
    {name : String} (hname : name.codes ∉ ["nodes".codes, "edges".codes]) (default : α)
    (check : Json → Except Defect α) :
    optionalField body' name default check = optionalField body name default check := by
  rw [optionalField, optionalField, find?_eq_of_written h hname]

/-- A list of objects is accepted in both forms. -/
theorem optionalField_objects_of_written (h : List.Forall₂ (WrittenField room) body body')
    (name : String) :
    optionalField body' name none (objectsValue room) =
      optionalField body name none (objectsValue room) := by
  rcases find?_of_written h name.codes with heq | ⟨-, v, w, L, hv, hw, hmeans, hmeans'⟩
  · rw [optionalField, optionalField, heq]
  · have hvalue : objectsValue room v = .ok (some L) := by rw [objectsValue, hmeans]
    have hvalue' : objectsValue room w = .ok (some L) := by rw [objectsValue, hmeans']
    rw [optionalField, optionalField, hv, hw]
    simp only [checkField, hvalue, hvalue']

/-- Only what is reported of a field that is missing tells the whole request. -/
theorem toOption_requiredField_of_written {α : Type}
    (h : List.Forall₂ (WrittenField room) body body') {name : String}
    (hname : name.codes ∉ ["nodes".codes, "edges".codes])
    (check : Json → Except Defect α) :
    (requiredField body' name check).toOption = (requiredField body name check).toOption := by
  rw [requiredField, requiredField, find?_eq_of_written h hname]
  cases find? name.codes body with
  | none => rfl
  | some v => rfl

/-- A request is accepted if its fields are. -/
theorem toOption_graphRequest (room : Nat) (body : Members) :
    (graphRequest room body).toOption =
      (requiredField body "project_id" identifier).toOption.bind fun project =>
        (optionalField body "nodes" none (objectsValue room)).toOption.bind fun nodes =>
          (optionalField body "edges" none (objectsValue room)).toOption.map fun edges =>
            ⟨project, promptValue (field body "prompt"), nodes, edges⟩ := by
  rw [graphRequest]
  cases requiredField body "project_id" identifier with
  | error i => rfl
  | ok project =>
    cases optionalField body "nodes" none (objectsValue room) with
    | error i => rfl
    | ok nodes =>
      cases optionalField body "edges" none (objectsValue room) with
      | error i => rfl
      | ok edges => rfl

theorem toOption_imageRequest (room : Nat) (body : Members) :
    (imageRequest room body).toOption =
      (graphRequest room body).toOption.bind fun graph =>
        (optionalField body "use_references" true truthValue).toOption.bind fun useReferences =>
          (optionalField body "provider" .gemini Preference.ofJson).toOption.bind fun provider =>
            (optionalField body "prompt_id" none (nullable identifier)).toOption.map fun promptId =>
              ⟨graph, useReferences, provider, promptId⟩ := by
  rw [imageRequest]
  cases graphRequest room body with
  | error is => rfl
  | ok graph =>
    cases optionalField body "use_references" true truthValue with
    | error i => rfl
    | ok useReferences =>
      cases optionalField body "provider" .gemini Preference.ofJson with
      | error i => rfl
      | ok provider =>
        cases optionalField body "prompt_id" none (nullable identifier) with
        | error i => rfl
        | ok promptId => rfl

/-- A request is accepted with its canvas in either form, and says the same. -/
theorem graphRequest_of_written (h : List.Forall₂ (WrittenField room) body body') :
    (graphRequest room body').toOption = (graphRequest room body).toOption := by
  have hprompt : field body' "prompt" = field body "prompt" := by
    rw [field, field, find?_eq_of_written h (by decide)]
  rw [toOption_graphRequest, toOption_graphRequest, hprompt,
    toOption_requiredField_of_written h (by decide), optionalField_objects_of_written h,
    optionalField_objects_of_written h]

theorem imageRequest_of_written (h : List.Forall₂ (WrittenField room) body body') :
    (imageRequest room body').toOption = (imageRequest room body).toOption := by
  rw [toOption_imageRequest, toOption_imageRequest, graphRequest_of_written h,
    optionalField_eq_of_written h (by decide), optionalField_eq_of_written h (by decide),
    optionalField_eq_of_written h (by decide)]

end Api

/-! ## Stored canvases -/

namespace Database

/-- A row is kept, or its data is written as a text. -/
inductive WrittenRow (room : Nat) : NodeRow → NodeRow → Prop where
  | kept (r : NodeRow) : WrittenRow room r r
  | written (r : NodeRow) {d : Members} (plain : Plain (.obj d))
      (shallow : (Json.obj d).IsShallow room) :
      WrittenRow room { r with data := .obj d } { r with data := .str (Json.obj d).print }

variable {room : Nat} {r r' : NodeRow}

theorem WrittenRow.project_eq (h : WrittenRow room r r') : r'.project = r.project := by
  cases h with
  | kept => rfl
  | written => rfl

theorem WrittenRow.entry_eq (h : WrittenRow room r r') : r'.entry room = r.entry room := by
  cases h with
  | kept => rfl
  | written r plain shallow =>
    rw [NodeRow.entry, NodeRow.entry, dataObject_print plain shallow, dataObject]

/-- The canvas of a project is the same in either form. -/
theorem canvasOf_of_written {store : Store} {nodes : List NodeRow}
    (h : List.Forall₂ (WrittenRow room) store.nodes nodes) (project : Text) :
    { store with nodes }.canvasOf room project = store.canvasOf room project := by
  -- The rows differ in their data only, and these give the same entries.
  have hentries : (nodes.filter fun r => r.project == project).mapM (NodeRow.entry room) =
      (store.nodes.filter fun r => r.project == project).mapM (NodeRow.entry room) := by
    generalize store.nodes = rows at h ⊢
    induction h with
    | nil => rfl
    | @cons r r' rest rest' hr hrest ih =>
      rw [List.filter_cons, List.filter_cons, hr.project_eq]
      split
      · rw [List.mapM_cons, List.mapM_cons, hr.entry_eq, ih]
      · exact ih
  rw [Store.canvasOf, Store.canvasOf]
  dsimp only
  rw [hentries]

end Database

theorem Api.Service.context_of_written (s : Service) (faults : Faults) {store : Store}
    {nodes : List NodeRow} (h : List.Forall₂ (Database.WrittenRow s.nesting) store.nodes nodes)
    (user : Text) (r : GraphRequest) :
    s.context faults { store with nodes } user r = s.context faults store user r := by
  have hcanvas : s.canvas faults { store with nodes } r = s.canvas faults store r := by
    rw [canvas, canvas, Database.canvasOf_of_written h]
  rw [context, context, hcanvas]
  rfl

/-! ## The two forms -/

/-- A list of objects is taken as it is, and so is the text in which it is written, however much
room there is for nesting: what can be written is read back. What is nested too deeply is not
written, and a text of it is refused with the same word. The same holds of the data of a stored
node. So a request may bring its canvas in either form, and a canvas may be stored in either form,
and the context is the same. -/
theorem written_form_means_the_same (room : Nat) :
    (∀ L : List Members, (∀ ms ∈ L, Plain (.obj ms)) →
      objects room (.ofObjects L) = .ok (some L) ∧
        ((Json.ofObjects L).IsShallow room →
          Json.write room (.ofObjects L) = .ok (Json.ofObjects L).print ∧
            objects room (.str (Json.ofObjects L).print) = .ok (some L)) ∧
        (¬(Json.ofObjects L).IsShallow room → ∃ inner,
          Json.write room (.ofObjects L) = .error (.nesting inner) ∧
            objects room (.str (Json.ofObjects L).print) = .error (.beyond (.nesting inner)))) ∧
      (∀ d : Members, Plain (.obj d) →
        dataObject room (.obj d) = .ok d ∧
          ((Json.obj d).IsShallow room →
            (jsonCodec room).encode (.obj d) = .ok (Json.obj d).print ∧
              (jsonCodec room).decode (Json.obj d).print = .ok (.obj d) ∧
              dataObject room (.str (Json.obj d).print) = .ok d) ∧
          (¬(Json.obj d).IsShallow room → ∃ inner,
            (jsonCodec room).encode (.obj d) = .error (.nesting inner) ∧
              dataObject room (.str (Json.obj d).print) = .error (.nesting inner))) ∧
      ∀ s : Service, s.nesting = room →
        ∀ body body' : Members, List.Forall₂ (Api.WrittenField room) body body' →
          ∀ (store : Store) (nodes : List NodeRow),
            List.Forall₂ (Database.WrittenRow room) store.nodes nodes →
              (graphRequest room body').toOption = (graphRequest room body).toOption ∧
                (imageRequest room body').toOption = (imageRequest room body).toOption ∧
                ∀ (faults : Faults) (user : Text) (r : GraphRequest),
                  s.context faults { store with nodes } user r =
                    s.context faults store user r := by
  refine ⟨?_, ?_, ?_⟩
  · intro L hL
    have hplain := Json.plain_ofObjects hL
    refine ⟨Api.objects_ofObjects room L, fun hshallow => ?_, fun hdeep => ?_⟩
    · exact ⟨Json.write_eq_print hplain hshallow, Api.objects_print hL hshallow⟩
    · exact Api.objects_print_of_too_deep hL hdeep
  · intro d hd
    refine ⟨rfl, fun hshallow => ?_, fun hdeep => ?_⟩
    · exact ⟨Json.write_eq_print hd hshallow, Json.read_print hd hshallow,
        Database.dataObject_print hd hshallow⟩
    · exact Database.dataObject_print_of_too_deep hd (Nat.not_le.mp hdeep)
  · rintro s rfl body body' hbody store nodes hnodes
    refine ⟨Api.graphRequest_of_written hbody, Api.imageRequest_of_written hbody, ?_⟩
    intro faults user r
    exact s.context_of_written faults hnodes user r

/-- Quotes, a line end, a character beyond U+FFFF and a negative number are had back. -/
theorem kite_is_the_same_in_writing :
    let kite : Text := Code.ofNat 0x1FA81 :: "a \"red\" kite\n".codes
    let d : Members := [("text".codes, .str kite), ("size".codes, .int (-12)),
      ("tags".codes, .arr [.null, .bool true])]
    Plain (.obj d) ∧ objects 3 (.str (Json.ofObjects [d]).print) = .ok (some [d]) ∧
      dataObject 3 (.str (Json.obj d).print) = .ok d := by
  intro kite d
  have hplain : Plain (.obj d) := by
    have htags : Plain (.arr [.null, .bool true]) :=
      .arr (by simpa using ⟨Plain.null, Plain.bool true⟩)
    refine .obj (by decide) (by decide) ?_
    simpa [d] using ⟨Plain.str (show kite.isEncodable = true by decide),
      Plain.int (by decide), htags⟩
  have hplains : ∀ ms ∈ [d], Plain (.obj ms) := by simpa using hplain
  obtain ⟨hlists, hobjects, -⟩ := written_form_means_the_same 3
  exact ⟨hplain, ((hlists [d] hplains).2.1 (by decide)).2,
    ((hobjects d hplain).2.1 (by decide)).2.2⟩

/-- Empty lists in lists, `n` times. -/
def Json.nestedLists : Nat → Json
  | 0 => .arr []
  | n + 1 => .arr [nestedLists n]

theorem Json.plain_nestedLists (n : Nat) : Plain (nestedLists n) := by
  induction n with
  | zero => exact .arr (List.forall_mem_nil _)
  | succ n ih => exact .arr (by simpa using ih)

theorem Json.depth_nestedLists (n : Nat) : depth (nestedLists n) = n + 1 := by
  induction n with
  | zero => rfl
  | succ n ih => rw [nestedLists, depth, Json.depthItems, Json.depthItems, ih, Nat.max_zero]

/-- An object that holds 3001 lists, one in the other, is taken as it is. Its text is refused
wherever fewer containers may be nested. -/
theorem deep_text_is_refused :
    let d : Members := [("more".codes, Json.nestedLists 3000)]
    Plain (.obj d) ∧ ∀ room ≤ 3000,
      objects room (.ofObjects [d]) = .ok (some [d]) ∧
        objects room (.str (Json.ofObjects [d]).print) ≠ .ok (some [d]) ∧
        dataObject room (.obj d) = .ok d ∧
        dataObject room (.str (Json.obj d).print) ≠ .ok d := by
  intro d
  have hplain : Plain (.obj d) :=
    .obj (by simp [d]) (List.forall_mem_singleton.mpr rfl)
      (List.forall_mem_singleton.mpr (Json.plain_nestedLists 3000))
  refine ⟨hplain, fun room hroom => ?_⟩
  have hplains : ∀ ms ∈ [d], Plain (.obj ms) := by simpa using hplain
  -- The object, and the list of it, hold the 3000 lists and are deeper still.
  have hdepth : room < depth (.obj d) := by
    rw [depth, Json.depthMembers, Json.depthMembers, Json.depth_nestedLists]
    omega
  have hdepths : room < depth (.ofObjects [d]) := by
    rw [Json.ofObjects, depth, List.map_singleton, Json.depthItems, Json.depthItems]
    omega
  obtain ⟨inner, -, hlist⟩ := Api.objects_print_of_too_deep hplains (Nat.not_le.mpr hdepths)
  obtain ⟨inner', -, hdata⟩ := Database.dataObject_print_of_too_deep hplain hdepth
  refine ⟨Api.objects_ofObjects room [d], ?_, rfl, ?_⟩
  · intro hread
    rw [hlist] at hread
    cases hread
  · intro hread
    rw [hdata] at hread
    cases hread

end CanvasPrompt
