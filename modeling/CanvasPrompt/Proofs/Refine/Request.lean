import CanvasPrompt.Proofs.Alternation
import CanvasPrompt.Proofs.Refine.Stages

/-!
# What a reasoning service is asked

The request holds an image and its marker for each reference that could be fetched, and guidance for
the roles of these. This module shows that they belong together, whichever fetches fail:

* `mem_roles_fetched`: the roles that the request mentions are those of the fetched references;
* `instruction_congr`: the order in which the roles are listed does not matter to the request;
* `PartsFor c got parts`: the parts for the fetched references `got` are all in their places.

The main statement is `refine_request`, for any pattern of failing fetches and for a client that is
given as well as for one that is opened.
-/

namespace CanvasPrompt.Refine

open Alternation (getElem?_pairs_append getElem?_pairs_append_last length_flatMap_pair)
open Run (Trace)
open Reasoning (Content Part imageParts humanContent)

/-! ## The roles of the images -/

/-- The roles of some images are those that one of them has. -/
theorem mem_roles_iff {images : List EncodedImage} {role : Role} :
    role ∈ EncodedImage.roles images ↔ ∃ i ∈ images, i.reference.role = role := by
  have hall : role ∈ Role.all := by cases role <;> decide
  simp [EncodedImage.roles, hall]

/-- The instruction depends on which roles there are, not on how they are listed. -/
theorem instruction_congr (c : Context) {names names' : List Text}
    (h : ∀ name, name ∈ names ↔ name ∈ names') :
    Prompt.instruction c names = Prompt.instruction c names' := by
  have hcontains : ∀ name, names.contains name = names'.contains name := by
    intro name
    rw [Bool.eq_iff_iff, List.contains_iff_mem, List.contains_iff_mem]
    exact h name
  have hempty : names.isEmpty = names'.isEmpty := by
    rw [Bool.eq_iff_iff, List.isEmpty_iff, List.isEmpty_iff, List.eq_nil_iff_forall_not_mem,
      List.eq_nil_iff_forall_not_mem]
    exact forall_congr' fun name => not_congr (h name)
  simp only [Prompt.instruction, Prompt.instructionLines, Prompt.imageLines, hcontains, hempty]

/-! ## The message of the user -/

/-- The marker of an image tells its role, and holds its label and its note. -/
theorem holds_marker (ref : ImageReference) :
    Code.scalar '[' :: (Prompt.announcement ref.role ++ ": ".codes) <+: ref.marker ∧
      (∀ label ∈ ref.altLabel, label <:+: ref.marker) ∧
      ∀ note ∈ ref.note, note <:+: ref.marker := by
  have hrole : Role.named? ref.role.name = some ref.role := by
    cases ref.role <;> rfl
  -- The marker is cut into its head, the label and what stands behind the label.
  let label := Text.orElse (ref.altLabel.getD []) "untitled image".codes
  let remark := ref.note.getD []
  let behind := (if remark.isEmpty then [] else " | note: ".codes ++ remark) ++ [Code.scalar ']']
  have hmarker : ref.marker =
      Code.scalar '[' :: (Prompt.announcement ref.role ++ ": ".codes) ++ (label ++ behind) := by
    rw [ImageReference.marker, Prompt.marker, hrole]
    simp only [List.cons_append, List.append_assoc]
    rfl
  rw [hmarker]
  refine ⟨List.prefix_append _ _, ?_, ?_⟩
  · intro t ht
    cases t with
    | nil => exact List.nil_infix
    | cons c t =>
      -- A label that is not empty stands as it is.
      have hlabel : label = c :: t := by
        simp only [label, Option.mem_def.mp ht]
        rfl
      rw [hlabel]
      exact List.infix_append' _ _ _
  · intro t ht
    cases t with
    | nil => exact List.nil_infix
    | cons c t =>
      have hbehind : behind = " | note: ".codes ++ (c :: t ++ [Code.scalar ']']) := by
        simp only [behind, remark, Option.mem_def.mp ht, ← List.append_assoc]
        rfl
      rw [hbehind]
      exact ((List.infix_append' _ _ _).trans (List.suffix_append label _).isInfix).trans
        (List.suffix_append _ _).isInfix

/-- The parts of a message for a context, when the references `got` were fetched with these
responses. -/
structure PartsFor (c : Context) (got : List (ImageReference × Web.Response)) (parts : List Part) :
    Prop where
  /-- There are two parts for each reference and one for the instruction. -/
  length_eq : parts.length = 2 * got.length + 1
  /-- The image of each reference stands at an even index. -/
  image : ∀ n ref response, got[n]? = some (ref, response) →
    parts[2 * n]? = some (.image (EncodedImage.ofResponse ref response).dataUrl)
  /-- The marker behind it tells role, label and note of the same reference. -/
  marker : ∀ n ref response, got[n]? = some (ref, response) →
    parts[2 * n + 1]? = some (.text (Prompt.marker ref.role.name ref.altLabel ref.note))
  /-- The instruction comes last, for exactly the roles of these references. -/
  instruction : ∀ roles : List Role, (∀ role, role ∈ roles ↔ ∃ a ∈ got, a.1.role = role) →
    parts[2 * got.length]? = some (.text (Prompt.instruction c (roles.map Role.name)))

/-- The message of the user for a context, with the images that could be fetched. -/
def content (c : Context) (images : List EncodedImage) : Content :=
  humanContent (Prompt.instruction c ((EncodedImage.roles images).map Role.name)) images

/-- The roles of fetched images are those of the references that they were fetched for. -/
theorem mem_roles_fetched {got : List (ImageReference × Web.Response)} {role : Role} :
    role ∈ EncodedImage.roles (got.map Vision.image) ↔ ∃ a ∈ got, a.1.role = role := by
  rw [mem_roles_iff]
  constructor
  · rintro ⟨i, hi, hrole⟩
    obtain ⟨a, ha, rfl⟩ := List.mem_map.mp hi
    exact ⟨a, ha, hrole⟩
  · rintro ⟨a, ha, hrole⟩
    exact ⟨Vision.image a, List.mem_map_of_mem ha, hrole⟩

/-- With images the message has the parts for them, all in their places. -/
theorem exists_partsFor (c : Context) {got : List (ImageReference × Web.Response)} (h : got ≠ []) :
    ∃ parts, content c (got.map Vision.image) = .parts parts ∧ PartsFor c got parts := by
  let pair (a : ImageReference × Web.Response) : List Part :=
    [.image (Vision.image a).dataUrl, .text (Vision.image a).marker]
  let images := got.map Vision.image
  have hpairs : images.flatMap imageParts = got.flatMap pair := List.flatMap_map ..
  refine ⟨got.flatMap pair ++ [.text (Prompt.instruction c
    ((EncodedImage.roles images).map Role.name))], ?_, ?_, ?_, ?_, ?_⟩
  · rw [content, humanContent, if_neg (by simpa using h), hpairs]
  · rw [List.length_append, length_flatMap_pair]
    rfl
  · intro n ref response hn
    exact (getElem?_pairs_append hn).1
  · intro n ref response hn
    exact (getElem?_pairs_append hn).2
  · intro roles hroles
    -- The instruction lists the roles in the order of `Role.all`, `roles` in any order.
    have hnames : ∀ name, name ∈ (EncodedImage.roles images).map Role.name ↔
        name ∈ roles.map Role.name := by
      intro name
      simp only [List.mem_map, images, mem_roles_fetched, hroles]
    rw [getElem?_pairs_append_last, instruction_congr c hnames]

/-- Each reference of the context is fetched once, in the order of the roles, whatever comes of it,
and the service gets one instruction and one message of the user. If no reference could be fetched,
the message is the plain request. Else it has an image and the marker of the same reference for each
one that could be fetched, in order, and at last the request for just the roles of these. It does
not matter whether a client has to be opened. -/
theorem refine_request (service : Reasoner) (options : Options) (client : Web.Client) (c : Context)
    (t : Trace) (hwork : c.images ≠ [] ∨ c.textDescriptors ≠ []) :
    let got := Vision.fetched client t.calls c.images
    ∃ content : Content,
      (∀ opensClient nesting,
        let after := ((refine (some service) options ⟨client, opensClient, nesting⟩ c).run t).2
        after.calls = t.calls ++ c.images.map Vision.fetchCall ∧
          after.requests = t.requests ++
            if options.timeout.atMostZero then []
            else [[.system (Prompt.system options.wordBudget), .human content]]) ∧
      (got = [] → content = .plain (Prompt.instruction c [])) ∧
      (got ≠ [] → ∃ parts, content = .parts parts ∧ PartsFor c got parts) := by
  intro got
  -- The content depends on the client and the trace, not on who opened the client.
  refine ⟨content c (got.map Vision.image), ?_, ?_, exists_partsFor c⟩
  · intro opensClient nesting
    have htrivial : isTrivial c = false := by
      rw [isTrivial, Bool.and_eq_false_iff, List.isEmpty_eq_false_iff, List.isEmpty_eq_false_iff]
      exact hwork
    obtain ⟨t', hrun, hcalls, hrequests⟩ :=
      run_refine_some service options ⟨client, opensClient, nesting⟩ c t htrivial
    rw [hrun]
    exact ⟨hcalls, hrequests⟩
  · intro hgot
    rw [hgot]
    rfl

/-- A subject that cannot be fetched and a scene that can: the request has the scene alone. -/
theorem refine_request_scene_alone :
    let subject : ImageReference := ⟨"https://a".codes, none, none, .subject⟩
    let scene : ImageReference := ⟨"https://b".codes, none, none, .scene⟩
    let client : Web.Client := fun past _ =>
      if past.isEmpty then .error ⟨.connect, []⟩ else .ok ⟨200, none, [0]⟩
    let c : Context := ⟨[subject], [scene], [], [], [], [], [], [], 0⟩
    ∃ parts : List Part,
      (∀ opensClient nesting,
        let access : Web.Access := ⟨client, opensClient, nesting⟩
        ((refine (some ⟨[], .silent⟩) .default access c).run .empty).2.requests =
          [[.system (Prompt.system Prompt.defaultWordBudget), .human (.parts parts)]]) ∧
      parts.length = 3 ∧ parts[1]? = some (.text scene.marker) ∧
      parts[2]? = some (.text (Prompt.instruction c [Role.scene.name])) := by
  intro subject scene client c
  obtain ⟨content, hrun, -, hparts⟩ :=
    refine_request ⟨[], .silent⟩ .default client c .empty (.inl (List.cons_ne_nil _ _))
  have hgot : Vision.fetched client Trace.empty.calls c.images = [(scene, ⟨200, none, [0]⟩)] := rfl
  rw [hgot] at hparts
  obtain ⟨parts, rfl, hplaces⟩ := hparts (List.cons_ne_nil _ _)
  refine ⟨parts, ?_, hplaces.length_eq, hplaces.marker 0 scene _ rfl, ?_⟩
  · intro opensClient nesting
    exact (hrun opensClient nesting).2
  · exact hplaces.instruction [.scene] (by simp [scene, eq_comm])

end CanvasPrompt.Refine
