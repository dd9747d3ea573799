import CanvasPrompt.Context.Basic
import CanvasPrompt.Refine.Basic
import Mathlib.Logic.Relation

/-!
# What contexts depend on

A context is made of what a canvas says, not of how it is laid out. This module introduces

* `ImageNode.content`: the URL, the label, the note and the role of an image node;
* `Snapshot.SaysTheSame s t`: the canvases have the same descriptions, the same contents of images
  and the same labels of edges, each in the same order;
* `Snapshot.Rearranged s t`: one change of the layout, such as to move a node or to add an edge
  without a label;
* `Node.unsourced`: a node without the URL, the note and the role of its image.

Canvases that say the same have the same context (`assemble_congr`), and any number of changes of
the layout leads to a canvas that says the same (`saysTheSame_of_eqvGen`). In turn the URLs, notes
and roles of images and the caps reach nothing but the buckets (`facts_congr`). The main statement
is `assemble_ignores_layout`.
-/

namespace CanvasPrompt

/-- What an image node contributes to a context. -/
structure ImageContent where
  /-- Where the image is stored, if it is. -/
  sourceUrl : Option Text
  /-- The label of the image. -/
  altLabel : Option Text
  /-- A remark of the user. -/
  note : Option Text
  /-- What the image is to the picture. -/
  role : Role
  deriving DecidableEq

/-- The content of an image node. -/
def ImageNode.content (n : ImageNode) : ImageContent :=
  ⟨n.sourceUrl, n.altLabel, n.note, n.role⟩

/-- The node without the URL, the note and the role of its image. -/
def Node.unsourced : Node → Node
  | .text n => .text n
  | .image n => .image { n with sourceUrl := none, note := none, roleLabel := none }

namespace Snapshot

/-- The two canvases say the same. -/
structure SaysTheSame (s t : Snapshot) : Prop where
  /-- They have the same descriptions, apart from empty ones. -/
  descriptions : ((s.textNodes.map TextNode.text).filter fun d => d ≠ []) =
    (t.textNodes.map TextNode.text).filter fun d => d ≠ []
  /-- They have the same contents of images. -/
  images : s.imageNodes.map ImageNode.content = t.imageNodes.map ImageNode.content
  /-- They have the same labels of edges, apart from blank ones. -/
  labels : ((s.edges.map fun e => Text.strip (e.label.getD [])).filter fun l => l ≠ []) =
    (t.edges.map fun e => Text.strip (e.label.getD [])).filter fun l => l ≠ []

/-- The second canvas differs from the first one by one change that has nothing to say. -/
inductive Rearranged : Snapshot → Snapshot → Prop where
  /-- A text node gets another identity, other tags or another place. -/
  | text (before later : List Node) {es : List Edge} {n m : TextNode} (h : m.text = n.text) :
      Rearranged ⟨before ++ .text n :: later, es⟩ ⟨before ++ .text m :: later, es⟩
  /-- An image node gets another identity, another state of its upload or another place. -/
  | image (before later : List Node) {es : List Edge} {n m : ImageNode}
      (h : m.content = n.content) :
      Rearranged ⟨before ++ .image n :: later, es⟩ ⟨before ++ .image m :: later, es⟩
  /-- A text node and the image node behind it change places. -/
  | swap (before later : List Node) {es : List Edge} {n : TextNode} {m : ImageNode} :
      Rearranged ⟨before ++ .text n :: .image m :: later, es⟩
        ⟨before ++ .image m :: .text n :: later, es⟩
  /-- An empty text node is left out. -/
  | emptyText (before later : List Node) {es : List Edge} {n : TextNode} (h : n.text = []) :
      Rearranged ⟨before ++ .text n :: later, es⟩ ⟨before ++ later, es⟩
  /-- An edge gets another identity or other ends. -/
  | edge {ns : List Node} (before later : List Edge) {e f : Edge} (h : f.label = e.label) :
      Rearranged ⟨ns, before ++ e :: later⟩ ⟨ns, before ++ f :: later⟩
  /-- An edge without a label, or with a blank one, is left out. -/
  | unlabelled {ns : List Node} (before later : List Edge) {e : Edge}
      (h : Text.strip (e.label.getD []) = []) :
      Rearranged ⟨ns, before ++ e :: later⟩ ⟨ns, before ++ later⟩

/-! ## Changes of the layout -/

section

variable (before later : List Node)

@[simp]
theorem textNodesOf_append :
    textNodesOf (before ++ later) = textNodesOf before ++ textNodesOf later :=
  List.filterMap_append

@[simp]
theorem imageNodesOf_append :
    imageNodesOf (before ++ later) = imageNodesOf before ++ imageNodesOf later :=
  List.filterMap_append

@[simp]
theorem textNodesOf_cons_text (n : TextNode) :
    textNodesOf (.text n :: later) = n :: textNodesOf later := rfl

@[simp]
theorem textNodesOf_cons_image (n : ImageNode) :
    textNodesOf (.image n :: later) = textNodesOf later := rfl

@[simp]
theorem imageNodesOf_cons_text (n : TextNode) :
    imageNodesOf (.text n :: later) = imageNodesOf later := rfl

@[simp]
theorem imageNodesOf_cons_image (n : ImageNode) :
    imageNodesOf (.image n :: later) = n :: imageNodesOf later := rfl

end

namespace SaysTheSame

variable {s t u : Snapshot}

theorem refl (s : Snapshot) : SaysTheSame s s :=
  ⟨rfl, rfl, rfl⟩

theorem symm (h : SaysTheSame s t) : SaysTheSame t s :=
  ⟨h.descriptions.symm, h.images.symm, h.labels.symm⟩

theorem trans (h : SaysTheSame s t) (h' : SaysTheSame t u) : SaysTheSame s u :=
  ⟨h.descriptions.trans h'.descriptions, h.images.trans h'.images, h.labels.trans h'.labels⟩

/-- A change of the layout does not change what the canvas says. -/
theorem of_rearranged (h : Rearranged s t) : SaysTheSame s t := by
  cases h with
  | text _ _ h => constructor <;> simp [textNodes, imageNodes, h]
  | image _ _ h => constructor <;> simp [textNodes, imageNodes, h]
  | swap _ _ => constructor <;> simp [textNodes, imageNodes]
  | emptyText _ _ h => constructor <;> simp [textNodes, imageNodes, h]
  | edge _ _ h => constructor <;> simp [textNodes, imageNodes, h]
  | unlabelled _ _ h => constructor <;> simp [textNodes, imageNodes, h]

end SaysTheSame

/-- Any number of changes of the layout, made or undone, leads to a canvas that says the same. -/
theorem saysTheSame_of_eqvGen {s t : Snapshot} (h : Relation.EqvGen Rearranged s t) :
    s.SaysTheSame t := by
  induction h with
  | rel s t h => exact .of_rearranged h
  | refl s => exact .refl s
  | symm s t _ ih => exact ih.symm
  | trans s t u _ _ ih ih' => exact ih.trans ih'

/-! ## What a canvas says -/

theorem descriptors_eq (s : Snapshot) :
    descriptors s.nodes = (s.textNodes.map TextNode.text).filter fun d => d ≠ [] := by
  rw [descriptors, textNodes]
  refine List.filter_congr fun d _ => ?_
  cases d with
  | nil => rfl
  | cons c rest => rfl

theorem relationships_eq (s : Snapshot) :
    s.relationships =
      (s.edges.map fun e => Text.strip (e.label.getD [])).filter fun l => l ≠ [] := by
  rw [relationships]
  induction s.edges with
  | nil => rfl
  | cons e rest ih =>
    rw [List.filterMap_cons, ih, List.map_cons, List.filter_cons, Edge.relationship?,
      Text.nonBlank?]
    cases Text.strip (e.label.getD []) with
    | nil => rfl
    | cons c label => rfl

end Snapshot

namespace Context

open Snapshot (SaysTheSame Rearranged)

variable {s t : Snapshot}

/-- The reference of an image node, read off its content. -/
def contentReference? (c : ImageContent) : Option ImageReference :=
  match c.sourceUrl with
  | none => none
  | some url =>
    if Url.isPersisted url then some ⟨Text.strip url, c.altLabel, c.note, c.role⟩ else none

theorem references_eq_of_content (s : Snapshot) :
    references s = (s.imageNodes.map ImageNode.content).filterMap contentReference? := by
  rw [references, List.filterMap_map]
  rfl

theorem imageLabels_eq_of_content (s : Snapshot) :
    Prompt.imageLabels s.nodes =
      (s.imageNodes.map ImageNode.content).map fun c =>
        Text.orElse (c.altLabel.getD []) Prompt.imagePlaceholder := by
  rw [Prompt.imageLabels, List.map_map]
  rfl

/-- Canvases that say the same have the same context. -/
theorem assemble_congr (h : s.SaysTheSame t) (userPrompt : Text) (perRoleCap : Int)
    (maxImages : Option Int) :
    assemble s userPrompt perRoleCap maxImages = assemble t userPrompt perRoleCap maxImages := by
  have hreferences : references s = references t := by
    rw [references_eq_of_content, references_eq_of_content, h.images]
  have hdescriptors : Snapshot.descriptors s.nodes = Snapshot.descriptors t.nodes := by
    rw [Snapshot.descriptors_eq, Snapshot.descriptors_eq, h.descriptions]
  have hrelationships : s.relationships = t.relationships := by
    rw [Snapshot.relationships_eq, Snapshot.relationships_eq, h.labels]
  have hsimple : Prompt.simple s.nodes = Prompt.simple t.nodes := by
    rw [Prompt.simple, Prompt.simple, hdescriptors, imageLabels_eq_of_content,
      imageLabels_eq_of_content, h.images]
  rw [assemble, assemble, hreferences, hdescriptors, hrelationships, hsimple]

/-! ## Sources and caps -/

theorem textNodesOf_unsourced (nodes : List Node) :
    Snapshot.textNodesOf (nodes.map Node.unsourced) = Snapshot.textNodesOf nodes := by
  induction nodes with
  | nil => rfl
  | cons n rest ih =>
    cases n with
    | text n => exact congrArg (n :: ·) ih
    | image n => exact ih

theorem altLabels_unsourced (nodes : List Node) :
    (Snapshot.imageNodesOf (nodes.map Node.unsourced)).map ImageNode.altLabel =
      (Snapshot.imageNodesOf nodes).map ImageNode.altLabel := by
  induction nodes with
  | nil => rfl
  | cons n rest ih =>
    cases n with
    | text n => exact ih
    | image n => exact congrArg (n.altLabel :: ·) ih

/-- The descriptions follow from the nodes without the sources of their images. -/
theorem descriptors_unsourced (nodes : List Node) :
    Snapshot.descriptors (nodes.map Node.unsourced) = Snapshot.descriptors nodes := by
  rw [Snapshot.descriptors, Snapshot.descriptors, textNodesOf_unsourced]

/-- The flat prompt follows from the nodes without the sources of their images. -/
theorem simple_unsourced (nodes : List Node) :
    Prompt.simple (nodes.map Node.unsourced) = Prompt.simple nodes := by
  have hlabels (nodes : List Node) : Prompt.imageLabels nodes =
      ((Snapshot.imageNodesOf nodes).map ImageNode.altLabel).map fun label =>
        Text.orElse (label.getD []) Prompt.imagePlaceholder := by
    rw [Prompt.imageLabels, List.map_map]
    rfl
  rw [Prompt.simple, Prompt.simple, descriptors_unsourced, hlabels, hlabels, altLabels_unsourced]

/-- Two contexts agree in all but the buckets and the number of dropped images. -/
structure SameFacts (c d : Context) : Prop where
  /-- They have the same descriptions. -/
  textDescriptors : c.textDescriptors = d.textDescriptors
  /-- They have the same relationships. -/
  relationships : c.relationships = d.relationships
  /-- The user asked for the same. -/
  userPrompt : c.userPrompt = d.userPrompt
  /-- They have the same flat prompt. -/
  simplePrompt : c.simplePrompt = d.simplePrompt

/-- The URLs, notes and roles of images and the caps reach nothing but the buckets and the number of
dropped images. -/
theorem facts_congr (hnodes : s.nodes.map Node.unsourced = t.nodes.map Node.unsourced)
    (hedges : s.edges = t.edges) (userPrompt : Text) (perRoleCap perRoleCap' : Int)
    (maxImages maxImages' : Option Int) :
    (assemble s userPrompt perRoleCap maxImages).SameFacts
      (assemble t userPrompt perRoleCap' maxImages') where
  textDescriptors := by
    show Snapshot.descriptors s.nodes = Snapshot.descriptors t.nodes
    rw [← descriptors_unsourced, hnodes, descriptors_unsourced]
  relationships := by
    show s.edges.filterMap Edge.relationship? = t.edges.filterMap Edge.relationship?
    rw [hedges]
  userPrompt := rfl
  simplePrompt := by
    show Prompt.simple s.nodes = Prompt.simple t.nodes
    rw [← simple_unsourced, hnodes, simple_unsourced]

/-- Changes of the layout lead to a canvas that says the same, and canvases that say the same have
the same context, so that the same prompt is compiled from them with the same calls and requests. If
two canvases differ in the URLs, notes and roles of their images alone, then their contexts differ
in the images alone, under whatever caps. -/
theorem assemble_ignores_layout (s t : Snapshot) (userPrompt : Text) :
    (Relation.EqvGen Rearranged s t → s.SaysTheSame t) ∧
      (s.SaysTheSame t →
        (∀ perRoleCap maxImages,
          assemble s userPrompt perRoleCap maxImages =
            assemble t userPrompt perRoleCap maxImages) ∧
        ∀ service options access trace,
          let compiled (canvas : Snapshot) : Refine.Result × Run.Trace :=
            (Refine.refine service options access
              (assemble canvas userPrompt options.perRoleCap options.maxImages)).run trace
          compiled s = compiled t) ∧
      (s.nodes.map Node.unsourced = t.nodes.map Node.unsourced → s.edges = t.edges →
        ∀ perRoleCap perRoleCap' maxImages maxImages',
          (assemble s userPrompt perRoleCap maxImages).SameFacts
            (assemble t userPrompt perRoleCap' maxImages')) := by
  refine ⟨Snapshot.saysTheSame_of_eqvGen, ?_, ?_⟩
  · intro h
    -- The refinement is given the context only, and so cannot tell the canvases apart.
    have hcontext := assemble_congr h userPrompt
    refine ⟨hcontext, ?_⟩
    intro service options access trace compiled
    show compiled s = compiled t
    simp only [compiled, hcontext]
  · intro hnodes hedges perRoleCap perRoleCap' maxImages maxImages'
    exact facts_congr hnodes hedges userPrompt perRoleCap perRoleCap' maxImages maxImages'

/-- A canvas whose nodes change places, with an empty text node and an edge without a label besides,
has the context that it had; with another role for its image it has the same flat prompt. -/
theorem rearranged_canvas_has_its_context :
    let sunset (id : String) : Node := .text ⟨id.codes, "sunset".codes, [], .origin⟩
    let blank : Node := .text ⟨"c".codes, [], ["tag".codes], .origin⟩
    let image (role : String) (state : UploadState) : Node :=
      .image ⟨"b".codes, some "https://x/i".codes, none, none, some role.codes, state, .origin⟩
    let edge : Edge := ⟨"e".codes, "a".codes, "b".codes, some " ".codes⟩
    let s : Snapshot := ⟨[sunset "a", image "style" .idle], []⟩
    let t : Snapshot := ⟨[image "style" .idle, sunset "d", blank], [edge]⟩
    let u : Snapshot := ⟨[sunset "a", image "scene" .idle], []⟩
    assemble s [] 2 none = assemble t [] 2 none ∧
      (assemble s [] 2 none).SameFacts (assemble u [] 0 (some 1)) := by
  intro sunset blank image edge s t u
  -- Four steps lead from one canvas to the other, the last two in the opposite direction.
  have hswap : Rearranged s ⟨[image "style" .idle, sunset "a"], []⟩ := .swap [] []
  have hrename : Rearranged ⟨[image "style" .idle, sunset "a"], []⟩
      ⟨[image "style" .idle, sunset "d"], []⟩ := .text [image "style" .idle] [] rfl
  have hblank : Rearranged ⟨[image "style" .idle, sunset "d", blank], []⟩
      ⟨[image "style" .idle, sunset "d"], []⟩ :=
    .emptyText [image "style" .idle, sunset "d"] [] rfl
  have hedge : Rearranged t ⟨[image "style" .idle, sunset "d", blank], []⟩ :=
    .unlabelled [] [] (by decide)
  have hmoved : Relation.EqvGen Rearranged s t :=
    .trans _ _ _ (.rel _ _ hswap) <| .trans _ _ _ (.rel _ _ hrename) <|
      .trans _ _ _ (.symm _ _ (.rel _ _ hblank)) (.symm _ _ (.rel _ _ hedge))
  have hunsourced : s.nodes.map Node.unsourced = u.nodes.map Node.unsourced := by
    simp only [s, u, image, List.map_cons, Node.unsourced]
  obtain ⟨hsame, hcontext, -⟩ := assemble_ignores_layout s t []
  obtain ⟨-, -, hfacts⟩ := assemble_ignores_layout s u []
  exact ⟨(hcontext (hsame hmoved)).1 2 none, hfacts hunsourced rfl 2 0 none (some 1)⟩

end Context

end CanvasPrompt
