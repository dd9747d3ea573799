import CanvasPrompt.Proofs.Canvas.FirstWins
import CanvasPrompt.Proofs.Fallible
import CanvasPrompt.Proofs.Generate.Guarantee
import CanvasPrompt.Proofs.Refine.Cleaning
import CanvasPrompt.Proofs.Refine.Outcome

/-!
# When a refined prompt says something

A prompt says something if it is more than white space. What the user asked for and the labels of
images are trimmed before they get into a prompt, replies are cleaned, and the fallback has the
quality suffix in it. Descriptions are taken as they are, and so one of them alone can be all there
is to a prompt. This module introduces

* `IsMute s`: all that the canvas `s` says is one description of white space.

The main statement is `mute_prompt_iff`: without a service and a wish of the user such a canvas
leads to a prompt of white space, and nothing else does.
-/

namespace CanvasPrompt

open Generate (effectivePrompt)
open Run (Trace)
open Text (IsTrimmed OnlyOf StartsClear isBlank)

/-- All that the canvas says is one description, and there is only white space in it. -/
def Canvas.IsMute (s : Snapshot) : Prop :=
  s.imageNodes = [] ∧ ∃ t, Snapshot.descriptors s.nodes = [t] ∧ OnlyOf isBlank t

/-! ## The flat prompt -/

namespace Canvas

/-- Whatever a canvas is resolved from, its nodes are tidy. -/
theorem isTidy_of_resolve {nodes edges : Json} {s : Snapshot} (h : resolve nodes edges = .ok s) :
    ∀ n ∈ s.nodes, IsTidy n := by
  obtain ⟨items, -, h⟩ := Fallible.bind_eq_ok.mp h
  obtain ⟨resolved, hresolved, h⟩ := Fallible.bind_eq_ok.mp h
  obtain ⟨edgeItems, -, h⟩ := Fallible.bind_eq_ok.mp h
  obtain rfl := Fallible.pure_eq_ok.mp h
  intro n hn
  rcases resolveNodes_cases items with ⟨hrefused, -⟩ | ⟨ns, hns, hnodeOf, -⟩
  · rw [hrefused] at hresolved
    cases hresolved
  · rw [hns] at hresolved
    cases hresolved
    exact forall_mem_reduceOption hnodeOf (fun _ _ h => h.isTidy) n
      ((firstOfEachId_sublist [] _).subset hn)

end Canvas

namespace Prompt

/-- The labels of tidy images say something. -/
theorem not_blank_of_mem_imageLabels {nodes : List Node} (h : ∀ n ∈ nodes, Canvas.IsTidy n)
    {label : Text} (hlabel : label ∈ imageLabels nodes) : ¬OnlyOf isBlank label := by
  obtain ⟨n, hn, rfl⟩ := List.mem_map.mp hlabel
  have htidy : Canvas.IsTidy (.image n) := by
    obtain ⟨node, hnode, heq⟩ := List.mem_filterMap.mp hn
    cases node with
    | text => cases heq
    | image => exact Option.some.inj heq ▸ h _ hnode
  -- A label that is told is trimmed, and the placeholder has letters.
  cases halt : n.altLabel with
  | none => exact (by decide : ¬OnlyOf isBlank imagePlaceholder)
  | some alt =>
    have htrimmed : alt.IsTrimmed := htidy.2.2.1 alt halt
    rw [Option.getD_some, Text.orElse_of_ne_nil htrimmed.ne_nil]
    exact htrimmed.startsClear.not_onlyOf htrimmed.ne_nil

theorem not_blank_intercalate (x y : Text) (rest : List Text) :
    ¬OnlyOf isBlank (", ".codes.intercalate (x :: y :: rest)) := by
  intro h
  have hcomma : Code.scalar ',' ∈ ", ".codes.intercalate (x :: y :: rest) := by
    simp [List.intercalate, String.codes]
  exact absurd (h ',' hcomma) (by decide)

/-- A flat prompt of white space comes from one description of white space. -/
theorem blank_simple_iff {s : Snapshot} (h : ∀ n ∈ s.nodes, Canvas.IsTidy n) :
    simple s.nodes ≠ [] ∧ OnlyOf isBlank (simple s.nodes) ↔ Canvas.IsMute s := by
  constructor
  · rintro ⟨hne, hblank⟩
    rw [simple] at hne hblank
    cases hsaid : Snapshot.descriptors s.nodes ++ imageLabels s.nodes with
    | nil =>
      rw [hsaid] at hne
      exact absurd rfl hne
    | cons x rest =>
      cases rest with
      -- One part alone: a label says something, so it is a description.
      | nil =>
        rw [hsaid, List.intercalate_singleton] at hblank
        rcases List.append_eq_singleton_iff.mp hsaid with ⟨-, hlabels⟩ | ⟨htexts, hlabels⟩
        · have hlabel : x ∈ imageLabels s.nodes := hlabels ▸ List.mem_singleton_self x
          exact absurd hblank (not_blank_of_mem_imageLabels h hlabel)
        · exact ⟨List.map_eq_nil_iff.mp hlabels, x, htexts, hblank⟩
      | cons y rest =>
        rw [hsaid] at hblank
        exact absurd hblank (not_blank_intercalate x y rest)
  · rintro ⟨himages, t, htexts, hblank⟩
    have hlabels : imageLabels s.nodes = [] := List.map_eq_nil_iff.mpr himages
    have ht : t ≠ [] := by
      have hmem : t ∈ Snapshot.descriptors s.nodes := htexts ▸ List.mem_singleton_self t
      simpa using (List.mem_filter.mp hmem).2
    rw [simple, htexts, hlabels, List.append_nil, List.intercalate_singleton]
    exact ⟨ht, hblank⟩

end Prompt

namespace Refine

/-! ## The prompts -/

theorem not_blank_qualitySuffix : ¬OnlyOf isBlank Prompt.qualitySuffix := by
  decide

theorem not_blank_fallbackPrompt (c : Context) : ¬OnlyOf isBlank (fallbackPrompt c) := by
  rw [fallbackPrompt, joinPresent_pair, if_neg qualitySuffix_ne_nil]
  split
  · exact not_blank_qualitySuffix
  · rw [Text.onlyOf_append]
    exact fun h => not_blank_qualitySuffix h.2

theorem not_blank_clean {reply : Text} (h : clean reply ≠ []) : ¬OnlyOf isBlank (clean reply) :=
  (startsClear_unwrap _).not_onlyOf h

/-- Without the service there is a prompt of white space if the flat prompt is one and the user
asked for nothing. -/
theorem blank_directPrompt_iff {c : Context} (hc : StartsClear isBlank c.userPrompt) :
    OnlyOf isBlank (directPrompt c) ↔
      c.userPrompt = [] ∧ c.simplePrompt ≠ [] ∧ OnlyOf isBlank c.simplePrompt := by
  rw [directPrompt, joinPresent_pair]
  by_cases huser : c.userPrompt = []
  · rw [if_pos huser]
    by_cases hsimple : c.simplePrompt = []
    · rw [hsimple]
      exact iff_of_false not_blank_qualitySuffix fun h => h.2.1 rfl
    · rw [Text.orElse_of_ne_nil hsimple]
      exact ⟨fun h => ⟨huser, hsimple, h⟩, fun h => h.2.2⟩
  -- What the user asked for is in front, and says something.
  · have hwish := hc.not_onlyOf huser
    rw [if_neg huser]
    refine iff_of_false ?_ fun h => huser h.1
    split
    · rw [Text.orElse_of_ne_nil huser]
      exact hwish
    · have hne : c.userPrompt ++ ", ".codes ++ c.simplePrompt ≠ [] := by simp [huser]
      rw [Text.orElse_of_ne_nil hne, Text.onlyOf_append, Text.onlyOf_append]
      exact fun h => hwish h.1.1

/-! ## Refining -/

/-- A prompt that comes from the service, or from the fallback, says something. -/
theorem not_blank_of_not_direct {service : Option Reasoner} {options : Options} {c : Context}
    {t : Trace} (access : Web.Access) (h : ¬GoesDirect service c) :
    ¬OnlyOf isBlank ((refine service options access c).run t).1.prompt := by
  obtain ⟨way, hway, -⟩ := exists_way service options access c t
  cases way with
  | direct => exact absurd hway.1 h
  | refined =>
    obtain ⟨s, text, request, hreply, hresult, -⟩ := hway
    simp only [hresult]
    exact not_blank_clean hreply.hasPrompt
  | fallback =>
    obtain ⟨-, -, -, e, hresult, -⟩ := hway
    simp only [hresult]
    exact not_blank_fallbackPrompt c

/-- A prompt is refined to white space if there is no service, the user asked for nothing, and all
that the canvas says is white space. -/
theorem blank_refine_iff {s : Snapshot} (hs : ∀ n ∈ s.nodes, Canvas.IsTidy n) (userPrompt : Text)
    (perRoleCap : Int) (maxImages : Option Int) (service : Option Reasoner) (options : Options)
    (access : Web.Access) (t : Trace) :
    let c := Context.assemble s userPrompt perRoleCap maxImages
    OnlyOf isBlank ((refine service options access c).run t).1.prompt ↔
      service = none ∧ OnlyOf isBlank userPrompt ∧ Canvas.IsMute s := by
  intro c
  have hwish : StartsClear isBlank c.userPrompt := Text.startsClear_trim isBlank userPrompt
  have hdirect : OnlyOf isBlank (directPrompt c) ↔ OnlyOf isBlank userPrompt ∧ Canvas.IsMute s := by
    rw [blank_directPrompt_iff hwish, ← Prompt.blank_simple_iff hs]
    exact and_congr_left' Text.strip_eq_nil_iff
  by_cases hgoes : GoesDirect service c
  · rw [run_refine_direct access hgoes, hdirect]
    refine ⟨fun h => ⟨hgoes.resolve_right ?_, h⟩, fun h => h.2⟩
    -- There is a description, and the service would have worked on it.
    rintro ⟨-, hnone⟩
    obtain ⟨-, -, text, htexts, -⟩ := h
    rw [show c.textDescriptors = [text] from htexts] at hnone
    cases hnone
  · exact iff_of_false (not_blank_of_not_direct access hgoes) fun h => hgoes (.inl h.1)

/-- A canvas that can be resolved leads to a prompt that says something, unless there is no service,
the user asked for nothing, and the canvas says nothing but one description of white space. The
providers of images get what says something, and the quality suffix in the place of white space. -/
theorem mute_prompt_iff {nodes edges : Json} {s : Snapshot}
    (h : Canvas.resolve nodes edges = .ok s) (userPrompt : Text) (perRoleCap : Int)
    (maxImages : Option Int) (service : Option Reasoner) (options : Options) (access : Web.Access)
    (t : Trace) :
    let c := Context.assemble s userPrompt perRoleCap maxImages
    let prompt := ((refine service options access c).run t).1.prompt
    let IsSilent := service = none ∧ OnlyOf isBlank userPrompt ∧ Canvas.IsMute s
    (OnlyOf isBlank prompt ↔ IsSilent) ∧
      (IsSilent → effectivePrompt (some prompt) = Prompt.qualitySuffix) ∧
      (¬IsSilent → effectivePrompt (some prompt) = Text.strip prompt) := by
  intro c prompt IsSilent
  have hblank : OnlyOf isBlank prompt ↔ IsSilent :=
    blank_refine_iff (Canvas.isTidy_of_resolve h) userPrompt perRoleCap maxImages service options
      access t
  refine ⟨hblank, ?_, ?_⟩
  · intro hsilent
    rw [Generate.effectivePrompt_eq]
    exact if_pos (Text.strip_eq_nil_iff.mpr (hblank.mpr hsilent))
  · intro hsilent
    rw [Generate.effectivePrompt_eq]
    exact if_neg fun hstrip => hsilent (hblank.mp (Text.strip_eq_nil_iff.mp hstrip))

/-- A canvas with two descriptions says something, even if both of them are blank. -/
theorem two_blank_descriptions_say_something :
    let str (t : String) : Json := .str t.codes
    let entry (id : String) : Json := .obj [("id".codes, str id), ("type".codes, str "text"),
      ("data".codes, .obj [("text".codes, str " ")])]
    let blank (id : String) : Node := .text ⟨id.codes, [' '], [], .origin⟩
    let s : Snapshot := ⟨[blank "s", blank "t"], []⟩
    let c := Context.assemble s [] 2 none
    let access : Web.Access := ⟨fun _ _ => .error ⟨.readTimeout, []⟩, true, 985⟩
    let prompt := ((refine none .default access c).run .empty).1.prompt
    Canvas.resolve (.arr [entry "s", entry "t"]) (.arr []) = .ok s ∧ ¬OnlyOf isBlank prompt ∧
      effectivePrompt (some prompt) = Text.strip prompt := by
  intro str entry blank s c access prompt
  have h : Canvas.resolve (.arr [entry "s", entry "t"]) (.arr []) = .ok s := by decide +kernel
  have hmute : ¬(none = (none : Option Reasoner) ∧ OnlyOf isBlank [] ∧ Canvas.IsMute s) := by
    rintro ⟨-, -, -, t, htexts, -⟩
    cases htexts
  obtain ⟨hblank, -, hsays⟩ := mute_prompt_iff h [] 2 none none .default access .empty
  exact ⟨h, fun hprompt => hmute (hblank.mp hprompt), hsays hmute⟩

/-- The white space of a single description is the prompt, for which the providers of images get the
quality suffix. -/
theorem blank_description_is_the_prompt :
    let str (t : String) : Json := .str t.codes
    let entry : Json := .obj [("id".codes, str "t"), ("type".codes, str "textNode"),
      ("data".codes, .obj [("text".codes, str " ")])]
    let s : Snapshot := ⟨[.text ⟨"t".codes, [' '], [], .origin⟩], []⟩
    let access : Web.Access := ⟨fun _ _ => .error ⟨.readTimeout, []⟩, true, 985⟩
    let c := Context.assemble s [] 2 none
    Canvas.resolve (.arr [entry]) (.arr []) = .ok s ∧
      ((refine none .default access c).run .empty).1.prompt = " ".codes ∧
      effectivePrompt (some " ".codes) = Prompt.qualitySuffix := by
  decide +kernel

end Refine

end CanvasPrompt
