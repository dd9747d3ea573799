import CanvasPrompt.Proofs.Context.Growth
import CanvasPrompt.Proofs.Text.Trimming

/-!
# The first node of each identity

Of several entries that stand for nodes of one identity, the first one stays. An entry that stands
for no node takes no identity away from a later one. This module introduces

* `NoNode v` and `NoEdge v`: the entry `v` stands for no node, or for no edge;
* `firsts ns`: the nodes among `ns` whose identity no earlier one has;
* `IsTidy n`: the identity and the fields of the node `n` are trimmed.

The main statement is `first_node_of_each_id`.
-/

namespace CanvasPrompt

open Json (field)

/-! ## Blank values -/

/-- A value that names nothing: null, or one that is shown as white space. -/
def Json.IsBlank (v : Json) : Prop :=
  v.kind = .null ∨ Text.OnlyOf Text.isBlank v.display

theorem Json.trimmed?_eq_none_iff {v : Json} : Json.trimmed? v = none ↔ v.IsBlank := by
  cases v with
  | null => simp [Json.trimmed?, Json.IsBlank, Json.kind]
  | _ => simp [Json.trimmed?, Json.IsBlank, Json.kind, Text.nonBlank?_eq_none_iff]

theorem Json.isTrimmed_of_trimmed? {v : Json} {t : Text} (h : Json.trimmed? v = some t) :
    t.IsTrimmed := by
  cases v with
  | null => cases h
  | _ => exact Text.isTrimmed_of_nonBlank? h

namespace Canvas

/-! ## Entries that are passed over -/

/-- The type of an entry, under either of two names and in any letter case, is none of the types of
nodes. -/
def UnknownType (ms : Members) : Prop :=
  Text.lower ((field ms "type").orElse ((field ms "kind").orElse (.str []))).display ∉
    ["textnode".codes, "text".codes, "imagenode".codes, "image".codes]

/-- An entry in the list of nodes that stands for none. -/
inductive NoNode : Json → Prop where
  | noObject {v : Json} (h : v.isObject = false) : NoNode v
  | blankId {ms : Members} (h : (field ms "id").IsBlank) : NoNode (.obj ms)
  | unknownType {ms : Members} (h : UnknownType ms) : NoNode (.obj ms)

/-- An entry in the list of edges that stands for none. -/
inductive NoEdge : Json → Prop where
  | noObject {v : Json} (h : v.isObject = false) : NoEdge v
  | blankSource {ms : Members} (h : (field ms "source").IsBlank) : NoEdge (.obj ms)
  | blankTarget {ms : Members} (h : (field ms "target").IsBlank) : NoEdge (.obj ms)

theorem nodeType?_eq_none_iff {ms : Members} : nodeType? ms = none ↔ UnknownType ms := by
  rw [nodeType?, UnknownType]
  simp only [Bool.or_eq_true, beq_iff_eq, List.mem_cons, List.not_mem_nil, or_false]
  split_ifs with htext himage
  · grind
  · grind
  · grind

theorem NodeOf.eq_none_iff {v : Json} {n : Option Node} (h : NodeOf v n) :
    n = none ↔ NoNode v := by
  cases h with
  | noObject h => exact iff_of_true rfl (.noObject h)
  | noIdentity h => exact iff_of_true rfl (.blankId (Json.trimmed?_eq_none_iff.mp h))
  | noType h => exact iff_of_true rfl (.unknownType (nodeType?_eq_none_iff.mp h))
  | text hid htype _ _ | image hid htype _ _ =>
    refine iff_of_false (Option.some_ne_none _) ?_
    rintro (h | h | h)
    · cases h
    · rw [Json.trimmed?_eq_none_iff.mpr h] at hid
      cases hid
    · rw [nodeType?_eq_none_iff.mpr h] at htype
      cases htype

theorem EdgeOf.eq_none_iff {v : Json} {e : Option Edge} (h : EdgeOf v e) :
    e = none ↔ NoEdge v := by
  cases h with
  | noObject h => exact iff_of_true rfl (.noObject h)
  | noSource h => exact iff_of_true rfl (.blankSource (Json.trimmed?_eq_none_iff.mp h))
  | noTarget h => exact iff_of_true rfl (.blankTarget (Json.trimmed?_eq_none_iff.mp h))
  | edge hedge =>
    refine iff_of_false (Option.some_ne_none _) ?_
    rintro (h | h | h)
    · cases h
    · have hsource := hedge.source
      rw [Json.trimmed?_eq_none_iff.mpr h] at hsource
      cases hsource
    · have htarget := hedge.target
      rw [Json.trimmed?_eq_none_iff.mpr h] at htarget
      cases htarget

/-! ## Tidy nodes -/

/-- The identity of a node is trimmed, and so are the fields of an image that are there. -/
def IsTidy : Node → Prop
  | .text n => n.id.IsTrimmed
  | .image n =>
    n.id.IsTrimmed ∧ (∀ t ∈ n.sourceUrl, t.IsTrimmed) ∧ (∀ t ∈ n.altLabel, t.IsTrimmed) ∧
      (∀ t ∈ n.note, t.IsTrimmed) ∧ ∀ t ∈ n.roleLabel, t.IsTrimmed

theorem NodeOf.isTidy {v : Json} {n : Node} (h : NodeOf v (some n)) : IsTidy n := by
  cases h with
  | text hid _ _ _ => exact Json.isTrimmed_of_trimmed? hid
  | image hid _ _ hdata =>
    refine ⟨Json.isTrimmed_of_trimmed? hid, ?_, ?_, ?_, ?_⟩
    · exact fun t ht => Json.isTrimmed_of_trimmed? (hdata.url ▸ ht)
    · exact fun t ht => Json.isTrimmed_of_trimmed? (hdata.altLabel ▸ ht)
    · exact fun t ht => Json.isTrimmed_of_trimmed? (hdata.note ▸ ht)
    · exact fun t ht => Json.isTrimmed_of_trimmed? (hdata.roleLabel ▸ ht)

theorem EdgeFrom.id_ne_nil {ms : Members} {e : Edge} (h : EdgeFrom ms e) : e.id ≠ [] := by
  cases hid : Json.trimmed? (field ms "id") with
  | some id =>
    rw [h.named id hid]
    exact (Json.isTrimmed_of_trimmed? hid).ne_nil
  | none =>
    rw [h.unnamed hid]
    simp

/-! ## The first of each identity -/

/-- The nodes whose identity no earlier one has, in order. -/
def firsts (ns : List (Option Node)) : List Node :=
  (List.range ns.length).filterMap fun i =>
    ns[i]?.join.filter fun n => ∀ m ∈ (ns.take i).reduceOption, m.id ≠ n.id

/-- One more entry changes nothing about those before it. -/
theorem firsts_concat (ns : List (Option Node)) (o : Option Node) :
    firsts (ns ++ [o]) =
      firsts ns ++ (o.filter fun n => ∀ m ∈ ns.reduceOption, m.id ≠ n.id).toList := by
  have hbefore : ∀ i ∈ List.range ns.length, (ns ++ [o])[i]? = ns[i]? ∧
      (ns ++ [o]).take i = ns.take i := by
    intro i hi
    have hlt := List.mem_range.mp hi
    exact ⟨List.getElem?_append_left hlt, List.take_append_of_le_length hlt.le⟩
  rw [firsts, List.length_append, List.length_singleton, List.range_succ, List.filterMap_append,
    firsts]
  congr 1
  -- Earlier places see what they saw before, and the last one sees all of `ns`.
  · refine List.filterMap_congr fun i hi => ?_
    rw [(hbefore i hi).1, (hbefore i hi).2]
  · simp only [List.filterMap_cons, List.filterMap_nil, List.getElem?_concat_length,
      Option.join_some, List.take_left]
    cases o.filter fun n => ∀ m ∈ ns.reduceOption, m.id ≠ n.id <;> rfl

theorem firstOfEachId_nil_cons (n : Node) (rest : List Node) :
    firstOfEachId [] (n :: rest) = n :: firstOfEachId [n.id] rest := rfl

theorem firstOfEachId_taken (taken : List Text) (ns : List Node) :
    firstOfEachId taken ns = (firstOfEachId [] ns).filter fun n => n.id ∉ taken := by
  induction ns generalizing taken with
  | nil => rfl
  | cons n rest ih =>
    rw [firstOfEachId_nil_cons, ih [n.id], firstOfEachId, List.filter_cons, List.filter_filter]
    by_cases hn : n.id ∈ taken
    · -- Then `n` goes, and with it whatever it would have taken the identity from.
      simp only [List.contains_iff_mem, hn, if_true, ih taken, not_true, decide_false,
        Bool.false_eq_true, if_false]
      refine List.filter_congr fun m _ => ?_
      grind
    · simp only [List.contains_iff_mem, hn, if_false, ih (n.id :: taken), not_false_eq_true,
        decide_true, if_true, List.cons.injEq, true_and]
      refine List.filter_congr fun m _ => ?_
      grind

theorem firstOfEachId_congr {taken taken' : List Text} (h : ∀ id, id ∈ taken ↔ id ∈ taken')
    (ns : List Node) : firstOfEachId taken ns = firstOfEachId taken' ns := by
  simp only [firstOfEachId_taken taken, firstOfEachId_taken taken', h]

theorem firstOfEachId_append (taken : List Text) (xs ys : List Node) :
    firstOfEachId taken (xs ++ ys) =
      firstOfEachId taken xs ++ firstOfEachId (xs.map Node.id ++ taken) ys := by
  induction xs generalizing taken with
  | nil => rfl
  | cons n rest ih =>
    rw [List.cons_append, firstOfEachId, firstOfEachId]
    split
    · next hn =>
      -- A node that is passed over brings no identity that is not taken already.
      rw [ih taken, firstOfEachId_congr _ ys]
      intro id
      have := List.contains_iff_mem.mp hn
      grind
    · rw [ih (n.id :: taken), List.cons_append, firstOfEachId_congr _ ys]
      grind

theorem mem_ids_firstOfEachId {ns : List Node} {id : Text} :
    id ∈ (firstOfEachId [] ns).map Node.id ↔ id ∈ ns.map Node.id := by
  induction ns with
  | nil => rfl
  | cons n rest ih =>
    rw [firstOfEachId_nil_cons, firstOfEachId_taken, List.map_cons, List.map_cons, List.mem_cons,
      List.mem_cons, ← ih]
    by_cases hid : id = n.id
    · simp [hid]
    · grind

theorem nodup_ids_firstOfEachId (ns : List Node) :
    ((firstOfEachId [] ns).map Node.id).Nodup := by
  induction ns with
  | nil => exact List.nodup_nil
  | cons n rest ih =>
    rw [firstOfEachId_nil_cons, firstOfEachId_taken, List.map_cons, List.nodup_cons]
    exact ⟨by simp, ih.sublist (List.filter_sublist.map Node.id)⟩

/-- Of nodes that are added, those stay that bring a new identity. -/
theorem firstOfEachId_append_eq_filter (xs ys : List Node) :
    firstOfEachId [] (xs ++ ys) = firstOfEachId [] xs ++
      (firstOfEachId [] ys).filter fun n => n.id ∉ (firstOfEachId [] xs).map Node.id := by
  simp only [mem_ids_firstOfEachId]
  rw [firstOfEachId_append, List.append_nil, firstOfEachId_taken (xs.map Node.id)]

/-- Passing over entries and keeping the first of each identity gives the nodes whose identity no
earlier one has. -/
theorem firstOfEachId_reduceOption (ns : List (Option Node)) :
    firstOfEachId [] ns.reduceOption = firsts ns := by
  -- The induction is on the last entry, since what an entry meets is what stands before it.
  induction ns using List.reverseRecOn with
  | nil => rfl
  | append_singleton ns o ih =>
    rw [firsts_concat, ← ih, List.reduceOption_append, List.reduceOption_singleton,
      firstOfEachId_append, List.append_nil]
    congr 1
    cases o with
    | none => rfl
    | some n =>
      have hone : firstOfEachId [] (some n).toList = [n] := rfl
      have hfresh : n.id ∉ ns.reduceOption.map Node.id ↔ ∀ m ∈ ns.reduceOption, m.id ≠ n.id := by
        simp
      rw [firstOfEachId_taken, hone, List.filter_cons, List.filter_nil, Option.filter_some]
      simp only [hfresh]
      split <;> rfl

theorem firstOfEachId_sublist (taken : List Text) (ns : List Node) :
    (firstOfEachId taken ns).Sublist ns := by
  induction ns generalizing taken with
  | nil => exact List.Sublist.slnil
  | cons n rest ih =>
    rw [firstOfEachId]
    split
    · exact (ih taken).cons n
    · exact (ih _).cons_cons n

/-- What holds of all that entries stand for holds of what is left of it. -/
theorem forall_mem_reduceOption {α : Type} {R : Json → Option α → Prop} {P : α → Prop}
    {vs : List Json} {os : List (Option α)} (h : List.Forall₂ R vs os)
    (hR : ∀ v a, R v (some a) → P a) : ∀ a ∈ os.reduceOption, P a := by
  induction h with
  | nil => exact List.forall_mem_nil _
  | @cons v o _ _ ho _ ih =>
    cases o with
    | none => exact ih
    | some a => exact List.forall_mem_cons.mpr ⟨hR v a ho, ih⟩

/-- The nodes of a snapshot are, in the order of their entries, those whose identity no earlier
entry with a node has; entries that stand for no node count for nothing. All edges stay. -/
theorem first_node_of_each_id {nodes edges : List Json} {s : Snapshot}
    (h : resolve (.arr nodes) (.arr edges) = .ok s) :
    (∃ ns, List.Forall₂ (fun v n => NodeOf v n ∧ (n = none ↔ NoNode v)) nodes ns ∧
      s.nodes = firsts ns) ∧
    (∃ es, List.Forall₂ (fun v e => EdgeOf v e ∧ (e = none ↔ NoEdge v)) edges es ∧
      s.edges = es.reduceOption) ∧
    (s.nodes.map Node.id).Nodup ∧ (∀ n ∈ s.nodes, IsTidy n) ∧ (∀ e ∈ s.edges, e.id ≠ []) ∧
    ∀ ns₁ ns₂, nodes = ns₁ ++ ns₂ → ∀ es₁ es₂, ∃ s₁ s₂,
      resolve (.arr ns₁) (.arr es₁) = .ok s₁ ∧ resolve (.arr ns₂) (.arr es₂) = .ok s₂ ∧
      s.nodes = s₁.nodes ++ s₂.nodes.filter fun n => n.id ∉ s₁.nodes.map Node.id := by
  obtain ⟨resolved, hnodes, rfl⟩ := resolve_arr_eq_ok.mp h
  obtain ⟨es, hedges, hedgeOf⟩ := exists_edges edges
  -- Each entry stands for a node or for none, since resolving has not failed.
  obtain ⟨ns, hns, hnodeOf⟩ : ∃ ns, resolved = ns.reduceOption ∧ List.Forall₂ NodeOf nodes ns := by
    rcases resolveNodes_cases nodes with ⟨herror, -⟩ | ⟨ns, hok, hnodeOf, -⟩
    · rw [hnodes] at herror
      cases herror
    · rw [hnodes] at hok
      cases hok
      exact ⟨ns, rfl, hnodeOf⟩
  dsimp only
  refine ⟨⟨ns, hnodeOf.imp fun v n h => ⟨h, h.eq_none_iff⟩, ?_⟩,
    ⟨es, hedgeOf.imp fun v e h => ⟨h, h.eq_none_iff⟩, hedges⟩, nodup_ids_firstOfEachId resolved,
    ?_, ?_, ?_⟩
  · rw [hns, firstOfEachId_reduceOption]
  · intro n hn
    have hmem := (firstOfEachId_sublist [] resolved).subset hn
    rw [hns] at hmem
    exact forall_mem_reduceOption hnodeOf (fun _ _ h => h.isTidy) n hmem
  · rw [hedges]
    refine forall_mem_reduceOption hedgeOf fun v e h => ?_
    cases h with
    | edge h => exact h.id_ne_nil
  · rintro ns₁ ns₂ rfl es₁ es₂
    -- Edges never make resolving fail, so those of the two parts do not matter.
    obtain ⟨earlier, later, hearlier, hlater, rfl⟩ := resolveNodes_append_eq_ok.mp hnodes
    exact ⟨_, _, resolve_arr_eq_ok.mpr ⟨earlier, hearlier, rfl⟩,
      resolve_arr_eq_ok.mpr ⟨later, hlater, rfl⟩, firstOfEachId_append_eq_filter earlier later⟩

/-- Three entries of one identity, which is written in three ways, and of an unknown type at first.
-/
theorem kite_takes_the_identity :
    let str (t : String) : Json := .str t.codes
    let entry (id : Json) (type : String) (data : Members) : Json :=
      .obj [("id".codes, id), ("type".codes, str type), ("data".codes, .obj data)]
    let edge (target : Json) : Json := .obj [("source".codes, .int 1), ("target".codes, target)]
    let nodes := [entry (str "1") "sticky" [], .int 7,
      entry (.int 1) "Text" [("text".codes, str "a kite")], entry (str " 1 ") "image" [],
      entry (str "2") "imageNode" [("note".codes, str " red "), ("alt".codes, str " ")]]
    let edges := [edge (str " 9 "), edge (str " "), edge (.int 9)]
    let kite : Node := .text ⟨"1".codes, "a kite".codes, [], .origin⟩
    let photo : Node :=
      .image ⟨"2".codes, none, none, some "red".codes, none, .idle, .origin⟩
    let line : Edge := ⟨"1->9".codes, "1".codes, "9".codes, none⟩
    let s : Snapshot := ⟨[kite, photo], [line, line]⟩
    resolve (.arr nodes) (.arr edges) = .ok s ∧ (s.nodes.map Node.id).Nodup ∧
      ∃ s₁ s₂, resolve (.arr (nodes.take 3)) (.arr edges) = .ok s₁ ∧
        resolve (.arr (nodes.drop 3)) (.arr edges) = .ok s₂ ∧
        s.nodes = s₁.nodes ++ s₂.nodes.filter fun n => n.id ∉ s₁.nodes.map Node.id := by
  intro str entry edge nodes edges kite photo line s
  -- An entry that is no node leaves its identity to the kite, and the image comes too late for it.
  have h : resolve (.arr nodes) (.arr edges) = .ok s := by decide +kernel
  obtain ⟨-, -, hdistinct, -, -, hsplit⟩ := first_node_of_each_id h
  exact ⟨h, hdistinct, hsplit (nodes.take 3) (nodes.drop 3) rfl edges edges⟩

end Canvas

end CanvasPrompt
