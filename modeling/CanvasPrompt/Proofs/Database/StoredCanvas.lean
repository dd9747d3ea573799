import CanvasPrompt.Database.StoredCanvas
import CanvasPrompt.Proofs.Fallible
import CanvasPrompt.Proofs.Json.Limits
import CanvasPrompt.Proofs.Json.RoundTrip

/-!
# Reading a stored canvas

The data of a stored node may be anything: an object, the text of one, a text that is no JSON or
says something else, or another value. This module introduces

* `Decodes room v d`: the value `v` is the object `d`, or its written form;
* `DataOf room v d`: the data that `v` stands for, empty if it decodes to no object;
* `Oversized room v limit`: the value is a text that goes beyond a limit of the reader.

Here `room` is the number of containers that may be nested in what is read. It is whatever the
reader is given, and nothing is assumed of it.

A text that goes beyond a limit is the one thing that stops the reading (`dataObject_eq_ok`,
`dataObject_eq_error`). So every row makes an entry, up to the first such text, which is the failure
of the whole canvas: `canvasOf_reads_rows`. Such a text has thousands of digits in a row, or opens
hundreds of containers (`Oversized.exceeds`).
-/

namespace CanvasPrompt.Database

open Fallible
open Json (Exceeds Plain depth)

/-- The value is an object, or the text of one. -/
inductive Decodes (room : Nat) : Json → Members → Prop where
  /-- An object is its own data. -/
  | object (d : Members) : Decodes room (.obj d) d
  /-- A text is read. -/
  | text {t : Text} {d : Members} (h : Json.read room t = .ok (.obj d)) : Decodes room (.str t) d

/-- The value stands for the data: the object that it decodes to, or else the empty object. -/
def DataOf (room : Nat) (v : Json) (d : Members) : Prop :=
  Decodes room v d ∨ (∀ d', ¬Decodes room v d') ∧ d = []

/-- The value is a text that goes beyond the limit. -/
def Oversized (room : Nat) (v : Json) (limit : Json.Limit) : Prop :=
  ∃ t, v = .str t ∧ Json.read room t = .error (.beyond limit)

/-- The entry has the columns of the row in it, and the data that the row stands for. -/
def NodeRow.ReadsAs (room : Nat) (r : NodeRow) (entry : Json) : Prop :=
  ∃ d, DataOf room r.data d ∧ entry = .obj
    [("id".codes, r.id), ("type".codes, r.type),
      ("position".codes, .obj [("x".codes, r.x), ("y".codes, r.y)]), ("data".codes, .obj d)]

/-- The entry has the columns of the row in it. -/
def EdgeRow.ReadsAs (r : EdgeRow) (entry : Json) : Prop :=
  entry = .obj
    [("id".codes, r.id), ("source".codes, r.source), ("target".codes, r.target),
      ("label".codes, r.label)]

variable {room : Nat} {v : Json} {t : Text} {d d' : Members} {limit : Json.Limit} {r : NodeRow}
  {entry : Json}

/-! ## The data of one node -/

theorem decodes_str_iff : Decodes room (.str t) d ↔ Json.read room t = .ok (.obj d) :=
  ⟨fun | .text h => h, .text⟩

theorem Decodes.unique (h : Decodes room v d) (h' : Decodes room v d') : d = d' := by
  cases h with
  | object =>
    cases h'
    rfl
  | text hread =>
    rw [decodes_str_iff, hread] at h'
    cases h'
    rfl

/-- Every value stands for one object only. -/
theorem DataOf.unique (h : DataOf room v d) (h' : DataOf room v d') : d = d' := by
  obtain h | ⟨hnone, rfl⟩ := h
  · obtain h' | ⟨hnone, -⟩ := h'
    · exact h.unique h'
    · exact absurd h (hnone d)
  · obtain h' | ⟨-, rfl⟩ := h'
    · exact absurd h' (hnone d')
    · rfl

/-- A text that is not read as an object stands for the empty object. -/
theorem dataOf_str_nil (h : ∀ d, Json.read room t ≠ .ok (.obj d)) : DataOf room (.str t) [] :=
  .inr ⟨fun d hd => h d (decodes_str_iff.mp hd), rfl⟩

/-- A text that is read as some value stands for the members of the value. -/
theorem dataOf_str_members (h : Json.read room t = .ok v) : DataOf room (.str t) v.members := by
  cases v with
  | obj d => exact .inl (.text h)
  | _ =>
    refine dataOf_str_nil fun d hd => ?_
    rw [h] at hd
    cases hd

theorem oversized_str_iff :
    Oversized room (.str t) limit ↔ Json.read room t = .error (.beyond limit) := by
  constructor
  · rintro ⟨_, ⟨⟩, h⟩
    exact h
  · exact fun h => ⟨t, rfl, h⟩

/-- Only an oversized text has no data. -/
theorem dataObject_eq_error : dataObject room v = .error limit ↔ Oversized room v limit := by
  cases v with
  | str t =>
    rw [oversized_str_iff, dataObject]
    -- A text that is malformed or read has data, if only empty ones.
    rcases Json.read room t with (position | limit') | v
    · exact iff_of_false nofun nofun
    · rw [Except.error.injEq, Except.error.injEq, Json.ReadError.beyond.injEq]
    · exact iff_of_false nofun nofun
  | _ =>
    refine iff_of_false nofun ?_
    rintro ⟨t, ⟨⟩, -⟩

theorem dataOf_of_dataObject (h : dataObject room v = .ok d) : DataOf room v d := by
  cases v with
  | obj d' =>
    cases h
    exact .inl (.object d)
  | str t =>
    -- A text is read: it may hold an object, another value, or none at all.
    rw [dataObject] at h
    split at h
    · next v hread =>
      cases h
      exact dataOf_str_members hread
    · next position hread =>
      cases h
      refine dataOf_str_nil fun d hd => ?_
      rw [hread] at hd
      cases hd
    · cases h
  | _ =>
    cases h
    exact .inr ⟨nofun, rfl⟩

theorem dataObject_eq_ok :
    dataObject room v = .ok d ↔ DataOf room v d ∧ ∀ limit, ¬Oversized room v limit := by
  constructor
  · intro h
    refine ⟨dataOf_of_dataObject h, fun limit hlimit => ?_⟩
    rw [dataObject_eq_error.mpr hlimit] at h
    cases h
  -- A value that is not oversized has some data, and it stands for no other.
  · rintro ⟨hdata, hfits⟩
    cases h : dataObject room v with
    | error limit => exact absurd (dataObject_eq_error.mp h) (hfits limit)
    | ok d' => rw [(dataOf_of_dataObject h).unique hdata]

/-- A text that goes beyond a limit has what it takes. -/
theorem Oversized.exceeds (h : Oversized room v limit) :
    ∃ t, v = .str t ∧ Exceeds room t limit := by
  obtain ⟨t, rfl, hread⟩ := h
  exact ⟨t, rfl, Json.exceeds_of_read hread⟩

/-- The written form of an object is that object. -/
theorem dataObject_print (h : Plain (.obj d)) (hdepth : depth (.obj d) ≤ room) :
    dataObject room (.str (Json.obj d).print) = .ok d := by
  rw [dataObject, Json.read_print h hdepth]
  rfl

theorem dataObject_print_of_too_deep (h : Plain (.obj d)) (hdepth : room < depth (.obj d)) :
    ∃ inner, Json.write room (.obj d) = .error (.nesting inner) ∧
      dataObject room (.str (Json.obj d).print) = .error (.nesting inner) := by
  obtain ⟨inner, hwrite, hread⟩ := Json.read_print_of_too_deep h hdepth
  exact ⟨inner, hwrite, by rw [dataObject, hread]⟩

/-! ## The rows -/

theorem NodeRow.entry_eq_ok :
    r.entry room = .ok entry ↔ r.ReadsAs room entry ∧ ∀ limit, ¬Oversized room r.data limit := by
  rw [NodeRow.entry, bind_eq_ok]
  constructor
  · rintro ⟨d, hd, hentry⟩
    obtain ⟨hdata, hfits⟩ := dataObject_eq_ok.mp hd
    exact ⟨⟨d, hdata, pure_eq_ok.mp hentry⟩, hfits⟩
  · rintro ⟨⟨d, hdata, hentry⟩, hfits⟩
    exact ⟨d, dataObject_eq_ok.mpr ⟨hdata, hfits⟩, pure_eq_ok.mpr hentry⟩

theorem NodeRow.entry_eq_error : r.entry room = .error limit ↔ Oversized room r.data limit := by
  rw [NodeRow.entry, bind_eq_error, dataObject_eq_error, or_iff_left]
  rintro ⟨d, -, ⟨⟩⟩

theorem NodeRow.exists_entry_iff :
    (∃ entry, r.entry room = .ok entry) ↔ ∀ limit, ¬Oversized room r.data limit := by
  cases h : r.entry room with
  | ok entry => exact iff_of_true ⟨entry, rfl⟩ (NodeRow.entry_eq_ok.mp h).2
  | error limit =>
    exact iff_of_false nofun fun hfits => hfits limit (NodeRow.entry_eq_error.mp h)

theorem EdgeRow.forall₂_readsAs (links : List EdgeRow) :
    List.Forall₂ EdgeRow.ReadsAs links (links.map EdgeRow.entry) := by
  rw [List.forall₂_map_right_iff, List.forall₂_same]
  exact fun r _ => rfl

section

variable {rows : List NodeRow} {entries : List Json}

theorem mapM_entry_eq_ok :
    rows.mapM (NodeRow.entry room) = .ok entries ↔
      (∀ r ∈ rows, ∀ limit, ¬Oversized room r.data limit) ∧
        List.Forall₂ (NodeRow.ReadsAs room) rows entries := by
  rw [mapM_eq_ok, ← List.forall₂_and_left]
  simp only [NodeRow.entry_eq_ok, and_comm]

/-- The first row that is in the way tells the limit. -/
theorem mapM_entry_eq_error :
    rows.mapM (NodeRow.entry room) = .error limit ↔
      ∃ before r later, rows = before ++ r :: later ∧
        (∀ r' ∈ before, ∀ limit', ¬Oversized room r'.data limit') ∧
          Oversized room r.data limit := by
  simp only [mapM_eq_error, NodeRow.exists_entry_iff, NodeRow.entry_eq_error]

/-- If no row is in the way, each one has its entry. -/
theorem exists_mapM_entry (h : ∀ r ∈ rows, ∀ limit, ¬Oversized room r.data limit) :
    ∃ entries, rows.mapM (NodeRow.entry room) = .ok entries := by
  cases hentries : rows.mapM (NodeRow.entry room) with
  | ok entries => exact ⟨entries, rfl⟩
  | error limit =>
    -- A failure names a row that is in the way.
    obtain ⟨before, r, later, rfl, -, hr⟩ := mapM_entry_eq_error.mp hentries
    exact absurd hr (h r List.mem_append_cons_self limit)

end

variable {s : Store} {project : Text}

theorem canvasOf_eq_ok {c : StoredCanvas} :
    s.canvasOf room project = .ok c ↔
      (s.nodes.filter fun r => r.project == project).mapM (NodeRow.entry room) = .ok c.nodes ∧
        c.edges = (s.edges.filter fun r => r.project == project).map EdgeRow.entry := by
  rw [Store.canvasOf, bind_eq_ok]
  constructor
  · rintro ⟨entries, hentries, ⟨⟩⟩
    exact ⟨hentries, rfl⟩
  · rintro ⟨hentries, hedges⟩
    exact ⟨c.nodes, hentries, pure_eq_ok.mpr (by rw [← hedges])⟩

theorem canvasOf_eq_error :
    s.canvasOf room project = .error limit ↔
      (s.nodes.filter fun r => r.project == project).mapM (NodeRow.entry room) = .error limit := by
  rw [Store.canvasOf, bind_eq_error, or_iff_left]
  rintro ⟨entries, -, ⟨⟩⟩

/-- A canvas is read row by row: each row makes one entry, with its columns and the data that it
stands for, in the order of the rows. Only a text that goes beyond a limit is in the way, and the
first one is the failure of the whole canvas. Such a text has a number of thousands of digits in it,
or hundreds of brackets. -/
theorem canvasOf_reads_rows (s : Store) (room : Nat) (project : Text) :
    let rows := s.nodes.filter fun r => r.project == project
    let links := s.edges.filter fun r => r.project == project
    ((∀ r ∈ rows, ∀ limit, ¬Oversized room r.data limit) →
      ∃ c, s.canvasOf room project = .ok c ∧ List.Forall₂ (NodeRow.ReadsAs room) rows c.nodes ∧
        List.Forall₂ EdgeRow.ReadsAs links c.edges) ∧
    (∀ limit, s.canvasOf room project = .error limit ↔
      ∃ before r later, rows = before ++ r :: later ∧
        (∀ r' ∈ before, ∀ limit', ¬Oversized room r'.data limit') ∧ Oversized room r.data limit) ∧
    ∀ v limit, Oversized room v limit → ∃ t, v = .str t ∧ Exceeds room t limit := by
  intro rows links
  refine ⟨fun hfits => ?_, fun limit => ?_, fun v limit h => h.exceeds⟩
  · obtain ⟨entries, hentries⟩ := exists_mapM_entry hfits
    have hcanvas : s.canvasOf room project = .ok ⟨entries, links.map EdgeRow.entry⟩ :=
      canvasOf_eq_ok.mpr ⟨hentries, rfl⟩
    exact ⟨_, hcanvas, (mapM_entry_eq_ok.mp hentries).2, EdgeRow.forall₂_readsAs links⟩
  · exact canvasOf_eq_error.trans mapM_entry_eq_error

/-- A text that is no JSON, a list and null are empty data; the text of an object is that object. -/
theorem malformed_data_is_empty :
    let str (t : String) : Json := .str t.codes
    let row (data : Json) : NodeRow := ⟨[], str "n", str "t", .int 1, .int 2, data⟩
    let entry (d : Members) : Json := .obj
      [("id".codes, str "n"), ("type".codes, str "t"),
        ("position".codes, .obj [("x".codes, .int 1), ("y".codes, .int 2)]),
        ("data".codes, .obj d)]
    let d : Members := [("text".codes, str "a red kite")]
    let rows := [row (str "\x7b"), row (str "[1]"), row .null, row (.str (Json.obj d).print)]
    let s : Store := ⟨[], rows, [⟨[], str "e", str "n", str "m", .null⟩], [], [], 0⟩
    ∃ c, s.canvasOf 985 [] = .ok c ∧ List.Forall₂ (NodeRow.ReadsAs 985) rows c.nodes ∧
      c.nodes = [entry [], entry [], entry [], entry d] := by
  intro str row entry d rows s
  have hplain : Plain (.obj d) := .obj (by decide) (by decide)
    (List.forall_mem_singleton.mpr (.str (by decide)))
  have hd : dataObject 985 (.str (Json.obj d).print) = .ok d := dataObject_print hplain (by decide)
  have hentry {data : Json} {d : Members} (h : dataObject 985 data = .ok d) :
      (row data).entry 985 = .ok (entry d) :=
    bind_eq_ok.mpr ⟨d, h, rfl⟩
  have hentries : rows.mapM (NodeRow.entry 985) = .ok [entry [], entry [], entry [], entry d] :=
    mapM_eq_ok.mpr
      (.cons (hentry rfl) (.cons (hentry rfl) (.cons (hentry rfl) (.cons (hentry hd) .nil))))
  obtain ⟨c, hc, hnodes, -⟩ := (canvasOf_reads_rows s 985 []).1 (mapM_entry_eq_ok.mp hentries).1
  have hsame : Except.ok c.nodes = .ok _ := (canvasOf_eq_ok.mp hc).1.symm.trans hentries
  exact ⟨c, hc, hnodes, Except.ok.inj hsame⟩

/-- A whole number with one digit more than the reader takes, in the data of a node. -/
def longNumberRow : NodeRow :=
  ⟨[], .str "n".codes, .str "t".codes, .int 0, .int 0,
    .str ("\x7b\"n\": ".codes ++ List.replicate (Text.digitLimit + 1) (Code.scalar '1') ++
      "\x7d".codes)⟩

/-- The canvas of a project that has such a node is not read. -/
theorem long_number_is_in_the_way :
    let s : Store := ⟨[], [longNumberRow], [], [], [], 0⟩
    s.canvasOf 985 [] = .error (.digits 4301) ∧ ¬∃ c, s.canvasOf 985 [] = .ok c := by
  intro s
  -- Canvases cannot be compared, so the outcome is tested for its limit.
  have hfails : (match s.canvasOf 985 [] with
      | .ok _ => false
      | .error limit => limit == .digits 4301) = true := by decide +kernel
  have herror : s.canvasOf 985 [] = .error (.digits 4301) := by
    split at hfails
    · cases hfails
    · next limit hlimit => rw [hlimit, beq_iff_eq.mp hfails]
  refine ⟨herror, ?_⟩
  rintro ⟨c, hc⟩
  cases herror.symm.trans hc

end CanvasPrompt.Database
