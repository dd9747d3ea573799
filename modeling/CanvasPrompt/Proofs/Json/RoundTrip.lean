import CanvasPrompt.Proofs.Json.Tokens

/-!
# Written values can be read back

A value without floating-point numbers is had back from its written form, as long as it is not
nested too deeply for the reader. This module introduces

* `Plain v`: the value `v` is made of null, truth values, whole numbers that are not too long,
  texts of characters, lists and objects;
* `depth v`: the largest number of containers of `v`, one in the other.

The main statement is `read_print_eq`: reading gives the value, or tells the container that is
nested too deeply. It is derived from `readsBack_of_plain`, which goes through a value as the reader
does and lets anything follow that may stand behind a value.
-/

namespace CanvasPrompt.Json

/-- The value has no floating-point number in it, no whole number of too many digits, no surrogate
in a text or a name, and no object with one name for several members. -/
inductive Plain : Json → Prop where
  | null : Plain .null
  | bool (b : Bool) : Plain (.bool b)
  | int {i : Int} (short : (Text.ofNat i.natAbs).length ≤ Text.digitLimit) : Plain (.int i)
  | str {t : Text} (encodable : t.isEncodable = true) : Plain (.str t)
  | arr {items : List Json} (each : ∀ v ∈ items, Plain v) : Plain (.arr items)
  | obj {members : Members} (distinct : (members.map Prod.fst).Nodup)
      (named : ∀ m ∈ members, m.1.isEncodable = true) (each : ∀ m ∈ members, Plain m.2) :
      Plain (.obj members)

mutual
/-- The largest number of containers in a value, one in the other. -/
def depth : Json → Nat
  | .arr items => depthItems items + 1
  | .obj members => depthMembers members + 1
  | _ => 0

/-- The largest number of containers in some items, one in the other. -/
def depthItems : List Json → Nat
  | [] => 0
  | v :: rest => max (depth v) (depthItems rest)

/-- The largest number of containers in some members, one in the other. -/
def depthMembers : List (Text × Json) → Nat
  | [] => 0
  | (_, v) :: rest => max (depth v) (depthMembers rest)
end

theorem depthItems_le_iff {items : List Json} {room : Nat} :
    depthItems items ≤ room ↔ ∀ v ∈ items, depth v ≤ room := by
  induction items with
  | nil => simp [depthItems]
  | cons v rest ih => rw [depthItems, Nat.max_le, ih, List.forall_mem_cons]

theorem depthMembers_le_iff {members : List (Text × Json)} {room : Nat} :
    depthMembers members ≤ room ↔ ∀ m ∈ members, depth m.2 ≤ room := by
  induction members with
  | nil => simp [depthMembers]
  | cons m rest ih => rw [depthMembers, Nat.max_le, ih, List.forall_mem_cons]

theorem itemExcess?_eq_none_iff {items : List Json} {room : Nat} :
    itemExcess? room items = none ↔ ∀ v ∈ items, excess? room v = none := by
  induction items with
  | nil => simp [itemExcess?]
  | cons v rest ih => rw [itemExcess?, Option.or_eq_none_iff, ih, List.forall_mem_cons]

theorem memberExcess?_eq_none_iff {members : List (Text × Json)} {room : Nat} :
    memberExcess? room members = none ↔ ∀ m ∈ members, excess? room m.2 = none := by
  induction members with
  | nil => simp [memberExcess?]
  | cons m rest ih => rw [memberExcess?, Option.or_eq_none_iff, ih, List.forall_mem_cons]

theorem intExcess?_eq_none {i : Int} (short : (Text.ofNat i.natAbs).length ≤ Text.digitLimit) :
    intExcess? i = none := by
  rw [intExcess?]
  exact if_neg (Nat.not_lt.mpr short)

/-- Only by its nesting can a plain value go beyond a limit. -/
theorem excess?_eq_none_iff {v : Json} (hv : Plain v) (room : Nat) :
    excess? room v = none ↔ depth v ≤ room := by
  -- Inside a container there is room for one container less.
  induction hv generalizing room with
  | null => simp [excess?, depth]
  | bool b => simp [excess?, depth]
  | int short => simp [excess?, depth, intExcess?_eq_none short]
  | str encodable => simp [excess?, depth]
  | arr each ih =>
    cases room with
    | zero => simp [excess?, depth]
    | succ room =>
      rw [excess?, itemExcess?_eq_none_iff, depth, Nat.succ_le_succ_iff, depthItems_le_iff]
      exact forall₂_congr fun v hv => ih v hv room
  | obj distinct named each ih =>
    cases room with
    | zero => simp [excess?, depth]
    | succ room =>
      rw [excess?, memberExcess?_eq_none_iff, depth, Nat.succ_le_succ_iff, depthMembers_le_iff]
      exact forall₂_congr fun m hm => ih m hm room

theorem exists_of_itemExcess? {items : List Json} {room : Nat} {limit : Limit}
    (h : itemExcess? room items = some limit) : ∃ v ∈ items, excess? room v = some limit := by
  induction items with
  | nil => cases h
  | cons v rest ih =>
    rw [itemExcess?, Option.or_eq_some_iff] at h
    obtain hv | ⟨-, hrest⟩ := h
    · exact ⟨v, List.mem_cons_self, hv⟩
    · obtain ⟨w, hw, hlimit⟩ := ih hrest
      exact ⟨w, List.mem_cons_of_mem v hw, hlimit⟩

theorem exists_of_memberExcess? {members : List (Text × Json)} {room : Nat} {limit : Limit}
    (h : memberExcess? room members = some limit) :
    ∃ m ∈ members, excess? room m.2 = some limit := by
  induction members with
  | nil => cases h
  | cons m rest ih =>
    rw [memberExcess?, Option.or_eq_some_iff] at h
    obtain hm | ⟨-, hrest⟩ := h
    · exact ⟨m, List.mem_cons_self, hm⟩
    · obtain ⟨m', hm', hlimit⟩ := ih hrest
      exact ⟨m', List.mem_cons_of_mem m hm', hlimit⟩

theorem nesting_of_excess? {v : Json} (hv : Plain v) {room : Nat} {limit : Limit}
    (h : excess? room v = some limit) : ∃ inner, limit = .nesting inner := by
  -- A plain value has short integers and encodable texts, so that only its depth is left.
  induction hv generalizing room with
  | null => cases h
  | bool b => cases h
  | int short => cases (intExcess?_eq_none short).symm.trans h
  | str encodable => cases h
  | arr each ih =>
    cases room with
    | zero => exact ⟨.list, (Option.some.inj h).symm⟩
    | succ room =>
      obtain ⟨v, hv, hlimit⟩ := exists_of_itemExcess? h
      exact ih v hv hlimit
  | obj distinct named each ih =>
    cases room with
    | zero => exact ⟨.object, (Option.some.inj h).symm⟩
    | succ room =>
      obtain ⟨m, hm, hlimit⟩ := exists_of_memberExcess? h
      exact ih m hm hlimit

/-- A plain value that is nested too deeply goes beyond that limit. -/
theorem exists_excess? {v : Json} (hv : Plain v) {room : Nat} (hdepth : room < depth v) :
    ∃ inner, excess? room v = some (.nesting inner) := by
  obtain ⟨limit, hlimit⟩ := Option.ne_none_iff_exists'.mp
    (mt (excess?_eq_none_iff hv room).mp (Nat.not_le.mpr hdepth))
  obtain ⟨inner, rfl⟩ := nesting_of_excess? hv hlimit
  exact ⟨inner, hlimit⟩

/-! ## What stands where -/

section

variable {c : Code} {t : Text}

/-- The text starts with a character that may start a value: no white space, and no end of a
container. -/
def StartsValue (t : Text) : Prop :=
  ∃ c cs, t = c :: cs ∧ isGap c = false ∧ c ≠ ']' ∧ c ≠ '\x7d'

theorem skipGap_cons (h : isGap c = false) (t : Text) : skipGap (c :: t) = c :: t := by
  rw [skipGap, List.dropWhile_cons_of_neg (by simp [h])]

theorem skipGap_of_startsValue (h : StartsValue t) : skipGap t = t := by
  obtain ⟨c, cs, rfl, hgap, -⟩ := h
  exact skipGap_cons hgap cs

theorem StartsValue.append (h : StartsValue t) (rest : Text) : StartsValue (t ++ rest) := by
  obtain ⟨c, cs, rfl, hgap, hend⟩ := h
  exact ⟨c, cs ++ rest, rfl, hgap, hend⟩

theorem ne_of_isAsciiDigit {d : Code} (hc : Text.isAsciiDigit c = true)
    (hd : Text.isAsciiDigit d = false) : c ≠ d := by
  rintro rfl
  rw [hd] at hc
  cases hc

theorem startsValue_of_isAsciiDigit (h : Text.isAsciiDigit c = true) (t : Text) :
    StartsValue (c :: t) := by
  have hne (d : Code) (hd : Text.isAsciiDigit d = false) : c ≠ d := ne_of_isAsciiDigit h hd
  refine ⟨c, t, rfl, ?_, hne ']' rfl, hne '\x7d' rfl⟩
  simp [isGap, hne ' ' rfl, hne '\t' rfl, hne '\n' rfl, hne '\r' rfl]

/-- A written value starts like one. -/
theorem startsValue_print {v : Json} (h : Plain v) : StartsValue v.print := by
  cases h with
  | null => exact ⟨'n', _, rfl, rfl, by decide, by decide⟩
  | bool b =>
    cases b with
    | false => exact ⟨'f', _, rfl, rfl, by decide, by decide⟩
    | true => exact ⟨'t', _, rfl, rfl, by decide, by decide⟩
  | @int i short =>
    -- An integer begins with a digit or with the sign.
    obtain ⟨c, cs, hc, hcs | hcs⟩ := exists_digit_ofInt i
    · rw [print, hcs]
      exact startsValue_of_isAsciiDigit hc cs
    · rw [print, hcs]
      exact ⟨'-', _, rfl, rfl, by decide, by decide⟩
  | str encodable => exact ⟨'"', _, rfl, rfl, by decide, by decide⟩
  | arr each => exact ⟨'[', _, rfl, rfl, by decide, by decide⟩
  | obj distinct named each => exact ⟨'\x7b', _, rfl, rfl, by decide, by decide⟩

theorem startsValue_printMembers (m : Text × Json) (rest : List (Text × Json)) :
    StartsValue (printMembers (m :: rest)) := by
  have hname : StartsValue (printText m.1) := ⟨'"', _, rfl, rfl, by decide, by decide⟩
  cases rest with
  | nil =>
    rw [printMembers, List.append_assoc]
    exact hname.append _
  | cons w rest =>
    rw [printMembers, List.append_assoc, List.append_assoc, List.append_assoc]
    exact hname.append _

theorem startsValue_printItems {v : Json} (h : Plain v) (rest : List Json) :
    StartsValue (printItems (v :: rest)) := by
  cases rest with
  | nil => exact startsValue_print h
  | cons w rest =>
    rw [printItems, List.append_assoc]
    exact (startsValue_print h).append _

end

/-! ## Objects -/

/-- A name that is new gets its place at the end. -/
theorem setField_of_not_mem {ms : Members} {name : Text} (h : name ∉ ms.map Prod.fst) (v : Json) :
    setField ms name v = ms ++ [(name, v)] := by
  induction ms with
  | nil => rfl
  | cons m rest ih =>
    obtain ⟨hm, hrest⟩ := not_or.mp (mt List.mem_cons.mpr h)
    rw [setField, if_neg (by simpa using Ne.symm hm), ih hrest, List.cons_append]

/-- Members with different names are kept as they are written. -/
theorem ofPairs_of_nodup {ps : List (Text × Json)} (h : (ps.map Prod.fst).Nodup) :
    ofPairs ps = ps := by
  -- The fold begins with no members, but its steps add to those that are there already.
  have hfold : ∀ ms : Members, ((ms ++ ps).map Prod.fst).Nodup →
      ps.foldl (fun ms p => setField ms p.1 p.2) ms = ms ++ ps := by
    clear h
    induction ps with
    | nil => simp
    | cons p rest ih =>
      intro ms hms
      have hnew : p.1 ∉ ms.map Prod.fst := by
        rw [List.map_append, List.map_cons] at hms
        exact fun hmem => (List.nodup_append.mp hms).2.2 _ hmem _ List.mem_cons_self rfl
      rw [List.foldl_cons, setField_of_not_mem hnew, ih, List.append_assoc, List.singleton_append]
      rw [List.append_assoc, List.singleton_append]
      exact hms
  exact hfold [] h

/-! ## Steps of the reader -/

section

variable {n room : Nat} {t : Text}

theorem readValue_text (n room : Nat) (t : Text) :
    readValue (n + 1) room ('"' :: t) = (readText t).map fun p => (.str p.1, p.2) := by
  cases room <;> rfl

theorem readValue_list (h : StartsValue t) :
    readValue (n + 1) (room + 1) ('[' :: t) =
      (readItems n room t).map fun p => (.arr p.1, p.2) := by
  obtain ⟨c, cs, rfl, hgap, hend, -⟩ := h
  rw [readValue, skipGap_cons hgap]
  simp [hend]

theorem readValue_object (h : StartsValue t) :
    readValue (n + 1) (room + 1) ('\x7b' :: t) =
      (readMembers n room t).map fun p => (.obj (ofPairs p.1), p.2) := by
  obtain ⟨c, cs, rfl, hgap, -, hend⟩ := h
  rw [readValue, skipGap_cons hgap]
  simp [hend]

/-- How reading members goes on behind the value of the member `name`. -/
def afterMember (n room : Nat) (name : Text) : Part Json → Part (List (Text × Json))
  | .error e => .error e
  | .ok (v, rest) =>
    match skipGap rest with
    | '\x7d' :: rest => .ok ([(name, v)], rest)
    | ',' :: rest => (readMembers n room (skipGap rest)).map fun p => ((name, v) :: p.1, p.2)
    | rest => .error (.malformed rest.length)

/-- The name of a member is read first, and its value then. -/
theorem readMembers_member {name : Text} (hname : name.isEncodable = true) {v : Json}
    (hv : Plain v) (n room : Nat) (t : Text) :
    readMembers (n + 1) room (printText name ++ ": ".codes ++ v.print ++ t) =
      afterMember n room name (readValue n room (v.print ++ t)) := by
  have hwritten : printText name ++ ": ".codes ++ v.print ++ t =
      Code.scalar '"' ::
        (name.flatMap escapeChar ++ Code.scalar '"' :: ':' :: ' ' :: (v.print ++ t)) := by
    simp [printText, String.codes]
  have hgap : skipGap (' ' :: (v.print ++ t)) = v.print ++ t :=
    skipGap_of_startsValue ((startsValue_print hv).append t)
  rw [hwritten, readMembers, readText_printText hname]
  simp only [skipGap_cons (show isGap ':' = false from rfl), hgap]
  rfl

theorem readValue_scalar {c : Code} (hc : c ∉ (['"', '[', '\x7b'] : Text)) (n room : Nat)
    (t : Text) :
    readValue (n + 1) room (c :: t) = readScalar (c :: t) := by
  simp only [List.mem_cons, List.not_mem_nil, or_false, not_or] at hc
  rw [readValue]
  all_goals simp [hc]

end

/-! ## Reading what is written -/

/-- What reading a part gives, if nothing but a limit can be in the way. -/
def partUnless {α : Type} (beyond : Option Limit) (p : α × Text) : Part α :=
  match beyond with
  | none => .ok p
  | some limit => .error (.beyond limit)

theorem map_partUnless {α β : Type} (beyond : Option Limit) (p : α × Text)
    (f : α × Text → β × Text) : (partUnless beyond p).map f = partUnless beyond (f p) := by
  cases beyond <;> rfl

/-- Reading the written value gives it, unless it goes beyond a limit. -/
def ReadsBack (v : Json) : Prop :=
  ∀ (n room : Nat) (rest : Text), 2 * v.print.length ≤ n → FollowsValue rest →
    readValue n room (v.print ++ rest) = partUnless (excess? room v) (v, rest)

/-- A value takes at least one step, since its written form is not empty. -/
theorem ReadsBack.of_step {v : Json} (hstart : StartsValue v.print)
    (h : ∀ (n room : Nat) (rest : Text), 2 * v.print.length ≤ n + 1 → FollowsValue rest →
      readValue (n + 1) room (v.print ++ rest) = partUnless (excess? room v) (v, rest)) :
    ReadsBack v := by
  intro n room rest hn hrest
  obtain ⟨c, cs, hcs, -⟩ := hstart
  obtain ⟨m, rfl⟩ : ∃ m, n = m + 1 := by
    rw [hcs, List.length_cons] at hn
    exact ⟨n - 1, by omega⟩
  exact h m room rest hn hrest

theorem followsValue_comma {later : Text} : FollowsValue (", ".codes ++ later) := by
  simp [FollowsValue, String.codes]

theorem readItems_print (v : Json) (items : List Json) (hplain : ∀ w ∈ v :: items, Plain w)
    (hreads : ∀ w ∈ v :: items, ReadsBack w) (n room : Nat) (rest : Text)
    (hn : 2 * (printItems (v :: items)).length + 1 ≤ n) :
    readItems n room (printItems (v :: items) ++ Code.scalar ']' :: rest) =
      partUnless (itemExcess? room (v :: items)) (v :: items, rest) := by
  induction items generalizing v n with
  | nil =>
    obtain ⟨n, rfl⟩ : ∃ m, n = m + 1 := ⟨n - 1, by omega⟩
    rw [printItems] at hn ⊢
    have hv := hreads v List.mem_cons_self n room (']' :: rest) (by omega) (by simp [FollowsValue])
    rw [readItems, hv, itemExcess?, itemExcess?, Option.or_none]
    cases excess? room v with
    | none => rfl
    | some limit => rfl
  | cons w items ih =>
    obtain ⟨n, rfl⟩ : ∃ m, n = m + 1 := ⟨n - 1, by omega⟩
    obtain ⟨-, hplain⟩ := List.forall_mem_cons.mp hplain
    obtain ⟨hv, hreads⟩ := List.forall_mem_cons.mp hreads
    have hcomma : ", ".codes.length = 2 := rfl
    rw [printItems] at hn ⊢
    simp only [List.length_append, hcomma] at hn
    let later := printItems (w :: items) ++ Code.scalar ']' :: rest
    have hgap : skipGap (' ' :: later) = later :=
      skipGap_of_startsValue ((startsValue_printItems (hplain w List.mem_cons_self) items).append _)
    rw [List.append_assoc, List.append_assoc, readItems,
      hv n room (", ".codes ++ later) (by omega) followsValue_comma, itemExcess?]
    cases excess? room v with
    | some limit => rfl
    | none =>
      -- Behind the comma a space is skipped, and reading goes on with the next item.
      show (readItems n room (skipGap (Code.scalar ' ' :: later))).map _ = _
      rw [hgap, ih w hplain hreads n (by omega), map_partUnless]
      rfl

theorem readMembers_print (m : Text × Json) (members : List (Text × Json))
    (hnamed : ∀ m' ∈ m :: members, m'.1.isEncodable = true)
    (hplain : ∀ m' ∈ m :: members, Plain m'.2) (hreads : ∀ m' ∈ m :: members, ReadsBack m'.2)
    (n room : Nat) (rest : Text) (hn : 2 * (printMembers (m :: members)).length + 1 ≤ n) :
    readMembers n room (printMembers (m :: members) ++ Code.scalar '\x7d' :: rest) =
      partUnless (memberExcess? room (m :: members)) (m :: members, rest) := by
  -- The first member is kept apart, since a comma stands before each of the others.
  induction members generalizing m n with
  | nil =>
    obtain ⟨n, rfl⟩ : ∃ m, n = m + 1 := ⟨n - 1, by omega⟩
    rw [printMembers] at hn ⊢
    simp only [List.length_append] at hn
    have hv := hreads m List.mem_cons_self n room ('\x7d' :: rest) (by omega)
      (by simp [FollowsValue])
    rw [readMembers_member (hnamed m List.mem_cons_self) (hplain m List.mem_cons_self), hv,
      memberExcess?, memberExcess?, Option.or_none]
    cases excess? room m.2 with
    | none => rfl
    | some limit => rfl
  | cons m' members ih =>
    obtain ⟨n, rfl⟩ : ∃ m, n = m + 1 := ⟨n - 1, by omega⟩
    obtain ⟨hname, hnamed⟩ := List.forall_mem_cons.mp hnamed
    obtain ⟨hm, hplain⟩ := List.forall_mem_cons.mp hplain
    obtain ⟨hv, hreads⟩ := List.forall_mem_cons.mp hreads
    have hcomma : ", ".codes.length = 2 := rfl
    rw [printMembers] at hn ⊢
    simp only [List.length_append, hcomma] at hn
    -- Behind the comma, one space is skipped before the next name is read.
    let later := printMembers (m' :: members) ++ Code.scalar '\x7d' :: rest
    have hgap : skipGap (' ' :: later) = later :=
      skipGap_of_startsValue ((startsValue_printMembers m' members).append _)
    rw [List.append_assoc, List.append_assoc _ ", ".codes, readMembers_member hname hm,
      hv n room (", ".codes ++ later) (by omega) followsValue_comma, memberExcess?]
    cases excess? room m.2 with
    | some limit => rfl
    | none =>
      show (readMembers n room (skipGap (Code.scalar ' ' :: later))).map _ = _
      rw [hgap, ih m' hnamed hplain hreads n (by omega), map_partUnless]
      rfl

/-- A plain value is read back. -/
theorem readsBack_of_plain {v : Json} (hv : Plain v) : ReadsBack v := by
  -- The induction is on the value: items and members are read back one after another.
  induction hv with
  | null =>
    refine .of_step (startsValue_print .null) fun n room rest hn hrest => ?_
    exact readValue_scalar (by decide) n room ('u' :: 'l' :: 'l' :: rest)
  | bool b =>
    refine .of_step (startsValue_print (.bool b)) fun n room rest hn hrest => ?_
    cases b with
    | false => exact readValue_scalar (by decide) n room ('a' :: 'l' :: 's' :: 'e' :: rest)
    | true => exact readValue_scalar (by decide) n room ('r' :: 'u' :: 'e' :: rest)
  | @int i short =>
    refine .of_step (startsValue_print (.int short)) fun n room rest hn hrest => ?_
    have hscalar := readScalar_ofInt short hrest
    rw [excess?, intExcess?_eq_none short]
    obtain ⟨c, cs, hc, hcs | hcs⟩ := exists_digit_ofInt i
    · have hne (d : Code) (hd : Text.isAsciiDigit d = false) : c ≠ d := ne_of_isAsciiDigit hc hd
      have hstart : c ∉ (['"', '[', '\x7b'] : Text) := by
        simp [hne '"' rfl, hne '[' rfl, hne '\x7b' rfl]
      rw [hcs] at hscalar
      rw [print, hcs]
      exact (readValue_scalar hstart n room (cs ++ rest)).trans hscalar
    · rw [hcs] at hscalar
      rw [print, hcs]
      exact (readValue_scalar (by decide) n room (c :: cs ++ rest)).trans hscalar
  | str encodable =>
    refine .of_step (startsValue_print (.str encodable)) fun n room rest hn hrest => ?_
    rw [print, printText, List.cons_append, List.cons_append, List.append_assoc, readValue_text,
      List.singleton_append, readText_printText encodable]
    rfl
  | @arr items each ih =>
    refine .of_step (startsValue_print (.arr each)) fun n room rest hn hrest => ?_
    rw [print, List.cons_append, List.length_cons, List.length_append] at hn
    rw [print, List.cons_append, List.cons_append, List.append_assoc, List.singleton_append]
    cases room with
    | zero => rfl
    | succ room =>
      cases items with
      | nil => rfl
      | cons w items =>
        have hstart := startsValue_printItems (each w List.mem_cons_self) items
        rw [readValue_list (hstart.append _),
          readItems_print w items each ih n room rest (by omega), map_partUnless]
        rfl
  | @obj members distinct named each ih =>
    refine .of_step (startsValue_print (.obj distinct named each)) fun n room rest hn hrest => ?_
    rw [print, List.cons_append, List.length_cons, List.length_append] at hn
    rw [print, List.cons_append, List.cons_append, List.append_assoc, List.singleton_append]
    cases room with
    | zero => rfl
    | succ room =>
      cases members with
      | nil => rfl
      | cons m members =>
        have hstart := startsValue_printMembers m members
        rw [readValue_object (hstart.append _),
          readMembers_print m members named each ih n room rest (by omega), map_partUnless,
          ofPairs_of_nodup distinct]
        rfl

/-! ## Reading back -/

/-- A plain value is had back from its written form, unless it goes beyond a limit. -/
theorem read_print_eq {v : Json} (hv : Plain v) (room : Nat) :
    read room v.print =
      match excess? room v with
      | none => .ok v
      | some limit => .error (.beyond limit) := by
  have hreads := readsBack_of_plain hv (2 * v.print.length + 2) room [] (by omega)
    (by simp [FollowsValue])
  rw [List.append_nil] at hreads
  rw [read, readWhole, skipGap_of_startsValue (startsValue_print hv), hreads]
  cases excess? room v with
  | none => rfl
  | some limit => rfl

theorem read_print {v : Json} (hv : Plain v) {room : Nat} (hdepth : depth v ≤ room) :
    read room v.print = .ok v := by
  rw [read_print_eq hv, (excess?_eq_none_iff hv room).mpr hdepth]

/-- What is nested too deeply is neither written nor read, with the same word for it. -/
theorem read_print_of_too_deep {v : Json} (hv : Plain v) {room : Nat} (hdepth : room < depth v) :
    ∃ inner, write room v = .error (.nesting inner) ∧
      read room v.print = .error (.beyond (.nesting inner)) := by
  obtain ⟨inner, hexcess⟩ := exists_excess? hv hdepth
  exact ⟨inner, by rw [write, hexcess], by rw [read_print_eq hv, hexcess]⟩

theorem write_eq_print {v : Json} (hv : Plain v) {room : Nat} (hdepth : depth v ≤ room) :
    write room v = .ok v.print := by
  rw [write, (excess?_eq_none_iff hv room).mpr hdepth]

end CanvasPrompt.Json
