import CanvasPrompt.Proofs.Fallible
import CanvasPrompt.Proofs.Text.Numerals
import CanvasPrompt.Settings.Basic

/-!
# Which environments give settings

What is accepted of each variable is said with no regard to how it is read:

* `Accepts o v`: the text `o` of the variable `v`, or that there is none, is accepted;
* `FirstRefused env v`: of the variables that are not accepted, `v` is read first;
* `Told v e`: the error `e` begins with the name of the variable `v`, unless that is the limit of
  images: what is wrong with the limit is told without a name.

An environment gives settings exactly if every variable is accepted (`loads_what_is_accepted`), and
the first one that is not is told (`failure_names_its_cause`).
-/

namespace CanvasPrompt.Settings

open Text (EndsClear IsTrimmed OnlyOf RealNumeral WholeNumeral isBlank strip)

/-- The variable is set to a text that is not empty. -/
def Given (o : Option Text) : Prop :=
  ∃ t, o = some t ∧ t ≠ []

/-- The variable is not set or empty, or else its text has the property `P`. -/
def AtWill (P : Text → Prop) (o : Option Text) : Prop :=
  ∀ t ∈ o, t = [] ∨ P t

/-- The text is a numeral of a whole number. -/
def IsWhole (t : Text) : Prop :=
  ∃ n, WholeNumeral t n

/-- The text is these entries with commas between them, and there is no comma in an entry. -/
structure IsListOf (entries : List Text) (t : Text) : Prop where
  ne_nil : entries ≠ []
  not_mem : ∀ entry ∈ entries, Code.scalar ',' ∉ entry
  joined : t = [Code.scalar ','].intercalate entries

/-- What is accepted of each variable. -/
def Accepts (o : Option Text) : Variable → Prop
  | .corsOrigins =>
    ∃ t entries, o = some t ∧ t ≠ [] ∧ IsListOf entries t ∧
      ∀ entry ∈ entries, strip entry ≠ [Code.scalar '*']
  | .supabaseUrl | .supabaseJwtSecret | .dbUri => Given o
  | .refineMaxTokens | .perRoleImageCap | .imageWidth | .imageHeight => AtWill IsWhole o
  | .maxRefineImages => ∀ t ∈ o, OnlyOf isBlank t ∨ IsWhole (strip t)
  | .refineTemperature | .providerTimeout => AtWill RealNumeral o
  | .openaiApiKey | .openaiBaseUrl | .modelName | .geminiApiKey | .geminiModel | .imageModel
  | .jwtAudience => True

/-- The variables that may be refused, as they are read. -/
def readingOrder : List Variable :=
  [.corsOrigins, .refineMaxTokens, .refineTemperature, .perRoleImageCap, .maxRefineImages,
   .imageWidth, .imageHeight, .providerTimeout, .supabaseUrl, .supabaseJwtSecret, .dbUri]

/-- The variable is not accepted, and all that are read before it are. -/
def FirstRefused (env : Environment) (v : Variable) : Prop :=
  ∃ before later, readingOrder = before ++ v :: later ∧ (∀ u ∈ before, Accepts (env u) u) ∧
    ¬Accepts (env v) v

/-- The error tells the variable by its name, or the limit of images without any name. -/
def Told (v : Variable) (e : Error) : Prop :=
  (v ≠ .maxRefineImages ∧ v.name <+: e.message) ∨
    (v = .maxRefineImages ∧ ∀ u : Variable, ¬u.name <+: e.message)

/-- The text of the variable is trimmed to `key`, which is left out if it is blank. -/
def TrimmedTo (o key : Option Text) : Prop :=
  (key = none ∧ ∀ t ∈ o, OnlyOf isBlank t) ∨
    ∃ front t back, o = some (front ++ t ++ back) ∧ key = some t ∧ IsTrimmed t ∧
      OnlyOf isBlank front ∧ OnlyOf isBlank back

/-- What some of the settings have to do with the environment that they are loaded from. -/
structure MadeFrom (env : Environment) (s : Settings) : Prop where
  /-- The origins are the entries that are not blank, trimmed and in their order. -/
  corsOrigins : ∃ t entries, env .corsOrigins = some t ∧ IsListOf entries t ∧
    s.corsOrigins = (entries.map strip).filter (· ≠ [])
  not_mem_corsOrigins : [Code.scalar '*'] ∉ s.corsOrigins
  /-- Slashes at the end of the address are left out. -/
  supabaseUrl : ∃ slashes, OnlyOf (· == Code.scalar '/') slashes ∧
    env .supabaseUrl = some (s.supabaseUrl ++ slashes)
  endsClear_supabaseUrl : EndsClear (· == Code.scalar '/') s.supabaseUrl
  openaiApiKey : TrimmedTo (env .openaiApiKey) s.openaiApiKey
  openaiBaseUrl : TrimmedTo (env .openaiBaseUrl) s.openaiBaseUrl
  geminiApiKey : TrimmedTo (env .geminiApiKey) s.geminiApiKey

/-- The two settings agree in what the variable is for. -/
def SameIn (s s' : Settings) : Variable → Prop
  | .openaiApiKey => s.openaiApiKey = s'.openaiApiKey
  | .openaiBaseUrl => s.openaiBaseUrl = s'.openaiBaseUrl
  | .modelName => s.modelName = s'.modelName
  | .refineMaxTokens => s.refineMaxTokens = s'.refineMaxTokens
  | .refineTemperature => s.refineTemperature = s'.refineTemperature
  | .perRoleImageCap => s.perRoleImageCap = s'.perRoleImageCap
  | .maxRefineImages => s.maxRefineImages = s'.maxRefineImages
  | .geminiApiKey => s.geminiApiKey = s'.geminiApiKey
  | .geminiModel => s.geminiModel = s'.geminiModel
  | .imageModel => s.imageModel = s'.imageModel
  | .imageWidth => s.imageWidth = s'.imageWidth
  | .imageHeight => s.imageHeight = s'.imageHeight
  | .providerTimeout => s.providerTimeout = s'.providerTimeout
  | .supabaseUrl => s.supabaseUrl = s'.supabaseUrl
  | .supabaseJwtSecret => s.supabaseJwtSecret = s'.supabaseJwtSecret
  | .jwtAudience => s.jwtAudience = s'.jwtAudience
  | .corsOrigins => s.corsOrigins = s'.corsOrigins
  | .dbUri => s.dbUri = s'.dbUri

variable {α β : Type} {env env' : Environment} {v : Variable}

/-! ## Errors -/

/-- The name of no variable starts as the errors about a whole number do. -/
theorem not_prefix_of_head {c : Code} {t : Text} (hc : c = 'i' ∨ c = 'E') (u : Variable) :
    ¬u.name <+: c :: t := by
  have hhead : ∀ u : Variable, ∃ d rest, u.name = d :: rest ∧ d ≠ 'i' ∧ d ≠ 'E' := by
    intro u
    cases u <;> exact ⟨_, _, rfl, by decide, by decide⟩
  obtain ⟨d, rest, hname, hi, hE⟩ := hhead u
  rw [hname, List.cons_prefix_cons]
  rintro ⟨rfl, -⟩
  exact hc.elim hi hE

/-- What is wrong with the limit is told as of any text that should be a whole number. -/
theorem told_imageLimit (t : Text) (e : Text.IntegerError) :
    Told .maxRefineImages (.imageLimit t e) := by
  refine .inr ⟨rfl, ?_⟩
  cases e with
  | malformed => exact not_prefix_of_head (.inl rfl)
  | tooLong digits => exact not_prefix_of_head (.inr rfl)

/-! ## Reading one variable -/

/-- The step `r` reads the variable `v`: it succeeds if that is accepted, and else tells it. -/
structure Reads (v : Variable) (accepted : Prop) (r : Except Error α) : Prop where
  ok_iff : (∃ a, r = .ok a) ↔ accepted
  told : ∀ e, r = .error e → Told v e

theorem Reads.of_ok {accepted : Prop} {a : α} (h : accepted) :
    Reads v accepted (.ok a : Except Error α) :=
  ⟨iff_of_true ⟨a, rfl⟩ h, nofun⟩

theorem Reads.of_error {accepted : Prop} {e : Error} (h : ¬accepted) (ht : Told v e) :
    Reads v accepted (.error e : Except Error α) := by
  refine ⟨iff_of_false ?_ h, ?_⟩
  · rintro ⟨_, ⟨⟩⟩
  · rintro _ ⟨⟩
    exact ht

theorem required_eq_ok_iff {t : Text} : required env v = .ok t ↔ env v = some t ∧ t ≠ [] := by
  rw [required]
  cases env v with
  | none => exact iff_of_false nofun fun h => nomatch h.1
  | some u =>
    dsimp only
    split_ifs with hu
    · refine iff_of_false nofun ?_
      rintro ⟨⟨⟩, hne⟩
      exact hne (List.isEmpty_iff.mp hu)
    · rw [Except.ok.injEq, Option.some_inj]
      refine (and_iff_left_of_imp ?_).symm
      rintro rfl
      exact fun h => hu (List.isEmpty_iff.mpr h)

theorem required_reads (env : Environment) (hv : v ≠ .maxRefineImages) :
    Reads v (Given (env v)) (required env v) := by
  refine ⟨exists_congr fun t => required_eq_ok_iff, fun e he => ?_⟩
  -- A required variable can only be missing.
  have hmissing : e = .missing v := by
    rw [required] at he
    split at he
    · cases he
      rfl
    · split_ifs at he
      cases he
      rfl
  rw [hmissing]
  exact .inl ⟨hv, List.prefix_append _ _⟩

/-- A variable that is not set counts as an empty one. -/
theorem atWill_iff {P : Text → Prop} {o : Option Text} :
    AtWill P o ↔ o.getD [] = [] ∨ P (o.getD []) := by
  cases o with
  | none => simp [AtWill]
  | some t => simp [AtWill]

theorem not_isWhole {t : Text} {e : Text.IntegerError} (h : Text.readInteger t = .error e) :
    ¬IsWhole t := by
  rintro ⟨n, hn⟩
  rw [Text.readInteger_eq_ok_iff.mpr hn] at h
  cases h

theorem integerOr_reads (env : Environment) (hv : v ≠ .maxRefineImages) (default : Int) :
    Reads v (AtWill IsWhole (env v)) (integerOr env v default) := by
  rw [atWill_iff, integerOr]
  split_ifs with hempty
  · exact .of_ok (.inl (List.isEmpty_iff.mp hempty))
  · cases hread : Text.readInteger ((env v).getD []) with
    | ok n => exact .of_ok (.inr ⟨n, Text.readInteger_eq_ok_iff.mp hread⟩)
    | error e =>
      refine .of_error ?_ (.inl ⟨hv, List.prefix_append _ _⟩)
      exact not_or.mpr ⟨hempty ∘ List.isEmpty_iff.mpr, not_isWhole hread⟩

theorem numberOr_reads (env : Environment) (hv : v ≠ .maxRefineImages) (default : Double) :
    Reads v (AtWill RealNumeral (env v)) (numberOr env v default) := by
  rw [atWill_iff, numberOr]
  split_ifs with hempty
  · exact .of_ok (.inl (List.isEmpty_iff.mp hempty))
  · cases hread : Text.readReal? ((env v).getD []) with
    | some d => exact .of_ok (.inr (Text.exists_readReal?_iff.mp ⟨d, hread⟩))
    | none =>
      refine .of_error ?_ (.inl ⟨hv, List.prefix_append _ _⟩)
      rintro (h | h)
      · exact hempty (List.isEmpty_iff.mpr h)
      · obtain ⟨d, h⟩ := Text.exists_readReal?_iff.mpr h
        rw [h] at hread
        cases hread

/-- The limit is read without the white space around it. -/
theorem imageLimit_reads (env : Environment) :
    Reads .maxRefineImages (Accepts (env .maxRefineImages) .maxRefineImages) (imageLimit env) := by
  rw [Accepts, imageLimit, trimmed]
  cases env .maxRefineImages with
  | none => exact .of_ok nofun
  | some t =>
    simp only [Option.bind_some, Option.mem_some, forall_eq']
    cases hleft : Text.nonBlank? t with
    | none => exact .of_ok (.inl (Text.nonBlank?_eq_none_iff.mp hleft))
    | some u =>
      obtain ⟨rfl, hne⟩ := Text.nonBlank?_eq_some_iff.mp hleft
      have hblank : ¬OnlyOf isBlank t := hne ∘ Text.strip_eq_nil_iff.mpr
      dsimp only
      cases hread : Text.readInteger (strip t) with
      | ok n => exact .of_ok (.inr ⟨n, Text.readInteger_eq_ok_iff.mp hread⟩)
      | error e => exact .of_error (not_or.mpr ⟨hblank, not_isWhole hread⟩) (told_imageLimit _ e)

/-! ## The origins -/

theorem isListOf_iff {entries : List Text} {t : Text} :
    IsListOf entries t ↔ Text.splitAtChar ',' t = entries := by
  rw [Text.splitAtChar_eq_iff]
  exact ⟨fun h => ⟨h.ne_nil, h.not_mem, h.joined⟩, fun ⟨hne, hmem, hjoined⟩ => ⟨hne, hmem, hjoined⟩⟩

/-- The entries that are not blank are trimmed. -/
theorem filterMap_nonBlank? (entries : List Text) :
    entries.filterMap Text.nonBlank? = (entries.map strip).filter (· ≠ []) := by
  induction entries with
  | nil => rfl
  | cons entry rest ih =>
    rw [List.map_cons]
    by_cases hempty : strip entry = []
    · have hnone := Text.nonBlank?_eq_none_iff.mpr (Text.strip_eq_nil_iff.mp hempty)
      rw [List.filterMap_cons_none hnone, List.filter_cons_of_neg (by simpa using hempty), ih]
    · have hsome := Text.nonBlank?_eq_some_iff.mpr ⟨rfl, hempty⟩
      rw [List.filterMap_cons_some hsome, List.filter_cons_of_pos (by simpa using hempty), ih]

theorem mem_originsIn_iff {t : Text} :
    [Code.scalar '*'] ∈ originsIn t ↔
      ∃ entry ∈ Text.splitAtChar ',' t, strip entry = [Code.scalar '*'] := by
  rw [originsIn, filterMap_nonBlank?, List.mem_filter, List.mem_map]
  exact and_iff_left (by decide)

theorem origins_eq_ok_iff {os : List Text} :
    origins env = .ok os ↔ ∃ t, (env .corsOrigins = some t ∧ t ≠ []) ∧
      [Code.scalar '*'] ∉ originsIn t ∧ originsIn t = os := by
  simp only [← required_eq_ok_iff, origins]
  cases required env .corsOrigins with
  | error e => simp
  | ok t => by_cases hany : [Code.scalar '*'] ∈ originsIn t <;> simp [hany]

theorem origins_reads (env : Environment) :
    Reads .corsOrigins (Accepts (env .corsOrigins) .corsOrigins) (origins env) := by
  constructor
  · simp only [origins_eq_ok_iff, exists_comm (α := List Text), exists_and_left, exists_eq',
      and_true, mem_originsIn_iff, not_exists, not_and, Accepts, isListOf_iff, exists_eq_left',
      and_assoc]
  · intro e he
    have hrequired := (required_reads env (v := .corsOrigins) (by decide)).told
    rw [origins] at he
    split at he
    · next hmissing =>
      cases he
      exact hrequired e hmissing
    · split_ifs at he
      cases he
      exact .inl ⟨by decide, List.prefix_append _ _⟩

/-! ## Reading all variables -/

/-- The step `r` reads the variables `vs` in their order, up to the first that is not accepted. -/
structure GoesThrough (env : Environment) (vs : List Variable) (r : Except Error α) : Prop where
  of_ok : ∀ a, r = .ok a → ∀ v ∈ vs, Accepts (env v) v
  of_error : ∀ e, r = .error e → ∃ before v later, vs = before ++ v :: later ∧
    (∀ u ∈ before, Accepts (env u) u) ∧ ¬Accepts (env v) v ∧ Told v e

theorem goesThrough_pure (env : Environment) (a : α) :
    GoesThrough env [] (pure a : Except Error α) :=
  ⟨fun _ _ => List.forall_mem_nil _, nofun⟩

/-- What is read first is told first: the rest is read only if it is accepted. -/
theorem Reads.bind {vs : List Variable} {r : Except Error α} {f : α → Except Error β}
    (h : Reads v (Accepts (env v) v) r) (hf : ∀ a, GoesThrough env vs (f a)) :
    GoesThrough env (v :: vs) (r >>= f) := by
  constructor
  · intro b hb
    obtain ⟨a, hr, hfa⟩ := Fallible.bind_eq_ok.mp hb
    exact List.forall_mem_cons.mpr ⟨h.ok_iff.mp ⟨a, hr⟩, (hf a).of_ok b hfa⟩
  · intro e he
    -- The error is the one of the first step, or the rest is gone through up to it.
    obtain hr | ⟨a, hr, hfa⟩ := Fallible.bind_eq_error.mp he
    · refine ⟨[], v, vs, rfl, List.forall_mem_nil _, fun haccepted => ?_, h.told e hr⟩
      obtain ⟨a, ha⟩ := h.ok_iff.mpr haccepted
      rw [hr] at ha
      cases ha
    · obtain ⟨before, u, later, rfl, hbefore, hu⟩ := (hf a).of_error e hfa
      refine ⟨v :: before, u, later, rfl, ?_, hu⟩
      exact List.forall_mem_cons.mpr ⟨h.ok_iff.mp ⟨a, hr⟩, hbefore⟩

theorem load_goesThrough (env : Environment) : GoesThrough env readingOrder (load env) := by
  unfold load readingOrder
  -- One step for each variable of the order.
  refine (origins_reads env).bind fun _ => ?_
  refine (integerOr_reads env (v := .refineMaxTokens) (by decide) _).bind fun _ => ?_
  refine (numberOr_reads env (v := .refineTemperature) (by decide) _).bind fun _ => ?_
  refine (integerOr_reads env (v := .perRoleImageCap) (by decide) _).bind fun _ => ?_
  refine (imageLimit_reads env).bind fun _ => ?_
  refine (integerOr_reads env (v := .imageWidth) (by decide) _).bind fun _ => ?_
  refine (integerOr_reads env (v := .imageHeight) (by decide) _).bind fun _ => ?_
  refine (numberOr_reads env (v := .providerTimeout) (by decide) _).bind fun _ => ?_
  refine (required_reads env (v := .supabaseUrl) (by decide)).bind fun _ => ?_
  refine (required_reads env (v := .supabaseJwtSecret) (by decide)).bind fun _ => ?_
  refine (required_reads env (v := .dbUri) (by decide)).bind fun _ => ?_
  exact goesThrough_pure env _

/-- A variable that is not in the order is accepted, whatever its text. -/
theorem accepts_of_not_mem (o : Option Text) (h : v ∉ readingOrder) : Accepts o v := by
  cases v with
  | openaiApiKey | openaiBaseUrl | modelName | geminiApiKey | geminiModel | imageModel
  | jwtAudience => exact True.intro
  | _ => exact absurd (by decide) h

/-! ## The settings that are read -/

/-- The settings hold what was read. -/
structure ReadFrom (env : Environment) (s : Settings) : Prop where
  openaiApiKey : trimmed env .openaiApiKey = s.openaiApiKey
  openaiBaseUrl : trimmed env .openaiBaseUrl = s.openaiBaseUrl
  modelName : textOr env .modelName "gpt-4o".codes = s.modelName
  refineMaxTokens : integerOr env .refineMaxTokens defaultMaxTokens = .ok s.refineMaxTokens
  refineTemperature : numberOr env .refineTemperature defaultTemperature = .ok s.refineTemperature
  perRoleImageCap : integerOr env .perRoleImageCap Context.defaultPerRoleCap = .ok s.perRoleImageCap
  maxRefineImages : imageLimit env = .ok s.maxRefineImages
  geminiApiKey : trimmed env .geminiApiKey = s.geminiApiKey
  geminiModel : textOr env .geminiModel Generate.Gemini.defaultModel = s.geminiModel
  imageModel : textOr env .imageModel Generate.defaultImageModel = s.imageModel
  imageWidth : integerOr env .imageWidth Generate.defaultSize = .ok s.imageWidth
  imageHeight : integerOr env .imageHeight Generate.defaultSize = .ok s.imageHeight
  providerTimeout : numberOr env .providerTimeout Web.defaultTimeout = .ok s.providerTimeout
  supabaseUrl : ∃ t, required env .supabaseUrl = .ok t ∧
    Text.dropEndWhile (· == Code.scalar '/') t = s.supabaseUrl
  supabaseJwtSecret : required env .supabaseJwtSecret = .ok s.supabaseJwtSecret
  jwtAudience : textOr env .jwtAudience "authenticated".codes = s.jwtAudience
  corsOrigins : origins env = .ok s.corsOrigins
  dbUri : required env .dbUri = .ok s.dbUri

theorem readFrom_of_load {s : Settings} (h : load env = .ok s) : ReadFrom env s := by
  -- The settings that may fail are read one after another; the others are read at the end.
  unfold load at h
  obtain ⟨corsOrigins, hcorsOrigins, h⟩ := Fallible.bind_eq_ok.mp h
  obtain ⟨refineMaxTokens, hrefineMaxTokens, h⟩ := Fallible.bind_eq_ok.mp h
  obtain ⟨refineTemperature, hrefineTemperature, h⟩ := Fallible.bind_eq_ok.mp h
  obtain ⟨perRoleImageCap, hperRoleImageCap, h⟩ := Fallible.bind_eq_ok.mp h
  obtain ⟨maxRefineImages, hmaxRefineImages, h⟩ := Fallible.bind_eq_ok.mp h
  obtain ⟨imageWidth, himageWidth, h⟩ := Fallible.bind_eq_ok.mp h
  obtain ⟨imageHeight, himageHeight, h⟩ := Fallible.bind_eq_ok.mp h
  obtain ⟨providerTimeout, hproviderTimeout, h⟩ := Fallible.bind_eq_ok.mp h
  obtain ⟨supabaseUrl, hsupabaseUrl, h⟩ := Fallible.bind_eq_ok.mp h
  obtain ⟨supabaseJwtSecret, hsupabaseJwtSecret, h⟩ := Fallible.bind_eq_ok.mp h
  obtain ⟨dbUri, hdbUri, h⟩ := Fallible.bind_eq_ok.mp h
  obtain rfl := Fallible.pure_eq_ok.mp h
  exact ⟨rfl, rfl, rfl, hrefineMaxTokens, hrefineTemperature, hperRoleImageCap, hmaxRefineImages,
    rfl, rfl, rfl, himageWidth, himageHeight, hproviderTimeout, ⟨supabaseUrl, hsupabaseUrl, rfl⟩,
    hsupabaseJwtSecret, rfl, hcorsOrigins, hdbUri⟩

theorem trimmedTo_trimmed (env : Environment) (v : Variable) :
    TrimmedTo (env v) (trimmed env v) := by
  rw [trimmed]
  cases env v with
  | none => exact .inl ⟨rfl, nofun⟩
  | some t =>
    rw [Option.bind_some]
    -- A variable whose text is blank counts as unset.
    cases hleft : Text.nonBlank? t with
    | none =>
      refine .inl ⟨rfl, ?_⟩
      rintro _ ⟨⟩
      exact Text.nonBlank?_eq_none_iff.mp hleft
    | some u =>
      obtain ⟨front, back, hfront, hback, hsplit⟩ := Text.exists_append_trim isBlank t
      have hstrip : strip t = u := (Text.nonBlank?_eq_some_iff.mp hleft).1
      refine .inr ⟨front, u, back, ?_, rfl, Text.isTrimmed_of_nonBlank? hleft, hfront, hback⟩
      rw [← hstrip]
      exact congrArg some hsplit

theorem exists_append_dropEndWhile (p : Code → Bool) (t : Text) :
    ∃ back, OnlyOf p back ∧ t = Text.dropEndWhile p t ++ back :=
  ⟨t.rtakeWhile p, fun _ hc => List.mem_rtakeWhile_imp hc,
    List.rdropWhile_append_rtakeWhile.symm⟩

theorem ReadFrom.madeFrom {s : Settings} (h : ReadFrom env s) : MadeFrom env s := by
  obtain ⟨t, ⟨ht, -⟩, hany, horigins⟩ := origins_eq_ok_iff.mp h.corsOrigins
  obtain ⟨address, haddress, hurl⟩ := h.supabaseUrl
  -- The slashes at the end of the address are dropped, and nothing else.
  obtain ⟨slashes, hslashes, hsplit⟩ := exists_append_dropEndWhile (· == Code.scalar '/') address
  constructor
  · refine ⟨t, Text.splitAtChar ',' t, ht, isListOf_iff.mpr rfl, ?_⟩
    rw [← horigins, originsIn, filterMap_nonBlank?]
  · rwa [← horigins]
  · refine ⟨slashes, hslashes, ?_⟩
    rw [← hurl, ← hsplit]
    exact (required_eq_ok_iff.mp haddress).1
  · rw [← hurl]
    exact Text.endsClear_dropEndWhile _ address
  · exact h.openaiApiKey ▸ trimmedTo_trimmed env _
  · exact h.openaiBaseUrl ▸ trimmedTo_trimmed env _
  · exact h.geminiApiKey ▸ trimmedTo_trimmed env _

/-- Settings that are read from the same text of a variable agree in what it is for. -/
theorem ReadFrom.sameIn {s s' : Settings} (h : ReadFrom env s) (h' : ReadFrom env' s')
    (hv : env v = env' v) : SameIn s s' v := by
  have htrimmed : trimmed env v = trimmed env' v := by rw [trimmed, trimmed, hv]
  have htext : ∀ t, textOr env v t = textOr env' v t := fun t => by rw [textOr, textOr, hv]
  have hinteger : ∀ n, integerOr env v n = integerOr env' v n := fun n => by
    rw [integerOr, integerOr, hv]
  have hnumber : ∀ d, numberOr env v d = numberOr env' v d := fun d => by
    rw [numberOr, numberOr, hv]
  have hrequired : required env v = required env' v := by rw [required, required, hv]
  -- Each setting is what one of these gives, in both.
  cases v with
  | openaiApiKey => exact h.openaiApiKey.symm.trans (htrimmed.trans h'.openaiApiKey)
  | openaiBaseUrl => exact h.openaiBaseUrl.symm.trans (htrimmed.trans h'.openaiBaseUrl)
  | geminiApiKey => exact h.geminiApiKey.symm.trans (htrimmed.trans h'.geminiApiKey)
  | modelName => exact h.modelName.symm.trans ((htext _).trans h'.modelName)
  | geminiModel => exact h.geminiModel.symm.trans ((htext _).trans h'.geminiModel)
  | imageModel => exact h.imageModel.symm.trans ((htext _).trans h'.imageModel)
  | jwtAudience => exact h.jwtAudience.symm.trans ((htext _).trans h'.jwtAudience)
  | refineMaxTokens =>
    exact Except.ok.inj (h.refineMaxTokens.symm.trans ((hinteger _).trans h'.refineMaxTokens))
  | perRoleImageCap =>
    exact Except.ok.inj (h.perRoleImageCap.symm.trans ((hinteger _).trans h'.perRoleImageCap))
  | imageWidth =>
    exact Except.ok.inj (h.imageWidth.symm.trans ((hinteger _).trans h'.imageWidth))
  | imageHeight =>
    exact Except.ok.inj (h.imageHeight.symm.trans ((hinteger _).trans h'.imageHeight))
  | refineTemperature =>
    exact Except.ok.inj (h.refineTemperature.symm.trans ((hnumber _).trans h'.refineTemperature))
  | providerTimeout =>
    exact Except.ok.inj (h.providerTimeout.symm.trans ((hnumber _).trans h'.providerTimeout))
  | supabaseJwtSecret =>
    exact Except.ok.inj (h.supabaseJwtSecret.symm.trans (hrequired.trans h'.supabaseJwtSecret))
  | dbUri => exact Except.ok.inj (h.dbUri.symm.trans (hrequired.trans h'.dbUri))
  | supabaseUrl =>
    obtain ⟨t, ht, hurl⟩ := h.supabaseUrl
    obtain ⟨t', ht', hurl'⟩ := h'.supabaseUrl
    obtain rfl : t = t' := Except.ok.inj (ht.symm.trans (hrequired.trans ht'))
    exact hurl.symm.trans hurl'
  | maxRefineImages =>
    have hlimit : imageLimit env = imageLimit env' := by rw [imageLimit, imageLimit, htrimmed]
    exact Except.ok.inj (h.maxRefineImages.symm.trans (hlimit.trans h'.maxRefineImages))
  | corsOrigins =>
    have horigins : origins env = origins env' := by rw [origins, origins, hrequired]
    exact Except.ok.inj (h.corsOrigins.symm.trans (horigins.trans h'.corsOrigins))

/-! ## Main statements -/

theorem exists_load_iff (env : Environment) :
    (∃ s, load env = .ok s) ↔ ∀ v, Accepts (env v) v := by
  have hload := load_goesThrough env
  constructor
  · rintro ⟨s, hs⟩ v
    by_cases hv : v ∈ readingOrder
    · exact hload.of_ok s hs v hv
    · exact accepts_of_not_mem _ hv
  · intro hall
    cases hresult : load env with
    | ok s => exact ⟨s, rfl⟩
    | error e =>
      obtain ⟨-, v, -, -, -, hv, -⟩ := hload.of_error e hresult
      exact absurd (hall v) hv

/-- An environment gives settings exactly if every variable is accepted, and an error otherwise. The
settings are made from it, and what one of them is depends on its own variable only. -/
theorem loads_what_is_accepted (env : Environment) :
    ((∃ s, load env = .ok s) ↔ ∀ v, Accepts (env v) v) ∧
      ((¬∀ v, Accepts (env v) v) → ∃ e : Error, load env = .error e) ∧
      ∀ s, load env = .ok s → MadeFrom env s ∧
        ∀ env' s', load env' = .ok s' → ∀ v, env v = env' v → SameIn s s' v := by
  refine ⟨exists_load_iff env, ?_, ?_⟩
  · intro hrefused
    cases hresult : load env with
    | error e => exact ⟨e, rfl⟩
    | ok s => exact absurd ((exists_load_iff env).mp ⟨s, hresult⟩) hrefused
  · intro s hs
    have hread := readFrom_of_load hs
    refine ⟨hread.madeFrom, fun env' s' hs' v hv => ?_⟩
    exact hread.sameIn (readFrom_of_load hs') hv

/-- An environment with all that has to be given in it, and this limit of images. -/
def limitedTo (limit : Text) : Environment
  | .corsOrigins => some "https://a.example, https://b.example".codes
  | .supabaseUrl => some "https://c.example/".codes
  | .supabaseJwtSecret => some "secret".codes
  | .dbUri => some "postgres://d.example/e".codes
  | .maxRefineImages => some limit
  | _ => none

/-- Limits of five and seven are loaded, and one in words is refused. -/
theorem limits_are_loaded_unless_in_words :
    (∃ s s', load (limitedTo " 5".codes) = .ok s ∧ load (limitedTo "7".codes) = .ok s' ∧
      MadeFrom (limitedTo " 5".codes) s ∧ SameIn s s' .corsOrigins) ∧
      (¬∀ v, Accepts (limitedTo "many".codes v) v) ∧
      ∃ e : Error, load (limitedTo "many".codes) = .error e := by
  obtain ⟨s, hs⟩ : ∃ s, load (limitedTo " 5".codes) = .ok s :=
    Fallible.exists_eq_ok_of_isOk (by decide +kernel)
  obtain ⟨s', hs'⟩ : ∃ s, load (limitedTo "7".codes) = .ok s :=
    Fallible.exists_eq_ok_of_isOk (by decide +kernel)
  have hrefused : ¬∀ v, Accepts (limitedTo "many".codes v) v := by
    intro hall
    obtain h | h := hall .maxRefineImages _ rfl
    · exact absurd h (by decide)
    · exact not_isWhole (e := .malformed) (by decide +kernel) h
  obtain ⟨hmade, hsame⟩ := (loads_what_is_accepted (limitedTo " 5".codes)).2.2 s hs
  exact ⟨⟨s, s', hs, hs', hmade, hsame _ s' hs' .corsOrigins rfl⟩, hrefused,
    (loads_what_is_accepted (limitedTo "many".codes)).2.1 hrefused⟩

/-- The limit is read although its text as it stands is no numeral and not blank. -/
theorem limit_behind_a_separator_is_read :
    (∃ s, load (limitedTo "\x1c5".codes) = .ok s) ∧
      ¬∀ t ∈ limitedTo "\x1c5".codes .maxRefineImages, OnlyOf isBlank t ∨ IsWhole t := by
  constructor
  · exact Fallible.exists_eq_ok_of_isOk (by decide +kernel)
  · intro h
    obtain h | h := h _ rfl
    · exact absurd h (by decide)
    · exact not_isWhole (e := .malformed) (by decide +kernel) h

/-- What is told of an environment without settings is the first variable that is refused. The error
begins with the name of a refused variable exactly unless that is the limit of images. -/
theorem failure_names_its_cause {e : Error} (h : load env = .error e) :
    ∃ v, FirstRefused env v ∧ Told v e ∧
      ((∃ u : Variable, ¬Accepts (env u) u ∧ u.name <+: e.message) ↔ v ≠ .maxRefineImages) := by
  obtain ⟨before, v, later, horder, hbefore, hv, htold⟩ := (load_goesThrough env).of_error e h
  refine ⟨v, ⟨before, later, horder, hbefore, hv⟩, htold, ?_⟩
  obtain ⟨hne, hname⟩ | ⟨rfl, hnone⟩ := htold
  · exact iff_of_true ⟨v, hv, hname⟩ hne
  · refine iff_of_false ?_ fun hne => hne rfl
    rintro ⟨u, -, hname⟩
    exact hnone u hname

/-- The width of images is malformed in it, and there is no database. -/
def wideWithoutDatabase : Environment :=
  Function.update (Function.update (limitedTo " 5".codes) .imageWidth "wide".codes) .dbUri none

/-- The width is told, and not the database, which is read after it. -/
theorem wide_image_is_named :
    load wideWithoutDatabase = .error (.notInteger .imageWidth) ∧
      ∃ u : Variable, ¬Accepts (wideWithoutDatabase u) u ∧
        u.name <+: (Error.notInteger .imageWidth).message := by
  have hload : load wideWithoutDatabase = .error (.notInteger .imageWidth) := by decide +kernel
  obtain ⟨v, -, htold, hnamed⟩ := failure_names_its_cause hload
  refine ⟨hload, hnamed.mpr ?_⟩
  rintro rfl
  obtain ⟨hne, -⟩ | ⟨-, hnone⟩ := htold
  · exact hne rfl
  · exact hnone .imageWidth (List.prefix_append _ _)

/-- What is wrong with the limit of images is told without its name. -/
theorem limit_in_words_is_not_named :
    ∃ e, load (limitedTo "many".codes) = .error e ∧
      ¬∃ v : Variable, ¬Accepts (limitedTo "many".codes v) v ∧ v.name <+: e.message := by
  refine ⟨.imageLimit "many".codes .malformed, by decide +kernel, ?_⟩
  rintro ⟨v, -, hname⟩
  exact not_prefix_of_head (.inl rfl) v hname

end CanvasPrompt.Settings
