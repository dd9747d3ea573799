import CanvasPrompt.Generate.Pollinations
import CanvasPrompt.Proofs.Fallible
import CanvasPrompt.Proofs.Text.Percent

/-!
# URLs of images

The URL of an image at the keyless provider is all that is kept of how the image was asked for, so
it has to tell the prompt, the seed, the size and the model apart from all others. There is a URL as
long as no number has too many digits and no surrogate stands in prompt or model
(`buildUrl_eq_ok_iff`). The main statement is `buildUrl_lossless`: prompt and pairs are read back
from the URL, and equal URLs below one base come from equal requests.
-/

namespace CanvasPrompt.Generate.Pollinations

open Fallible

/-- The query of a URL can be written: its numbers can be written out, and the model can be encoded.
-/
def IsWritable (p : Pollinations) (seed : Int) : Prop :=
  Text.IsShort p.width ∧ Text.IsShort p.height ∧ Text.IsShort seed ∧ p.model.isEncodable = true

instance (p : Pollinations) (seed : Int) : Decidable (p.IsWritable seed) :=
  inferInstanceAs (Decidable (_ ∧ _))

/-- The pairs of a query, written. -/
def writtenQuery (p : Pollinations) (seed : Int) : List (Text × Text) :=
  [("width".codes, Text.ofInt p.width), ("height".codes, Text.ofInt p.height),
    ("seed".codes, Text.ofInt seed), ("model".codes, p.model), ("nologo".codes, "true".codes)]

theorem query_eq_ok_iff {p : Pollinations} {seed : Int} {pairs : List (Text × Text)} :
    p.query seed = .ok pairs ↔ p.IsWritable seed ∧ pairs = p.writtenQuery seed := by
  simp only [query, bind_eq_ok, Web.writeInt_eq_ok_iff, Web.encodable_eq_ok_iff, pure_eq_ok,
    IsWritable]
  constructor
  · rintro ⟨_, ⟨hwidth, rfl⟩, _, ⟨hheight, rfl⟩, _, ⟨hseed, rfl⟩, _, ⟨hmodel, rfl⟩, hpairs⟩
    exact ⟨⟨hwidth, hheight, hseed, hmodel⟩, hpairs⟩
  · rintro ⟨⟨hwidth, hheight, hseed, hmodel⟩, hpairs⟩
    exact ⟨_, ⟨hwidth, rfl⟩, _, ⟨hheight, rfl⟩, _, ⟨hseed, rfl⟩, _, ⟨hmodel, rfl⟩, hpairs⟩

theorem buildUrl_eq_ok_iff {p : Pollinations} {prompt url : Text} {seed : Int} :
    p.buildUrl prompt seed = .ok url ↔
      p.IsWritable seed ∧ prompt.isEncodable = true ∧
        url = p.base ++ Code.scalar '/' :: (Percent.encode prompt ++
          Code.scalar '?' :: Percent.encodeQuery (p.writtenQuery seed)) := by
  simp only [buildUrl, bind_eq_ok, query_eq_ok_iff, Web.encodable_eq_ok_iff, pure_eq_ok,
    List.append_assoc, List.cons_append]
  constructor
  · rintro ⟨_, ⟨hwritable, rfl⟩, _, ⟨hprompt, rfl⟩, hurl⟩
    exact ⟨hwritable, hprompt, hurl⟩
  · rintro ⟨hwritable, hprompt, hurl⟩
    exact ⟨_, ⟨hwritable, rfl⟩, _, ⟨hprompt, rfl⟩, hurl⟩

/-- The pairs of a query tell the settings and the seed. -/
theorem writtenQuery_inj {p p' : Pollinations} {seed seed' : Int} :
    p'.writtenQuery seed' = p.writtenQuery seed ↔
      p'.width = p.width ∧ p'.height = p.height ∧ seed' = seed ∧ p'.model = p.model := by
  simp [writtenQuery, Text.ofInt_injective.eq_iff]

/-- What is written of the query can be read. -/
theorem decodeQuery_writtenQuery {p : Pollinations} {seed : Int} (h : p.IsWritable seed) :
    Percent.decodeQuery (Percent.encodeQuery (p.writtenQuery seed)) =
      some (p.writtenQuery seed) := by
  refine Percent.decodeQuery_encodeQuery (List.cons_ne_nil _ _) ?_
  simp only [writtenQuery, List.forall_mem_cons]
  -- The names are fixed, and the values are digits but for the model.
  exact ⟨⟨rfl, Text.isEncodable_ofInt _⟩, ⟨rfl, Text.isEncodable_ofInt _⟩,
    ⟨rfl, Text.isEncodable_ofInt _⟩, ⟨rfl, h.2.2.2⟩, ⟨rfl, rfl⟩, List.forall_mem_nil _⟩

/-- Nothing of a URL is ambiguous: the path ends at the only `?`, and both sides are read back. -/
theorem eq_of_written_eq {p p' : Pollinations} {prompt prompt' : Text} {seed seed' : Int}
    (hprompt : prompt.isEncodable = true) (hprompt' : prompt'.isEncodable = true)
    (hwritable : p.IsWritable seed) (hwritable' : p'.IsWritable seed')
    (h : Percent.encode prompt' ++ Code.scalar '?' :: Percent.encodeQuery (p'.writtenQuery seed') =
      Percent.encode prompt ++ Code.scalar '?' :: Percent.encodeQuery (p.writtenQuery seed)) :
    prompt' = prompt ∧ p'.writtenQuery seed' = p.writtenQuery seed := by
  have hclear : ∀ t, Code.scalar '?' ∉ Percent.encode t := fun t =>
    (Percent.escaped_encode t).not_mem (by decide) (by decide)
  -- Both sides are cut at their first `?`, which is the one behind the path.
  have hpath := congrArg (Text.before '?') h
  have hquery := congrArg (Text.after '?') h
  rw [Text.before_append_cons (hclear _), Text.before_append_cons (hclear _)] at hpath
  rw [Text.after_append_cons (hclear _), Text.after_append_cons (hclear _)] at hquery
  have hread := congrArg Percent.decode hpath
  have hpairs := congrArg Percent.decodeQuery hquery
  rw [Percent.decode_encode hprompt, Percent.decode_encode hprompt'] at hread
  rw [decodeQuery_writtenQuery hwritable, decodeQuery_writtenQuery hwritable'] at hpairs
  exact ⟨Option.some.inj hread, Option.some.inj hpairs⟩

/-- There is a URL for every prompt and model of characters, and for all numbers that have not too
many digits. Behind its base and a slash, it has exactly one `?`. In front of it stands the escaped
prompt, from which the prompt is read back, and behind it the query, from which width, height, seed,
model and the wish for no logo are read back, in this order. So below one base different requests
have different URLs. -/
theorem buildUrl_lossless (p : Pollinations) (prompt : Text) (seed : Int)
    (hprompt : prompt.isEncodable = true) (hwritable : p.IsWritable seed) :
    ∃ url,
      p.buildUrl prompt seed = .ok url ∧
        (∃ path query : Text,
          url = Text.dropEndWhile (· == Code.scalar '/') p.baseUrl ++
              Code.scalar '/' :: (path ++ Code.scalar '?' :: query) ∧
            (path ++ Code.scalar '?' :: query).count (Code.scalar '?') = 1 ∧
            Percent.Escaped path ∧ Percent.decode path = some prompt ∧
            Percent.decodeQuery query =
              some [("width".codes, Text.ofInt p.width), ("height".codes, Text.ofInt p.height),
                ("seed".codes, Text.ofInt seed), ("model".codes, p.model),
                ("nologo".codes, "true".codes)]) ∧
        ∀ (width height : Int) (model prompt' : Text) (seed' : Int),
          buildUrl ⟨width, height, model, p.baseUrl⟩ prompt' seed' = .ok url ↔
            prompt' = prompt ∧ width = p.width ∧ height = p.height ∧ seed' = seed ∧
              model = p.model := by
  have hescaped := Percent.escaped_encode prompt
  have hpath : Code.scalar '?' ∉ Percent.encode prompt := hescaped.not_mem (by decide) (by decide)
  have hquery : Code.scalar '?' ∉ Percent.encodeQuery (p.writtenQuery seed) :=
    Percent.not_mem_encodeQuery (by decide) (by decide) (by decide) (by decide) (by decide) _
  refine ⟨_, buildUrl_eq_ok_iff.mpr ⟨hwritable, hprompt, rfl⟩, ⟨Percent.encode prompt,
    Percent.encodeQuery (p.writtenQuery seed), rfl, ?_, hescaped, Percent.decode_encode hprompt,
    decodeQuery_writtenQuery hwritable⟩, ?_⟩
  · rw [List.count_append, List.count_cons_self, List.count_eq_zero_of_not_mem hpath,
      List.count_eq_zero_of_not_mem hquery]
  · intro width height model prompt' seed'
    -- The base is the same, so only what follows it has to be compared.
    rw [buildUrl_eq_ok_iff, base, base, List.append_cancel_left_eq, List.cons.injEq]
    constructor
    · rintro ⟨hwritable', hprompt', -, h⟩
      obtain ⟨hsame, hpairs⟩ :=
        eq_of_written_eq hprompt' hprompt hwritable' hwritable h
      obtain ⟨hwidth, hheight, hseed, hmodel⟩ := writtenQuery_inj.mp hpairs.symm
      exact ⟨hsame.symm, hwidth, hheight, hseed, hmodel⟩
    · rintro ⟨rfl, rfl, rfl, rfl, rfl⟩
      exact ⟨hwritable, hprompt, rfl, rfl⟩

/-- A prompt with delimiters in it is read back, although the size is negative. -/
theorem delimiters_in_prompt_are_kept :
    let p : Pollinations := ⟨-1, 0, "a&b=c".codes, "https://host///".codes⟩
    let prompt := "a/b?c%20".codes
    prompt.isEncodable = true ∧ p.IsWritable 7 ∧
      ∃ url path query, p.buildUrl prompt 7 = .ok url ∧
        url = "https://host/".codes ++ (path ++ Code.scalar '?' :: query) ∧
        Percent.decode path = some prompt := by
  intro p prompt
  have hprompt : prompt.isEncodable = true := by decide
  have hwritable : p.IsWritable 7 := by decide
  obtain ⟨url, hmade, ⟨path, query, hurl, -, -, hread, -⟩, -⟩ :=
    buildUrl_lossless p prompt 7 hprompt hwritable
  exact ⟨hprompt, hwritable, url, path, query, hmade, hurl, hread⟩

end CanvasPrompt.Generate.Pollinations
