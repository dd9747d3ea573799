import CanvasPrompt.Proofs.Text.Base64
import CanvasPrompt.Proofs.Text.Splitting
import CanvasPrompt.Proofs.Text.Trimming
import CanvasPrompt.Proofs.Vision.Fetching

/-!
# What an encoded image holds

An image is made of every response that reports success and has bytes, and of nothing else. This
module introduces

* `TellsType header m`: the media type `m` is what a content type tells, whatever text it is;
* `Encodes i ref r`: the image `i` holds the reference, the media type and the bytes of the response
  `r`, and its URL can be taken apart again.

The main statement is `encodeImage_faithful`.
-/

namespace CanvasPrompt

namespace EncodedImage

open Text (IsTrimmed OnlyOf isBlank)

/-- The media type that a content type tells: what it names, with white space around it and
parameters behind a semicolon, or `image/jpeg` if it is absent or names nothing. -/
inductive TellsType : Option Text → Text → Prop where
  | named {front m back parameters : Text} (hfront : OnlyOf isBlank front)
      (hback : OnlyOf isBlank back) (hm : IsTrimmed m) (hsemicolon : Code.scalar ';' ∉ m)
      (hparameters : ∀ c ∈ parameters.head?, c = ';') :
      TellsType (some (front ++ m ++ back ++ parameters)) m
  | absent : TellsType none "image/jpeg".codes
  | unnamed {blank parameters : Text} (hblank : OnlyOf isBlank blank)
      (hparameters : ∀ c ∈ parameters.head?, c = ';') :
      TellsType (some (blank ++ parameters)) "image/jpeg".codes

theorem tellsType_mimeTypeOf (header : Option Text) : TellsType header (mimeTypeOf header) := by
  cases header with
  | none => exact .absent
  | some t =>
    by_cases hempty : t = []
    · subst hempty
      exact .unnamed Text.onlyOf_nil nofun
    obtain ⟨parameters, hsplit, hparameters⟩ := Text.exists_eq_before_append ';' t
    have htype : mimeTypeOf (some t) =
        Text.orElse (Text.strip (Text.before ';' t)) "image/jpeg".codes := by
      rw [mimeTypeOf, Option.getD_some, Text.orElse_of_ne_nil hempty]
      rfl
    -- What stands before the semicolon is blank, or a name with white space around it.
    by_cases hblank : Text.strip (Text.before ';' t) = []
    · rw [htype, hblank, hsplit]
      exact .unnamed (Text.strip_eq_nil_iff.mp hblank) hparameters
    · obtain ⟨front, back, hfront, hback, hbefore⟩ :=
        Text.exists_append_trim isBlank (Text.before ';' t)
      have hsemicolon : Code.scalar ';' ∉ Text.strip (Text.before ';' t) := fun h =>
        Text.not_mem_before ';' t (Text.mem_of_mem_strip h)
      have hnamed := TellsType.named hfront hback
        ⟨hblank, Text.startsClear_trim _ _, Text.endsClear_trim _ _⟩ hsemicolon hparameters
      have hwhole : front ++ Text.strip (Text.before ';' t) ++ back ++ parameters = t :=
        (congrArg (· ++ parameters) hbefore.symm).trans hsplit.symm
      rw [htype, Text.orElse_of_ne_nil hblank]
      rwa [hwhole] at hnamed

/-- Whatever the content type is, the media type that it tells has no white space at its ends and no
semicolon in it. -/
theorem TellsType.isTrimmed {header : Option Text} {m : Text} (h : TellsType header m) :
    IsTrimmed m ∧ Code.scalar ';' ∉ m := by
  have hdefault : IsTrimmed "image/jpeg".codes ∧ Code.scalar ';' ∉ "image/jpeg".codes :=
    ⟨⟨by decide, by decide, by decide⟩, by decide⟩
  cases h with
  | named _ _ hm hsemicolon => exact ⟨hm, hsemicolon⟩
  | absent => exact hdefault
  | unnamed _ _ => exact hdefault

/-! ## Images -/

/-- The image is that of the response, for the reference. -/
structure Encodes (i : EncodedImage) (ref : ImageReference) (r : Web.Response) : Prop where
  /-- It belongs to the reference. -/
  reference : i.reference = ref
  /-- Its data are a text in base64, with the usual alphabet and filled up. -/
  padded : Base64.IsPadded Base64.standard i.data
  /-- The bytes of the response can be had back from the data. -/
  decode_data : Base64.decode Base64.standard i.data = some r.body
  /-- Its media type is the one that the response tells. -/
  mimeType : TellsType r.contentType i.mimeType
  /-- The media type is not empty, and clear of white space at both ends. -/
  trimmed : IsTrimmed i.mimeType
  /-- The media type ends where its URL has the first semicolon. -/
  semicolon : Code.scalar ';' ∉ i.mimeType
  /-- The URL falls into media type and data at its first semicolon. -/
  dataUrl : ∃ rest, i.dataUrl = "data:".codes ++ rest ∧ Text.before ';' rest = i.mimeType ∧
    Text.after ';' rest = "base64,".codes ++ i.data

/-- The URL of an image, taken apart at its first semicolon. -/
theorem exists_dataUrl_eq (i : EncodedImage) (h : Code.scalar ';' ∉ i.mimeType) :
    ∃ rest, i.dataUrl = "data:".codes ++ rest ∧ Text.before ';' rest = i.mimeType ∧
      Text.after ';' rest = "base64,".codes ++ i.data := by
  refine ⟨i.mimeType ++ Code.scalar ';' :: ("base64,".codes ++ i.data), ?_,
    Text.before_append_cons h _, Text.after_append_cons h _⟩
  have hmark : ";base64,".codes = Code.scalar ';' :: "base64,".codes := by decide +kernel
  calc i.dataUrl
    _ = "data:".codes ++ (i.mimeType ++ (";base64,".codes ++ i.data)) :=
      (List.append_assoc _ _ _).trans (List.append_assoc _ _ _)
    _ = "data:".codes ++ (i.mimeType ++ Code.scalar ';' :: ("base64,".codes ++ i.data)) :=
      congrArg (fun mark => "data:".codes ++ (i.mimeType ++ (mark ++ i.data))) hmark

theorem encodes_ofResponse (ref : ImageReference) (r : Web.Response) :
    Encodes (.ofResponse ref r) ref r := by
  have htells := tellsType_mimeTypeOf r.contentType
  obtain ⟨htrimmed, hsemicolon⟩ := htells.isTrimmed
  exact ⟨rfl, Base64.isPadded_encode _ _, Base64.decode_encode Base64.standard_proper _, htells,
    htrimmed, hsemicolon, exists_dataUrl_eq _ hsemicolon⟩

end EncodedImage

namespace Vision

open Run (Trace)

theorem response?_eq_some_iff {a : ImageReference × Except Web.Failure Web.Response}
    {b : ImageReference × Web.Response} :
    response? a = some b ↔ a.2 = .ok b.2 ∧ BringsImage b.2 ∧ b.1 = a.1 := by
  obtain ⟨ref, answer⟩ := a
  obtain ⟨ref', response'⟩ := b
  cases answer with
  | error failure => simp [response?]
  | ok response =>
    simp only [response?]
    split
    · grind
    · grind

/-- Fetching a reference makes one call, and an image comes of it exactly if the call is answered
with a status from 200 to 299 and a body that is not empty. The image holds that body and the media
type of the answer, and its URL tells both. -/
theorem encodeImage_faithful (client : Web.Client) (ref : ImageReference) (t : Trace) :
    let answer := client t.calls (.fetch ref.url)
    let r := (encodeImage client ref).run t
    r.2.calls = t.calls ++ [.fetch ref.url] ∧
      (r.1.isSome = true ↔ ∃ response, answer = .ok response ∧
        (200 ≤ response.status ∧ response.status ≤ 299) ∧ response.body ≠ []) ∧
      ∀ i ∈ r.1, ∃ response, answer = .ok response ∧ EncodedImage.Encodes i ref response := by
  intro answer r
  have hrun := run_encodeImage client ref t
  -- There is an image just if the answer is one that brings an image.
  have himage : r.1 = (response? (ref, answer)).map image := congrArg Prod.fst hrun
  refine ⟨congrArg (·.2.calls) hrun, ?_, ?_⟩
  · rw [himage, Option.isSome_map, Option.isSome_iff_exists]
    constructor
    · rintro ⟨a, ha⟩
      obtain ⟨hanswer, ⟨⟨hlow, hhigh⟩, hbody⟩, -⟩ := response?_eq_some_iff.mp ha
      exact ⟨a.2, hanswer, ⟨hlow, by omega⟩, hbody⟩
    · rintro ⟨response, hanswer, ⟨hlow, hhigh⟩, hbody⟩
      have hbrings : BringsImage response := ⟨⟨hlow, by omega⟩, hbody⟩
      exact ⟨(ref, response), response?_eq_some_iff.mpr ⟨hanswer, hbrings, rfl⟩⟩
  · intro i hi
    rw [himage] at hi
    obtain ⟨a, ha, rfl⟩ := Option.map_eq_some_iff.mp hi
    obtain ⟨hanswer, -, href⟩ := response?_eq_some_iff.mp ha
    change a.1 = ref at href
    refine ⟨a.2, hanswer, ?_⟩
    rw [← href]
    exact EncodedImage.encodes_ofResponse a.1 a.2

/-- Four bytes under a content type with a parameter, which leave two characters of fill. -/
theorem encodeImage_drops_parameters :
    let ref : ImageReference := ⟨"https://x/i".codes, none, none, .style⟩
    let response : Web.Response := ⟨200, some " image/png ;q=1".codes, [1, 2, 3, 250]⟩
    let image : EncodedImage := ⟨ref, "image/png".codes, "AQID+g==".codes⟩
    let r := (encodeImage (fun _ _ => .ok response) ref).run .empty
    r.1 = some image ∧ EncodedImage.Encodes image ref response := by
  intro ref response image r
  obtain ⟨-, -, hencodes⟩ :=
    encodeImage_faithful (fun _ _ => .ok response) ref .empty
  have himage : r.1 = some image := by decide +kernel
  obtain ⟨response', hanswer, h⟩ := hencodes image himage
  cases hanswer
  exact ⟨himage, h⟩

end Vision

end CanvasPrompt
