import CanvasPrompt.Context.Basic
import CanvasPrompt.Text.Base64
import CanvasPrompt.Web.Basic

/-!
# Encoded images

An image that has been fetched: its reference, its media type and its bytes in base64.
-/

namespace CanvasPrompt

/-- An image that has been fetched. -/
structure EncodedImage where
  /-- The reference that it was fetched for. -/
  reference : ImageReference
  /-- The media type, without parameters. -/
  mimeType : Text
  /-- The bytes in base64. -/
  data : Text
  deriving DecidableEq, Inhabited

namespace EncodedImage

/-- The media type of an image that tells none. -/
def defaultMimeType : Text := "image/jpeg".codes

/-- The media type that a header names: what stands before the first `;`, without the white space
around it. -/
def mimeTypeOf (header : Option Text) : Text :=
  let value := Text.orElse (header.getD []) defaultMimeType
  Text.orElse (Text.strip (Text.before ';' value)) defaultMimeType

/-- The image as a URL that holds its data. -/
def dataUrl (i : EncodedImage) : Text :=
  "data:".codes ++ i.mimeType ++ ";base64,".codes ++ i.data

/-- The marker that follows the image. -/
def marker (i : EncodedImage) : Text :=
  i.reference.marker

/-- The image that a response holds for a reference. -/
def ofResponse (ref : ImageReference) (r : Web.Response) : EncodedImage :=
  ⟨ref, mimeTypeOf r.contentType, Base64.encode Base64.standard r.body⟩

/-- The roles of some images, each once, in the order in which roles are presented. -/
def roles (images : List EncodedImage) : List Role :=
  Role.all.filter fun role => images.any fun i => i.reference.role == role

end EncodedImage

end CanvasPrompt
