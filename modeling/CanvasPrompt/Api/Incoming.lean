import CanvasPrompt.Text.Utf8

/-!
# Incoming requests

What reaches the server: a method, a path, headers and a body. Whether a body is JSON is told by the
headers alone.
-/

namespace CanvasPrompt.Api

/-- A request to the server. -/
structure Incoming where
  /-- The method. -/
  method : Text
  /-- The path, without a query. -/
  path : Text
  /-- The headers: their names and values in order. -/
  headers : List (Text × Text)
  /-- The body. -/
  body : Bytes
  deriving DecidableEq

/-- The media type that a header names, in small letters and without its parameters. -/
def mediaType (header : Text) : Text :=
  Text.lowerAscii (Text.strip (Text.before ';' header))

/-- Whether a media type is that of JSON, or of a format that is written in JSON. -/
def isJsonType (t : Text) : Bool :=
  match Text.splitAtChar '/' t with
  | [kind, format] =>
    kind == "application".codes &&
      (format == "json".codes || "+json".codes.isSuffixOf format)
  | _ => false

namespace Incoming

/-- The value of the first header of a name, which is given in small letters. -/
def header? (r : Incoming) (name : String) : Option Text :=
  (r.headers.find? fun h => Text.lowerAscii h.1 == name.codes).map Prod.snd

/-- Whether the headers tell that the body is JSON. -/
def bringsJson (r : Incoming) : Bool :=
  (r.header? "content-type").elim false fun header => isJsonType (mediaType header)

end Incoming

end CanvasPrompt.Api
