import CanvasPrompt.Text.Basic

/-!
# Cleaning replies

A reasoning service wraps its prompt at times in quotes and opens it with a preamble, such as `Here
is the refined prompt:`. Cleaning removes white space and quotes around the reply, one preamble, and
white space and quotes again.

A preamble is an opening (`here is` or `here's`, at will with a phrase such as `your final prompt`)
or an announcement (such as `the improved prompt is`), then a colon. Letter case does not matter,
and words may have any white space between them.
-/

namespace CanvasPrompt.Refine

/-- The characters that wrap a prompt: straight and curly quotes, and the grave accent. -/
def quotes : Text :=
  ['"', '\'', Code.ofNat 0x60, '“', '”', '‘', '’']

/-- Whether a character is a quote. -/
def isQuote (c : Code) : Bool :=
  quotes.contains c

/-- Remove white space, then quotes, then white space from both ends. -/
def unwrap (t : Text) : Text :=
  Text.strip (Text.trim isQuote (Text.strip t))

/-- Whether a character is the small letter `letter` but for the case. The dotless and the dotted i
count as an i, and the long s counts as an s. -/
def isLetter (letter c : Code) : Bool :=
  c == letter || c == letter.toUpper || (letter == 'i' && (c.toNat == 0x130 || c.toNat == 0x131)) ||
    (letter == 's' && c.toNat == 0x17F)

/-- What follows a word, if the text begins with it in any letter case. -/
def dropWord? : Text → Text → Option Text
  | [], t => some t
  | _ :: _, [] => none
  | letter :: word, c :: t => if isLetter letter c then dropWord? word t else none

/-- What follows one of some words, if the text begins with one of them. -/
def dropOneOf? (ws : List Text) (t : Text) : Option Text :=
  ws.findSome? fun w => dropWord? w t

/-- What follows the white space in front, if there is some. -/
def dropGap? : Text → Option Text
  | [] => none
  | c :: t => if Text.isBlank c then some (t.dropWhile Text.isBlank) else none

/-- What follows a word and white space. -/
def dropWordAndGap? (word t : Text) : Option Text :=
  (dropWord? word t).bind dropGap?

/-- What follows one of some words and white space; the whole text if it begins with none of them.
-/
def dropAdjective (ws : List Text) (t : Text) : Text :=
  ((dropOneOf? ws t).bind dropGap?).getD t

/-- What a prompt is called in an announcement. -/
def adjectives : List Text :=
  ["refined".codes, "final".codes, "improved".codes, "enhanced".codes]

/-- The phrase that may follow an opening. -/
def dropPhrase? (t : Text) : Option Text := do
  let t ← dropGap? t
  let t ← dropOneOf? ["the".codes, "your".codes] t
  let t ← dropGap? t
  dropWord? "prompt".codes (dropAdjective (adjectives ++ ["image".codes]) t)

/-- What follows `here is` or `here's`. -/
def dropHere? (t : Text) : Option Text := do
  let t ← dropWord? "here".codes t
  match t with
  | [] => none
  | c :: rest =>
    if c == '\'' || c == '’' then dropWord? ['s'] rest
    else (dropGap? t).bind (dropWord? "is".codes)

/-- What follows an opening and its phrase. -/
def dropOpening? (t : Text) : Option Text :=
  (dropHere? t).map fun t => (dropPhrase? t).getD t

/-- What follows an announcement. -/
def dropAnnouncement? (t : Text) : Option Text := do
  let t ← dropWordAndGap? "the".codes t
  let t ← dropWordAndGap? "prompt".codes (dropAdjective adjectives t)
  dropWord? "is".codes t

/-- What follows white space, a colon and white space. -/
def dropColon? (t : Text) : Option Text :=
  match t.dropWhile Text.isBlank with
  | ':' :: rest => some (rest.dropWhile Text.isBlank)
  | _ => none

/-- What follows a preamble, if the text begins with one. -/
def dropPreamble? (t : Text) : Option Text :=
  ((dropOpening? t).orElse fun _ => dropAnnouncement? t).bind dropColon?

/-- The prompt in a reply. -/
def clean (reply : Text) : Text :=
  let t := unwrap reply
  unwrap ((dropPreamble? t).getD t)

end CanvasPrompt.Refine
