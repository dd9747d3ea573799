import CanvasPrompt.Url.Host

/-!
# Persisted URLs

A persisted URL is one that an outside service can fetch: its scheme is `http` or `https`, and it
names an authority. Handles of a browser (`blob:`, `data:`), files and relative paths are none.
-/

namespace CanvasPrompt.Url

/-- The URL as it is read: without the white space around it, the control characters and spaces in
front, and the tabs and line ends anywhere. -/
def cleaned (t : Text) : Text :=
  ((Text.strip t).dropWhile fun c => c.toNat ≤ 0x20).filter fun c =>
    !(c == '\t' || c == '\r' || c == '\n')

/-- A character that may stand in a scheme. -/
def isSchemeChar (c : Code) : Bool :=
  Text.isAsciiLetter c || Text.isAsciiDigit c || c == '+' || c == '-' || c == '.'

/-- The scheme in small letters and what follows its colon. A scheme begins with a letter. -/
def splitScheme? (t : Text) : Option (Text × Text) :=
  let (scheme, rest) := t.span (· != Code.scalar ':')
  match scheme, rest with
  | c :: cs, ':' :: rest =>
    if Text.isAsciiLetter c && cs.all isSchemeChar then some (Text.lowerAscii (c :: cs), rest)
    else none
  | _, _ => none

/-- A character that ends the authority. -/
def endsAuthority (c : Code) : Bool :=
  c == '/' || c == '?' || c == '#'

/-- The authority behind two slashes, up to the path, the query or the fragment. -/
def authority? : Text → Option Text
  | '/' :: '/' :: rest => some (rest.takeWhile fun c => !endsAuthority c)
  | _ => none

/-- Whether the brackets of an authority stand well: none at all; or both kinds, with a valid
address between them, nothing but user information before and nothing but a port after. -/
def bracketsFit (authority : Text) : Bool :=
  match authority.contains '[', authority.contains ']' with
  | false, false => true
  | true, true =>
    let host := Text.afterLast '@' authority
    if host.contains '[' then
      let bracketed := Text.after '[' host
      let port := Text.after ']' bracketed
      (Text.before '[' host).isEmpty && (port.isEmpty || port.head? == some (Code.scalar ':')) &&
        isBracketedHost (Text.before ']' bracketed)
    else isBracketedHost (Text.before ':' host)
  | _, _ => false

/-- Characters whose compatibility form has one of `/ ? # @ :` in it. -/
def hiddenDelimiters : List Nat :=
  [0x2047, 0x2048, 0x2049, 0x2100, 0x2101, 0x2105, 0x2106, 0x2A74, 0xFE13, 0xFE16, 0xFE55, 0xFE56,
   0xFE5F, 0xFE6B, 0xFF03, 0xFF0F, 0xFF1A, 0xFF1F, 0xFF20]

/-- Whether an authority is well formed. -/
def isAuthority (t : Text) : Bool :=
  !t.isEmpty && bracketsFit t && !t.any fun c => hiddenDelimiters.contains c.toNat

/-- The schemes that an outside service fetches. -/
def persistedSchemes : List Text :=
  ["http".codes, "https".codes]

/-- Whether a text is a URL that an outside service can fetch. -/
def isPersisted (t : Text) : Bool :=
  match splitScheme? (cleaned t) with
  | none => false
  | some (scheme, rest) =>
    persistedSchemes.contains scheme &&
      match authority? rest with
      | none => false
      | some authority => isAuthority authority

/-- Whether there is a URL and it is one that an outside service can fetch. -/
def isPersistedOption : Option Text → Bool
  | none => false
  | some t => isPersisted t

end CanvasPrompt.Url
