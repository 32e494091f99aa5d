import OpenApiTools.Text.Blank
import OpenApiTools.Url.Host

/-!
# URLs

Whether a text is an absolute URL by the rules that browsers follow: it starts with a scheme, and
where the scheme calls for a host, the host and the port are well formed.
-/

namespace OpenApiTools.Url

/-- How the part after the scheme is read. -/
inductive SchemeKind
  /-- The scheme of files. -/
  | file
  /-- A scheme of the web, which needs a host. -/
  | web
  /-- Any other scheme. -/
  | other
  deriving DecidableEq, Repr

namespace SchemeKind

/-- The kind of a scheme in lowercase. -/
def ofName (name : String) : SchemeKind :=
  if name = "file" then .file
  else if name ∈ ["http", "https", "ws", "wss", "ftp"] then .web
  else .other

/-- Whether the scheme is one of those that browsers know. -/
def isSpecial : SchemeKind → Bool
  | .other => false
  | .file | .web => true

/-- Whether a character is a slash, or stands for one. -/
def isSlash (kind : SchemeKind) (c : Char) : Bool :=
  c == '/' || (kind.isSpecial && c == '\\')

/-- Whether a character ends the part that names the host. -/
def endsAuthority (kind : SchemeKind) (c : Char) : Bool :=
  kind.isSlash c || c == '?' || c == '#'

end SchemeKind

/-- A text without control characters and spaces at its ends and without tabs and line breaks. -/
def clean (chars : List Char) : List Char :=
  (Text.dropAround (· ≤ ' ') chars).filter fun c => !(c == '\t' || c == '\n' || c == '\r')

/-- The scheme in lowercase and what follows its colon. -/
def scheme? (chars : List Char) : Option (String × List Char) :=
  let isSchemeChar (c : Char) : Bool := c.isAlphanum || c == '+' || c == '-' || c == '.'
  let name := chars.takeWhile isSchemeChar
  match chars.dropWhile isSchemeChar with
  | ':' :: rest =>
    if name.head?.any Char.isAlpha then some (String.ofList (name.map Char.toLower), rest)
    else none
  | _ => none

/-- Splits host and port: the host goes up to a colon outside brackets. -/
def takeHost (insideBrackets : Bool) : List Char → List Char × List Char
  | [] => ([], [])
  | c :: rest =>
    if c == ':' && !insideBrackets then
      ([], c :: rest)
    else
      let inside := if c == '[' then true else if c == ']' then false else insideBrackets
      let (host, after) := takeHost inside rest
      (c :: host, after)

/-- Whether a text is a port of at most sixteen bits; it may be empty. -/
def isPort (chars : List Char) : Bool :=
  (Text.ofDigits? 10 chars).any (· < UInt16.size)

/-- The host and port of an authority, behind the last at sign. -/
def afterUserInfo (authority : List Char) : List Char :=
  (authority.reverse.takeWhile (· != '@')).reverse

/-- Whether a text between the slashes and the path names a host. A scheme that is not of the web
may leave out the whole of it, but not the host alone. -/
def isAuthority (kind : SchemeKind) (authority : List Char) : Bool :=
  let (host, after) := takeHost false (afterUserInfo authority)
  if host.isEmpty then authority.isEmpty && !kind.isSpecial
  else isHost kind.isSpecial host && isPort after.tail

/-- Whether a text is a drive letter, which is no host. -/
def isDriveLetter (chars : List Char) : Bool :=
  match chars with
  | [letter, mark] => letter.isAlpha && (mark == ':' || mark == '|')
  | _ => false

/-- Whether a text is an absolute URL. -/
def isValid (text : String) : Bool :=
  match scheme? (clean text.toList) with
  | none => false
  | some (name, rest) =>
    let kind := SchemeKind.ofName name
    let authority (chars : List Char) := chars.takeWhile (!kind.endsAuthority ·)
    match kind, rest with
    | .web, _ => isAuthority kind (authority (rest.dropWhile kind.isSlash))
    | .other, '/' :: '/' :: after => isAuthority kind (authority after)
    | .other, _ => true
    | .file, first :: second :: after =>
      if kind.isSlash first && kind.isSlash second then
        let host := authority after
        host.isEmpty || isDriveLetter host || isHost true host
      else
        true
    | .file, _ => true

end OpenApiTools.Url
