import MotionScript.Text.Integer
import MotionScript.Url.Host
import MotionScript.Url.Path

/-!
# URLs

* `Url`: the parts of a URL that a request to a relative path keeps. A URL whose path does not begin
  with a slash is opaque: no other can be relative to it.
* `Url.parse`: the URL of a text. Query and fragment are read over.
* `Url.join`: the URL of a relative path of plain segments.
* `Url.text`, `Url.origin`: the URL as text, and its scheme, host and port.
-/

namespace MotionScript

/-- A URL without query and fragment. -/
structure Url where
  scheme : List Char
  /-- User name and password, encoded, with the sign that ends them. -/
  user : List Char
  host : Option Url.Host
  port : Option Nat
  /-- The segments of the path; `none` for an opaque path. -/
  path : Option (List (List Char))

namespace Url

/-- The schemes whose URLs have a host and a path, with their standard ports. -/
def hostSchemes : List (String × Nat) :=
  [("http", 80), ("https", 443), ("ws", 80), ("wss", 443), ("ftp", 21)]

/-- The standard port of a scheme. -/
def standardPort? (scheme : List Char) : Option Nat := hostSchemes.lookup (String.ofList scheme)

/-- Whether a scheme has a host in every URL. -/
def needsHost (scheme : List Char) : Bool := (standardPort? scheme).isSome

/-- The scheme of files. -/
def fileScheme : List Char := ['f', 'i', 'l', 'e']

/-- Whether a scheme is special: a backslash counts as a slash. -/
def isSpecial (scheme : List Char) : Bool := needsHost scheme || scheme == fileScheme

/-- A text without the control characters and blanks at its ends and the tabs and line breaks in
it. -/
def clean (s : List Char) : List Char :=
  let outer (c : Char) : Bool := c.toNat ≤ 0x20
  let s := ((s.dropWhile outer).reverse.dropWhile outer).reverse
  s.filter fun c => c ≠ '\t' ∧ c ≠ '\n' ∧ c ≠ '\r'

/-- A character of a scheme. -/
def isSchemeChar (c : Char) : Bool := c.isAlphanum || c = '+' || c = '-' || c = '.'

/-- The scheme of a text in small letters, and what follows its colon. -/
def scheme? (s : List Char) : Option (List Char × List Char) :=
  let name := s.takeWhile isSchemeChar
  match name, s.dropWhile isSchemeChar with
  | c :: _, ':' :: rest => if c.isAlpha then some (name.map Char.toLower, rest) else none
  | _, _ => none

/-! ## Hosts -/

/-- Where the part of a URL with user, host and port ends. -/
def endsAuthority (special : Bool) (c : Char) : Bool := isSlash special c || endsPath c

/-- The user of a URL: name, colon and password, both encoded. An empty password has no colon. -/
def userText (s : List Char) : List Char :=
  let name := s.takeWhile (· ≠ ':')
  let password := s.drop (name.length + 1)
  let text := percentEncode inUserSet name ++
    (if password.isEmpty then [] else ':' :: percentEncode inUserSet password)
  if text.isEmpty then [] else text ++ ['@']

/-- The text up to the last `@` before the path, if there is one, and what follows it. -/
def splitUser (special : Bool) (s : List Char) : Option (List Char) × List Char :=
  let authority := s.takeWhile fun c => !endsAuthority special c
  if authority.contains '@' then
    let host := (authority.reverse.takeWhile (· ≠ '@')).reverse
    let user := authority.take (authority.length - host.length - 1)
    (some user, s.drop (user.length + 1))
  else (none, s)

/-- The text of a host and what follows it. A colon between brackets belongs to the host. -/
def splitHost (special bracketed : Bool) (done : List Char) :
    List Char → List Char × List Char
  | [] => (done.reverse, [])
  | c :: s =>
    if endsAuthority special c || (c = ':' && !bracketed) then (done.reverse, c :: s)
    else
      splitHost special (if c = '[' then true else if c = ']' then false else bracketed)
        (c :: done) s

/-- The port after a host, with its colon, and what follows it; the standard port counts as none. A
backslash ends a port in any URL. -/
def readPort (standard : Option Nat) (s : List Char) :
    Except UrlError (Option Nat × List Char) :=
  match s with
  | ':' :: s =>
    let digits := s.takeWhile fun c => !endsAuthority true c
    let rest := s.dropWhile fun c => !endsAuthority true c
    if digits.isEmpty then .ok (none, rest)
    else
      match readDigits 65535 digits with
      | some p => .ok (if some p = standard then none else some p, rest)
      | none => .error .invalidPort
  | s => .ok (none, s)

/-- The URL of a scheme and what follows its slashes. -/
def withHost (scheme s : List Char) : Except UrlError Url := do
  let special := isSpecial scheme
  let (user?, address) := splitUser special s
  let (hostText, rest) := splitHost special false [] address
  let user := userText (user?.getD [])
  if hostText.isEmpty ∧ (needsHost scheme ∨ user? = some [] ∨ rest.head? = some ':') then
    .error .emptyHost
  let host ← if special then Host.ofText? hostText else Host.opaque? hostText
  let (port, rest) ← readPort (standardPort? scheme) rest
  if hostText.isEmpty ∧ !user.isEmpty then .error .emptyHost
  return ⟨scheme, user, some host, port, some (pathAfterHost special rest)⟩

/-! ## Files -/

/-- The URL of a file on a host, from the path after its first slash. A drive is on no host. -/
def onHost (host : Host) (s : List Char) : Url :=
  let (path, onDrive) := fileSegments s
  ⟨fileScheme, [], some (if onDrive then .domain [] else host), none, some path⟩

/-- The URL of a file, from what follows the colon. The local host is left out, and a drive may
stand where the host does. -/
def fileUrl (s : List Char) : Except UrlError Url :=
  match s with
  | a :: b :: r =>
    if isSlash true a && isSlash true b then do
      let hostText := r.takeWhile fun c => !endsAuthority true c
      let rest := dropSlash true (r.dropWhile fun c => !endsAuthority true c)
      if isDrive hostText then return onHost (.domain []) r
      if hostText.isEmpty then return onHost (.domain []) rest
      let host ← Host.ofText? hostText
      return onHost (if host = .domain "localhost".toList then .domain [] else host) rest
    else .ok (onHost (.domain []) (dropSlash true s))
  | s => .ok (onHost (.domain []) (dropSlash true s))

/-- The URL of a text. -/
def parse (s : List Char) : Except UrlError Url :=
  match scheme? (clean s) with
  | none => .error .noBase
  | some (scheme, rest) =>
    if scheme = fileScheme then fileUrl rest
    else if needsHost scheme then withHost scheme (rest.dropWhile (isSlash true))
    else
      match rest with
      | '/' :: '/' :: s => withHost scheme s
      | '/' :: s => .ok ⟨scheme, [], none, none, some (segments false s)⟩
      | _ => .ok ⟨scheme, [], none, none, none⟩

/-! ## Parts and text -/

/-- Some segments with others in the place of the last one. A drive of a file keeps its place: on
the first level the others follow it, and on a lower one they are written right behind it. -/
def append (scheme : List Char) (path relative : List (List Char)) : List (List Char) :=
  match path.getLast?.filter fun s => scheme = fileScheme && isWrittenDrive s with
  | none => path.dropLast ++ relative
  | some drive =>
    if path.length = 1 then path ++ relative
    else path.dropLast ++ (drive ++ relative.headD []) :: relative.tail

/-- The URL of a relative path, given by its segments. -/
def join (u : Url) (relative : List (List Char)) : Except UrlError Url :=
  match u.path with
  | some path => .ok { u with path := some (append u.scheme path relative) }
  | none => .error .opaqueBase

/-- The port as text, with its colon. -/
def portText (u : Url) : String :=
  match u.port with
  | some p => ":" ++ toString p
  | none => ""

/-- The path as text. -/
def pathText (u : Url) : String :=
  String.join ((u.path.getD []).map fun s => "/" ++ String.ofList s)

/-- The text between the scheme and the path. Without a host, a path that begins with two slashes is
kept apart from one by a dot. -/
def authorityText (u : Url) : String :=
  match u.host, u.path with
  | some h, _ => "//" ++ String.ofList u.user ++ h.text ++ u.portText
  | none, some ([] :: _ :: _) => "/."
  | none, _ => ""

/-- A URL as text. -/
def text (u : Url) : String := String.ofList u.scheme ++ ":" ++ u.authorityText ++ u.pathText

/-- The scheme, the host and the port of a URL as text. Only a scheme with hosts has an origin. -/
def origin (u : Url) : String :=
  match u.host with
  | some h =>
    if needsHost u.scheme then String.ofList u.scheme ++ "://" ++ h.text ++ u.portText else "null"
  | none => "null"

end Url

end MotionScript
