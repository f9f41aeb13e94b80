import MotionScript.Url.Domain.Basic
import MotionScript.Url.Percent

/-!
# Hosts

* `UrlError`: why a text is no URL.
* `Host`: a domain, an address of version 4 or one of version 6.
* `Host.ofText?`: the host of a special URL. A host whose last label is a number is an address.
* `Host.opaque?`: the host of any other URL.
-/

namespace MotionScript.Url

/-- Why a text is no URL. -/
inductive UrlError where
  | emptyHost
  | invalidPort
  | invalidIpv4
  | invalidIpv6
  | invalidCharacter
  | invalidDomain
  /-- There is no scheme. -/
  | noBase
  /-- The URL has no path to which another can be relative. -/
  | opaqueBase
  deriving DecidableEq

/-- The wording of an error. -/
def UrlError.message : UrlError → String
  | emptyHost => "empty host"
  | invalidPort => "invalid port number"
  | invalidIpv4 => "invalid IPv4 address"
  | invalidIpv6 => "invalid IPv6 address"
  | invalidCharacter => "invalid domain character"
  | invalidDomain => "invalid international domain name"
  | noBase => "relative URL without a base"
  | opaqueBase => "relative URL with a cannot-be-a-base base"

/-- A host. -/
inductive Host where
  | domain (name : List Char)
  | ipv4 (address : Nat)
  /-- The eight groups of an address of version 6. -/
  | ipv6 (groups : List Nat)
  deriving DecidableEq

/-! ## Version 4 -/

/-- The value of digits in a base, at most `max`. -/
def baseValue? (base max : Nat) (ds : List Char) : Option Nat :=
  ds.foldlM (fun n c => do
    let d ← hexValue? c
    let n := base * n + d
    if d < base ∧ n ≤ max then some n else none) 0

/-- Whether all characters are digits in a base. -/
def areDigits (base : Nat) (ds : List Char) : Bool :=
  ds.all fun c => match hexValue? c with
    | some d => d < base
    | none => false

/-- The digits of a part of an address and their base. -/
def numberParts : List Char → Nat × List Char
  | '0' :: 'x' :: ds | '0' :: 'X' :: ds => (16, ds)
  | '0' :: c :: ds => (8, c :: ds)
  | ds => (10, ds)

/-- Whether a part of an address is a number. -/
def isNumber (s : List Char) : Bool :=
  !s.isEmpty && areDigits (numberParts s).1 (numberParts s).2

/-- The value of a part of an address. -/
def partValue? (s : List Char) : Option Nat :=
  if isNumber s then baseValue? (numberParts s).1 4294967295 (numberParts s).2 else none

/-- The labels of a domain, without an empty one at the end. -/
def labels (s : List Char) : List (List Char) :=
  let ls := splitOn '.' s
  if 1 < ls.length ∧ ls.getLast? = some [] then ls.dropLast else ls

/-- Whether a domain ends in a number. -/
def endsInNumber (s : List Char) : Bool :=
  match (labels s).getLast? with
  | some l => (!l.isEmpty && l.all Char.isDigit) || isNumber l
  | none => false

/-- The address of the values of its parts: all but the last are single bytes, and the last fills
the remaining ones. -/
def combine? (ns : List Nat) : Option Nat :=
  match ns.reverse with
  | [] => none
  | last :: front =>
    if front.length ≤ 3 ∧ front.all (· ≤ 255) ∧ last < Nat.pow 256 (4 - front.length) then
      some (front.reverse.zipIdx.foldl (fun a (n, i) => a + n * Nat.pow 256 (3 - i)) last)
    else none

/-- An address of version 4. -/
def ipv4? (s : List Char) : Except UrlError Host :=
  match ((labels s).mapM partValue?).bind combine? with
  | some a => .ok (.ipv4 a)
  | none => .error .invalidIpv4

/-! ## Version 6 -/

/-- A group of an address of version 6: one to four hexadecimal digits. -/
def group? (s : List Char) : Option Nat :=
  if s.isEmpty ∨ 4 < s.length then none else baseValue? 16 65535 s

/-- A byte in decimal, without leading zeros. -/
def byte? (s : List Char) : Option Nat :=
  if s.isEmpty ∨ (1 < s.length ∧ s.head? = some '0') ∨ !s.all Char.isDigit then none
  else baseValue? 10 255 s

/-- The two groups of four bytes. -/
def byteGroups? (s : List Char) : Option (List Nat) :=
  match (splitOn '.' s).mapM byte? with
  | some [a, b, c, d] => some [256 * a + b, 256 * c + d]
  | _ => none

/-- The groups of one side of an address; the last may be given as four bytes. -/
def sideGroups? (allowBytes : Bool) (s : List Char) : Option (List Nat) :=
  if s.isEmpty then some []
  else
    let parts := splitOn ':' s
    match parts.getLast? with
    | some l =>
      if allowBytes && l.contains '.' then do
        return (← parts.dropLast.mapM group?) ++ (← byteGroups? l)
      else parts.mapM group?
    | none => none

/-- A text up to its first double colon, and what follows it. -/
def splitDouble (done : List Char) : List Char → Option (List Char × List Char)
  | ':' :: ':' :: s => some (done.reverse, s)
  | c :: s => splitDouble (c :: done) s
  | [] => none

/-- An address of version 6. -/
def ipv6? (s : List Char) : Except UrlError Host :=
  let groups := match splitDouble [] s with
    | some (front, back) => do
      let a ← sideGroups? false front
      let b ← sideGroups? true back
      if a.length + b.length ≤ 7 then
        some (a ++ List.replicate (8 - a.length - b.length) 0 ++ b)
      else none
    | none => do
      let a ← sideGroups? true s
      if a.length = 8 then some a else none
  match groups with
  | some gs => .ok (.ipv6 gs)
  | none => .error .invalidIpv6

/-- The start and the length of the longest run of zeros, the first of several. -/
def longestZeros (gs : List Nat) : Nat × Nat :=
  (List.range gs.length).foldl (fun best i =>
    let n := ((gs.drop i).takeWhile (· = 0)).length
    if best.2 < n then (i, n) else best) (0, 0)

/-- Groups separated by colons. -/
def groupsText (gs : List Nat) : String :=
  ":".intercalate (gs.map fun g => String.ofList (Nat.toDigits 16 g))

/-- The text of an address of version 6. A run of at least two zeros is left out. -/
def ipv6Text (gs : List Nat) : String :=
  let (i, n) := longestZeros gs
  if n < 2 then groupsText gs
  else groupsText (gs.take i) ++ "::" ++ groupsText (gs.drop (i + n))

/-! ## Hosts -/

namespace Host

/-- What stands between square brackets. -/
def bracketed? (s : List Char) : Option (Except UrlError Host) :=
  match s with
  | '[' :: r =>
    some (if r.getLast? = some ']' then ipv6? r.dropLast else .error .invalidIpv6)
  | _ => none

/-- The host of a special URL. -/
def ofText? (s : List Char) : Except UrlError Host :=
  match bracketed? s with
  | some r => r
  | none =>
    match (percentDecode? s).bind domainAscii? with
    | none => .error .invalidDomain
    | some d =>
      if d.isEmpty then .error .emptyHost
      else if endsInNumber d then ipv4? d
      else .ok (.domain d)

/-- A character that no opaque host may have. -/
def isForbiddenOpaque (c : Char) : Bool :=
  ['\x00', '\t', '\n', '\r', ' ', '#', '/', ':', '<', '>', '?', '@', '[', '\\', ']', '^',
    '|'].contains c

/-- The host of a URL that is not special. -/
def opaque? (s : List Char) : Except UrlError Host :=
  match bracketed? s with
  | some r => r
  | none =>
    if s.any isForbiddenOpaque then .error .invalidCharacter
    else .ok (.domain (percentEncode (fun _ => false) s))

/-- The text of a host. -/
def text : Host → String
  | domain d => String.ofList d
  | ipv4 a => ".".intercalate ([3, 2, 1, 0].map fun k => toString (a / Nat.pow 256 k % 256))
  | ipv6 gs => "[" ++ ipv6Text gs ++ "]"

end Host

end MotionScript.Url
