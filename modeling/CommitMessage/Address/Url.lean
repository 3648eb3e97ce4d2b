import CommitMessage.Address.Cut
import CommitMessage.Address.HostName
import CommitMessage.Address.Numeric
import CommitMessage.Number.Written
import CommitMessage.Text.Percent
import CommitMessage.Text.Quoted

/-! Addresses of pages by their parts, in normal form: scheme and host in small letters, no port
where it is the usual one, no dot segments, and an escape for every byte that may not stand as it
is. -/

namespace CommitMessage

structure Url where
  /-- Empty if there is none, like user and host. -/
  scheme : Text := []
  user : Text := []
  host : Text := []
  port : Option Int := none
  path : Text := []
  query : Option Text := none
  fragment : Option Text := none
  deriving DecidableEq, Repr

namespace Url

inductive Problem where
  | tooLong
  /-- A control character in a part, or anywhere if the part has no name. -/
  | control (part : Text) (c : Char) (place : Nat)
  | badShortHost (host : Text)
  | badLongHost (host : Text)
  | badHostName (host : Text)
  | badPort (port : Text)
  /-- A host needs a path from the root. -/
  | rootlessPath
  /-- Without a host a path must not look like one. -/
  | hostLikePath
  /-- Without a scheme a path must not look like one. -/
  | schemeLikePath
  deriving DecidableEq, Repr

def Problem.message : Problem → Text
  | tooLong => "URL too long".toList
  | control part c place =>
    "Invalid non-printable ASCII character in URL".toList ++
      (if part.isEmpty then [] else ' ' :: part ++ " component".toList) ++ ", ".toList ++
      Text.quoted [c] ++ " at position ".toList ++ Decimal.digits place ++ ['.']
  | badShortHost host => "Invalid IPv4 address: ".toList ++ host.quoted
  | badLongHost host => "Invalid IPv6 address: ".toList ++ host.quoted
  | badHostName host => "Invalid IDNA hostname: ".toList ++ host.quoted
  | badPort port => "Invalid port: ".toList ++ port.quoted
  | rootlessPath => "For absolute URLs, path must be empty or begin with '/'".toList
  | hostLikePath => "Relative URLs cannot have a path starting with '//'".toList
  | schemeLikePath => "Relative URLs cannot have a path starting with ':'".toList

/-! Characters that stand as they are -/

def isVisible (c : Char) : Bool := '!' ≤ c && c ≤ '~'

def isFragmentChar (c : Char) : Bool := isVisible c && !"\"<>\x60".toList.contains c

def isQueryChar (c : Char) : Bool := isVisible c && !"\"#<>".toList.contains c

def isPathChar (c : Char) : Bool := isQueryChar c && !"?\x60\x7b\x7d".toList.contains c

def isUserChar (c : Char) : Bool := isPathChar c && !"/;=@[\\]^|".toList.contains c

def isHostChar (c : Char) : Bool :=
  isUnreserved c || "!$&'()*+,;=\"\x60\x7b\x7d%|\\".toList.contains c

/-! Parts as they are written -/

/-- Where a page is: a user, a host and a port. -/
structure Place where
  user : Text := []
  host : Text := []
  port : Text := []
  deriving DecidableEq, Repr

/-- The user ends at the last at sign, and a host in brackets at the last bracket. -/
def Place.ofText (t : Text) : Place :=
  let user := (t.throughLast '@').dropLast
  let rest := t.afterLast '@'
  let host := if rest.head? = some '[' && rest.contains ']' then rest.throughLast ']'
    else rest.takeWhile (· != ':')
  let port := rest.drop host.length
  { user, host, port := if port.head? = some ':' then port.drop 1 else port }

structure Parts where
  scheme : Text
  place : Place
  path : Text
  query : Option Text
  fragment : Option Text
  deriving DecidableEq, Repr

/-- A colon in front stands for an empty scheme. -/
def Parts.ofText (t : Text) : Parts :=
  let (scheme, rest) := if t.head? = some ':' then ([], t.drop 1) else Address.cutScheme t
  let (place, rest) := Address.cutHost rest
  let (rest, fragment) := rest.cutAt '#'
  let (path, query) := rest.cutAt '?'
  { scheme, place := .ofText place, path, query, fragment }

/-! Normal form -/

/-- Whether a text is so many runs of digits, with one character between any two. -/
def areDigitRuns (runs : Nat) (begun : Bool) : Text → Bool
  | [] => runs = 1 && begun
  | c :: rest =>
    (isAsciiDigit c && areDigitRuns runs true rest) ||
      (begun && 1 < runs && areDigitRuns (runs - 1) false rest)

/-- A host of four numbers has to be right; a long one has brackets; any other is a name. -/
def plainHost (host : Text) : Except Problem Text :=
  if areDigitRuns 4 false host then
    if Address.isShort host then .ok host else .error (.badShortHost host)
  else if host.head? = some '[' && host.getLast? = some ']' then
    let inner := (host.drop 1).dropLast
    if Address.isLong inner then .ok inner else .error (.badLongHost host)
  else if host.all Punycode.isBasic then
    .ok (Text.escape isHostChar (host.map Char.toLower))
  else match HostName.ofText? host with
    | some name => .ok name
    | none => .error (.badHostName host)

def usualPort? (scheme : Text) : Option Int :=
  if scheme = "http".toList ∨ scheme = "ws".toList then some 80
  else if scheme = "https".toList ∨ scheme = "wss".toList then some 443
  else if scheme = "ftp".toList then some 21
  else none

def plainPort (scheme port : Text) : Except Problem (Option Int) :=
  if port.isEmpty then .ok none
  else match Written.int? port.trim with
    | some n => .ok (if usualPort? scheme = some n then none else some n)
    | none => .error (.badPort port)

/-- Takes a segment on top of those before it, last first: a single dot is dropped, and two dots
drop the segment before them, but never the root. -/
def addSegment (done : List Text) (segment : Text) : List Text :=
  if segment = ".".toList then done
  else if segment = "..".toList then (if done = [[]] then done else done.drop 1)
  else segment :: done

/-- A path without dot segments. -/
def withoutDots (path : Text) : Text :=
  Text.joinWith ['/'] ((path.pieces '/').foldl addSegment []).reverse

def checkPath (hasScheme hasPlace : Bool) (path : Text) : Except Problem Unit :=
  if hasPlace && !path.isEmpty && path.head? != some '/' then .error .rootlessPath
  else if hasScheme || hasPlace then .ok ()
  else if path.take 2 = ['/', '/'] then .error .hostLikePath
  else if path.head? = some ':' then .error .schemeLikePath
  else .ok ()

def ofParts (p : Parts) : Except Problem Url := do
  let host ← plainHost p.place.host
  let port ← plainPort p.scheme p.place.port
  let hasScheme := !p.scheme.isEmpty
  let hasPlace := !p.place.user.isEmpty || !host.isEmpty || port.isSome
  checkPath hasScheme hasPlace p.path
  let path := if hasScheme || hasPlace then withoutDots p.path else p.path
  return {
    scheme := p.scheme.map Char.toLower
    user := p.place.user.escape isUserChar
    host, port
    path := path.escape isPathChar
    query := p.query.map (·.escape isQueryChar)
    fragment := p.fragment.map (·.escape isFragmentChar) }

def maxLength : Nat := 65536

def isControl (c : Char) : Bool := c.toNat < 32 || c.toNat = 127

/-- A control character is a problem of the named part. -/
def checkControls (part t : Text) : Except Problem Unit :=
  match t.find? isControl with
  | some c => .error (.control part c (t.takeWhile (!isControl ·)).length)
  | none => .ok ()

def ofText (t : Text) : Except Problem Url := do
  if maxLength < t.length then throw .tooLong
  checkControls [] t
  ofParts (.ofText t)

/-! Written form -/

/-- A host as it is written, with brackets around a long one. -/
def writtenHost (host : Text) : Text := if host.contains ':' then '[' :: host ++ [']'] else host

/-- User, host and port as they are written. -/
def place (u : Url) : Place :=
  { user := u.user, host := writtenHost u.host, port := (u.port.map Decimal.ofInt).getD [] }

def Place.text (p : Place) : Text :=
  (if p.user.isEmpty then [] else p.user ++ ['@']) ++ p.host ++
    (if p.port.isEmpty then [] else ':' :: p.port)

/-- A mark and the text after it, if there is one. -/
def marked (mark : Char) : Option Text → Text
  | some t => mark :: t
  | none => []

def text (u : Url) : Text :=
  let place := u.place.text
  (if u.scheme.isEmpty then [] else u.scheme ++ [':']) ++
    (if place.isEmpty then [] else '/' :: '/' :: place) ++
    u.path ++ marked '?' u.query ++ marked '#' u.fragment

/-! Changes -/

/-- An address that says where the page is without regard to another one. -/
def isAbsolute (u : Url) : Bool := !u.scheme.isEmpty && !u.host.isEmpty

def parts (u : Url) : Parts :=
  { scheme := u.scheme, place := u.place, path := u.path, query := u.query, fragment := u.fragment }

def atHost (u : Url) (host : Text) : Except Problem Url :=
  ofParts { u.parts with place := { u.place with host := writtenHost host } }

def plainFragment (u : Url) : Text := (u.fragment.getD []).unescape

def withFragment (u : Url) (fragment : Text) : Except Problem Url := do
  checkControls "fragment".toList fragment
  ofParts { u.parts with fragment := some fragment }

/-- An address for a request: one that is not absolute is a path from the root. -/
def forRequest (u : Url) : Except Problem Url :=
  if u.isAbsolute then .ok u
  else ofParts { scheme := [], place := {}, path := '/' :: u.path.dropWhile (· == '/'),
                 query := u.query, fragment := none }

end Url

end CommitMessage
