import CommitMessage.Address.Url

/-! Links on a page. A link may leave out what it has in common with the address of its page. -/

namespace CommitMessage

/-- The parts of a link. What is left out is empty. -/
structure Link where
  scheme : Text
  host : Text
  path : Text
  /-- What stands after a semicolon in the last segment of the path. -/
  params : Text
  query : Text
  fragment : Text
  deriving DecidableEq, Repr

namespace Link

/-- Schemes of pages that links lead to and from. -/
def hierarchical : List Text :=
  ["", "ftp", "http", "gopher", "nntp", "imap", "wais", "file", "https", "shttp", "mms",
    "prospero", "rtsp", "rtsps", "rtspu", "sftp", "svn", "svn+ssh", "ws", "wss"].map String.toList

/-- Schemes of hosts that no links lead to or from. -/
def others : List Text :=
  ["telnet", "snews", "rsync", "nfs", "git", "git+ssh"].map String.toList

def parametric : List Text :=
  ["", "ftp", "hdl", "prospero", "http", "imap", "https", "shttp", "rtsp", "rtsps", "rtspu", "sip",
    "sips", "mms", "sftp", "tel"].map String.toList

/-- Cuts the parameters off the last segment of a path. -/
def cutParams (path : Text) : Text × Text :=
  let (segment, params) := (path.afterLast '/').cutAt ';'
  (path.throughLast '/' ++ segment, params.getD [])

/-- The parts of a link that has the given scheme if it names none. -/
def ofText (scheme t : Text) : Link :=
  let (own, rest) := Address.cutScheme t
  let scheme := if own.isEmpty then scheme else own.map Char.toLower
  let (host, rest) := Address.cutHost rest
  let (rest, fragment) := rest.cutAt '#'
  let (path, query) := rest.cutAt '?'
  let (path, params) := if scheme ∈ parametric then cutParams path else (path, [])
  { scheme, host, path, params, query := query.getD [], fragment := fragment.getD [] }

/-- A mark and the text after it; nothing for an empty text. -/
def marked (mark : Char) (t : Text) : Text := if t.isEmpty then [] else mark :: t

def text (l : Link) : Text :=
  let path := l.path ++ marked ';' l.params
  let hasPlace := l.scheme ≠ [] ∧ l.scheme ∈ hierarchical ++ others
  let path :=
    if l.host ≠ [] ∨ hasPlace ∨ path.take 2 = ['/', '/'] then
      let root : Text := if path.isEmpty || path.head? = some '/' then [] else ['/']
      '/' :: '/' :: l.host ++ root ++ path
    else path
  (if l.scheme.isEmpty then [] else l.scheme ++ [':']) ++ path ++ marked '?' l.query ++
    marked '#' l.fragment

/-- The segments of a path seen from another path. Empty ones in the middle do not count. -/
def segmentsFrom (base path : Text) : List Text :=
  let before := base.pieces '/'
  let before := if before.getLast? = some [] then before else before.dropLast
  match before ++ path.pieces '/' with
  | [] => []
  | first :: rest => first :: (rest.dropLast.filter fun t => !t.isEmpty) ++ rest.getLast?.toList

/-- Goes along segments; two dots go back one segment, if there is one. -/
def walkSegments (segments : List Text) : List Text :=
  let done := segments.foldl (fun done segment =>
    if segment = "..".toList then done.drop 1
    else if segment = ".".toList then done
    else segment :: done) []
  let endsAbove := match segments.getLast? with
    | some last => last = ".".toList || last = "..".toList
    | none => false
  (if endsAbove then [] :: done else done).reverse

/-- A path seen from another path. -/
def pathFrom (base path : Text) : Text :=
  let segments := if path.head? = some '/' then path.pieces '/' else segmentsFrom base path
  match Text.joinWith ['/'] (walkSegments segments) with
  | [] => ['/']
  | path => path

/-- The text of a link seen from the address of its page. -/
def resolve (base link : Text) : Text :=
  if base.isEmpty then link
  else if link.isEmpty then base
  else
    let b := ofText [] base
    let l := ofText b.scheme link
    if l.scheme ≠ b.scheme ∨ l.scheme ∉ hierarchical then link
    else if l.host ≠ [] then l.text
    else if l.path.isEmpty && l.params.isEmpty then
      { l with host := b.host, path := b.path, params := b.params,
               query := if l.query.isEmpty then b.query else l.query }.text
    else { l with host := b.host, path := pathFrom b.path l.path }.text

end Link

namespace Url

inductive LinkProblem where
  /-- The link itself is no address. -/
  | unreadable
  /-- No address comes of the link and that of its page. -/
  | noAddress (p : Problem)
  deriving DecidableEq, Repr

def orNoAddress {α : Type} (e : Except Problem α) : Except LinkProblem α :=
  e.mapError LinkProblem.noAddress

/-- The address that a link leads to. It takes over the host and the fragment of its page if it
has none of its own. -/
def follow (page : Url) (link : Text) : Except LinkProblem Url := do
  let url ← (ofText link).mapError fun _ => LinkProblem.unreadable
  let url ← if !url.scheme.isEmpty && url.host.isEmpty then orNoAddress (url.atHost page.host)
    else pure url
  let url ← if url.isAbsolute then pure url
    else orNoAddress (ofText (Link.resolve page.text url.text))
  if page.plainFragment ≠ [] ∧ url.plainFragment = [] then
    orNoAddress (url.withFragment page.plainFragment)
  else return url

end Url

end CommitMessage
