import CommitMessage.Address.Link
import CommitMessage.Fetch.Content
import CommitMessage.Lookup.Response

/-! A client that fetches pages. It opens a connection when it is started or first used, follows
pages that have moved, and after it is stopped it refuses to fetch. A client that works with a
connection lent to it never opens or closes one, and leaves moved pages alone. -/

namespace CommitMessage.Fetch

inductive Sent where
  | page (status : Int) (head : Head) (body : Text.Bytes)
  /-- No page, and the kind of the failure. -/
  | nothing (failure : Text)
  deriving DecidableEq, Repr

/-- An address that was asked for, and in whose name. -/
structure Seen where
  url : Text
  agent : Text
  deriving DecidableEq, Repr

/-- Why a request ends in a way that is no failure of the network. -/
inductive Breakdown where
  | badAddress (p : Url.Problem)
  /-- The address of a page does not tell how to get there. -/
  | noScheme (url : Text)
  | badText (p : Text.CharSet.Problem)
  deriving DecidableEq, Repr

def Breakdown.message : Breakdown → Text
  | badAddress p => p.message
  | noScheme url => "unknown url type: ".toList ++ url.quoted
  | badText p => p.message

inductive Ending where
  | page (r : Response)
  | failed (failure : Text)
  | broken (b : Breakdown)
  deriving DecidableEq, Repr

structure Client where
  /-- The name that requests carry on a connection that was lent; none if it was not. -/
  lent : Option Text := none
  connected : Bool
  stopped : Bool := false
  deriving DecidableEq, Repr

namespace Client

/-- A client with a lent connection, or one without any. -/
def new (lent : Option Text) : Client := { lent, connected := lent.isSome }

def start (c : Client) : Client := { c with connected := true, stopped := false }

def stop (c : Client) : Client := { c with connected := c.lent.isSome, stopped := true }

/-- The name that requests carry. -/
def agent (c : Client) : Text := c.lent.getD "wpcommit/0.1 (+commit message linter)".toList

def timeouts : List Text :=
  ["TimeoutException", "ConnectTimeout", "ReadTimeout", "WriteTimeout", "PoolTimeout"].map
    String.toList

def failureOf (url : Text) (seconds : Binary64) (failure : Text) : FetchError :=
  if failure ∈ timeouts then .timedOut url seconds else .failed url failure

def tooManyMoves : Text := "TooManyRedirects".toList

def badPacking : Text := "DecodingError".toList

def badLink : Text := "RemoteProtocolError".toList

def movedStatuses : List Int := [301, 302, 303, 307, 308]

def maxMoves : Nat := 20

/-- The text that a page holds. -/
def endingOf (status : Int) (head : Head) (body : Text.Bytes) : Ending :=
  match textOf head body with
  | .ok text => .page ⟨status, text⟩
  | .error p => .broken (.badText p)

def tellsScheme (url : Text) : Bool :=
  let scheme := url.takeWhile fun c => c != '/' && c != ':'
  !scheme.isEmpty && (url.drop scheme.length).head? = some ':'

/-- Fetches a page, going on for as long as it has moved and moves are left. The addresses that
are asked for come with it. The link of a page that has moved has to be good even if it is not
followed. -/
def pursue (web : Text → Sent) (follows : Bool) (moves : Nat) (url : Url) :
    List Text × Ending :=
  let here := url.text
  match web here with
  | .nothing failure => ([here], .failed failure)
  | .page status head body =>
    match unpacked? head body with
    | none => ([here], .failed badPacking)
    | some body =>
      let link := if movedStatuses.contains status then head.value? "location" else none
      if !tellsScheme here then ([here], .broken (.noScheme here))
      else match link.map url.follow with
        | none => ([here], endingOf status head body)
        | some (.error .unreadable) => ([here], .failed badLink)
        | some (.error (.noAddress p)) => ([here], .broken (.badAddress p))
        | some (.ok next) =>
          if !follows then ([here], endingOf status head body)
          else match moves with
            | 0 => ([here], .failed tooManyMoves)
            | moves + 1 =>
              let (seen, ending) := pursue web follows moves next
              (here :: seen, ending)

inductive Fault where
  | fetch (e : FetchError)
  | broken (b : Breakdown)
  deriving DecidableEq, Repr

/-- Fetches a page with so many seconds to spare. -/
def get (c : Client) (web : Text → Sent) (url : Text) (seconds : Binary64) :
    List Seen × Except Fault Response × Client :=
  if c.stopped then ([], .error (.fetch (.closed url)), c)
  else
    let (seen, ending) := match (Url.ofText url).bind Url.forRequest with
      | .ok start => pursue web c.lent.isNone maxMoves start
      | .error p => ([], .broken (.badAddress p))
    let result := match ending with
      | .page r => .ok r
      | .failed failure => .error (.fetch (failureOf url seconds failure))
      | .broken b => .error (.broken b)
    (seen.map (⟨·, c.agent⟩), result, { c with connected := true })

end Client

end CommitMessage.Fetch
