import CommitMessage.Lookup.Cache
import CommitMessage.Lookup.Response
import CommitMessage.Schedule.Limiter

/-! The desk where references are looked up. It answers from the cache when it can. Otherwise it
fetches the page of the reference, through the limiter, and all who ask for the reference in the
meantime share the one fetch. An answer that proves something goes into the cache. -/

namespace CommitMessage

inductive Desk.Stage where
  /-- Asks the limiter at its first turn. -/
  | fresh
  | inLine
  | fetching
  /-- Over, and forgotten at its next turn. -/
  | finished (outcome : Outcome)
  deriving DecidableEq, Repr

structure Desk.Fetch (κ : Type) where
  reference : Reference
  stage : Desk.Stage := .fresh
  /-- Called off: ends without a page. -/
  calledOff : Bool := false
  /-- The pass in whose course the reference was first asked for. -/
  pass : Option Text
  /-- Those who wait for the outcome, in the order of asking. -/
  callers : List κ

structure Desk (τ κ : Type) where
  hosts : Hosts
  /-- How long a page may take, in seconds. -/
  timeout : Binary64
  cache : Cache τ
  limiter : Limiter τ Reference
  fetches : List (Desk.Fetch κ) := []

namespace Desk

/-- What a desk asks for. -/
inductive Signal (τ κ : Type) where
  | fetchTurn (r : Reference)
  | limiterTurn (r : Reference)
  /-- The one who holds the slot of the limiter sleeps. -/
  | sleep (r : Reference) (delay : τ)
  | request (r : Reference) (url : Text)
  /-- The page is not wanted any more. -/
  | withdraw (r : Reference)
  | deliver (caller : κ) (outcome : Outcome)
  | forget (r : Reference)
  | note (e : LogEntry)

variable {τ κ : Type} [TimeLine τ] [DecidableLT τ] [DecidableEq κ]

def fetch? (d : Desk τ κ) (r : Reference) : Option (Fetch κ) := d.fetches.find? (·.reference = r)

def setFetch (d : Desk τ κ) (f : Fetch κ) : Desk τ κ :=
  { d with fetches := d.fetches.map fun g => if g.reference = f.reference then f else g }

/-- Ends a fetch: it is to be forgotten, and then those who wait get the outcome. -/
def finish (d : Desk τ κ) (f : Fetch κ) (outcome : Outcome) : Desk τ κ × List (Signal τ κ) :=
  (d.setFetch { f with stage := .finished outcome, callers := [] },
    .forget f.reference :: f.callers.map (.deliver · outcome))

/-- The one who asks gets an outcome at once, or waits for the fetch of the reference. -/
def ask (d : Desk τ κ) (now : τ) (caller : κ) (pass : Option Text) (r : Reference) :
    Option Outcome × Desk τ κ × List (Signal τ κ) :=
  if !r.isValid then (some (.resolved (.missing r)), d, [])
  else match d.cache.get? now r with
    | some entry =>
      (some (.resolved (.ofVerdict r entry.verdict)), d, [.note ⟨pass, .cacheHit r⟩])
    | none =>
      match d.fetch? r with
      | some f =>
        match f.stage with
        | .finished outcome => (some outcome, d, [])
        | _ => (none, d.setFetch { f with callers := f.callers ++ [caller] }, [])
      | none =>
        let f : Fetch κ := { reference := r, pass, callers := [caller] }
        (none, { d with fetches := d.fetches ++ [f] }, [.fetchTurn r])

/-- The one who asked gives up; the fetch goes on. -/
def leave (d : Desk τ κ) (caller : κ) : Desk τ κ :=
  { d with fetches := d.fetches.map fun f =>
      { f with callers := f.callers.filter fun c => c ≠ caller } }

/-- Does what the limiter asks for. -/
def limiterSignal (change : Desk τ κ × List (Signal τ κ)) (s : Limiter.Signal τ Reference) :
    Desk τ κ × List (Signal τ κ) :=
  let (d, signals) := change
  match s with
  | .turn r => (d, signals ++ [.limiterTurn r])
  | .sleep r delay => (d, signals ++ [.sleep r delay])
  | .granted r =>
    match d.fetch? r with
    | some f => (d.setFetch { f with stage := .fetching }, signals ++ [.request r (r.url d.hosts)])
    | none => (d, signals)
  | .left r =>
    match d.fetch? r with
    | some f =>
      let (d, more) := d.finish f .stopped
      (d, signals ++ more)
    | none => (d, signals)

def withLimiter (d : Desk τ κ)
    (change : Limiter τ Reference × List (Limiter.Signal τ Reference)) :
    Desk τ κ × List (Signal τ κ) :=
  change.2.foldl limiterSignal ({ d with limiter := change.1 }, [])

def fetchTurn (d : Desk τ κ) (now : τ) (r : Reference) : Desk τ κ × List (Signal τ κ) :=
  match d.fetch? r with
  | none => (d, [])
  | some f =>
    match f.stage with
    | .fresh =>
      if f.calledOff then d.finish f .stopped
      else (d.setFetch { f with stage := .inLine }).withLimiter (d.limiter.request now r)
    | .fetching => if f.calledOff then d.finish f .stopped else (d, [])
    | _ => (d, [])

def limiterTurn (d : Desk τ κ) (now : τ) (r : Reference) : Desk τ κ × List (Signal τ κ) :=
  d.withLimiter (d.limiter.turn now r)

def limiterWake (d : Desk τ κ) (r : Reference) : Desk τ κ × List (Signal τ κ) :=
  d.withLimiter (d.limiter.wake r)

/-- A page has come. It is interpreted and kept, unless it says nothing. -/
def readResponse (d : Desk τ κ) (now : τ) (f : Fetch κ) (response : Response) :
    Desk τ κ × List (Signal τ κ) :=
  let r := f.reference
  if response.isTransient then
    let (d, signals) := d.finish f (.resolved (.unverified r))
    (d, .note ⟨f.pass, .lookupTransient r (r.url d.hosts) response.status⟩ :: signals)
  else match Reference.interpret r.kind response with
    | .error problem => d.finish f (.failed ⟨"ValueError".toList, problem.message⟩)
    | .ok verdict =>
      let (notices, cache) := d.cache.put now r ⟨verdict, now⟩
      let (d, signals) := { d with cache }.finish f (.resolved (.ofVerdict r verdict))
      (d, notices.map (fun notice => .note ⟨f.pass, notice⟩) ++ signals)

/-- No page has come. -/
def readError (d : Desk τ κ) (f : Fetch κ) (error : FetchError) : Desk τ κ × List (Signal τ κ) :=
  let r := f.reference
  let (d, signals) := d.finish f (.resolved (.unverified r))
  (d, .note ⟨f.pass, .lookupFailed r (r.url d.hosts) error.message⟩ :: signals)

def reply (d : Desk τ κ) (now : τ) (r : Reference) (reply : Reply) :
    Desk τ κ × List (Signal τ κ) :=
  match d.fetch? r with
  | none => (d, [])
  | some f =>
    if f.stage ≠ .fetching then (d, [])
    else if f.calledOff then d.finish f .stopped
    else match reply with
      | .page response => d.readResponse now f response
      | .timedOut => d.readError f (.timedOut (r.url d.hosts) d.timeout)
      | .failed reason => d.readError f (.failed (r.url d.hosts) reason)
      | .crashed text => d.finish f (.failed (.plain text))

/-- Forgets a fetch that is over. -/
def forget (d : Desk τ κ) (r : Reference) : Desk τ κ × List (Signal τ κ) :=
  match d.fetch? r with
  | none => (d, [])
  | some f =>
    let d := { d with fetches := d.fetches.filter fun g => g.reference ≠ r }
    match f.stage with
    | .finished (.failed failure) => (d, [.note ⟨f.pass, .lookupRaised r failure⟩])
    | _ => (d, [])

/-- Calls off a fetch; it ends at its next turn. -/
def callOff (d : Desk τ κ) (f : Fetch κ) : Desk τ κ × List (Signal τ κ) :=
  let called := d.setFetch { f with calledOff := true }
  if f.calledOff then (d, [])
  else match f.stage with
    | .fresh => (called, [])
    | .inLine => called.withLimiter (called.limiter.cancel f.reference)
    | .fetching => (called, [.withdraw f.reference, .fetchTurn f.reference])
    | .finished _ => (d, [])

def fetchesOf (d : Desk τ κ) (kind : Reference.Kind) : List (Fetch κ) :=
  d.fetches.filter (·.reference.kind = kind)

def callOffKind (d : Desk τ κ) (kind : Reference.Kind) : Desk τ κ × List (Signal τ κ) :=
  (d.fetchesOf kind).foldl (fun change f =>
    let (d, signals) := change.1.callOff f
    (d, change.2 ++ signals)) (d, [])

/-- Whether a fetch is called off and not over yet. -/
def isStopping (f : Fetch κ) : Bool :=
  match f.stage with
  | .finished _ => false
  | _ => f.calledOff

end Desk

end CommitMessage
