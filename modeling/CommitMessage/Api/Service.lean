import CommitMessage.Api.Routes

/-! The service that answers requests: it is started from settings, and when it is stopped, all
that is going on ends and nothing of it is left. -/

namespace CommitMessage.Api

inductive StartProblem where
  | settings (p : Settings.Problem)
  /-- What is to fetch the pages cannot do so. -/
  | noFetcher
  | overflow
  deriving DecidableEq, Repr

def StartProblem.message : StartProblem → Text
  | settings p => p.message
  | noFetcher => "Invalid fetch transport: expected fetch(url, *, timeout_seconds).".toList
  | overflow => Settings.overflowMessage

structure Service (τ : Type) where
  workspace : Option (Workspace τ) := none

namespace Service

variable {τ : Type} [TimeLine τ] [DecidableLT τ]

/-- Starts a service with a network, if there is one. -/
def start (time : Binary64 → τ) (now : τ) (network : Option (Text → Delivery τ)) (s : Settings) :
    Except StartProblem (Service τ) :=
  match network with
  | none => .error .noFetcher
  | some network =>
    match Workspace.Plan.ofSettings time network s with
    | none => .error .overflow
    | some plan => .ok ⟨some (.new plan now)⟩

def handle (s : Service τ) (r : Request) : Except Breakdown (Reply × Service τ) :=
  match Api.handle s.workspace r with
  | .ok (reply, w) => .ok (reply, ⟨w⟩)
  | .error b => .error b

def isRunning (s : Service τ) : Bool := s.workspace.isSome

def record (s : Service τ) : List (Workspace.Entry τ) :=
  (s.workspace.map fun w => w.record.reverse).getD []

/-- The same service with nothing recorded. -/
def clearRecord (s : Service τ) : Service τ :=
  ⟨s.workspace.map fun w => { w with record := [] }⟩

/-- Ends all passes and lookups; the workspace is gone then. -/
def stop (s : Service τ) : List (Workspace.Entry τ) × Service τ :=
  match s.workspace with
  | none => ([], s)
  | some w => ((w.dispose.settle).record.reverse, {})

end Service

end CommitMessage.Api
