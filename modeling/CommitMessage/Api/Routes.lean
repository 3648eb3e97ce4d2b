import CommitMessage.Api.Payload
import CommitMessage.Report
import CommitMessage.Workspace.Setup

/-! Requests by path: the state of the service, the findings of a message, and its annotations.
Only the last looks references up. -/

namespace CommitMessage.Api

structure Request where
  method : Text
  path : Text
  mediaType : Text := "application/json".toList
  body : Text := []
  deriving DecidableEq, Repr

inductive Reply where
  | ok (body : Json)
  | faults (fs : List Fault)
  | unreadable
  | notFound
  | notAllowed
  /-- The path is known without, or with, a slash at its end. -/
  | moved

namespace Reply

def status : Reply → Nat
  | ok _ => 200
  | moved => 307
  | unreadable => 400
  | notFound => 404
  | notAllowed => 405
  | faults _ => 422

def detail (t : Text) : Json := .object [("detail".toList, .string t)]

/-- The body of a reply. Of a fault, its kind and its place are told. -/
def body : Reply → Json
  | ok j => j
  | moved => .null
  | unreadable => detail "There was an error parsing the body".toList
  | notFound => detail "Not Found".toList
  | notAllowed => detail "Method Not Allowed".toList
  | faults fs => .array (fs.map fun f => .array [.string f.kind, .array f.place])

def ofRefusal : Refusal → Reply
  | .faults fs => faults fs
  | .unreadable => unreadable

end Reply

inductive Route where
  | health
  | lint
  | annotate
  deriving DecidableEq, Repr

namespace Route

def path : Route → Text
  | health => "/health".toList
  | lint => "/lint".toList
  | annotate => "/annotate".toList

def method : Route → Text
  | health => "GET".toList
  | lint | annotate => "POST".toList

def all : List Route := [health, lint, annotate]

def ofPath? (t : Text) : Option Route := all.find? (·.path = t)

end Route

/-- The service is not running, so nothing can be looked up. -/
inductive Breakdown where
  | notRunning
  deriving DecidableEq, Repr

def Breakdown.message : Breakdown → Text
  | notRunning => "Missing app runtime: app.state.runtime.".toList

/-- A path without a query or a fragment. -/
def barePath (t : Text) : Text := t.takeWhile fun c => c != '?' && c != '#'

/-- The path with a slash at its end more, or less. -/
def otherSlash (t : Text) : Text := if t.getLast? = some '/' then t.dropLast else t ++ ['/']

def reportMembers (findings : List Lint.Finding) : List (Text × Json) :=
  let report : Report := { path := [], findings }
  [("has_errors".toList, .bool report.hasErrors), ("findings".toList, report.findingsJson)]

variable {τ : Type} [TimeLine τ] [DecidableLT τ]

def healthJson (w : Workspace τ) : Json := .object
  [("status".toList, .string "ok".toList), ("enabled".toList, .bool w.enabled),
    ("cache_entries".toList, .int w.desk.cache.entries.length)]

def lintJson (message : Text) : Json :=
  .object (reportMembers (Lint.validate message.messageLines))

def annotatedJson (a : Workspace.Annotated) : Json :=
  let report : Report := { path := [], findings := [], annotations := a.annotations }
  .object (reportMembers a.pass.findings ++
    [("generation".toList, .int a.pass.generation), ("annotations".toList, report.annotationsJson)])

/-- Waits for a pass over the message of a payload. -/
def annotate (w : Workspace τ) (p : Payload) : Reply × Workspace τ :=
  let w := (w.annotate p.buffer p.message).settle
  match w.lastShown? with
  | some a => (.ok (annotatedJson a), w)
  | none => (.notFound, w)

/-- Answers on a route whose method is right. There is no workspace if the service is not
running. -/
def onRoute (w : Option (Workspace τ)) (route : Route) (r : Request) :
    Except Breakdown (Reply × Option (Workspace τ)) :=
  match route with
  | .health =>
    match w with
    | some w => .ok (.ok (healthJson w), some w)
    | none => .error .notRunning
  | _ =>
    match Payload.read r.mediaType r.body with
    | .error refusal => .ok (.ofRefusal refusal, w)
    | .ok payload =>
      match route, w with
      | .annotate, some w => let (reply, w) := annotate w payload; .ok (reply, some w)
      | .annotate, none => .error .notRunning
      | _, w => .ok (.ok (lintJson payload.message), w)

def handle (w : Option (Workspace τ)) (r : Request) :
    Except Breakdown (Reply × Option (Workspace τ)) :=
  let path := barePath r.path
  match Route.ofPath? path with
  | some route =>
    if r.method = route.method then onRoute w route r else .ok (.notAllowed, w)
  | none =>
    .ok (if (Route.ofPath? (otherSlash path)).isSome then .moved else .notFound, w)

end CommitMessage.Api
