import CommitMessage.CommandLine.Request
import CommitMessage.FileTree
import CommitMessage.Report
import CommitMessage.Workspace.Setup

/-! What a command does: the text it prints, what it complains of, and its exit status. -/

namespace CommitMessage.CommandLine

structure Surroundings (τ : Type) where
  env : Settings.Environment
  /-- What is in the file at a path. -/
  file : Text → Except FileProblem Text.Bytes
  input : Text.Bytes := []
  network : Text → Delivery τ
  /-- Seconds as a span of time. -/
  time : Binary64 → τ
  now : τ

/-- What puts an end to a command without an exit status. -/
inductive Breakdown where
  | settings (p : Settings.Problem)
  | overflow
  /-- A path with a character of no code. -/
  | nullInPath
  deriving DecidableEq, Repr

structure Answer (τ : Type) where
  status : Nat
  printed : Text := []
  complaints : Text := []
  /-- What went on while references were looked up. -/
  record : List (Workspace.Entry τ) := []
  /-- Entries of a lower level are not written to the log. -/
  logLevel : Level := .info
  served : Option ServeRequest := none

def exitOk : Nat := 0

def exitErrors : Nat := 1

def exitMisuse : Nat := 2

variable {τ : Type}

/-- An answer that is only a complaint. -/
def complaint (status : Nat) (t : Text) : Answer τ := { status, complaints := t ++ ['\n'] }

def inputPath : Text := ['-']

def bufferName (path : Text) : Text := if path = inputPath then "<stdin>".toList else path

inductive Unreadable where
  | file (p : FileProblem)
  | encoding (p : Text.Utf8Problem)
  deriving DecidableEq, Repr

def Unreadable.message : Unreadable → Text
  | file p => p.message
  | encoding p => "not valid UTF-8 (".toList ++ p.reason.text ++ " at byte ".toList ++
      Decimal.digits p.place ++ [')']

/-- The message at a path, with every line ended by a line feed. -/
def readMessage (s : Surroundings τ) (path : Text) : Except Unreadable Text := do
  let bytes ← if path = inputPath then .ok s.input else (s.file path).mapError .file
  let text ← (Text.ofBytes bytes).mapError .encoding
  return text.lineFeeds

def ofReport (asJson : Bool) (record : List (Workspace.Entry τ)) (r : Report) : Answer τ :=
  { status := if r.hasErrors then exitErrors else exitOk, printed := r.printed asJson, record }

/-- A path is linted only if its name is that of a message, or if it is forced. -/
def isAccepted (settings : Settings) (r : LintRequest) : Bool :=
  r.path == inputPath || r.force || (settings.enabled && isMessageFile settings.patterns r.path)

variable [TimeLine τ] [DecidableLT τ]

/-- Lints a text and waits for its annotations. -/
def lintOnline (s : Surroundings τ) (settings : Settings) (r : LintRequest) (text : Text) :
    Except Breakdown (Answer τ) :=
  match Workspace.Plan.ofSettings s.time s.network settings with
  | none => .error .overflow
  | some plan =>
    let (answer, w) := (Workspace.new plan s.now).annotateNow (bufferName r.path) text
    let w := w.dispose.settle
    .ok (ofReport r.json w.record.reverse
      { path := r.path, findings := answer.pass.findings, annotations := answer.annotations })

def lint (s : Surroundings τ) (settings : Settings) (r : LintRequest) :
    Except Breakdown (Answer τ) :=
  if !isAccepted settings r then
    .ok (complaint exitOk (r.path ++ ": not a commit message file; use --force.".toList))
  else if r.path.contains '\x00' then .error .nullInPath
  else
    match readMessage s r.path with
    | .error problem => .ok (complaint exitMisuse (r.path ++ ": ".toList ++ problem.message))
    | .ok text =>
      if r.offline then
        .ok (ofReport r.json [] { path := r.path, findings := Lint.validate text.messageLines })
      else lintOnline s settings r text

/-- Carries out a request. A variable with a bad value is complained of; an address that cannot
be split is more than the command can deal with. -/
def run (s : Surroundings τ) (request : Request) : Except Breakdown (Answer τ) :=
  match Settings.read s.env with
  | .error (.brokenAddress p) => .error (.settings (.brokenAddress p))
  | .error problem => .ok (complaint exitMisuse problem.message)
  | .ok settings =>
    match request with
    | .serve r => .ok { status := exitOk, served := some r, logLevel := settings.logLevel }
    | .lint r => (lint s settings r).map fun a => { a with logLevel := settings.logLevel }

/-- The notices of an answer that are written to the log. -/
def Answer.log (a : Answer τ) : List LogEntry :=
  a.record.filterMap fun
    | .noted e => if a.logLevel.rank ≤ e.notice.level.rank then some e else none
    | _ => none

end CommitMessage.CommandLine
