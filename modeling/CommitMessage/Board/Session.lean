import CommitMessage.Board.Basic

/-! A board whose lookups are answered from outside, in any order. Passes begin, answers come,
buffers are dropped; what the board asks for is done job by job, in the order of asking. -/

namespace CommitMessage.Board

-- A sum of whole numbers is the same one, whatever else is imported.
attribute [local instance(1100)] Zero.ofOfNat0

/-- What remains to be done for a caller that waits. -/
inductive Phase where
  /-- Calls off the groups of a sheet and waits for their end. -/
  | callOff (sheet : Nat)
  /-- Waits for the end of these groups. -/
  | ended (groups : List Nat)
  /-- Waits until the sheet has no groups. -/
  | idle (sheet : Nat)
  deriving DecidableEq, Repr

inductive Job where
  | group (id : Nat)
  | slot (group slot : Nat)
  | answer (group slot : Nat) (outcome : Outcome)
  | caller (id : Nat)
  deriving DecidableEq, Repr

inductive Entry where
  | asked (r : Reference)
  | committed (c : Commit)
  | noted (e : LogEntry)
  | returned (caller : Nat)
  deriving DecidableEq, Repr

/-- The one to whom commits are handed over. -/
inductive Sink where
  | absent
  /-- Takes every commit, and then fails at some of them. -/
  | present (failsAt : Commit → Option Failure)

structure Session where
  board : Board := {}
  sink : Sink := .present fun _ => none
  /-- Lookups that are answered at once. -/
  known : Reference → Option Outcome := fun _ => none
  /-- Lookups that wait for an answer, oldest first. -/
  lookups : List (Nat × Nat × Reference) := []
  jobs : List Job := []
  callers : Register Nat (List Phase) := []
  nextCaller : Nat := 0
  /-- The latest entry first. -/
  record : List Entry := []

inductive Event where
  | startPass (buffer : Text) (mentions : List Mention)
  /-- Answers every lookup that waits for the reference. -/
  | settle (r : Reference) (outcome : Outcome)
  /-- Answers one lookup, if it waits. -/
  | settleOne (group slot : Nat) (outcome : Outcome)
  /-- From now on these lookups are answered at once. -/
  | know (known : Reference → Option Outcome)
  /-- From now on commits are handed over here. -/
  | handTo (sink : Sink)
  | detach (buffer : Text)
  | shutdown
  /-- Waits until a buffer has no groups. -/
  | wait (buffer : Text)
  | work

namespace Session

def soon (s : Session) (job : Job) : Session := { s with jobs := s.jobs ++ [job] }

def note (s : Session) (e : Entry) : Session := { s with record := e :: s.record }

def handOver (s : Session) (pass : Option Text) (c : Commit) : Session :=
  match s.sink with
  | .absent => s
  | .present failsAt =>
    let s := s.note (.committed c)
    match failsAt c with
    | some failure => s.note (.noted ⟨pass, .commitRejected c.buffer c.line failure⟩)
    | none => s

/-- Does what the board asks for. A lookup that is answered at once is a matter of `ask`. -/
def signal (s : Session) : Signal → Session
  | .groupTurn group => s.soon (.group group)
  | .slotTurn group slot => s.soon (.slot group slot)
  | .ask group slot _ r =>
    { s with lookups := s.lookups ++ [(group, slot, r)] }.note (.asked r)
  | .withdraw group slot =>
    { s with lookups := s.lookups.filter fun l => l.1 ≠ group || l.2.1 ≠ slot }
  | .commit pass c => s.handOver pass c
  | .note e => s.note (.noted e)
  | .ended _ => s

def apply (s : Session) (change : Board × List Signal) : Session :=
  change.2.foldl signal { s with board := change.1 }

/-- The turn of a slot: it asks, and may be answered at once. -/
def slotTurn (s : Session) (group slot : Nat) : Session :=
  let (board, signals) := s.board.slotTurn group slot
  let s := { s with board }
  match signals with
  | [.ask group slot pass r] =>
    match s.known r with
    | some outcome => (s.note (.asked r)).apply (s.board.answer group slot outcome)
    | none => s.signal (.ask group slot pass r)
  | signals => signals.foldl signal s

def isOver (s : Session) : List Phase → Bool
  | .ended groups :: _ => s.board.groups.all fun g => !groups.contains g.id
  | .idle sheet :: _ => (s.board.groupsOf sheet).isEmpty
  | _ => true

/-- Goes on with what remains to be done for a caller, up to where it has to wait. -/
def proceed (s : Session) (caller : Nat) : List Phase → Session
  | [] => { s with callers := s.callers.erase caller }.note (.returned caller)
  | .callOff sheet :: rest =>
    let groups := (s.board.groupsOf sheet).map (·.id)
    let s := s.apply (s.board.callOffSheet sheet)
    if groups.isEmpty then s.proceed caller rest
    else { s with callers := s.callers.set caller (.ended groups :: rest) }
  | phase :: rest =>
    if s.isOver [phase] then s.proceed caller rest
    else { s with callers := s.callers.set caller (phase :: rest) }

def callCallers (s : Session) : Session :=
  s.callers.foldl (fun s entry =>
    if s.isOver entry.2 && !s.jobs.contains (.caller entry.1) then s.soon (.caller entry.1)
    else s) s

def perform (s : Session) : Job → Session
  | .group id => s.apply (s.board.groupTurn id)
  | .slot group slot => s.slotTurn group slot
  | .answer group slot outcome => s.apply (s.board.answer group slot outcome)
  | .caller id =>
    match s.callers.get? id with
    | some plan => s.proceed id plan
    | none => s

def work (s : Session) : Session :=
  match s.jobs with
  | [] => s
  | job :: rest => (perform { s with jobs := rest } job).callCallers

/-- The turns that a group may still have: its own, and one or two for every slot. -/
def groupWork (g : Group) : Nat := 2 + 2 * g.slots.length

/-- At least as many jobs as can be done before another answer comes. -/
def backlog (s : Session) : Nat :=
  s.jobs.length + (s.board.groups.map groupWork).sum +
    (s.callers.map fun entry => entry.2.length + 1).sum

def workFor : Nat → Session → Session
  | 0, s => s
  | fuel + 1, s => if s.jobs.isEmpty then s else workFor fuel s.work

def drain (s : Session) : Session := workFor s.backlog s

def startPass (s : Session) (buffer : Text) (mentions : List Mention) : Nat × Session :=
  let (generation, change) := s.board.startPass buffer mentions
  (generation, s.apply change)

/-- The lookups that wait for a reference. -/
def waitingFor (s : Session) (r : Reference) : List (Nat × Nat × Reference) :=
  s.lookups.filter (·.2.2 = r)

/-- Answers the chosen lookups, in the order of asking. -/
def settleWhere (s : Session) (p : Nat × Nat × Reference → Bool) (outcome : Outcome) : Session :=
  { s with
    lookups := s.lookups.filter fun l => !p l
    jobs := s.jobs ++ (s.lookups.filter p).map fun l => .answer l.1 l.2.1 outcome }

def settle (s : Session) (r : Reference) (outcome : Outcome) : Session :=
  s.settleWhere (·.2.2 = r) outcome

def settleOne (s : Session) (group slot : Nat) (outcome : Outcome) : Session :=
  s.settleWhere (fun l => l.1 = group ∧ l.2.1 = slot) outcome

/-- A new caller with something to be done. -/
def call (s : Session) (plan : List Phase) : Session :=
  let caller := s.nextCaller
  { s with nextCaller := caller + 1 }.proceed caller plan

def detach (s : Session) (buffer : Text) : Session :=
  match s.board.sheets.get? buffer with
  | some sheet => { s with board := s.board.drop buffer }.call [.callOff sheet.serial]
  | none => s.call []

def shutdown (s : Session) : Session :=
  let sheets := s.board.sheets.values
  let plan := sheets.map fun (sheet : Sheet) => Phase.callOff sheet.serial
  { s with board := { s.board with sheets := [] } }.call plan

def wait (s : Session) (buffer : Text) : Session :=
  match s.board.sheets.get? buffer with
  | some sheet => s.call [.idle sheet.serial]
  | none => s.call []

def step (s : Session) : Event → Session
  | .startPass buffer mentions => (s.startPass buffer mentions).2
  | .settle r outcome => s.settle r outcome
  | .settleOne group slot outcome => s.settleOne group slot outcome
  | .know known => { s with known }
  | .handTo sink => { s with sink }
  | .detach buffer => s.detach buffer
  | .shutdown => s.shutdown
  | .wait buffer => s.wait buffer
  | .work => s.work

def run (s : Session) (events : List Event) : Session := events.foldl step s

end Session

end CommitMessage.Board
