import CommitMessage.Board.Session
import CommitMessage.Glob
import CommitMessage.Lint.Validate
import CommitMessage.Lookup.Desk
import CommitMessage.Schedule.Debouncer

/-! A workspace of buffers with commit messages. A pass lints the text of a buffer, publishes the
findings, and has the board look up the references. Changes are noted, and a pass follows once
they pause. All that goes on shares one agenda, one desk and one network. -/

namespace CommitMessage

/-- What a pass finds at once; annotations follow later. -/
structure Pass where
  buffer : Text
  generation : Nat
  findings : List Lint.Finding
  occurrences : List Occurrence
  deriving DecidableEq, Repr

def Pass.hasErrors (p : Pass) : Bool := p.findings.any (·.isError)

namespace Workspace

/-- The one for whom a reference is looked up. -/
inductive Asker where
  | slot (group slot : Nat)
  /-- A call for one reference. -/
  | call (id : Nat)
  /-- The place of a name in a call for several. -/
  | member (id place : Nat)
  deriving DecidableEq, Repr

inductive Job where
  | timer (debouncer timer : Nat)
  | group (id : Nat)
  | slot (group slot : Nat)
  | fetch (r : Reference)
  | limiter (r : Reference)
  | reply (r : Reference) (reply : Reply)
  | forget (r : Reference)
  | answer (asker : Asker) (outcome : Outcome)
  | call (id : Nat)
  | member (id place : Nat)
  | caller (id : Nat)
  deriving DecidableEq, Repr

inductive Alarm where
  | timer (debouncer timer : Nat)
  | limiter (r : Reference)
  | reply (r : Reference) (reply : Reply)
  deriving DecidableEq, Repr

inductive CallStage where
  | fresh
  | waiting
  /-- Over; gives its result at its next turn. -/
  | ready (outcome : Outcome)
  deriving DecidableEq, Repr

inductive Wanted where
  | one (r : Reference)
  /-- Profiles by name, each with the answer that has come. -/
  | profiles (names : List (Text × Option Resolution))
  deriving DecidableEq, Repr

/-- A call for references, outside of any pass. -/
structure Call where
  tag : Text
  wanted : Wanted
  stage : CallStage := .fresh
  calledOff : Bool := false
  deriving DecidableEq, Repr

inductive CallResult where
  | resolved (r : Resolution)
  | profiles (answers : List (Text × Resolution))
  | failed (f : Failure)
  | stopped
  deriving DecidableEq, Repr

/-- What remains to be done for a caller that waits. -/
inductive Phase where
  /-- Calls off the timers of a debouncer and waits for their end. -/
  | callOffTimers (debouncer : Nat)
  | timersEnded (debouncer : Nat) (timers : List Nat)
  /-- Waits until a debouncer has no timers. -/
  | noTimers (debouncer : Nat)
  /-- Forgets text and pass of a buffer. -/
  | forget (buffer : Text)
  | forgetAll
  | drop (buffer : Text)
  | dropAll
  /-- Calls off the groups of a sheet and waits for their end. -/
  | callOffSheet (sheet : Nat)
  | groupsEnded (groups : List Nat)
  /-- Waits until a buffer has no groups. -/
  | idle (buffer : Text)
  | sheetIdle (sheet : Nat)
  /-- Calls off the fetches of a kind and waits for their end. -/
  | stopFetches (kind : Reference.Kind)
  | fetchesStopped (references : List Reference)
  /-- Shows what the board has for the buffer of a pass. -/
  | present (pass : Pass)
  deriving DecidableEq, Repr

inductive Entry (τ : Type) where
  | fetched (url : Text) (time : τ)
  | committed (c : Board.Commit)
  | published (buffer : Text) (findings : List Lint.Finding)
  | answered (tag : Text) (result : CallResult)
  | shown (caller : Nat) (pass : Pass) (annotations : List (Int × List Annotation))
  | noted (e : LogEntry)
  | returned (caller : Nat)

end Workspace

structure Workspace (τ : Type) where
  enabled : Bool := true
  patterns : List Text := standardPatterns
  pause : τ
  presenter : Board.Sink := .present fun _ => none
  network : Text → Delivery τ
  agenda : Agenda τ Workspace.Alarm Workspace.Job
  desk : Desk τ Workspace.Asker
  board : Board := {}
  texts : Register Text Text := []
  /-- The debouncer of each buffer. -/
  debouncerOf : Register Text Nat := []
  /-- Every debouncer with the buffer it was made for. -/
  debouncers : Register Nat (Text × Debouncer τ) := []
  nextDebouncer : Nat := 0
  latest : Register Text Pass := []
  calls : Register Nat Workspace.Call := []
  nextCall : Nat := 0
  callers : Register Nat (List Workspace.Phase) := []
  nextCaller : Nat := 0
  /-- The latest entry first. -/
  record : List (Workspace.Entry τ) := []

namespace Workspace

variable {τ : Type} [TimeLine τ] [DecidableLT τ]

def soon (w : Workspace τ) (job : Job) : Workspace τ := { w with agenda := w.agenda.soon job }

def later (w : Workspace τ) (delay : τ) (alarm : Alarm) : Workspace τ :=
  { w with agenda := w.agenda.later delay alarm }

def silence (w : Workspace τ) (p : Alarm → Bool) : Workspace τ :=
  { w with agenda := w.agenda.silence p }

def note (w : Workspace τ) (e : Entry τ) : Workspace τ := { w with record := e :: w.record }

/-! Lookups -/

/-- A request goes out; its reply comes at once or later. -/
def request (w : Workspace τ) (r : Reference) (url : Text) : Workspace τ :=
  let w := w.note (.fetched url w.agenda.now)
  let delivery := w.network url
  match delivery.delay with
  | some delay => w.later delay (.reply r delivery.reply)
  | none => w

/-- Does what the desk asks for, up to replies that come at once. -/
def deskSignal (w : Workspace τ) : Desk.Signal τ Asker → Workspace τ
  | .fetchTurn r => w.soon (.fetch r)
  | .limiterTurn r => w.soon (.limiter r)
  | .sleep r delay => w.later delay (.limiter r)
  | .request r url => w.request r url
  | .withdraw r => w.silence fun
    | .reply r' _ => r' = r
    | _ => false
  | .deliver asker outcome => w.soon (.answer asker outcome)
  | .forget r => w.soon (.forget r)
  | .note e => w.note (.noted e)

def applyDesk (w : Workspace τ) (change : Desk τ Asker × List (Desk.Signal τ Asker)) :
    Workspace τ :=
  change.2.foldl deskSignal { w with desk := change.1 }

/-- The reply to a request that comes at once. -/
def promptReply? (w : Workspace τ) (signals : List (Desk.Signal τ Asker)) :
    Option (Reference × Reply) :=
  signals.findSome? fun
    | .request r url =>
      let delivery := w.network url
      if delivery.delay.isNone then some (r, delivery.reply) else none
    | _ => none

/-- Like `applyDesk`, with replies that come at once. A turn of the limiter starts one request
at most. -/
def applyTurn (w : Workspace τ) (change : Desk τ Asker × List (Desk.Signal τ Asker)) :
    Workspace τ :=
  let after := w.applyDesk change
  match w.promptReply? change.2 with
  | some (r, reply) => after.applyDesk (after.desk.reply after.agenda.now r reply)
  | none => after

/-! Passes -/

/-- Hands a commit over to the presenter. -/
def handOver (w : Workspace τ) (pass : Option Text) (c : Board.Commit) : Workspace τ :=
  match w.presenter with
  | .absent => w
  | .present failsAt =>
    let w := w.note (.committed c)
    match failsAt c with
    | some failure => w.note (.noted ⟨pass, .commitRejected c.buffer c.line failure⟩)
    | none => w

/-- Does what the board asks for. Lookups are a matter of `slotTurn`. -/
def boardSignal (w : Workspace τ) : Board.Signal → Workspace τ
  | .groupTurn group => w.soon (.group group)
  | .slotTurn group slot => w.soon (.slot group slot)
  | .ask .. => w
  | .withdraw group slot => { w with desk := w.desk.leave (.slot group slot) }
  | .commit pass c => w.handOver pass c
  | .note e => w.note (.noted e)
  | .ended _ => w

def applyBoard (w : Workspace τ) (change : Board × List Board.Signal) : Workspace τ :=
  change.2.foldl boardSignal { w with board := change.1 }

/-- Lints a text, publishes the findings and starts to look up the references. -/
def runPass (w : Workspace τ) (buffer text : Text) : Pass × Workspace τ :=
  let w := { w with texts := w.texts.set buffer text }
  let lines := text.messageLines
  let findings := Lint.validate lines
  let occurrences := Occurrence.ofLines lines
  let (generation, change) := w.board.startPass buffer (occurrences.map (·.mention))
  let w := w.applyBoard change
  let w := match w.presenter with
    | .absent => w
    | .present _ => w.note (.published buffer findings)
  let w := w.note (.noted ⟨some (Board.passName buffer generation),
    .passDispatched findings.length occurrences.length⟩)
  let pass : Pass := { buffer, generation, findings, occurrences }
  (pass, { w with latest := w.latest.set buffer pass })

/-- A pass over the text that the buffer has by now, if it has one. -/
def runLatest (w : Workspace τ) (buffer : Text) : Workspace τ :=
  match w.texts.get? buffer with
  | some text => (w.runPass buffer text).2
  | none => w

def isEligible (w : Workspace τ) (path : Text) : Bool :=
  w.enabled && isMessageFile w.patterns path

/-- The first pass over a file, if the file is a message. -/
def attach (w : Workspace τ) (buffer path text : Text) : Option Pass × Workspace τ :=
  if w.isEligible path then
    let (pass, w) := w.runPass buffer text
    (some pass, w)
  else (none, w.note (.noted ⟨none, .fileIgnored path⟩))

/-! Changes -/

/-- Does what a debouncer asks for. -/
def debouncerSignal (id : Nat) (buffer : Text) (w : Workspace τ) : Debouncer.Signal τ → Workspace τ
  | .turn timer => w.soon (.timer id timer)
  | .sleep timer delay => w.later delay (.timer id timer)
  | .run timer =>
    let w := w.runLatest buffer
    match w.debouncers.get? id with
    | some (_, d) => { w with debouncers := w.debouncers.set id (buffer, (d.finish timer).1) }
    | none => w
  | .ended _ => w

def withDebouncer (w : Workspace τ) (id : Nat)
    (change : Debouncer τ → Debouncer τ × List (Debouncer.Signal τ)) : Workspace τ :=
  match w.debouncers.get? id with
  | some (buffer, d) =>
    let (d, signals) := change d
    signals.foldl (debouncerSignal id buffer)
      { w with debouncers := w.debouncers.set id (buffer, d) }
  | none => w

/-- The debouncer of a buffer, a new one if there is none. -/
def debouncerFor (w : Workspace τ) (buffer : Text) : Nat × Workspace τ :=
  match w.debouncerOf.get? buffer with
  | some id => (id, w)
  | none =>
    let id := w.nextDebouncer
    (id, { w with
      nextDebouncer := id + 1
      debouncerOf := w.debouncerOf.set buffer id
      debouncers := w.debouncers.set id (buffer, { delay := w.pause }) })

/-- Notes a changed text; a pass follows once changes pause. -/
def notify (w : Workspace τ) (buffer text : Text) : Workspace τ :=
  let w := { w with texts := w.texts.set buffer text }
  let (id, w) := w.debouncerFor buffer
  w.withDebouncer id Debouncer.trigger

def isPending (w : Workspace τ) (debouncer : Nat) : Bool :=
  (w.debouncers.get? debouncer).any (·.2.isPending)

/-- Runs the pass that waits for changes to pause, if there is one. -/
def flush (w : Workspace τ) (buffer : Text) : Bool × Workspace τ :=
  match w.debouncerOf.get? buffer with
  | some id =>
    if w.isPending id then (true, (w.withDebouncer id Debouncer.callOffCurrent).runLatest buffer)
    else (false, w)
  | none => (false, w)

/-! Calls -/

/-- The names of a call, each once, in the order of first mention. -/
def distinctNames (names : List Text) : List (Text × Option Resolution) :=
  names.eraseDups.map fun name => (name, none)

def call (w : Workspace τ) (tag : Text) (wanted : Wanted) : Workspace τ :=
  let id := w.nextCall
  { w with nextCall := id + 1, calls := w.calls.set id { tag, wanted } }.soon (.call id)

def setCall (w : Workspace τ) (id : Nat) (c : Call) : Workspace τ :=
  { w with calls := w.calls.set id c }

def endCall (w : Workspace τ) (id : Nat) (c : Call) (result : CallResult) : Workspace τ :=
  { w with calls := w.calls.erase id }.note (.answered c.tag result)

def Call.result (c : Call) (outcome : Outcome) : CallResult :=
  match outcome with
  | .stopped => .stopped
  | .failed f => .failed f
  | .resolved r =>
    match c.wanted with
    | .one _ => .resolved r
    | .profiles names => .profiles (names.filterMap fun (name, answer) => answer.map ((name, ·)))

def ask (w : Workspace τ) (asker : Asker) (pass : Option Text) (r : Reference) :
    Option Outcome × Workspace τ :=
  let (outcome, change) := w.desk.ask w.agenda.now asker pass r
  (outcome, w.applyDesk change)

/-- Names for which no answer has come. -/
def isOpen (names : List (Text × Option Resolution)) : Bool := names.any (·.2.isNone)

/-- The outcome of one of the names of a call. The first that has no answer ends the call. -/
def memberAnswer (w : Workspace τ) (id place : Nat) (outcome : Outcome) : Workspace τ :=
  match w.calls.get? id with
  | some c =>
    match c.wanted, c.stage, outcome with
    | .profiles names, .waiting, .resolved r =>
      let names := names.modify place fun entry => (entry.1, some r)
      let c := { c with wanted := .profiles names }
      if isOpen names then w.setCall id c
      else (w.setCall id { c with stage := .ready outcome }).soon (.call id)
    | .profiles _, .waiting, _ => (w.setCall id { c with stage := .ready outcome }).soon (.call id)
    | _, _, _ => w
  | none => w

/-- The turn of one of the names of a call. -/
def memberTurn (w : Workspace τ) (id place : Nat) : Workspace τ :=
  match w.calls.get? id with
  | some { wanted := .profiles names, calledOff := false, .. } =>
    match names[place]? with
    | some (name, _) =>
      let (outcome, w) := w.ask (.member id place) none ⟨.profile, name⟩
      match outcome with
      | some outcome => w.memberAnswer id place outcome
      | none => w
    | none => w
  | _ => w

def startCall (w : Workspace τ) (id : Nat) (c : Call) : Workspace τ :=
  match c.wanted with
  | .one r =>
    let (outcome, w) := w.ask (.call id) none r
    match outcome with
    | some outcome => w.endCall id c (c.result outcome)
    | none => w.setCall id { c with stage := .waiting }
  | .profiles [] => w.endCall id c (.profiles [])
  | .profiles names =>
    (List.range names.length).foldl (fun w place => w.soon (.member id place))
      (w.setCall id { c with stage := .waiting })

def callTurn (w : Workspace τ) (id : Nat) : Workspace τ :=
  match w.calls.get? id with
  | none => w
  | some c =>
    if c.calledOff then w.endCall id c .stopped
    else match c.stage with
      | .fresh => w.startCall id c
      | .waiting => w
      | .ready outcome => w.endCall id c (c.result outcome)

/-- The outcome for a call for one reference. -/
def callAnswer (w : Workspace τ) (id : Nat) (outcome : Outcome) : Workspace τ :=
  match w.calls.get? id with
  | some c => if c.calledOff then w else w.endCall id c (c.result outcome)
  | none => w

/-- Those who wait at the desk for a call. -/
def askersOf (id : Nat) : Wanted → List Asker
  | .one _ => [.call id]
  | .profiles names => (List.range names.length).map (.member id ·)

/-- Calls off the call with a tag, and says whether there is one. -/
def cancel (w : Workspace τ) (tag : Text) : Bool × Workspace τ :=
  match w.calls.find? fun entry => entry.2.tag = tag with
  | none => (false, w)
  | some (id, c) =>
    let called := w.setCall id { c with calledOff := true }
    if c.calledOff then (true, w)
    else match c.stage with
      | .waiting =>
        let desk := (askersOf id c.wanted).foldl Desk.leave called.desk
        (true, { called with desk }.soon (.call id))
      | _ => (true, called)

/-! Jobs -/

/-- The turn of a slot: it asks, and may be answered at once. -/
def slotTurn (w : Workspace τ) (group slot : Nat) : Workspace τ :=
  let (board, signals) := w.board.slotTurn group slot
  let w := { w with board }
  match signals with
  | [.ask group slot pass r] =>
    let (outcome, w) := w.ask (.slot group slot) (some pass) r
    match outcome with
    | some outcome => w.applyBoard (w.board.answer group slot outcome)
    | none => w
  | _ => w

def deliver (w : Workspace τ) (asker : Asker) (outcome : Outcome) : Workspace τ :=
  match asker with
  | .slot group slot => w.applyBoard (w.board.answer group slot outcome)
  | .call id => w.callAnswer id outcome
  | .member id place => w.memberAnswer id place outcome

def timersOf (w : Workspace τ) (debouncer : Nat) : List Debouncer.Timer :=
  ((w.debouncers.get? debouncer).map (·.2.timers)).getD []

def isOver (w : Workspace τ) : Phase → Bool
  | .timersEnded debouncer timers =>
    (w.timersOf debouncer).all fun t => !timers.contains t.id
  | .noTimers debouncer => (w.timersOf debouncer).isEmpty
  | .groupsEnded groups => w.board.groups.all fun g => !groups.contains g.id
  | .sheetIdle sheet => (w.board.groupsOf sheet).isEmpty
  | .fetchesStopped references =>
    w.desk.fetches.all fun f => !(Desk.isStopping f && references.contains f.reference)
  | _ => true

/-- Takes fetches of a kind back from limiter and network. -/
def stopFetches (w : Workspace τ) (kind : Reference.Kind) : Workspace τ :=
  let w := w.applyDesk (w.desk.callOffKind kind)
  w.silence fun
    | .limiter r => (w.desk.fetch? r).any Desk.isStopping
    | _ => false

/-- Starts a phase: the changed workspace, and the phases that take its place. -/
def enter (w : Workspace τ) (caller : Nat) : Phase → Workspace τ × List Phase
  | .callOffTimers debouncer =>
    let timers := (w.timersOf debouncer).map (·.id)
    (w.withDebouncer debouncer Debouncer.callOffAll, [.timersEnded debouncer timers])
  | .forget buffer =>
    ({ w with texts := w.texts.erase buffer, latest := w.latest.erase buffer }, [])
  | .forgetAll => ({ w with texts := [], latest := [] }, [])
  | .drop buffer =>
    match w.board.sheets.get? buffer with
    | some sheet => ({ w with board := w.board.drop buffer }, [.callOffSheet sheet.serial])
    | none => (w, [])
  | .dropAll =>
    ({ w with board := { w.board with sheets := [] } },
      w.board.sheets.map fun entry => .callOffSheet entry.2.serial)
  | .callOffSheet sheet =>
    let groups := (w.board.groupsOf sheet).map (·.id)
    (w.applyBoard (w.board.callOffSheet sheet), [.groupsEnded groups])
  | .idle buffer =>
    match w.board.sheets.get? buffer with
    | some sheet => (w, [.sheetIdle sheet.serial])
    | none => (w, [])
  | .stopFetches kind =>
    let references := (w.desk.fetchesOf kind).map (·.reference)
    (w.stopFetches kind, [.fetchesStopped references])
  | .present pass => (w.note (.shown caller pass (w.board.annotations pass.buffer)), [])
  | _ => (w, [])

/-- Goes on with what remains to be done for a caller, up to where it has to wait. -/
def proceed (caller : Nat) : Nat → List Phase → Workspace τ → Workspace τ
  | _, [], w => { w with callers := w.callers.erase caller }.note (.returned caller)
  | 0, plan, w => { w with callers := w.callers.set caller plan }
  | fuel + 1, phase :: rest, w =>
    if w.isOver phase then
      let (w, phases) := w.enter caller phase
      proceed caller fuel (phases ++ rest) w
    else { w with callers := w.callers.set caller (phase :: rest) }

/-- At least as many phases as a plan can have: each is entered once and replaced by one more at
most, but for the one that drops all sheets. -/
def planLength (w : Workspace τ) (plan : List Phase) : Nat :=
  4 * (plan.length + w.board.sheets.length) + 1

def resume (w : Workspace τ) (caller : Nat) (plan : List Phase) : Workspace τ :=
  proceed caller (w.planLength plan) plan w

/-- A new caller with something to be done. -/
def start (w : Workspace τ) (plan : List Phase) : Workspace τ :=
  let caller := w.nextCaller
  { w with nextCaller := caller + 1 }.resume caller plan

def callCallers (w : Workspace τ) : Workspace τ :=
  w.callers.foldl (fun w entry =>
    if entry.2.head?.all w.isOver && !w.agenda.jobs.contains (.caller entry.1) then
      w.soon (.caller entry.1)
    else w) w

def perform (w : Workspace τ) : Job → Workspace τ
  | .timer debouncer timer => w.withDebouncer debouncer (·.turn timer)
  | .group id => w.applyBoard (w.board.groupTurn id)
  | .slot group slot => w.slotTurn group slot
  | .fetch r => w.applyTurn (w.desk.fetchTurn w.agenda.now r)
  | .limiter r => w.applyTurn (w.desk.limiterTurn w.agenda.now r)
  | .reply r reply => w.applyDesk (w.desk.reply w.agenda.now r reply)
  | .forget r => w.applyDesk (w.desk.forget r)
  | .answer asker outcome => w.deliver asker outcome
  | .call id => w.callTurn id
  | .member id place => w.memberTurn id place
  | .caller id =>
    match w.callers.get? id with
    | some plan => w.resume id plan
    | none => w

def work (w : Workspace τ) : Workspace τ :=
  match w.agenda.nextJob? with
  | some (job, agenda) => (perform { w with agenda } job).callCallers
  | none => w

end Workspace

end CommitMessage
