import CommitMessage.Schedule.Debouncer
import CommitMessage.Notice
import CommitMessage.Register

/-! A debouncer in the course of time, with a callback that may take a while and may fail. Besides
the timers there are callers: those that flush run the callback themselves, the others wait. -/

namespace CommitMessage.Debouncer

inductive Runner where
  | timer (id : Nat)
  | caller (id : Nat)
  deriving DecidableEq, Repr

inductive Waiting where
  /-- For the callback that it runs. -/
  | callback
  /-- Until no timer is left. -/
  | allTimers
  /-- For the end of these timers. -/
  | timers (ids : List Nat)
  deriving DecidableEq, Repr

inductive Job where
  | timer (id : Nat)
  /-- The callback of a runner goes on after its sleep. -/
  | resume (runner : Runner)
  | caller (id : Nat)
  deriving DecidableEq, Repr

inductive Alarm where
  | timer (id : Nat)
  | callback (runner : Runner)
  deriving DecidableEq, Repr

inductive Entry (τ : Type) where
  | started (run : Nat) (time : τ)
  | ended (run : Nat) (time : τ)
  | failed (run : Nat)
  | returned (caller : Nat) (answer : Option Bool)
  deriving DecidableEq, Repr

structure Session (τ : Type) where
  debouncer : Debouncer τ
  agenda : Agenda τ Alarm Job
  /-- How long the callback takes; none if it ends at once. -/
  takes : Option τ := none
  /-- How long the run of this number takes; as a rule all take the same. -/
  lasts : Nat → Option τ := fun _ => takes
  /-- Whether the run of this number fails at its end. -/
  fails : Nat → Bool := fun _ => false
  runs : Nat := 0
  active : Register Runner Nat := []
  callers : Register Nat Waiting := []
  nextCaller : Nat := 0
  /-- The latest entry first. -/
  record : List (Entry τ) := []

inductive Event (τ : Type) where
  | trigger
  | flush
  | wait
  | cancel
  | work
  /-- Lets so much time pass. -/
  | advance (dt : τ)

namespace Session

variable {τ : Type} [TimeLine τ] [DecidableLT τ]

def soon (s : Session τ) (job : Job) : Session τ := { s with agenda := s.agenda.soon job }

def later (s : Session τ) (delay : τ) (alarm : Alarm) : Session τ :=
  { s with agenda := s.agenda.later delay alarm }

def note (s : Session τ) (e : Entry τ) : Session τ := { s with record := e :: s.record }

/-- Whether a caller need not wait any longer. -/
def isOver (s : Session τ) (waiting : Waiting) : Bool :=
  match waiting with
  | .callback => false
  | .allTimers => s.debouncer.timers.isEmpty
  | .timers ids => s.debouncer.timers.all fun t => !ids.contains t.id

def callCallers (s : Session τ) : Session τ :=
  s.callers.foldl (fun s entry =>
    if s.isOver entry.2 && !s.agenda.jobs.contains (.caller entry.1) then s.soon (.caller entry.1)
    else s) s

/-- The runner is through with its callback; `run` failed or ended well. -/
def endRun (s : Session τ) (run : Nat) : Session τ :=
  if s.fails run then s.note (.failed run) else s.note (.ended run s.agenda.now)

def finishTimer (s : Session τ) (timer : Nat) : Session τ :=
  { s with debouncer := s.debouncer.remove timer }

def returnCaller (s : Session τ) (caller : Nat) (answer : Option Bool) : Session τ :=
  { s with callers := s.callers.erase caller }.note (.returned caller answer)

/-- What follows for the runner when its callback is over. -/
def leave (s : Session τ) (runner : Runner) : Session τ :=
  match runner with
  | .timer id => s.finishTimer id
  | .caller id => s.returnCaller id (some true)

def startRun (s : Session τ) (runner : Runner) : Session τ :=
  let run := s.runs + 1
  let s := { s with runs := run }.note (.started run s.agenda.now)
  match s.lasts run with
  | some delay => { s with active := s.active.set runner run }.later delay (.callback runner)
  | none => (s.endRun run).leave runner

def signal (s : Session τ) : Signal τ → Session τ
  | .turn timer => s.soon (.timer timer)
  | .sleep timer delay => s.later delay (.timer timer)
  | .run timer => s.startRun (.timer timer)
  | .ended timer => { s with active := s.active.erase (.timer timer) }

def apply (s : Session τ) (change : Debouncer τ × List (Signal τ)) : Session τ :=
  change.2.foldl signal { s with debouncer := change.1 }

def resume (s : Session τ) (runner : Runner) : Session τ :=
  let calledOff : Bool := match runner with
    | .timer id => (s.debouncer.find? id).all (·.calledOff)
    | .caller _ => false
  match s.active.get? runner with
  | some run =>
    let s := { s with active := s.active.erase runner }
    if calledOff then s.leave runner else (s.endRun run).leave runner
  | none => s

def perform (s : Session τ) (job : Job) : Session τ :=
  match job with
  | .timer id => s.apply (s.debouncer.turn id)
  | .resume runner => s.resume runner
  | .caller id =>
    match s.callers.get? id with
    | some waiting => if s.isOver waiting then s.returnCaller id none else s
    | none => s

def work (s : Session τ) : Session τ :=
  match s.agenda.nextJob? with
  | some (job, agenda) => (perform { s with agenda } job).callCallers
  | none => s

/-- At least as many jobs as can be done before time has to move. -/
def backlog (s : Session τ) : Nat :=
  2 * s.agenda.jobs.length + 4 * s.debouncer.timers.length + 2 * s.callers.length

def workFor : Nat → Session τ → Session τ
  | 0, s => s
  | fuel + 1, s => if s.agenda.jobs.isEmpty then s else workFor fuel s.work

/-- Does all that can be done without time moving. -/
def drain (s : Session τ) : Session τ := workFor s.backlog s

def ring (s : Session τ) : Alarm → Session τ
  | .timer id => s.apply (s.debouncer.wake id)
  | .callback runner => s.soon (.resume runner)

/-- Moves to the earliest alarm, if it rings by the limit, and does what there is to do then. -/
def leap? (limit : Option τ) (s : Session τ) : Option (Session τ) :=
  match s.agenda.nextRing? with
  | some time =>
    if limit.any (· < time) then none
    else
      let (alarms, agenda) := s.agenda.ringAt time
      some (alarms.foldl ring { s with agenda }).drain
  | none => none

/-- Lets alarms ring, one instant after the other, for as long as `goOn` asks for it. -/
def leapWhile (goOn : Session τ → Bool) (limit : Option τ) : Nat → Session τ → Session τ
  | 0, s => s
  | fuel + 1, s =>
    if goOn s then
      match s.leap? limit with
      | some s => leapWhile goOn limit fuel s
      | none => s
    else s

/-- More instants than alarms can ring at: a timer sleeps once, and so does its callback. -/
def instants (s : Session τ) : Nat :=
  s.agenda.alarms.length + 2 * s.debouncer.timers.length + s.callers.length + 1

def advance (dt : τ) (s : Session τ) : Session τ :=
  let s := s.drain
  let limit := s.agenda.now + dt
  let s := s.leapWhile (fun _ => true) (some limit) s.instants
  { s with agenda := { s.agenda with now := limit } }

def trigger (s : Session τ) : Session τ := s.apply s.debouncer.trigger

/-- A caller that waits until something is over; it returns at once if it is. -/
def await (s : Session τ) (waiting : Waiting) : Session τ :=
  let id := s.nextCaller
  let s := { s with nextCaller := id + 1 }
  if s.isOver waiting then s.note (.returned id none)
  else { s with callers := s.callers.set id waiting }

/-- Runs the callback at once if a timer waits. -/
def flush (s : Session τ) : Session τ :=
  let id := s.nextCaller
  let pending := s.debouncer.isPending
  let s := s.apply s.debouncer.callOffCurrent
  let s := { s with nextCaller := id + 1 }
  if pending then { s with callers := s.callers.set id .callback }.startRun (.caller id)
  else s.note (.returned id (some false))

/-- Calls off every timer and waits for their end. -/
def cancel (s : Session τ) : Session τ :=
  let ids := s.debouncer.timers.map (·.id)
  (s.apply s.debouncer.callOffAll).await (.timers ids)

def step (s : Session τ) : Event τ → Session τ
  | .trigger => s.trigger
  | .flush => s.flush
  | .wait => s.await .allTimers
  | .cancel => s.cancel
  | .work => s.work
  | .advance dt => s.advance dt

def run (s : Session τ) (events : List (Event τ)) : Session τ := events.foldl step s

/-- Lets time pass until no caller waits. -/
def settle (s : Session τ) : Session τ :=
  let s := s.drain
  s.leapWhile (fun s => !s.callers.isEmpty) none s.instants

end Session

end CommitMessage.Debouncer
