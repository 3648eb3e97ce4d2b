import CommitMessage.Schedule.Limiter

/-! A limiter in the course of time: clients that come, give up, sleep and are granted. -/

namespace CommitMessage.Limiter

inductive Job (ι : Type) where
  /-- A client that has come asks for the slot. -/
  | arrive (client : ι)
  | turn (client : ι)
  deriving DecidableEq, Repr

inductive Entry (τ ι : Type) where
  | granted (client : ι) (time : τ)
  | slept (client : ι) (delay : τ)
  deriving DecidableEq, Repr

structure Session (τ ι : Type) where
  limiter : Limiter τ ι
  agenda : Agenda τ ι (Job ι)
  /-- Clients that gave up before they could ask. -/
  gone : List ι := []
  /-- The latest entry first. -/
  record : List (Entry τ ι) := []

inductive Event (τ ι : Type) where
  | start (client : ι)
  | cancel (client : ι)
  /-- Tries for the slot without waiting. -/
  | tryNow
  | work
  /-- Lets so much time pass. -/
  | advance (dt : τ)

namespace Session

variable {τ ι : Type} [TimeLine τ] [DecidableLT τ] [DecidableEq ι]

def new (interval now : τ) : Session τ ι := { limiter := { interval }, agenda := { now } }

def signal (s : Session τ ι) : Signal τ ι → Session τ ι
  | .turn client => { s with agenda := s.agenda.soon (.turn client) }
  | .sleep client delay =>
    { s with agenda := s.agenda.later delay client, record := .slept client delay :: s.record }
  | .granted client => { s with record := .granted client s.agenda.now :: s.record }
  | .left _ => s

def apply (s : Session τ ι) (change : Limiter τ ι × List (Signal τ ι)) : Session τ ι :=
  change.2.foldl signal { s with limiter := change.1 }

def start (client : ι) (s : Session τ ι) : Session τ ι :=
  { s with agenda := s.agenda.soon (.arrive client) }

/-- Whether the client has come and is neither granted nor gone. -/
def isRunning (s : Session τ ι) (client : ι) : Bool :=
  (s.agenda.jobs.contains (.arrive client) && !s.gone.contains client) || s.limiter.serves client

def cancel (client : ι) (s : Session τ ι) : Session τ ι :=
  if s.agenda.jobs.contains (.arrive client) then { s with gone := client :: s.gone }
  else
    let s := { s with agenda := s.agenda.silence (· = client) }
    s.apply (s.limiter.cancel client)

def tryNow (s : Session τ ι) : τ × Session τ ι :=
  let (delay, limiter) := s.limiter.tryAcquire s.agenda.now
  (delay, { s with limiter })

def perform (s : Session τ ι) : Job ι → Session τ ι
  | .arrive client =>
    if s.gone.contains client then { s with gone := s.gone.erase client }
    else s.apply (s.limiter.request s.agenda.now client)
  | .turn client => s.apply (s.limiter.turn s.agenda.now client)

def work (s : Session τ ι) : Session τ ι :=
  match s.agenda.nextJob? with
  | some (job, agenda) => perform { s with agenda } job
  | none => s

/-- At least as many jobs as can be done before time has to move: a client that comes has a turn
after it at most, and one that waits is called at most once. -/
def backlog (s : Session τ ι) : Nat := 2 * s.agenda.jobs.length + s.limiter.line.length

/-- Does so many jobs, if there are so many. -/
def workFor : Nat → Session τ ι → Session τ ι
  | 0, s => s
  | fuel + 1, s => if s.agenda.jobs.isEmpty then s else workFor fuel s.work

/-- Does all that can be done without time moving. -/
def drain (s : Session τ ι) : Session τ ι := workFor s.backlog s

def ring (s : Session τ ι) (client : ι) : Session τ ι := s.apply (s.limiter.wake client)

/-- Lets the alarms up to a time ring, one instant after the other. -/
def ringUntil (limit : τ) : Nat → Session τ ι → Session τ ι
  | 0, s => s
  | fuel + 1, s =>
    match s.agenda.nextRing? with
    | some time =>
      if limit < time then s
      else
        let (clients, agenda) := s.agenda.ringAt time
        ringUntil limit fuel (clients.foldl ring { s with agenda }).drain
    | none => s

/-- More instants than alarms can ring at: every client sleeps a few times at most. -/
def instants (s : Session τ ι) : Nat := 64 * (s.agenda.alarms.length + s.backlog + 1)

def advance (dt : τ) (s : Session τ ι) : Session τ ι :=
  let s := s.drain
  let limit := s.agenda.now + dt
  let s := ringUntil limit s.instants s
  { s with agenda := { s.agenda with now := limit } }

def step (s : Session τ ι) : Event τ ι → Session τ ι
  | .start client => s.start client
  | .cancel client => s.cancel client
  | .tryNow => s.tryNow.2
  | .work => s.work
  | .advance dt => s.advance dt

def run (s : Session τ ι) (events : List (Event τ ι)) : Session τ ι := events.foldl step s

end Session

end CommitMessage.Limiter
