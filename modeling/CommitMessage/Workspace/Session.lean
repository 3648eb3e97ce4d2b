import CommitMessage.Workspace.Basic

/-! A workspace in the course of time: jobs are done until none is left, and then the next alarm
rings. Whatever is asked of the workspace from outside is an event. -/

namespace CommitMessage.Workspace

-- A sum of whole numbers is the same one, whatever else is imported.
attribute [local instance(1100)] Zero.ofOfNat0

variable {τ : Type} [TimeLine τ] [DecidableLT τ]

/-- What makes a workspace: its settings, its network, and the present time. -/
structure Plan (τ : Type) where
  hosts : Hosts
  timeout : Binary64
  interval : τ
  pause : τ
  capacity : Int
  enabled : Bool := true
  patterns : List Text := standardPatterns
  presenter : Board.Sink := .present fun _ => none
  network : Text → Delivery τ

def new (p : Plan τ) (now : τ) : Workspace τ :=
  let cache : Cache τ := { capacity := p.capacity, lifetime := fun kind =>
    ((Cache.standardLifetime kind : Nat) : τ) }
  { enabled := p.enabled, patterns := p.patterns, pause := p.pause, presenter := p.presenter,
    network := p.network, agenda := { now },
    desk := { hosts := p.hosts, timeout := p.timeout, cache,
              limiter := { interval := p.interval } } }

/-- What a text can give rise to: a group for a line, a slot and a fetch for a reference. -/
def textWork (t : Text) : Nat := 16 * (t.length + 2)

/-- At least as many jobs as can be done before time has to move. -/
def backlog (w : Workspace τ) : Nat :=
  4 * (w.agenda.jobs.length + w.callers.length + 1) +
    (w.board.groups.map fun g => 8 * (g.slots.length + 1)).sum +
    (w.desk.fetches.map fun f => 8 * (f.callers.length + 1)).sum +
    (w.calls.map fun entry => 8 * ((askersOf entry.1 entry.2.wanted).length + 1)).sum +
    (w.debouncers.map fun entry =>
      entry.2.2.timers.length * (4 + textWork ((w.texts.get? entry.2.1).getD []))).sum

/-- Does so many jobs, if there are so many. -/
def workFor : Nat → Workspace τ → Workspace τ
  | 0, w => w
  | fuel + 1, w => if w.agenda.jobs.isEmpty then w else workFor fuel w.work

/-- Does all that can be done without time moving. -/
def drain (w : Workspace τ) : Workspace τ := workFor w.backlog w

def ring (w : Workspace τ) : Alarm → Workspace τ
  | .timer debouncer timer => w.withDebouncer debouncer (·.wake timer)
  | .limiter r => w.applyDesk (w.desk.limiterWake r)
  | .reply r reply => w.soon (.reply r reply)

/-- Moves to the earliest alarm, if it rings by the limit, and does what there is to do then. -/
def leap? (limit : Option τ) (w : Workspace τ) : Option (Workspace τ) :=
  match w.agenda.nextRing? with
  | some time =>
    if limit.any (· < time) then none
    else
      let (alarms, agenda) := w.agenda.ringAt time
      some (alarms.foldl ring { w with agenda }).drain
  | none => none

/-- Lets alarms ring, one instant after the other, for as long as `goOn` asks for it. -/
def leapWhile (goOn : Workspace τ → Bool) (limit : Option τ) : Nat → Workspace τ → Workspace τ
  | 0, w => w
  | fuel + 1, w =>
    if goOn w then
      match w.leap? limit with
      | some w => leapWhile goOn limit fuel w
      | none => w
    else w

/-- More instants than alarms can ring at: a timer sleeps once, and a fetch sleeps in the line of
the limiter and then waits for its reply. -/
def instants (w : Workspace τ) : Nat := 64 * (w.agenda.alarms.length + w.backlog)

def advance (dt : τ) (w : Workspace τ) : Workspace τ :=
  let w := w.drain
  let limit := w.agenda.now + dt
  let w := w.leapWhile (fun _ => true) (some limit) w.instants
  { w with agenda := { w.agenda with now := limit } }

/-- Lets time pass until no caller waits. -/
def settle (w : Workspace τ) : Workspace τ :=
  let w := w.drain
  w.leapWhile (fun w => !w.callers.isEmpty) none w.instants

/-! What callers have done -/

/-- Waits until nothing is going on for a buffer: first its timers, then its groups. -/
def settlePlan (w : Workspace τ) (buffer : Text) : List Phase :=
  (match w.debouncerOf.get? buffer with
   | some id => [.noTimers id]
   | none => []) ++ [.idle buffer]

/-- Stops everything for a buffer and forgets it. -/
def detach (w : Workspace τ) (buffer : Text) : Workspace τ :=
  let timers : List Phase := match w.debouncerOf.get? buffer with
    | some id => [.callOffTimers id]
    | none => []
  let plan := timers ++ [Phase.forget buffer, .drop buffer]
  { w with debouncerOf := w.debouncerOf.erase buffer }.start plan

def shutdownPlan (w : Workspace τ) : List Phase :=
  w.debouncerOf.map (fun entry => .callOffTimers entry.2) ++ [.forgetAll, .dropAll]

/-- Stops everything for every buffer. -/
def shutdown (w : Workspace τ) : Workspace τ :=
  { w with debouncerOf := [] }.start w.shutdownPlan

/-- Stops everything, the fetches of every kind included. -/
def dispose (w : Workspace τ) : Workspace τ :=
  { w with debouncerOf := [] }.start (w.shutdownPlan ++ Reference.Kind.all.map Phase.stopFetches)

/-- A name that no buffer has. -/
def freshBuffer (w : Workspace τ) : Text :=
  let taken := w.texts.keys ++ w.board.sheets.keys
  let names := (List.range (taken.length + 1)).map fun n =>
    "api-".toList ++ Decimal.digits (w.nextCaller + n)
  (names.find? fun name => !taken.contains name).getD []

/-- A pass whose annotations are shown when all its references have been looked up. Without a name
for the buffer, one is used for this once. -/
def annotate (w : Workspace τ) (buffer : Option Text) (text : Text) : Workspace τ :=
  let name := buffer.getD w.freshBuffer
  let (pass, w) := w.runPass name text
  let caller := w.nextCaller
  let w := { w with nextCaller := caller + 1 }
  let plan := w.settlePlan name ++ .present pass ::
    (if buffer.isNone then [.forget name, .drop name] else [])
  w.resume caller plan

inductive Event (τ : Type) where
  | runPass (buffer text : Text)
  | attach (buffer path text : Text)
  | notify (buffer text : Text)
  | flush (buffer : Text)
  | settle (buffer : Text)
  | detach (buffer : Text)
  | shutdown
  | dispose
  | annotate (buffer : Option Text) (text : Text)
  | resolve (tag : Text) (r : Reference)
  | resolveProfiles (tag : Text) (names : List Text)
  | cancel (tag : Text)
  /-- From now on the network answers so. -/
  | respond (url : Text) (delivery : Delivery τ)
  | sweep
  | clear
  | work
  /-- Lets so much time pass. -/
  | advance (dt : τ)

def sweepCache (w : Workspace τ) : Nat × Workspace τ :=
  let swept := w.desk.cache.sweep w.agenda.now
  let w := { w with desk := { w.desk with cache := swept.2 } }
  (swept.1, (Cache.sweepNotices swept).foldl (fun w n => w.note (.noted ⟨none, n⟩)) w)

def step (w : Workspace τ) : Event τ → Workspace τ
  | .runPass buffer text => (w.runPass buffer text).2
  | .attach buffer path text => (w.attach buffer path text).2
  | .notify buffer text => w.notify buffer text
  | .flush buffer => (w.flush buffer).2
  | .settle buffer => w.start (w.settlePlan buffer)
  | .detach buffer => w.detach buffer
  | .shutdown => w.shutdown
  | .dispose => w.dispose
  | .annotate buffer text => w.annotate buffer text
  | .resolve tag r => w.call tag (.one r)
  | .resolveProfiles tag names => w.call tag (.profiles (distinctNames names))
  | .cancel tag => (w.cancel tag).2
  | .respond url delivery =>
    { w with network := fun u => if u = url then delivery else w.network u }
  | .sweep => w.sweepCache.2
  | .clear => { w with desk := { w.desk with cache := w.desk.cache.clear } }
  | .work => w.work
  | .advance dt => w.advance dt

def run (w : Workspace τ) (events : List (Event τ)) : Workspace τ := events.foldl step w

end CommitMessage.Workspace
