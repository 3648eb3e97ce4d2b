import CommitMessage.Schedule.Agenda

/-! A callback that runs once things have been quiet for a while. Every trigger calls off the
timer that waits and starts another; a callback that has started is not called off by it. -/

namespace CommitMessage

inductive Debouncer.Stage where
  /-- Started, and about to sleep at its first turn. -/
  | fresh
  | sleeping
  /-- The quiet is over; starts the callback at its next turn. -/
  | awake
  | running
  deriving DecidableEq, Repr

structure Debouncer.Timer where
  id : Nat
  stage : Debouncer.Stage
  /-- Called off; ends at its next turn. -/
  calledOff : Bool := false
  deriving DecidableEq, Repr

structure Debouncer (τ : Type) where
  delay : τ
  /-- The timer that waits. -/
  current : Option Nat := none
  /-- The timers that have not ended, oldest first. -/
  timers : List Debouncer.Timer := []
  nextId : Nat := 0

namespace Debouncer

/-- What a debouncer asks for. -/
inductive Signal (τ : Type) where
  /-- The timer is to get a turn. -/
  | turn (timer : Nat)
  | sleep (timer : Nat) (delay : τ)
  /-- The callback is to run, for the timer. -/
  | run (timer : Nat)
  | ended (timer : Nat)
  deriving DecidableEq, Repr

variable {τ : Type} [TimeLine τ] [DecidableLT τ]

def isPending (d : Debouncer τ) : Bool := d.current.isSome

def find? (d : Debouncer τ) (timer : Nat) : Option Timer := d.timers.find? (·.id == timer)

def update (d : Debouncer τ) (timer : Nat) (f : Timer → Timer) : Debouncer τ :=
  { d with timers := d.timers.map fun t => if t.id = timer then f t else t }

def remove (d : Debouncer τ) (timer : Nat) : Debouncer τ :=
  { d with timers := d.timers.filter fun t => t.id ≠ timer }

/-- A timer that sleeps or runs has no turn coming and needs one to end. -/
def needsTurn (t : Timer) : Bool :=
  !t.calledOff && (t.stage == .sleeping || t.stage == .running)

def callOff (d : Debouncer τ) (timer : Nat) : Debouncer τ × List (Signal τ) :=
  match d.find? timer with
  | some t =>
    (d.update timer fun t => { t with calledOff := true },
      if needsTurn t then [.turn timer] else [])
  | none => (d, [])

def callOffCurrent (d : Debouncer τ) : Debouncer τ × List (Signal τ) :=
  match d.current with
  | some timer => callOff { d with current := none } timer
  | none => (d, [])

/-- Starts the quiet time anew. -/
def trigger (d : Debouncer τ) : Debouncer τ × List (Signal τ) :=
  let (d, signals) := d.callOffCurrent
  let timer : Timer := { id := d.nextId, stage := .fresh }
  let d := { d with
    current := some timer.id
    timers := d.timers ++ [timer]
    nextId := timer.id + 1 }
  (d, signals ++ [.turn timer.id])

def turn (d : Debouncer τ) (timer : Nat) : Debouncer τ × List (Signal τ) :=
  match d.find? timer with
  | none => (d, [])
  | some t =>
    if t.calledOff then (d.remove timer, [.ended timer])
    else match t.stage with
      | .fresh =>
        if 0 < d.delay then
          (d.update timer fun t => { t with stage := .sleeping }, [.sleep timer d.delay])
        else (d.update timer fun t => { t with stage := .awake }, [.turn timer])
      | .awake =>
        let d := if d.current = some timer then { d with current := none } else d
        (d.update timer fun t => { t with stage := .running }, [.run timer])
      | .sleeping | .running => (d, [])

def wake (d : Debouncer τ) (timer : Nat) : Debouncer τ × List (Signal τ) :=
  match d.find? timer with
  | some t =>
    if t.stage = .sleeping ∧ !t.calledOff then
      (d.update timer fun t => { t with stage := .awake }, [.turn timer])
    else (d, [])
  | none => (d, [])

def finish (d : Debouncer τ) (timer : Nat) : Debouncer τ × List (Signal τ) :=
  (d.remove timer, [.ended timer])

/-- Calls off every timer, whether it waits or runs. -/
def callOffAll (d : Debouncer τ) : Debouncer τ × List (Signal τ) :=
  let timers := d.timers.map fun t => { t with calledOff := true }
  ({ d with current := none, timers }, (d.timers.filter needsTurn).map fun t => .turn t.id)

end Debouncer

end CommitMessage
