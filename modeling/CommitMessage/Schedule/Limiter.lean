import CommitMessage.Schedule.Agenda

/-! One slot that is granted at most once in an interval. Clients wait in a line. The one at its
head holds the slot, sleeps until the interval is over, and is granted; then the next is called.
A client may leave at any time, and never delays those behind it. -/

namespace CommitMessage

inductive Limiter.Standing where
  | waiting
  /-- Called to take the slot, at its next turn. -/
  | called
  /-- Gave up while waiting; leaves at its next turn. -/
  | leaving
  /-- Gave up after it was called; leaves at its next turn. -/
  | calledOff
  deriving DecidableEq, Repr

inductive Limiter.Holding where
  | sleeping
  /-- The sleep is over; tries again at its next turn. -/
  | awake
  /-- Gave up; leaves at its next turn. -/
  | leaving
  deriving DecidableEq, Repr

structure Limiter (τ ι : Type) where
  interval : τ
  lastGrant : Option τ := none
  holder : Option (ι × Limiter.Holding) := none
  /-- First come, first served. -/
  line : List (ι × Limiter.Standing) := []

namespace Limiter

/-- What a limiter asks for. -/
inductive Signal (τ ι : Type) where
  /-- The client is to get a turn. -/
  | turn (client : ι)
  | sleep (client : ι) (delay : τ)
  | granted (client : ι)
  /-- The client that gave up is gone. -/
  | left (client : ι)
  deriving DecidableEq, Repr

variable {τ ι : Type} [TimeLine τ] [DecidableLT τ] [DecidableEq ι]

/-- Grants the slot and answers zero, or answers how long it has to wait. -/
def tryAcquire (l : Limiter τ ι) (now : τ) : τ × Limiter τ ι :=
  match l.lastGrant with
  | none => (0, { l with lastGrant := some now })
  | some last =>
    let elapsed := now - last
    if elapsed < l.interval then (l.interval - elapsed, l)
    else (0, { l with lastGrant := some now })

/-- Calls the first in the line, unless it has been called or is about to leave. -/
def callNext (l : Limiter τ ι) : Limiter τ ι × List (Signal τ ι) :=
  match l.line with
  | (client, .waiting) :: rest => ({ l with line := (client, .called) :: rest }, [.turn client])
  | _ => (l, [])

def release (l : Limiter τ ι) : Limiter τ ι × List (Signal τ ι) :=
  callNext { l with holder := none }

/-- The client takes the slot: it is granted, or sleeps. -/
def attempt (l : Limiter τ ι) (now : τ) (client : ι) : Limiter τ ι × List (Signal τ ι) :=
  let (delay, l) := l.tryAcquire now
  if 0 < delay then
    ({ l with holder := some (client, .sleeping) }, [.sleep client delay])
  else
    let (l, signals) := l.release
    (l, signals ++ [.granted client])

/-- A new client takes a free slot, or goes to the end of the line. -/
def request (l : Limiter τ ι) (now : τ) (client : ι) : Limiter τ ι × List (Signal τ ι) :=
  if l.holder.isNone && l.line.all (·.2 == .leaving) then l.attempt now client
  else ({ l with line := l.line ++ [(client, .waiting)] }, [])

def dropFromLine (l : Limiter τ ι) (client : ι) : Limiter τ ι :=
  { l with line := l.line.filter fun entry => entry.1 ≠ client }

def turnInLine (l : Limiter τ ι) (now : τ) (client : ι) (standing : Standing) :
    Limiter τ ι × List (Signal τ ι) :=
  match standing with
  | .waiting => (l, [])
  | .called => (l.dropFromLine client).attempt now client
  | .leaving | .calledOff =>
    let l := l.dropFromLine client
    let (l, signals) := if l.holder.isNone then l.callNext else (l, [])
    (l, signals ++ [.left client])

def turn (l : Limiter τ ι) (now : τ) (client : ι) : Limiter τ ι × List (Signal τ ι) :=
  match l.holder with
  | some (holder, holding) =>
    if holder = client then
      match holding with
      | .sleeping => (l, [])
      | .awake => l.attempt now client
      | .leaving =>
        let (l, signals) := l.release
        (l, signals ++ [.left client])
    else
      match l.line.lookup client with
      | some standing => l.turnInLine now client standing
      | none => (l, [])
  | none =>
    match l.line.lookup client with
    | some standing => l.turnInLine now client standing
    | none => (l, [])

def wake (l : Limiter τ ι) (client : ι) : Limiter τ ι × List (Signal τ ι) :=
  match l.holder with
  | some (holder, .sleeping) =>
    if holder = client then ({ l with holder := some (client, .awake) }, [.turn client])
    else (l, [])
  | _ => (l, [])

def setStanding (l : Limiter τ ι) (client : ι) (standing : Standing) : Limiter τ ι :=
  { l with line := l.line.map fun entry =>
      if entry.1 = client then (client, standing) else entry }

/-- The client gives up. It leaves at its next turn, and gets one now if it has none coming. -/
def cancelInLine (l : Limiter τ ι) (client : ι) : Limiter τ ι × List (Signal τ ι) :=
  match l.line.lookup client with
  | some .waiting => (l.setStanding client .leaving, [.turn client])
  | some .called => (l.setStanding client .calledOff, [])
  | _ => (l, [])

def cancel (l : Limiter τ ι) (client : ι) : Limiter τ ι × List (Signal τ ι) :=
  match l.holder with
  | some (holder, holding) =>
    if holder = client then
      let l := { l with holder := some (client, .leaving) }
      (l, if holding = .sleeping then [.turn client] else [])
    else l.cancelInLine client
  | none => l.cancelInLine client

/-- Whether the client holds the slot or waits for it. -/
def serves (l : Limiter τ ι) (client : ι) : Bool :=
  l.holder.any (·.1 = client) || l.line.any (·.1 = client)

end Limiter

end CommitMessage
