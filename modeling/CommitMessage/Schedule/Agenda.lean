/-! An agenda: the present time, alarms that ring later, and jobs to be done now. Jobs are done
one at a time in the order in which they came, and time moves only when none is left. -/

namespace CommitMessage

/-- What schedules need of time: whole seconds, sums, differences, and an order. Where they
compare, the order has to be decidable as well. -/
class TimeLine (τ : Type) extends Zero τ, NatCast τ, Add τ, Sub τ, LT τ

instance : TimeLine Float where
  zero := 0.0
  natCast := Float.ofNat

structure Agenda (τ Alarm Job : Type) where
  now : τ
  /-- The earliest first, and those of one instant in the order in which they were set. -/
  alarms : List (τ × Alarm) := []
  jobs : List Job := []

namespace Agenda

variable {τ Alarm Job : Type} [TimeLine τ] [DecidableLT τ]

/-- Puts a job behind all others. -/
def soon (job : Job) (a : Agenda τ Alarm Job) : Agenda τ Alarm Job :=
  { a with jobs := a.jobs ++ [job] }

def insertAlarm (time : τ) (alarm : Alarm) : List (τ × Alarm) → List (τ × Alarm)
  | [] => [(time, alarm)]
  | first :: rest =>
    if time < first.1 then (time, alarm) :: first :: rest
    else first :: insertAlarm time alarm rest

/-- Sets an alarm that rings when so much time has passed. -/
def later (delay : τ) (alarm : Alarm) (a : Agenda τ Alarm Job) : Agenda τ Alarm Job :=
  { a with alarms := insertAlarm (a.now + delay) alarm a.alarms }

def silence (p : Alarm → Bool) (a : Agenda τ Alarm Job) : Agenda τ Alarm Job :=
  { a with alarms := a.alarms.filter fun entry => !p entry.2 }

def nextJob? (a : Agenda τ Alarm Job) : Option (Job × Agenda τ Alarm Job) :=
  match a.jobs with
  | [] => none
  | job :: rest => some (job, { a with jobs := rest })

def nextRing? (a : Agenda τ Alarm Job) : Option τ := a.alarms.head?.map (·.1)

/-- Moves to the given time, unless it is past, and takes out the alarms that ring by then. -/
def ringAt (time : τ) (a : Agenda τ Alarm Job) : List Alarm × Agenda τ Alarm Job :=
  let now := if a.now < time then time else a.now
  let rings (entry : τ × Alarm) : Bool := !decide (now < entry.1)
  ((a.alarms.takeWhile rings).map (·.2), { a with now, alarms := a.alarms.dropWhile rings })

end Agenda

end CommitMessage
