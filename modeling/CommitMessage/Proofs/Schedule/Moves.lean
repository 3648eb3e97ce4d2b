import CommitMessage.Schedule.LimiterSession
import CommitMessage.Proofs.Schedule.Grants
import CommitMessage.Proofs.Schedule.Places

/-! Runs of a limiter in the smallest steps. Clients come, give up and try at any moment, between
any two jobs and between an alarm and the turn that comes of it; time moves when no job is left, and
no further than to the next alarm. -/

namespace CommitMessage.Limiter

inductive Move (ι : Type) where
  | start (client : ι)
  | cancel (client : ι)
  | tryNow
  | work
  /-- The first alarm rings, if it is time. -/
  | ring
  | tick (time : ℚ)
  deriving DecidableEq

/-- What needs nobody's doing. -/
def Move.IsPassive {ι : Type} : Move ι → Prop
  | .work | .ring | .tick _ => True
  | _ => False

def Move.starter? {ι : Type} : Move ι → Option ι
  | .start c => some c
  | _ => none

def Event.starter? {ι : Type} : Event ℚ ι → Option ι
  | .start c => some c
  | _ => none

def starters {ι : Type} (moves : List (Move ι)) : List ι := moves.filterMap Move.starter?

def Job.arrival? {ι : Type} : Job ι → Option ι
  | .arrive c => some c
  | .turn _ => none

def Job.weight {ι : Type} : Job ι → Nat
  | .arrive _ => 2
  | .turn _ => 1

def Entry.grant? {ι : Type} : Entry ℚ ι → Option (ι × ℚ)
  | .granted c time => some (c, time)
  | .slept _ _ => none

namespace Session

variable {ι : Type}

def grants (s : Session ℚ ι) : List (ι × ℚ) := s.record.reverse.filterMap Entry.grant?

/-- Clients that have come and not yet asked, those that gave up among them. -/
def arriving (s : Session ℚ ι) : List ι := s.agenda.jobs.filterMap Job.arrival?

/-- How many in a line have not been called. -/
def waitingIn (line : List (ι × Standing)) : Nat := (line.filter (·.2 == .waiting)).length

/-- What is left to do before time can move. A client that comes may have to wait, and to be called
takes a turn. -/
def effort (s : Session ℚ ι) : Nat := (s.agenda.jobs.map Job.weight).sum + waitingIn s.limiter.line

def NoneDue (s : Session ℚ ι) : Prop := ∀ alarm ∈ s.agenda.alarms, s.agenda.now < alarm.1

/-! What signals come to -/

theorem apply_append (s : Session ℚ ι) (l : Limiter ℚ ι) (signals more : List (Signal ℚ ι)) :
    s.apply (l, signals ++ more) = more.foldl signal (s.apply (l, signals)) := List.foldl_append

theorem foldl_signal_turns (s : Session ℚ ι) (called : List ι) :
    (called.map Signal.turn).foldl signal s =
      { s with agenda := { s.agenda with jobs := s.agenda.jobs ++ called.map .turn } } := by
  induction called generalizing s with
  | nil => simp
  | cons c called ih => simp [signal, Agenda.soon, ih]

/-- Whoever is called gets a turn, and waits no longer. -/
theorem callIfFree_signals (l : Limiter ℚ ι) : ∃ called : List ι,
    l.callIfFree.2 = called.map .turn ∧
      called.length + waitingIn l.callIfFree.1.line = waitingIn l.line := by
  unfold callIfFree
  split
  · rw [callNext_eq]
    cases l.line with
    | nil => exact ⟨[], rfl, rfl⟩
    | cons first rest =>
      obtain ⟨c, standing⟩ := first
      cases standing with
      | waiting => exact ⟨[c], rfl, by simp [waitingIn, callFirst, Nat.add_comm]⟩
      | called => exact ⟨[], rfl, by simp [waitingIn, callFirst]⟩
      | leaving => exact ⟨[], rfl, by simp [waitingIn, callFirst]⟩
      | calledOff => exact ⟨[], rfl, by simp [waitingIn, callFirst]⟩
  · exact ⟨[], rfl, Nat.zero_add _⟩

theorem weight_turns (jobs : List (Job ι)) (called : List ι) :
    ((jobs ++ called.map Job.turn).map Job.weight).sum =
      (jobs.map Job.weight).sum + called.length := by
  simp [Function.comp_def, Job.weight]

/-- Calling the first adds its turn to the jobs, and nothing to what is left to do. -/
theorem apply_callIfFree (s : Session ℚ ι) : ∃ called : List ι,
    s.limiter.callIfFree.2 = called.map .turn ∧
    s.apply s.limiter.callIfFree = { s with
      limiter := s.limiter.callIfFree.1
      agenda := { s.agenda with jobs := s.agenda.jobs ++ called.map .turn } } ∧
    (s.apply s.limiter.callIfFree).effort = s.effort := by
  obtain ⟨called, hcalled, hwaiting⟩ := callIfFree_signals s.limiter
  have happly : s.apply s.limiter.callIfFree = { s with
      limiter := s.limiter.callIfFree.1
      agenda := { s.agenda with jobs := s.agenda.jobs ++ called.map .turn } } := by
    rw [apply, hcalled, foldl_signal_turns]
  refine ⟨called, hcalled, happly, ?_⟩
  rw [happly, effort, weight_turns, effort]
  dsimp only
  omega

theorem arriving_turns (jobs : List (Job ι)) (called : List ι) :
    (jobs ++ called.map Job.turn).filterMap Job.arrival? = jobs.filterMap Job.arrival? := by
  simp [List.filterMap_append, List.filterMap_map, Function.comp_def, Job.arrival?]

variable [DecidableEq ι]

theorem waitingIn_without (l : Limiter ℚ ι) (c : ι) :
    waitingIn (l.without c).line ≤ waitingIn l.line :=
  (List.filter_sublist.filter _).length_le

/-! Moves -/

def ringFirst (s : Session ℚ ι) : Session ℚ ι :=
  match s.agenda.alarms with
  | (time, c) :: rest =>
    if s.agenda.now < time then s
    else ring { s with agenda := { s.agenda with alarms := rest } } c
  | [] => s

/-- Time moves, if there is nothing to be done before. -/
def tick (s : Session ℚ ι) (time : ℚ) : Session ℚ ι :=
  if s.agenda.jobs = [] ∧ s.agenda.now ≤ time ∧ ∀ alarm ∈ s.agenda.alarms, time ≤ alarm.1 then
    { s with agenda := { s.agenda with now := time } }
  else s

def move (s : Session ℚ ι) : Move ι → Session ℚ ι
  | .start c => s.start c
  | .cancel c => s.cancel c
  | .tryNow => s.tryNow.2
  | .work => s.work
  | .ring => s.ringFirst
  | .tick time => s.tick time

def runMoves (s : Session ℚ ι) (moves : List (Move ι)) : Session ℚ ι := moves.foldl move s

def news (s : Session ℚ ι) : Move ι → List (Happening ι)
  | .start c => [.came c s.agenda.now]
  | .cancel c => if s.isRunning c then [.gaveUp c] else []
  | .tryNow => if 0 < s.tryNow.1 then [] else [.taken s.agenda.now]
  | .work => (s.work.grants.drop s.grants.length).map fun (c, time) => .granted c time
  | .ring | .tick _ => []

def history (s : Session ℚ ι) : List (Move ι) → List (Happening ι)
  | [] => []
  | m :: moves => s.news m ++ (s.move m).history moves

theorem runMoves_append (s : Session ℚ ι) (moves more : List (Move ι)) :
    s.runMoves (moves ++ more) = (s.runMoves moves).runMoves more := List.foldl_append

theorem history_append (s : Session ℚ ι) (moves more : List (Move ι)) :
    s.history (moves ++ more) = s.history moves ++ (s.runMoves moves).history more := by
  induction moves generalizing s with
  | nil => rfl
  | cons m moves ih => rw [List.cons_append, history, ih, history, List.append_assoc]; rfl

end Session

end CommitMessage.Limiter
