import CommitMessage.Proofs.Lookup.History
import CommitMessage.Proofs.Workspace.Orderly

/-! Runs of moves. The clock of a workspace does nothing but moves: it works, waits for the next
alarm, and lets it ring. -/

namespace CommitMessage.Workspace

open Desk (Happening)
open Desk.Traffic (Step Steps)

variable {w w' w'' : Workspace ℚ}

/-! Runs -/

/-- Called off after one of the moves. -/
def IsCalledOffIn (w : Workspace ℚ) : List Move → Asker → Prop
  | [], _ => False
  | m :: moves, a => (w.move m).IsCalledOff a ∨ (w.move m).IsCalledOffIn moves a

theorem runMoves_append (w : Workspace ℚ) (moves more : List Move) :
    w.runMoves (moves ++ more) = (w.runMoves moves).runMoves more :=
  List.foldl_append

theorem history_append (w : Workspace ℚ) (moves more : List Move) :
    w.history (moves ++ more) = w.history moves ++ (w.runMoves moves).history more := by
  induction moves generalizing w with
  | nil => rfl
  | cons m moves ih =>
    have hrest := ih (w.move m)
    simp only [List.cons_append, history, hrest, List.append_assoc]
    rfl

theorem steps_run (h : w.Orderly) {moves : List Move} (hm : ∀ m ∈ moves, m.IsFine) :
    Steps (w.IsCalledOffIn moves) w.traffic (w.history moves) (w.runMoves moves).traffic ∧
      (w.runMoves moves).Orderly := by
  induction moves generalizing w with
  | nil => exact ⟨.refl _, h⟩
  | cons m moves ih =>
    obtain ⟨hsteps, ho⟩ := steps_move h (hm m List.mem_cons_self)
    obtain ⟨hrest, ho'⟩ := ih ho fun m' hx => hm m' (List.mem_cons_of_mem _ hx)
    exact ⟨(hsteps.mono fun _ => .inl).trans (hrest.mono fun _ => .inr), ho'⟩

theorem orderly_new (p : Plan ℚ) (now : ℚ) : (new p now).Orderly :=
  ⟨Desk.live_new _ _ _ _, ⟨List.nodup_nil, List.forall_mem_nil _, rfl, rfl, .refl _,
    List.forall_mem_nil _⟩, List.forall_mem_nil _⟩

/-- A workspace after a history that began with nothing. -/
structure Faithful (p : Plan ℚ) (history : List (Happening Asker)) (w : Workspace ℚ) : Prop where
  orderly : w.Orderly
  accounts : Desk.Traffic.Accounts history w.traffic
  paired : Desk.Traffic.Paired history
  spaced : w.traffic.Spaced
  order : Desk.Traffic.madeIn history =
    (Desk.Traffic.begunIn history).map (·.1) ++ Desk.refsAt Desk.Stage.isAhead w.desk.fetches
  fetched : w.fetched =
    (Desk.Traffic.begunIn history).map fun e => (e.1.url p.hosts, e.2)
  hosts : w.desk.hosts = p.hosts
  interval : w.desk.limiter.interval = p.interval
  lifetime : w.desk.cache.lifetime = fun kind => ((Cache.standardLifetime kind : Nat) : ℚ)

theorem faithful_run (p : Plan ℚ) (now : ℚ) {moves : List Move} (hm : ∀ m ∈ moves, m.IsFine) :
    Faithful p ((new p now).history moves) ((new p now).runMoves moves) := by
  have hnew := orderly_new p now
  have haccounts : Desk.Traffic.Accounts [] (new p now).traffic :=
    ⟨List.forall_mem_nil _, fun _ _ hm => absurd hm (Multiset.notMem_zero _),
      List.forall_mem_nil _, fun _ _ hm => absurd hm List.not_mem_nil, List.nodup_nil, nofun,
      List.forall_mem_nil _, List.forall_mem_nil _, fun _ _ _ _ _ => rfl⟩
  have hspaced : (new p now).traffic.Spaced := ⟨.nil, rfl, nofun⟩
  obtain ⟨hsteps, horderly⟩ := steps_run hnew hm
  obtain ⟨hhosts, hinterval, hrequests⟩ := hsteps.requests
  exact ⟨horderly, hsteps.accounts hnew.sound haccounts,
    hsteps.paired hnew.sound haccounts (by simp [Desk.Traffic.Paired]), hsteps.spaced hspaced,
    hsteps.order hnew.sound, hrequests, hhosts, hinterval, hsteps.lifetime⟩

section

variable {p : Plan ℚ} {history : List (Happening Asker)} {outcome : Outcome}

theorem Faithful.not_stopped (h : Faithful p history w) {c : Asker}
    (hm : (c, outcome) ∈ w.traffic.answers) : outcome ≠ .stopped := by
  obtain ⟨r, -, reply, -, -, -, -, -, -, -, rfl⟩ := h.accounts.answers c outcome hm
  exact (isFor_resolution (reply.isFor_outcome r)).1

theorem Faithful.ask_not_stopped (h : Faithful p history w) {asker : Asker} {pass : Option Text}
    {r : Reference} (ha : (w.ask asker pass r).1 = some outcome) : outcome ≠ .stopped := by
  rcases Desk.ask_eq w.desk w.agenda.now asker pass r with ⟨given, notes, he, -, hg⟩ |
    ⟨-, -, ⟨f, -, -, he⟩ | ⟨-, he⟩⟩ <;> simp only [Workspace.ask, he, reduceCtorEq] at ha
  obtain rfl := Option.some.inj ha
  cases hg with
  | missing => simp
  | cached => simp
  | ended hv hc hf hr ho =>
    obtain ⟨reply, -, rfl, -⟩ := h.accounts.ended _ hf _ ho
    exact (isFor_resolution (reply.isFor_outcome _)).1

end

/-! Passing time -/

/-- A move with which nothing is asked of the workspace. -/
def Move.IsPassive : Move → Prop
  | .event .work | .ring | .wait _ => True
  | _ => False

theorem Move.IsPassive.isFine {m : Move} (h : m.IsPassive) : m.IsFine := by
  cases m with
  | event e =>
    cases e with
    | work => trivial
    | _ => exact h.elim
  | ring => trivial
  | wait time => trivial

def Passes (w w' : Workspace ℚ) : Prop :=
  ∃ moves, (∀ m ∈ moves, Move.IsPassive m) ∧ w' = w.runMoves moves

theorem Passes.refl (w : Workspace ℚ) : Passes w w := ⟨[], nofun, rfl⟩

theorem Passes.trans (h : Passes w w') (h' : Passes w' w'') : Passes w w'' := by
  obtain ⟨moves, hm, rfl⟩ := h
  obtain ⟨more, hm', rfl⟩ := h'
  exact ⟨moves ++ more, fun m hx => (List.mem_append.mp hx).elim (hm m) (hm' m),
    (runMoves_append w moves more).symm⟩

theorem passes_move (w : Workspace ℚ) {m : Move} (hm : m.IsPassive) : Passes w (w.move m) :=
  ⟨[m], by simpa using hm, rfl⟩

theorem passes_workFor (n : Nat) (w : Workspace ℚ) : Passes w (workFor n w) := by
  induction n generalizing w with
  | zero => exact .refl w
  | succ n ih =>
    unfold workFor
    split
    · exact .refl w
    · exact (passes_move w (m := .event .work) trivial).trans (ih _)

theorem passes_drain (w : Workspace ℚ) : Passes w w.drain := passes_workFor _ w

/-! Alarms that ring at one time -/

def withAlarms (w : Workspace ℚ) (alarms : List (ℚ × Alarm)) : Workspace ℚ :=
  { w with agenda := { w.agenda with alarms } }

/-- An alarm that rings sets no other. -/
theorem ring_withAlarms (w : Workspace ℚ) (alarms : List (ℚ × Alarm)) (alarm : Alarm) :
    ring (w.withAlarms alarms) alarm = (ring w alarm).withAlarms alarms := by
  cases alarm with
  | reply r reply => rfl
  | limiter r =>
    have hd : (w.withAlarms alarms).desk = w.desk := rfl
    rcases Desk.limiterWake_cases w.desk r with ⟨-, he⟩ | ⟨-, he⟩
    · simp only [ring, hd, he]
      rfl
    · simp only [ring, hd, he]
      rfl
  | timer debouncer timer =>
    have hd : (w.withAlarms alarms).debouncers = w.debouncers := rfl
    have hwake (d : Debouncer ℚ) : (d.wake timer).2 = [] ∨ (d.wake timer).2 = [.turn timer] := by
      unfold Debouncer.wake
      split
      · split
        · exact .inr rfl
        · exact .inl rfl
      · exact .inl rfl
    simp only [ring, withDebouncer, hd]
    split
    · rename_i buffer d _
      rcases hwake d with he | he
      · simp only [he]
        rfl
      · simp only [he]
        rfl
    · rfl

theorem passes_rings (entries rest : List (ℚ × Alarm)) (w : Workspace ℚ) :
    Passes (w.withAlarms (entries ++ rest))
      ((entries.map (·.2)).foldl ring (w.withAlarms rest)) := by
  induction entries generalizing w with
  | nil => exact .refl _
  | cons entry entries ih =>
    have hone := passes_move (w.withAlarms ((entry :: entries) ++ rest)) (m := .ring) trivial
    have hmove : (w.withAlarms ((entry :: entries) ++ rest)).move .ring =
        (ring w entry.2).withAlarms (entries ++ rest) :=
      ring_withAlarms w (entries ++ rest) entry.2
    rw [hmove] at hone
    have hrest := ih (ring w entry.2)
    rw [← ring_withAlarms w rest] at hrest
    exact hone.trans hrest

/-! Instants -/

theorem Passes.orderly (h : Passes w w') (ho : w.Orderly) : w'.Orderly := by
  obtain ⟨moves, hm, rfl⟩ := h
  exact (steps_run ho fun m hx => (hm m hx).isFine).2

theorem now_workFor (n : Nat) (h : w.Orderly) : (workFor n w).agenda.now = w.agenda.now := by
  induction n generalizing w with
  | zero => rfl
  | succ n ih =>
    unfold workFor
    split
    · rfl
    · have hwork := advances_work h
      exact (ih (hwork.orderly h)).trans hwork.now

theorem now_rings (alarms : List Alarm) (w : Workspace ℚ) :
    (alarms.foldl ring w).agenda.now = w.agenda.now := by
  have hone (w : Workspace ℚ) (alarm : Alarm) : (ring w alarm).agenda.now = w.agenda.now := by
    cases alarm with
    | reply r reply => rfl
    | limiter r => exact (applyDesk_keeps w _).1
    | timer debouncer timer =>
      exact congrArg (·.now) (quiet_withDebouncer w debouncer (·.wake timer)).traffic
  induction alarms generalizing w with
  | nil => rfl
  | cons alarm alarms ih => exact (ih _).trans (hone w alarm)

theorem passes_leap {limit : Option ℚ} (ho : w.Orderly) (h : w.leap? limit = some w') :
    Passes w w' ∧ ∀ time, limit = some time → w.agenda.now ≤ time → w'.agenda.now ≤ time := by
  cases ha : w.agenda.alarms with
  | nil => simp [leap?, Agenda.nextRing?, ha] at h
  | cons first rest =>
    obtain ⟨ring₀, alarm⟩ := first
    by_cases hl : limit.any (· < ring₀) = true
    · simp [leap?, Agenda.nextRing?, ha, hl] at h
    · let now := if w.agenda.now < ring₀ then ring₀ else w.agenda.now
      let rings (entry : ℚ × Alarm) : Bool := !decide (now < entry.1)
      let waited : Workspace ℚ := { w with agenda := { w.agenda with now } }
      have hwait : Passes w waited := by
        have hmove := passes_move w (m := .wait ring₀) trivial
        have he : w.move (.wait ring₀) = waited := by
          simp only [move, waited, now]
          split <;> rfl
        rwa [he] at hmove
      have hsplit : waited.withAlarms (w.agenda.alarms.takeWhile rings ++
          w.agenda.alarms.dropWhile rings) = waited := by
        rw [List.takeWhile_append_dropWhile]
        rfl
      have hrings := passes_rings (w.agenda.alarms.takeWhile rings)
        (w.agenda.alarms.dropWhile rings) waited
      rw [hsplit] at hrings
      have he : w' = (((w.agenda.alarms.takeWhile rings).map (·.2)).foldl ring
          (waited.withAlarms (w.agenda.alarms.dropWhile rings))).drain := by
        simp only [leap?, Agenda.nextRing?, ha, List.head?_cons, Option.map_some, hl,
          Bool.false_eq_true, if_false, Option.some.injEq] at h
        rw [← h]
        rfl
      have hpasses := hwait.trans hrings
      have hdrained := hpasses.trans (passes_drain _)
      rw [← he] at hdrained
      refine ⟨hdrained, fun time hlimit hnow => ?_⟩
      rw [he, drain, now_workFor _ (hpasses.orderly ho), now_rings]
      change now ≤ time
      simp only [hlimit, Option.any_some, decide_eq_true_eq, not_lt] at hl
      simp only [now]
      split
      · exact hl
      · exact hnow

theorem passes_leapWhile (goOn : Workspace ℚ → Bool) (limit : Option ℚ) (n : Nat)
    (ho : w.Orderly) : Passes w (leapWhile goOn limit n w) ∧
      ∀ time, limit = some time → w.agenda.now ≤ time →
        (leapWhile goOn limit n w).agenda.now ≤ time := by
  induction n generalizing w with
  | zero => exact ⟨.refl w, fun _ _ h => h⟩
  | succ n ih =>
    unfold leapWhile
    split
    · split
      · rename_i w' hleap
        obtain ⟨hpasses, hnow⟩ := passes_leap ho hleap
        obtain ⟨hrest, hnow'⟩ := ih (hpasses.orderly ho)
        exact ⟨hpasses.trans hrest, fun time hl hw => hnow' time hl (hnow time hl hw)⟩
      · exact ⟨.refl w, fun _ _ h => h⟩
    · exact ⟨.refl w, fun _ _ h => h⟩

theorem passes_settle (ho : w.Orderly) : Passes w w.settle :=
  (passes_drain w).trans (passes_leapWhile _ _ _ ((passes_drain w).orderly ho)).1

theorem move_wait {time : ℚ} (h : w.agenda.now ≤ time) :
    w.move (.wait time) = { w with agenda := { w.agenda with now := time } } := by
  rcases h.lt_or_eq with hlt | rfl
  · exact if_pos hlt
  · exact if_neg (lt_irrefl _)

theorem passes_advance {dt : ℚ} (hdt : 0 ≤ dt) (ho : w.Orderly) : Passes w (w.advance dt) := by
  obtain ⟨hleaps, hnow⟩ := passes_leapWhile (fun _ => true) (some (w.drain.agenda.now + dt))
    w.drain.instants ((passes_drain w).orderly ho)
  have hwait := passes_move (w.drain.leapWhile (fun _ => true) (some (w.drain.agenda.now + dt))
    w.drain.instants) (m := .wait (w.drain.agenda.now + dt)) trivial
  rw [move_wait (hnow _ rfl (le_add_of_nonneg_right hdt))] at hwait
  exact ((passes_drain w).trans hleaps).trans hwait

/-! Events -/

/-- An event that stops no fetch and turns no clock back. -/
def Event.IsFine : Event ℚ → Prop
  | .dispose => False
  | .advance dt => 0 ≤ dt
  | _ => True

/-- Whatever events do, moves do. -/
theorem exists_moves {events : List (Event ℚ)} (h : w.Orderly) (he : ∀ e ∈ events, e.IsFine) :
    ∃ moves, (∀ m ∈ moves, Move.IsFine m) ∧ w.run events = w.runMoves moves := by
  induction events generalizing w with
  | nil => exact ⟨[], nofun, rfl⟩
  | cons e events ih =>
    have hone : ∃ moves, (∀ m ∈ moves, Move.IsFine m) ∧ w.step e = w.runMoves moves := by
      have hfine := he e List.mem_cons_self
      have hsame (hm : Move.IsFine (.event e)) :
          ∃ moves, (∀ m ∈ moves, Move.IsFine m) ∧ w.step e = w.runMoves moves :=
        ⟨[.event e], by simpa using hm, rfl⟩
      cases e with
      | dispose => exact hfine.elim
      | advance dt =>
        obtain ⟨moves, hm, hpass⟩ := passes_advance hfine h
        exact ⟨moves, fun m hx => (hm m hx).isFine, hpass⟩
      | _ => exact hsame trivial
    obtain ⟨moves, hm, hstep⟩ := hone
    have ho := (steps_run h hm).2
    rw [← hstep] at ho
    obtain ⟨more, hm', hrest⟩ := ih ho fun e' hx => he e' (List.mem_cons_of_mem _ hx)
    refine ⟨moves ++ more, fun m hx => (List.mem_append.mp hx).elim (hm m) (hm' m), ?_⟩
    rw [runMoves_append, ← hstep, ← hrest]
    rfl

end CommitMessage.Workspace
