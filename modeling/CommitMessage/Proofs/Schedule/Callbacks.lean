import CommitMessage.Proofs.Register
import CommitMessage.Proofs.Schedule.Calls
import CommitMessage.Proofs.Schedule.Waiting

/-! What becomes of a callback that has begun. It goes on until its time is over, whatever happens
in the meantime; only a cancel stops it, and only if a timer runs it. -/

namespace CommitMessage.Debouncer

def Entry.start? : Entry ℚ → Option (Nat × ℚ)
  | .started run time => some (run, time)
  | _ => none

theorem Cancelled.mono {h h' : List (ℚ × Call)} {start stop : ℚ} (hc : Cancelled h start stop)
    (hh : ∀ call ∈ h, call ∈ h') : Cancelled h' start stop := by
  obtain ⟨call, hm, hcall⟩ := hc
  exact ⟨call, hh call hm, hcall⟩

namespace Session

variable {h h' : List (ℚ × Call)} {s s' s'' : Session ℚ} {runner : Runner} {run id : Nat}
  {time x : ℚ}

/-- The runs that have begun, the latest first. -/
def starts (s : Session ℚ) : List (Nat × ℚ) := s.record.filterMap Entry.start?

/-- What is noted at the end of a run. -/
def outcome (s : Session ℚ) (run : Nat) (time : ℚ) : Entry ℚ :=
  if s.fails run then .failed run else .ended run time

theorem mem_starts : (run, time) ∈ s.starts ↔ .started run time ∈ s.record := by
  rw [starts, List.mem_filterMap]
  constructor
  · rintro ⟨e, he, hs⟩
    cases e <;> cases hs
    exact he
  · exact fun he => ⟨_, he, rfl⟩

theorem outcome_congr (hf : s'.fails = s.fails) : s'.outcome run time = s.outcome run time := by
  rw [outcome, hf, outcome]

theorem endRun_eq (s : Session ℚ) (run : Nat) :
    s.endRun run = s.note (s.outcome run s.agenda.now) := by
  unfold endRun outcome
  split <;> rfl

/-- A runner that has begun its run, or is through with it. -/
def Spent (s : Session ℚ) : Runner → Prop
  | .timer id => id < s.debouncer.nextId ∧
      ∀ t, s.debouncer.find? id = some t → t.stage = .running
  | .caller id => id < s.nextCaller

/-- A runner whose run lasts from the one time to the other. -/
def Hosts (h : List (ℚ × Call)) (s : Session ℚ) (start stop : ℚ) : Runner → Prop
  | .timer id => ∃ t, s.debouncer.find? id = some t ∧ t.stage = .running ∧
      (t.calledOff = true → Cancelled h start stop)
  | .caller id => s.callers.get? id = some .callback

structure Underway (h : List (ℚ × Call)) (s : Session ℚ) (runner : Runner) (run : Nat)
    (time x : ℚ) : Prop where
  started : .started run time ∈ s.record
  lasts : s.lasts run = some x
  goes : (time + x, .callback runner) ∈ s.agenda.alarms ∨ .resume runner ∈ s.agenda.jobs
  alarm : ∀ t, (t, .callback runner) ∈ s.agenda.alarms → t = time + x
  resume : .resume runner ∈ s.agenda.jobs → s.agenda.now = time + x
  hosts : Hosts h s time (time + x) runner

structure Runs (h : List (ℚ × Call)) (s : Session ℚ) : Prop where
  counted : ∀ start ∈ s.starts, start.1 ≤ s.runs
  active : ∀ runner run, s.active.get? runner = some run → ∃ time x, Underway h s runner run time x
  alarms : ∀ time runner, (time, .callback runner) ∈ s.agenda.alarms → s.Spent runner
  resumes : ∀ runner, .resume runner ∈ s.agenda.jobs → s.Spent runner
  keys : s.callers.keys.Nodup
  callers : ∀ id w, s.callers.get? id = some w → id < s.nextCaller
  answered : ∀ id a, .returned id a ∈ s.record → id < s.nextCaller ∧ s.callers.get? id = none
  once : ∀ id a b, .returned id a ∈ s.record → .returned id b ∈ s.record → a = b

/-- What has become of a run. -/
inductive Fate (h : List (ℚ × Call)) (s : Session ℚ) (runner : Runner) (run : Nat) (time : ℚ) :
    Prop
  | goesOn (hactive : s.active.get? runner = some run)
  | ended (hle : time + (s.lasts run).getD 0 ≤ s.agenda.now)
      (hend : s.outcome run (time + (s.lasts run).getD 0) ∈ s.record)
      (hanswer : ∀ id, runner = .caller id → .returned id (some true) ∈ s.record)
  | stopped (x : ℚ) (hx : s.lasts run = some x) (hrunner : ∃ id, runner = .timer id)
      (hc : Cancelled h time (time + x))

/-! Fates in the course of time -/

/-- A step that loses no run. -/
structure Carries (h : List (ℚ × Call)) (s : Session ℚ) (h' : List (ℚ × Call)) (s' : Session ℚ) :
    Prop where
  record : ∀ e ∈ s.record, e ∈ s'.record
  now : s.agenda.now ≤ s'.agenda.now
  lasts : s'.lasts = s.lasts
  fails : s'.fails = s.fails
  calls : ∀ call ∈ h, call ∈ h'
  active : ∀ runner run time, .started run time ∈ s.record → s.active.get? runner = some run →
    Fate h' s' runner run time

theorem Fate.carry (hf : Fate h s runner run time) (hs : .started run time ∈ s.record)
    (hc : Carries h s h' s') : Fate h' s' runner run time := by
  cases hf with
  | goesOn hactive => exact hc.active runner run time hs hactive
  | ended hle hend hanswer =>
    refine .ended ?_ ?_ fun id he => hc.record _ (hanswer id he)
    · rw [hc.lasts]
      exact hle.trans hc.now
    · rw [outcome_congr hc.fails, hc.lasts]
      exact hc.record _ hend
  | stopped x hx hrunner hcan => exact .stopped x (hc.lasts ▸ hx) hrunner (hcan.mono hc.calls)

theorem Carries.trans (hc : Carries h s h' s') {h'' : List (ℚ × Call)}
    (hc' : Carries h' s' h'' s'') : Carries h s h'' s'' := by
  refine ⟨fun e he => hc'.record e (hc.record e he), hc.now.trans hc'.now, hc'.lasts.trans hc.lasts,
    hc'.fails.trans hc.fails, fun call hm => hc'.calls call (hc.calls call hm),
    fun runner run time hs ha => ?_⟩
  exact (hc.active runner run time hs ha).carry (hc.record _ hs) hc'

theorem Carries.refl (h : List (ℚ × Call)) (s : Session ℚ) : Carries h s h s :=
  ⟨fun _ => id, le_rfl, rfl, rfl, fun _ => id, fun _ _ _ _ ha => .goesOn ha⟩

/-! What leaves runs alone -/

/-- Runs go on while timers and the agenda change. -/
theorem Runs.beside (hr : Runs h s) {b : Debouncer ℚ} {a : Agenda ℚ Alarm Job}
    (hnow : s.agenda.now ≤ a.now) (hh : ∀ call ∈ h, call ∈ h')
    (halarms : ∀ t r, (t, .callback r) ∈ a.alarms ↔ (t, .callback r) ∈ s.agenda.alarms)
    (hjobs : ∀ r, .resume r ∈ a.jobs ↔ .resume r ∈ s.agenda.jobs)
    (hresume : ∀ r, .resume r ∈ a.jobs → a.now = s.agenda.now)
    (hnext : s.debouncer.nextId ≤ b.nextId)
    (hstage : ∀ id t, id < s.debouncer.nextId → b.find? id = some t →
      ∃ t', s.debouncer.find? id = some t' ∧ (t'.stage = .running → t.stage = .running))
    (hhosts : ∀ id run time x, Underway h s (.timer id) run time x →
      ∃ t, b.find? id = some t ∧ t.stage = .running ∧
        (t.calledOff = true → Cancelled h' time (time + x))) :
    Runs h' { s with debouncer := b, agenda := a } ∧
      Carries h s h' { s with debouncer := b, agenda := a } := by
  have hspent : ∀ r, s.Spent r → Spent { s with debouncer := b, agenda := a } r := by
    intro r hs
    cases r with
    | timer id =>
      refine ⟨hs.1.trans_le hnext, fun t hf => ?_⟩
      obtain ⟨t', hf', ht⟩ := hstage id t hs.1 hf
      exact ht (hs.2 t' hf')
    | caller id => exact hs
  refine ⟨{ hr with
    active := fun runner run ha => ?_
    alarms := fun t r hm => hspent r (hr.alarms t r ((halarms t r).mp hm))
    resumes := fun r hm => hspent r (hr.resumes r ((hjobs r).mp hm)) },
    fun _ => id, hnow, rfl, rfl, hh, fun _ _ _ _ ha => .goesOn ha⟩
  obtain ⟨time, x, hu⟩ := hr.active runner run ha
  refine ⟨time, x, hu.started, hu.lasts, ?_, fun t hm => hu.alarm t ((halarms t _).mp hm),
    fun hm => ?_, ?_⟩
  · exact hu.goes.imp (halarms _ _).mpr (hjobs _).mpr
  · exact (hresume _ hm).trans (hu.resume ((hjobs _).mp hm))
  · cases runner with
    | timer id => exact hhosts id run time x hu
    | caller id => exact hu.hosts

/-- A timer that runs no callback goes on to another stage. -/
theorem Runs.staged (hr : Runs h s) {b : Debouncer ℚ} {a : Agenda ℚ Alarm Job} {timer : Nat}
    {t : Timer} {stage : Stage} (hf : s.debouncer.find? timer = some t) (hs : t.stage ≠ .running)
    (hb : ∀ i, b.find? i =
      (s.debouncer.find? i).map fun t => if i = timer then { t with stage } else t)
    (hnext : b.nextId = s.debouncer.nextId) (hnow : a.now = s.agenda.now)
    (halarms : ∀ t r, (t, .callback r) ∈ a.alarms ↔ (t, .callback r) ∈ s.agenda.alarms)
    (hjobs : ∀ r, .resume r ∈ a.jobs ↔ .resume r ∈ s.agenda.jobs) :
    Runs h { s with debouncer := b, agenda := a } ∧
      Carries h s h { s with debouncer := b, agenda := a } := by
  have hother : ∀ i u, s.debouncer.find? i = some u → u.stage = .running → i ≠ timer := by
    rintro i u hfu hsu rfl
    obtain rfl := Option.some.inj (hf.symm.trans hfu)
    exact hs hsu
  refine hr.beside hnow.ge (fun _ => id) halarms hjobs (fun _ _ => hnow) hnext.ge
    (fun i u _ hfu => ?_) fun i run time x hu => ?_
  · rw [hb] at hfu
    obtain ⟨u', hfu', rfl⟩ := Option.map_eq_some_iff.mp hfu
    exact ⟨u', hfu', fun hr => by rw [if_neg (hother i u' hfu' hr), hr]⟩
  · obtain ⟨u, hfu, hsu, hcan⟩ := hu.hosts
    exact ⟨u, by rw [hb, hfu, Option.map_some, if_neg (hother i u hfu hsu)], hsu, hcan⟩

/-- The alarm of a callback has rung. -/
theorem Runs.ring (hr : Runs h s) {rest : List (ℚ × Alarm)}
    (ha : s.agenda.alarms = (time, .callback runner) :: rest) (hnow : s.agenda.now = time) :
    Runs h { s with agenda := { s.agenda with
      alarms := rest, jobs := s.agenda.jobs ++ [.resume runner] } } ∧
    Carries h s h { s with agenda := { s.agenda with
      alarms := rest, jobs := s.agenda.jobs ++ [.resume runner] } } := by
  have hsub : ∀ e ∈ rest, e ∈ s.agenda.alarms := fun e he => ha ▸ List.mem_cons_of_mem _ he
  have hfirst : (time, .callback runner) ∈ s.agenda.alarms := ha ▸ List.mem_cons_self
  refine ⟨{ hr with
    active := fun r run hactive => ?_
    alarms := fun t r hm => hr.alarms t r (hsub _ hm)
    resumes := fun r hm => ?_ }, fun _ => id, le_rfl, rfl, rfl, fun _ => id,
    fun _ _ _ _ hactive => .goesOn hactive⟩
  · obtain ⟨time', x, hu⟩ := hr.active r run hactive
    refine ⟨time', x, hu.started, hu.lasts, ?_, fun t hm => hu.alarm t (hsub _ hm), fun hm => ?_,
      hu.hosts⟩
    · rcases hu.goes with hm | hm
      · rw [ha] at hm
        rcases List.mem_cons.mp hm with he | hm
        · cases he
          exact .inr (List.mem_append_right _ (List.mem_singleton.mpr rfl))
        · exact .inl hm
      · exact .inr (List.mem_append_left _ hm)
    · rcases List.mem_append.mp hm with hm | hm
      · exact hu.resume hm
      · cases List.mem_singleton.mp hm
        exact hnow.trans (hu.alarm time hfirst)
  · rcases List.mem_append.mp hm with hm | hm
    · exact hr.resumes r hm
    · cases List.mem_singleton.mp hm
      exact hr.alarms time _ hfirst

/-! The end of a run -/

/-- A runner that has no run any more has no use for its alarm. -/
theorem Runs.forget (hr : Runs h s) {active : Register Runner Nat} {rest : List Job}
    (hactive : ∀ r run, active.get? r = some run → r ≠ runner ∧ s.active.get? r = some run)
    (hrest : ∀ job ∈ rest, job ∈ s.agenda.jobs)
    (hkeep : ∀ r, r ≠ runner → .resume r ∈ s.agenda.jobs → .resume r ∈ rest) :
    Runs h { s with active, agenda := { s.agenda with jobs := rest } } := by
  refine { hr with
    active := fun r run ha => ?_
    resumes := fun r hm => hr.resumes r (hrest _ hm) }
  obtain ⟨hne, ha⟩ := hactive r run ha
  obtain ⟨time, x, hu⟩ := hr.active r run ha
  exact ⟨time, x, { hu with
    goes := hu.goes.imp id (hkeep r hne)
    resume := fun hm => hu.resume (hrest _ hm) }⟩

theorem Runs.finishTimer (hr : Runs h s) (hno : s.active.get? (.timer id) = none) :
    Runs h (s.finishTimer id) := by
  have hspent : ∀ r, s.Spent r → (s.finishTimer id).Spent r := by
    intro r hs
    cases r with
    | timer other =>
      refine ⟨hs.1, fun t hf => hs.2 t ?_⟩
      rw [Session.finishTimer, find?_remove] at hf
      split at hf
      · cases hf
      · exact hf
    | caller other => exact hs
  refine { hr with
    active := fun r run ha => ?_
    alarms := fun t r hm => hspent r (hr.alarms t r hm)
    resumes := fun r hm => hspent r (hr.resumes r hm) }
  obtain ⟨time, x, hu⟩ := hr.active r run ha
  refine ⟨time, x, { hu with hosts := ?_ }⟩
  cases r with
  | timer other =>
    obtain ⟨t, hf, ht⟩ := hu.hosts
    refine ⟨t, ?_, ht⟩
    rw [Session.finishTimer, find?_remove, if_neg, hf]
    rintro rfl
    exact absurd (hno.symm.trans ha) nofun
  | caller other => exact hu.hosts

theorem Runs.returnCaller (hr : Runs h s) {w : Waiting} (hin : s.callers.get? id = some w)
    (hno : s.active.get? (.caller id) = none) (answer : Option Bool) :
    Runs h (s.returnCaller id answer) := by
  have hnew : ∀ a, .returned id a ∉ s.record := fun a hm => by
    rw [(hr.answered id a hm).2] at hin
    cases hin
  refine { hr with
    active := fun r run ha => ?_
    keys := Register.nodup_keys_filter hr.keys _
    callers := fun other w' hw => ?_
    answered := fun other a hm => ?_
    once := fun other a b ha hb => ?_ }
  · obtain ⟨time, x, hu⟩ := hr.active r run ha
    refine ⟨time, x, { hu with started := List.mem_cons_of_mem _ hu.started, hosts := ?_ }⟩
    cases r with
    | timer other => exact hu.hosts
    | caller other =>
      have hne : other ≠ id := by
        rintro rfl
        exact absurd (hno.symm.trans ha) nofun
      exact (Register.get?_erase ..).trans ((if_neg hne).trans hu.hosts)
  · change (s.callers.erase id).get? other = some w' at hw
    rw [Register.get?_erase] at hw
    split at hw
    · cases hw
    · exact hr.callers other w' hw
  · change other < s.nextCaller ∧ (s.callers.erase id).get? other = none
    rw [Register.get?_erase]
    rcases List.mem_cons.mp hm with he | hm
    · cases he
      exact ⟨hr.callers id w hin, if_pos rfl⟩
    · refine ⟨(hr.answered other a hm).1, ?_⟩
      rw [(hr.answered other a hm).2, ite_self]
  · rcases List.mem_cons.mp ha with he | ha
    · cases he
      rcases List.mem_cons.mp hb with he | hb
      · cases he
        rfl
      · exact absurd hb (hnew b)
    · rcases List.mem_cons.mp hb with he | hb
      · cases he
        exact absurd ha (hnew a)
      · exact hr.once other a b ha hb

/-- A note that says neither that a run begins nor that a caller has its answer. -/
theorem Runs.note (hr : Runs h s) {e : Entry ℚ} (hs : e.start? = none)
    (ha : ∀ id a, e ≠ .returned id a) : Runs h (s.note e) := by
  have hstarts : (s.note e).starts = s.starts := List.filterMap_cons_none hs
  have hold : ∀ id a, .returned id a ∈ (s.note e).record → .returned id a ∈ s.record := by
    intro id a hm
    exact (List.mem_cons.mp hm).resolve_left fun he => ha id a he.symm
  refine { hr with
    counted := hstarts ▸ hr.counted
    active := fun r run hactive => ?_
    answered := fun id a hm => hr.answered id a (hold id a hm)
    once := fun id a b hm hm' => hr.once id a b (hold id a hm) (hold id b hm') }
  obtain ⟨time, x, hu⟩ := hr.active r run hactive
  exact ⟨time, x, { hu with started := List.mem_cons_of_mem _ hu.started }⟩

theorem start?_outcome (s : Session ℚ) (run : Nat) (time : ℚ) :
    (s.outcome run time).start? = none := by
  unfold outcome
  split <;> rfl

theorem Runs.leave (hr : Runs h s) (hno : s.active.get? runner = none)
    (hcaller : ∀ id, runner = .caller id → s.callers.get? id = some .callback) :
    Runs h (s.leave runner) := by
  cases runner with
  | timer id => exact hr.finishTimer hno
  | caller id => exact hr.returnCaller (hcaller id rfl) hno _

/-- What a runner leaves behind is as it was. -/
theorem leave_keeps (s : Session ℚ) (runner : Runner) :
    (s.leave runner).agenda = s.agenda ∧ (s.leave runner).active = s.active ∧
      (s.leave runner).lasts = s.lasts ∧ (s.leave runner).fails = s.fails ∧
      (s.leave runner).starts = s.starts ∧ (∀ e ∈ s.record, e ∈ (s.leave runner).record) ∧
      ∀ id, runner = .caller id → .returned id (some true) ∈ (s.leave runner).record := by
  cases runner with
  | timer timer => exact ⟨rfl, rfl, rfl, rfl, rfl, fun _ => id, nofun⟩
  | caller caller =>
    refine ⟨rfl, rfl, rfl, rfl, rfl, fun e he => List.mem_cons_of_mem _ he, fun other he => ?_⟩
    cases he
    exact List.mem_cons_self

/-- The runner is through with its run. -/
theorem Runs.finish (hr : Runs h s) (hno : s.active.get? runner = none)
    (hcaller : ∀ id, runner = .caller id → s.callers.get? id = some .callback)
    (hx : time + (s.lasts run).getD 0 = s.agenda.now) :
    Runs h ((s.endRun run).leave runner) ∧ Carries h s h ((s.endRun run).leave runner) ∧
      Fate h ((s.endRun run).leave runner) runner run time ∧
      ((s.endRun run).leave runner).starts = s.starts := by
  rw [endRun_eq]
  have hnote : Runs h (s.note (s.outcome run s.agenda.now)) := by
    refine hr.note (start?_outcome ..) fun id a he => ?_
    unfold outcome at he
    split at he <;> cases he
  obtain ⟨hagenda, hactive, hlasts, hfails, hstarts, hrecord, hanswer⟩ :=
    leave_keeps (s.note (s.outcome run s.agenda.now)) runner
  refine ⟨hnote.leave hno hcaller, ⟨fun e he => hrecord e (List.mem_cons_of_mem _ he),
      (congrArg Agenda.now hagenda).ge, hlasts, hfails, fun _ => id,
      fun r run time _ ha => .goesOn ?_⟩,
    .ended ?_ ?_ hanswer, hstarts.trans ?_⟩
  · rw [hactive]
    exact ha
  · rw [hlasts, hagenda]
    exact hx.le
  · rw [outcome_congr hfails, hlasts]
    refine hrecord _ (List.mem_cons.mpr (.inl ?_))
    exact congrArg (s.outcome run) hx
  · exact List.filterMap_cons_none (start?_outcome ..)

/-! The beginning of a run -/

/-- A runner of which nothing is known yet. -/
structure Fresh (s : Session ℚ) (runner : Runner) : Prop where
  active : s.active.get? runner = none
  alarm : ∀ t, (t, .callback runner) ∉ s.agenda.alarms
  resume : .resume runner ∉ s.agenda.jobs

/-- A run that takes its time: an alarm is set for its end. -/
theorem Runs.carry (hr : Runs h s) (hf : s.Fresh runner) (hs : s.Spent runner)
    (hstarted : .started run s.agenda.now ∈ s.record) (hx : s.lasts run = some x)
    (hhosts : Hosts h s s.agenda.now (s.agenda.now + x) runner) :
    Runs h ({ s with active := s.active.set runner run }.later x (.callback runner)) := by
  refine { hr with
    active := fun r run' ha => ?_
    alarms := fun t r hm => ?_ }
  · change (s.active.set runner run).get? r = some run' at ha
    rw [Register.get?_set] at ha
    split at ha
    · next he =>
      obtain rfl := Option.some.inj ha
      subst he
      refine ⟨s.agenda.now, x, hstarted, hx, .inl ?_, fun t hm => ?_, fun hm => ?_, hhosts⟩
      · exact Agenda.mem_insertAlarm.mpr (.inl rfl)
      · rcases Agenda.mem_insertAlarm.mp hm with he | hm
        · exact congrArg Prod.fst he
        · exact absurd hm (hf.alarm t)
      · exact absurd hm hf.resume
    · next hne =>
      obtain ⟨time', x', hu⟩ := hr.active r run' ha
      refine ⟨time', x', { hu with
        goes := hu.goes.imp (fun hm => Agenda.mem_insertAlarm.mpr (.inr hm)) id
        alarm := fun t hm => ?_ }⟩
      refine hu.alarm t ((Agenda.mem_insertAlarm.mp hm).resolve_left fun he => hne ?_)
      cases he
      rfl
  · rcases Agenda.mem_insertAlarm.mp hm with he | hm
    · cases he
      exact hs
    · exact hr.alarms t r hm

/-- The session when a run has begun, before anything comes of it. -/
def begun (s : Session ℚ) : Session ℚ :=
  { s with runs := s.runs + 1 }.note (.started (s.runs + 1) s.agenda.now)

theorem startRun_of_none (hx : s.lasts (s.runs + 1) = none) (runner : Runner) :
    s.startRun runner = (s.begun.endRun (s.runs + 1)).leave runner := by
  simp [startRun, begun, Session.note, hx]

theorem startRun_of_some (hx : s.lasts (s.runs + 1) = some x) (runner : Runner) :
    s.startRun runner = { s.begun with
      active := s.active.set runner (s.runs + 1) }.later x (.callback runner) := by
  simp [startRun, begun, Session.note, hx]

theorem Runs.begun (hr : Runs h s) : Runs h s.begun ∧ Carries h s h s.begun := by
  have hrecord : ∀ e ∈ s.record, e ∈ s.begun.record := fun e he => List.mem_cons_of_mem _ he
  have hold : ∀ id a, .returned id a ∈ s.begun.record → .returned id a ∈ s.record :=
    fun id a hm => (List.mem_cons.mp hm).resolve_left nofun
  refine ⟨{ hr with
    counted := fun start hm => ?_
    active := fun r run ha => ?_
    answered := fun id a hm => hr.answered id a (hold id a hm)
    once := fun id a b hm hm' => hr.once id a b (hold id a hm) (hold id b hm') },
    hrecord, le_rfl, rfl, rfl, fun _ => id, fun _ _ _ _ ha => .goesOn ha⟩
  · rcases List.mem_cons.mp hm with rfl | hm
    · exact le_rfl
    · exact Nat.le_succ_of_le (hr.counted start hm)
  · obtain ⟨time, x, hu⟩ := hr.active r run ha
    exact ⟨time, x, { hu with started := hrecord _ hu.started }⟩

theorem Runs.startRun (hr : Runs h s) (hf : s.Fresh runner) (hs : s.Spent runner)
    (hhosts : ∀ x, Hosts h s s.agenda.now (s.agenda.now + x) runner) :
    Runs h (s.startRun runner) ∧ Carries h s h (s.startRun runner) ∧
      Fate h (s.startRun runner) runner (s.runs + 1) s.agenda.now ∧
      (s.startRun runner).starts = (s.runs + 1, s.agenda.now) :: s.starts := by
  obtain ⟨hbegun, hcarries⟩ := hr.begun
  have hstarts : s.begun.starts = (s.runs + 1, s.agenda.now) :: s.starts := rfl
  cases hx : s.lasts (s.runs + 1) with
  | none =>
    have hcaller : ∀ id, runner = .caller id → s.begun.callers.get? id = some .callback := by
      rintro id rfl
      exact hhosts 0
    have hstop : s.agenda.now + (s.begun.lasts (s.runs + 1)).getD 0 = s.begun.agenda.now := by
      change s.agenda.now + (s.lasts (s.runs + 1)).getD 0 = s.agenda.now
      rw [hx, Option.getD_none, add_zero]
    obtain ⟨hr', hc', hfate, hstarts'⟩ := hbegun.finish hf.active hcaller hstop
    rw [startRun_of_none hx]
    exact ⟨hr', hcarries.trans hc', hfate, hstarts'.trans hstarts⟩
  | some x =>
    rw [startRun_of_some hx]
    have hstarted : .started (s.runs + 1) s.begun.agenda.now ∈ s.begun.record := List.mem_cons_self
    have hr' := hbegun.carry ⟨hf.active, hf.alarm, hf.resume⟩ hs hstarted hx (hhosts x)
    refine ⟨hr', hcarries.trans ⟨fun _ => id, le_rfl, rfl, rfl, fun _ => id,
      fun r run time _ ha => .goesOn ?_⟩, .goesOn ?_, hstarts⟩
    · refine (Register.get?_set ..).trans ((if_neg ?_).trans ha)
      rintro rfl
      exact absurd (hf.active.symm.trans ha) nofun
    · exact (Register.get?_set ..).trans (if_pos rfl)

end Session

end CommitMessage.Debouncer
