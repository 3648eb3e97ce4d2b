import CommitMessage.Proofs.Schedule.Callbacks

/-! A debouncer with its callbacks, one job, one alarm or one call at a time. -/

namespace CommitMessage.Debouncer.Session

/-- Alarms in their order, and none that should have rung. -/
structure InTime (a : Agenda ℚ Alarm Job) : Prop where
  sorted : a.alarms.Pairwise (·.1 ≤ ·.1)
  ahead : ∀ alarm ∈ a.alarms, a.now ≤ alarm.1

structure Kept (d : ℚ) (h : List (ℚ × Call)) (s : Session ℚ) : Prop where
  waits : Waits d h s.debouncer s.agenda
  begun : Begun d h s.agenda.now s.debouncer.isPending s.starts
  runs : Runs h s
  inTime : InTime s.agenda
  lasting : ∀ run x, s.lasts run = some x → 0 ≤ x

/-- A step of a session that is kept up. No run is lost, and of each that begins it is known what
becomes of it. -/
structure Goes (d : ℚ) (h : List (ℚ × Call)) (s : Session ℚ) (h' : List (ℚ × Call))
    (s' : Session ℚ) : Prop where
  kept : Kept d h' s'
  carries : Carries h s h' s'
  told : ∀ run time, (run, time) ∈ s'.starts →
    (run, time) ∈ s.starts ∨ ∃ runner, Fate h' s' runner run time

variable {d : ℚ} {h h' : List (ℚ × Call)} {s s' s'' : Session ℚ} {runner : Runner} {run i : Nat}
  {time x : ℚ} {rest : List Job} {t : Timer} {b : Debouncer ℚ} {a : Agenda ℚ Alarm Job}

theorem InTime.later (ha : InTime a) (hx : 0 ≤ x) (alarm : Alarm) : InTime (a.later x alarm) := by
  refine ⟨Agenda.pairwise_insertAlarm ha.sorted, fun e he => ?_⟩
  rcases Agenda.mem_insertAlarm.mp he with rfl | he
  · exact le_add_of_nonneg_right hx
  · exact ha.ahead e he

theorem Goes.trans {h'' : List (ℚ × Call)} (hg : Goes d h s h' s') (hg' : Goes d h' s' h'' s'') :
    Goes d h s h'' s'' := by
  refine ⟨hg'.kept, hg.carries.trans hg'.carries, fun run time hm => ?_⟩
  rcases hg'.told run time hm with hm | hf
  · refine (hg.told run time hm).imp id ?_
    rintro ⟨runner, hf⟩
    exact ⟨runner, hf.carry (mem_starts.mp hm) hg'.carries⟩
  · exact .inr hf

/-! What signals come to -/

theorem foldl_signal_turns (s : Session ℚ) (timers : List Nat) :
    (timers.map Signal.turn).foldl signal s =
      { s with agenda := { s.agenda with jobs := s.agenda.jobs ++ timers.map .timer } } := by
  induction timers generalizing s with
  | nil => simp
  | cons timer timers ih => simp [signal, soon, Agenda.soon, ih]

theorem apply_turns {change : Debouncer ℚ × List (Signal ℚ)} {timers : List Nat}
    (hc : change.2 = timers.map .turn) : s.apply change = { s with
      debouncer := change.1
      agenda := { s.agenda with jobs := s.agenda.jobs ++ timers.map .timer } } := by
  rw [apply, hc, foldl_signal_turns]

theorem callCallers_eq (s : Session ℚ) : ∃ callers : List Nat, s.callCallers =
    { s with agenda := { s.agenda with jobs := s.agenda.jobs ++ callers.map Job.caller } } := by
  unfold callCallers
  refine List.foldlRecOn (motive := fun s' => ∃ callers : List Nat, s' =
      { s with agenda := { s.agenda with jobs := s.agenda.jobs ++ callers.map Job.caller } })
    s.callers _ ?_ ?_
  · exact ⟨[], by simp⟩
  · rintro _ ⟨callers, rfl⟩ entry -
    split
    · exact ⟨callers ++ [entry.1], by simp [soon, Agenda.soon]⟩
    · exact ⟨callers, rfl⟩

/-! Jobs -/

def withJobs (s : Session ℚ) (jobs : List Job) : Session ℚ :=
  { s with agenda := { s.agenda with jobs } }

/-- Jobs of callers are no concern of timers and callbacks. -/
theorem Kept.jobs (hk : Kept d h s) {jobs : List Job}
    (ht : ∀ i, .timer i ∈ s.agenda.jobs → .timer i ∈ jobs)
    (hr : ∀ r, .resume r ∈ jobs ↔ .resume r ∈ s.agenda.jobs) :
    Goes d h s h (s.withJobs jobs) := by
  obtain ⟨hruns, hcarries⟩ := hk.runs.beside (b := s.debouncer)
    (a := { s.agenda with jobs }) le_rfl (fun _ => id) (fun _ _ => Iff.rfl) hr (fun _ _ => rfl)
    le_rfl (fun i t _ hf => ⟨t, hf, id⟩) fun i run time x hu => hu.hosts
  exact ⟨{ hk with
    waits := hk.waits.beside rfl ht fun _ _ => Iff.rfl
    runs := hruns
    inTime := ⟨hk.inTime.sorted, hk.inTime.ahead⟩ }, hcarries, fun _ _ => .inl⟩

theorem Kept.callCallers (hk : Kept d h s) : Goes d h s h s.callCallers := by
  obtain ⟨callers, he⟩ := s.callCallers_eq
  rw [he]
  refine hk.jobs (fun i hm => List.mem_append_left _ hm) fun r => ?_
  rw [List.mem_append, or_iff_left]
  intro hm
  obtain ⟨caller, -, he⟩ := List.mem_map.mp hm
  cases he

theorem Kept.perform_caller (hk : Kept d h s) (hj : s.agenda.jobs = .caller i :: rest) :
    Goes d h s h (perform (s.withJobs rest) (.caller i)) := by
  have hpop : Goes d h s h (s.withJobs rest) := by
    refine hk.jobs (fun i hm => mem_of_ne hj hm fun he => by cases he) fun r => ?_
    rw [hj, List.mem_cons, or_iff_right fun he => by cases he]
  have hcallers : (s.withJobs rest).callers = s.callers := rfl
  rw [perform, hcallers]
  cases hw : s.callers.get? i with
  | none => exact hpop
  | some w =>
    dsimp only
    split
    · next hover =>
      have hno : s.active.get? (.caller i) = none := by
        cases ha : s.active.get? (.caller i) with
        | none => rfl
        | some run =>
          obtain ⟨time, x, hu⟩ := hk.runs.active _ _ ha
          obtain rfl := Option.some.inj (hw.symm.trans hu.hosts)
          cases hover
      exact hpop.trans ⟨{ hpop.1 with runs := hpop.1.runs.returnCaller hw hno none },
        ⟨fun e he => List.mem_cons_of_mem _ he, le_rfl, rfl, rfl, fun _ => id,
          fun _ _ _ _ ha => .goesOn ha⟩, fun _ _ => .inl⟩
    · exact hpop

/-! The end of a run -/

/-- The runner has lost its run. -/
def released (s : Session ℚ) (runner : Runner) : Session ℚ :=
  { s with active := s.active.erase runner }

theorem get?_released (s : Session ℚ) (runner : Runner) :
    (s.released runner).active.get? runner = none :=
  (Register.get?_erase ..).trans (if_pos rfl)

theorem active_of_released (runner r : Runner) (run : Nat)
    (ha : (s.released runner).active.get? r = some run) :
    r ≠ runner ∧ s.active.get? r = some run := by
  rw [released, Register.get?_erase] at ha
  split at ha
  · cases ha
  · next hne => exact ⟨hne, ha⟩

theorem resume_of_none (ha : s.active.get? runner = none) : s.resume runner = s := by
  simp only [Session.resume, ha]

/-- Who runs a callback is through with it in either of two ways. -/
theorem resume_cases (ha : s.active.get? runner = some run) :
    (∃ i, runner = .timer i ∧ (s.debouncer.find? i).all (·.calledOff) = true ∧
      s.resume runner = (s.released runner).finishTimer i) ∨
    s.resume runner = ((s.released runner).endRun run).leave runner := by
  cases runner with
  | timer i =>
    cases hoff : (s.debouncer.find? i).all (·.calledOff) with
    | true => exact .inl ⟨i, rfl, hoff, by simp [Session.resume, ha, hoff, Session.leave, released]⟩
    | false => exact .inr (by simp [Session.resume, ha, hoff, released])
  | caller i => exact .inr (by simp [Session.resume, ha, released])

/-- The fate of its run is all that a runner decides. -/
theorem Kept.carries (hk : Kept d h s) (hu : Underway h s runner run time x)
    (ha : s.active.get? runner = some run)
    (hc : Carries h ((s.withJobs rest).released runner) h s')
    (hf : Fate h s' runner run time) : Carries h s h s' := by
  refine ⟨hc.record, hc.now, hc.lasts, hc.fails, hc.calls, fun r run' time' hs ha' => ?_⟩
  by_cases he : r = runner
  · subst he
    obtain rfl := Option.some.inj (ha.symm.trans ha')
    obtain rfl := hk.begun.time_unique (mem_starts.mpr hs) (mem_starts.mpr hu.started)
    exact hf
  · refine hc.active r run' time' hs ?_
    exact (Register.get?_erase ..).trans ((if_neg he).trans ha')

/-- What a runner leaves behind when its run has ended. -/
theorem finish_keeps (s : Session ℚ) (runner : Runner) (run : Nat) :
    ((s.endRun run).leave runner).agenda = s.agenda ∧
      ((s.endRun run).leave runner).lasts = s.lasts ∧
      ((s.endRun run).leave runner).debouncer = match runner with
        | .timer i => s.debouncer.remove i
        | .caller _ => s.debouncer := by
  rw [endRun_eq]
  cases runner with
  | timer i => exact ⟨rfl, rfl, rfl⟩
  | caller i => exact ⟨rfl, rfl, rfl⟩

theorem Waits.finish (hw : Waits d h s.debouncer s.agenda) (run : Nat)
    (hc : ∀ i, runner = .timer i → s.debouncer.current ≠ some i) :
    Waits d h ((s.endRun run).leave runner).debouncer ((s.endRun run).leave runner).agenda ∧
      ((s.endRun run).leave runner).debouncer.isPending = s.debouncer.isPending := by
  obtain ⟨hagenda, -, hdebouncer⟩ := finish_keeps s runner run
  rw [hagenda, hdebouncer]
  cases runner with
  | timer i => exact ⟨hw.remove (hc i rfl), rfl⟩
  | caller i => exact ⟨hw, rfl⟩

theorem Kept.perform_resume (hk : Kept d h s) (hj : s.agenda.jobs = .resume runner :: rest) :
    Goes d h s h (perform (s.withJobs rest) (.resume runner)) := by
  have hrest : ∀ job ∈ rest, job ∈ s.agenda.jobs := fun job hm => hj ▸ List.mem_cons_of_mem _ hm
  have hkeep : ∀ r, r ≠ runner → .resume r ∈ s.agenda.jobs → .resume r ∈ rest :=
    fun r hne hm => mem_of_ne hj hm fun he => hne (by cases he; rfl)
  have hwaits : Waits d h (s.withJobs rest).debouncer (s.withJobs rest).agenda :=
    hk.waits.beside rfl (fun i hm => mem_of_ne hj hm nofun) fun _ _ => Iff.rfl
  have hinTime : InTime (s.withJobs rest).agenda := ⟨hk.inTime.sorted, hk.inTime.ahead⟩
  rw [perform]
  cases ha : (s.withJobs rest).active.get? runner with
  | none =>
    rw [resume_of_none ha]
    have hne : ∀ r run, s.active.get? r = some run → r ≠ runner := by
      rintro r run har rfl
      exact absurd (ha.symm.trans har) nofun
    have hruns : Runs h (s.withJobs rest) :=
      hk.runs.forget (fun r run har => ⟨hne r run har, har⟩) hrest hkeep
    exact ⟨⟨hwaits, hk.begun, hruns, hinTime, hk.lasting⟩,
      ⟨fun _ => id, le_rfl, rfl, rfl, fun _ => id, fun _ _ _ _ ha => .goesOn ha⟩,
      fun _ _ => .inl⟩
  | some run =>
    obtain ⟨time, x, hu⟩ := hk.runs.active runner run ha
    have hnow := hu.resume (hj ▸ List.mem_cons_self)
    have hruns : Runs h ((s.withJobs rest).released runner) :=
      hk.runs.forget (active_of_released runner) hrest hkeep
    have hno := get?_released (s.withJobs rest) runner
    have hcurrent : ∀ i, runner = .timer i → s.debouncer.current ≠ some i := by
      rintro i rfl
      obtain ⟨t, hf, hs, -⟩ := hu.hosts
      exact hk.waits.ne_of_running hf hs
    rcases resume_cases ha with ⟨i, rfl, hoff, he⟩ | he
    · rw [he]
      obtain ⟨t, hf, hs, hcan⟩ := hu.hosts
      have hfind : (s.withJobs rest).debouncer.find? i = some t := hf
      rw [hfind, Option.all_some] at hoff
      refine ⟨⟨hwaits.remove (hcurrent i rfl), hk.begun, hruns.finishTimer hno, hinTime,
        hk.lasting⟩, ?_, fun _ _ => .inl⟩
      refine hk.carries hu ha ⟨fun _ => id, le_rfl, rfl, rfl, fun _ => id, ?_⟩
        (.stopped x hu.lasts ⟨i, rfl⟩ (hcan hoff))
      exact fun _ _ _ _ ha => .goesOn ha
    · rw [he]
      have hcaller : ∀ i, runner = .caller i → s.callers.get? i = some .callback := by
        rintro i rfl
        exact hu.hosts
      have hx : time + (s.lasts run).getD 0 = s.agenda.now := by
        rw [hu.lasts, hnow, Option.getD_some]
      obtain ⟨hruns', hcarries, hfate, hstarts⟩ := hruns.finish hno hcaller hx
      obtain ⟨hwaits', hpending⟩ :=
        Waits.finish (s := (s.withJobs rest).released runner) hwaits run hcurrent
      obtain ⟨hagenda, hlasts, -⟩ := finish_keeps ((s.withJobs rest).released runner) runner run
      refine ⟨⟨hwaits', ?_, hruns', hagenda ▸ hinTime, hlasts ▸ hk.lasting⟩, ?_, fun _ _ hm =>
        .inl (hstarts ▸ hm)⟩
      · rw [hpending, hstarts, hagenda]
        exact hk.begun
      · exact hk.carries hu ha hcarries hfate

/-! Turns of timers -/

/-- The turn of a timer is over. -/
theorem Kept.popped (hk : Kept d h s) (hj : s.agenda.jobs = .timer i :: rest) :
    Runs h (s.withJobs rest) ∧ Carries h s h (s.withJobs rest) ∧
      InTime (s.withJobs rest).agenda := by
  have hresume : ∀ r, .resume r ∈ rest ↔ .resume r ∈ s.agenda.jobs := fun r => by
    rw [hj, List.mem_cons, or_iff_right nofun]
  obtain ⟨hruns, hcarries⟩ := hk.runs.beside (b := s.debouncer)
    (a := { s.agenda with jobs := rest }) le_rfl (fun _ => id) (fun _ _ => Iff.rfl) hresume
    (fun _ _ => rfl) le_rfl (fun i t _ hf => ⟨t, hf, id⟩) fun i run time x hu => hu.hosts
  exact ⟨hruns, hcarries, hk.inTime.sorted, hk.inTime.ahead⟩

theorem Kept.turn_passes (hk : Kept d h s) (hj : s.agenda.jobs = .timer i :: rest)
    (hp : ∀ t, s.debouncer.find? i = some t →
      t.calledOff = false ∧ (t.stage = .sleeping ∨ t.stage = .running)) :
    Goes d h s h (s.withJobs rest) := by
  obtain ⟨hruns, hcarries, hinTime⟩ := hk.popped hj
  exact ⟨⟨hk.waits.turn_passes hj hp, hk.begun, hruns, hinTime, hk.lasting⟩, hcarries,
    fun _ _ => .inl⟩

/-- A timer that is called off ends, and with it the callback that it runs. -/
theorem Kept.turn_ends (hk : Kept d h s) (hj : s.agenda.jobs = .timer i :: rest)
    (hf : s.debouncer.find? i = some t) (hoff : t.calledOff = true) :
    Goes d h s h (((s.withJobs rest).released (.timer i)).finishTimer i) := by
  obtain ⟨-, -, hinTime⟩ := hk.popped hj
  have hruns : Runs h ((s.withJobs rest).released (.timer i)) :=
    hk.runs.forget (active_of_released (.timer i)) (fun job hm => hj ▸ List.mem_cons_of_mem _ hm)
      fun r _ hm => mem_of_ne hj hm nofun
  have hruns := hruns.finishTimer (get?_released _ _)
  refine ⟨⟨hk.waits.turn_ends hj hf hoff, hk.begun, hruns, hinTime, hk.lasting⟩,
    ⟨fun _ => id, le_rfl, rfl, rfl, fun _ => id, fun r run time hs ha => ?_⟩, fun _ _ => .inl⟩
  by_cases he : r = .timer i
  · subst he
    obtain ⟨time', x, hu⟩ := hk.runs.active _ run ha
    obtain rfl := hk.begun.time_unique (mem_starts.mpr hs) (mem_starts.mpr hu.started)
    obtain ⟨t', hf', -, hcan⟩ := hu.hosts
    obtain rfl := Option.some.inj (hf.symm.trans hf')
    exact .stopped x hu.lasts ⟨i, rfl⟩ (hcan hoff)
  · exact .goesOn ((Register.get?_erase ..).trans ((if_neg he).trans ha))

/-- A timer has begun to sleep. -/
def asleep (s : Session ℚ) (d : ℚ) (timer : Nat) : Session ℚ :=
  { s with
    debouncer := s.debouncer.update timer fun t => { t with stage := .sleeping }
    agenda := s.agenda.later d (.timer timer) }

theorem Kept.turn_sleeps (hd : 0 < d) (hk : Kept d h s) (hj : s.agenda.jobs = .timer i :: rest)
    (hf : s.debouncer.find? i = some t) (hoff : t.calledOff = false) (hs : t.stage = .fresh) :
    Goes d h s h ((s.withJobs rest).asleep d i) := by
  obtain ⟨-, -, hinTime⟩ := hk.popped hj
  have halarms : ∀ t r, (t, .callback r) ∈ ((s.withJobs rest).agenda.later d (.timer i)).alarms ↔
      (t, .callback r) ∈ s.agenda.alarms := fun t r => by
    rw [Agenda.later, Agenda.mem_insertAlarm, or_iff_right nofun]
    exact Iff.rfl
  have hresume : ∀ r, .resume r ∈ rest ↔ .resume r ∈ s.agenda.jobs := fun r => by
    rw [hj, List.mem_cons, or_iff_right nofun]
  obtain ⟨hruns, hcarries⟩ := hk.runs.staged
    (b := s.debouncer.update i fun t => { t with stage := .sleeping })
    (a := (s.withJobs rest).agenda.later d (.timer i)) hf (by simp [hs])
    (find?_staged s.debouncer .sleeping i) rfl rfl halarms hresume
  exact ⟨⟨hk.waits.turn_sleeps hj hf hoff hs, hk.begun, hruns, hinTime.later hd.le _,
    hk.lasting⟩, hcarries, fun _ _ => .inl⟩

/-- What a run that begins does to timers and alarms. -/
theorem startRun_keeps (s : Session ℚ) (runner : Runner) :
    ((s.startRun runner).agenda = s.agenda ∨
      ∃ x, s.lasts (s.runs + 1) = some x ∧
        (s.startRun runner).agenda = s.agenda.later x (.callback runner)) ∧
      (s.startRun runner).lasts = s.lasts ∧
      ((s.startRun runner).debouncer = s.debouncer ∨
        ∃ i, runner = .timer i ∧ (s.startRun runner).debouncer = s.debouncer.remove i) := by
  cases hx : s.lasts (s.runs + 1) with
  | none =>
    rw [startRun_of_none hx]
    obtain ⟨hagenda, hlasts, hdebouncer⟩ := finish_keeps s.begun runner (s.runs + 1)
    refine ⟨.inl hagenda, hlasts, ?_⟩
    cases runner with
    | timer i => exact .inr ⟨i, rfl, hdebouncer⟩
    | caller i => exact .inl hdebouncer
  | some x =>
    rw [startRun_of_some hx]
    exact ⟨.inr ⟨x, rfl, rfl⟩, rfl, .inl rfl⟩

theorem goes_startRun (hw : Waits d h s.debouncer s.agenda) (hinTime : InTime s.agenda)
    (hlasting : ∀ run x, s.lasts run = some x → 0 ≤ x) (hr : Runs h s)
    (hb : Begun d h s.agenda.now s.debouncer.isPending ((s.runs + 1, s.agenda.now) :: s.starts))
    (hc : ∀ i, runner = .timer i → s.debouncer.current ≠ some i)
    (hf : s.Fresh runner) (hs : s.Spent runner)
    (hhosts : ∀ x, Hosts h s s.agenda.now (s.agenda.now + x) runner) :
    Goes d h s h (s.startRun runner) ∧
      Fate h (s.startRun runner) runner (s.runs + 1) s.agenda.now ∧
      (s.startRun runner).starts = (s.runs + 1, s.agenda.now) :: s.starts := by
  obtain ⟨hruns, hcarries, hfate, hstarts⟩ := hr.startRun hf hs hhosts
  obtain ⟨hagenda, hlasts, hdebouncer⟩ := startRun_keeps s runner
  have hnow : (s.startRun runner).agenda.now = s.agenda.now := by
    rcases hagenda with he | ⟨x, -, he⟩ <;> rw [he]
    rfl
  have hpending : (s.startRun runner).debouncer.isPending = s.debouncer.isPending := by
    rcases hdebouncer with he | ⟨i, -, he⟩ <;> rw [he]
    rfl
  have hwaits : Waits d h s.debouncer (s.startRun runner).agenda := by
    rcases hagenda with he | ⟨x, -, he⟩
    · exact he ▸ hw
    · rw [he]
      refine hw.beside rfl (fun _ => id) fun t i => ?_
      rw [Agenda.later, Agenda.mem_insertAlarm, or_iff_right nofun]
  refine ⟨⟨⟨?_, ?_, hruns, ?_, hlasts ▸ hlasting⟩, hcarries, fun run time hm => ?_⟩, hfate,
    hstarts⟩
  · rcases hdebouncer with he | ⟨i, hi, he⟩
    · exact he ▸ hwaits
    · exact he ▸ hwaits.remove (hc i hi)
  · rw [hnow, hpending, hstarts]
    exact hb
  · rcases hagenda with he | ⟨x, hx, he⟩
    · exact he ▸ hinTime
    · exact he ▸ hinTime.later (hlasting _ x hx) _
  · rw [hstarts] at hm
    rcases List.mem_cons.mp hm with he | hm
    · cases he
      exact .inr ⟨runner, hfate⟩
    · exact .inl hm

/-- The quiet of a timer is over. -/
def overdue (s : Session ℚ) (timer : Nat) : Session ℚ :=
  { s with debouncer :=
      { s.debouncer with current := none }.update timer fun t => { t with stage := .running } }

/-- The callback begins. -/
theorem Kept.turn_runs (hd : 0 < d) (hk : Kept d h s) (hj : s.agenda.jobs = .timer i :: rest)
    (hf : s.debouncer.find? i = some t) (hoff : t.calledOff = false) (hs : t.stage = .awake) :
    Goes d h s h (((s.withJobs rest).overdue i).startRun (.timer i)) := by
  have hcur := hk.waits.alone i t hf hoff (by simp [hs])
  obtain ⟨-, -, hinTime⟩ := hk.popped hj
  have hresume : ∀ r, .resume r ∈ rest ↔ .resume r ∈ s.agenda.jobs := fun r => by
    rw [hj, List.mem_cons, or_iff_right nofun]
  have hnot : ¬s.Spent (.timer i) := fun hspent =>
    absurd (hs.symm.trans (hspent.2 t hf)) nofun
  have hstaged : ∀ id, ((s.withJobs rest).overdue i).debouncer.find? id =
      (s.debouncer.find? id).map fun t => if id = i then { t with stage := .running } else t :=
    fun id => find?_staged { s.debouncer with current := none } .running i id
  have hfind : ((s.withJobs rest).overdue i).debouncer.find? i =
      some { t with stage := .running } := by
    rw [hstaged, hf, Option.map_some, if_pos rfl]
  obtain ⟨hruns, hcarries⟩ := hk.runs.staged (b := ((s.withJobs rest).overdue i).debouncer)
    (a := { s.agenda with jobs := rest }) hf (by simp [hs]) hstaged rfl rfl (fun _ _ => Iff.rfl)
    hresume
  have hbegun : Begun d h s.agenda.now false ((s.runs + 1, s.agenda.now) :: s.starts) := by
    obtain ⟨u, t', hu, hf', -, hst⟩ := hk.waits.current i hcur
    obtain rfl := Option.some.inj (hf.symm.trans hf')
    rw [hs] at hst
    have hb := hk.begun
    rw [isPending, hcur, Option.isSome_some] at hb
    exact hb.fire hd hu hst fun start hm => Nat.lt_succ_of_le (hk.runs.counted start hm)
  have hno : s.active.get? (.timer i) = none := by
    cases ha : s.active.get? (.timer i) with
    | none => rfl
    | some run =>
      obtain ⟨time, x, hu⟩ := hk.runs.active _ run ha
      obtain ⟨t', hf', hs', -⟩ := hu.hosts
      obtain rfl := Option.some.inj (hf.symm.trans hf')
      exact absurd (hs.symm.trans hs') nofun
  have hspent : ((s.withJobs rest).overdue i).Spent (.timer i) := by
    refine ⟨hk.waits.bound i t hf, fun u hfu => ?_⟩
    obtain rfl := Option.some.inj (hfind.symm.trans hfu)
    rfl
  obtain ⟨hgoes, -⟩ := goes_startRun (s := (s.withJobs rest).overdue i)
    (hk.waits.turn_runs hj hf hoff hs) hinTime hk.lasting hruns hbegun (fun _ _ => nofun)
    ⟨hno, fun time hm => hnot (hk.runs.alarms time _ hm),
      fun hm => hnot (hk.runs.resumes _ ((hresume _).mp hm))⟩
    hspent fun x => ⟨_, hfind, rfl, fun hc => absurd hc (by simp [hoff])⟩
  exact ⟨hgoes.kept, hcarries.trans hgoes.carries, hgoes.told⟩

/-- What can come of the turn of a timer. -/
inductive Turns (d : ℚ) (s : Session ℚ) (timer : Nat) (rest : List Job) : Session ℚ → Prop
  | passes (hp : ∀ t, s.debouncer.find? timer = some t →
      t.calledOff = false ∧ (t.stage = .sleeping ∨ t.stage = .running)) :
      Turns d s timer rest (s.withJobs rest)
  | ends {t : Timer} (hf : s.debouncer.find? timer = some t) (hoff : t.calledOff = true) :
      Turns d s timer rest (((s.withJobs rest).released (.timer timer)).finishTimer timer)
  | sleeps {t : Timer} (hf : s.debouncer.find? timer = some t) (hoff : t.calledOff = false)
      (hs : t.stage = .fresh) : Turns d s timer rest ((s.withJobs rest).asleep d timer)
  | runs {t : Timer} (hf : s.debouncer.find? timer = some t) (hoff : t.calledOff = false)
      (hs : t.stage = .awake) :
      Turns d s timer rest (((s.withJobs rest).overdue timer).startRun (.timer timer))

theorem Kept.turns (hd : 0 < d) (hk : Kept d h s) (i : Nat) (rest : List Job) :
    Turns d s i rest (perform (s.withJobs rest) (.timer i)) := by
  have hperform (change : Debouncer ℚ × List (Signal ℚ)) (he : s.debouncer.turn i = change) :
      perform (s.withJobs rest) (.timer i) = (s.withJobs rest).apply change := by
    rw [perform, ← he]
    rfl
  cases hf : s.debouncer.find? i with
  | none =>
    rw [hperform (s.debouncer, []) (by simp [turn, hf])]
    exact .passes fun t hft => by cases hf.symm.trans hft
  | some t =>
    cases hoff : t.calledOff with
    | true =>
      rw [hperform (s.debouncer.remove i, [.ended i]) (by simp [turn, hf, hoff])]
      exact .ends hf hoff
    | false =>
      cases hs : t.stage with
      | fresh =>
        rw [hperform (s.debouncer.update i fun t => { t with stage := .sleeping }, [.sleep i d])
          (by simp [turn, hf, hoff, hs, hk.waits.delay, hd])]
        exact .sleeps hf hoff hs
      | sleeping =>
        rw [hperform (s.debouncer, []) (by simp [turn, hf, hoff, hs])]
        refine .passes fun t' hf' => ?_
        obtain rfl := Option.some.inj (hf.symm.trans hf')
        exact ⟨hoff, .inl hs⟩
      | awake =>
        have hcur := hk.waits.alone i t hf hoff (by simp [hs])
        rw [hperform (({ s.debouncer with current := none } : Debouncer ℚ).update i
          fun t => { t with stage := .running }, [.run i]) (by simp [turn, hf, hoff, hs, hcur])]
        exact .runs hf hoff hs
      | running =>
        rw [hperform (s.debouncer, []) (by simp [turn, hf, hoff, hs])]
        refine .passes fun t' hf' => ?_
        obtain rfl := Option.some.inj (hf.symm.trans hf')
        exact ⟨hoff, .inr hs⟩

theorem work_eq {job : Job} (hj : s.agenda.jobs = job :: rest) :
    s.work = (perform (s.withJobs rest) job).callCallers := by
  simp only [Session.work, Agenda.nextJob?, hj]
  rfl

theorem work_of_nil (hj : s.agenda.jobs = []) : s.work = s := by
  simp only [Session.work, Agenda.nextJob?, hj]

theorem Carries.goes (hk : Kept d h s) : Goes d h s h s := ⟨hk, .refl h s, fun _ _ => .inl⟩

theorem Kept.work (hd : 0 < d) (hk : Kept d h s) : Goes d h s h s.work := by
  cases hj : s.agenda.jobs with
  | nil =>
    rw [work_of_nil hj]
    exact Carries.goes hk
  | cons job rest =>
    rw [work_eq hj]
    have hgoes : Goes d h s h (perform (s.withJobs rest) job) := by
      cases job with
      | timer i =>
        have hturns := hk.turns hd i rest
        generalize perform (s.withJobs rest) (.timer i) = s' at hturns ⊢
        cases hturns with
        | passes hp => exact hk.turn_passes hj hp
        | ends hf hoff => exact hk.turn_ends hj hf hoff
        | sleeps hf hoff hs => exact hk.turn_sleeps hd hj hf hoff hs
        | runs hf hoff hs => exact hk.turn_runs hd hj hf hoff hs
      | resume runner => exact hk.perform_resume hj
      | caller i => exact hk.perform_caller hj
    exact hgoes.trans hgoes.kept.callCallers

/-! Alarms -/

def withAlarms (s : Session ℚ) (alarms : List (ℚ × Alarm)) : Session ℚ :=
  { s with agenda := { s.agenda with alarms } }

/-- The first alarm rings, at its time. -/
theorem Kept.ring (hk : Kept d h s) {alarm : Alarm} {rest : List (ℚ × Alarm)}
    (ha : s.agenda.alarms = (s.agenda.now, alarm) :: rest) :
    Goes d h s h ((s.withAlarms rest).ring alarm) := by
  have hinTime : InTime { s.agenda with alarms := rest } := by
    refine ⟨?_, fun e he => hk.inTime.ahead e (ha ▸ List.mem_cons_of_mem _ he)⟩
    have hsorted := hk.inTime.sorted
    rw [ha] at hsorted
    exact (List.pairwise_cons.mp hsorted).2
  have halarms {timer : Nat} (he : alarm = .timer timer) (t : ℚ) (r : Runner) :
      (t, .callback r) ∈ rest ↔ (t, .callback r) ∈ s.agenda.alarms := by
    rw [ha, he, List.mem_cons, or_iff_right nofun]
  cases alarm with
  | timer i =>
    have hring : (s.withAlarms rest).ring (.timer i) =
      (s.withAlarms rest).apply (s.debouncer.wake i) := rfl
    rcases wake_cases s.debouncer i with ⟨t, hf, hs, hoff, he⟩ | ⟨hno, he⟩
    · have hresume : ∀ r, .resume r ∈ s.agenda.jobs ++ [Job.timer i] ↔
          .resume r ∈ s.agenda.jobs := fun r => by simp
      obtain ⟨hruns, hcarries⟩ := hk.runs.staged
        (b := s.debouncer.update i fun t => { t with stage := .awake })
        (a := { s.agenda with alarms := rest, jobs := s.agenda.jobs ++ [.timer i] }) hf
        (by simp [hs]) (find?_staged s.debouncer .awake i) rfl rfl (halarms rfl) hresume
      rw [hring, he]
      exact ⟨⟨hk.waits.wakes ha hf hoff hs, hk.begun, hruns, ⟨hinTime.sorted, hinTime.ahead⟩,
        hk.lasting⟩, hcarries, fun _ _ => .inl⟩
    · obtain ⟨hruns, hcarries⟩ := hk.runs.beside (b := s.debouncer)
        (a := { s.agenda with alarms := rest }) le_rfl (fun _ => id) (halarms rfl)
        (fun _ => Iff.rfl) (fun _ _ => rfl) le_rfl (fun i t _ hf => ⟨t, hf, id⟩)
        fun i run time x hu => hu.hosts
      rw [hring, he]
      exact ⟨⟨hk.waits.rings ha hno, hk.begun, hruns, hinTime, hk.lasting⟩, hcarries,
        fun _ _ => .inl⟩
  | callback runner =>
    obtain ⟨hruns, hcarries⟩ := hk.runs.ring ha rfl
    have hwaits : Waits d h s.debouncer { s.agenda with
        alarms := rest, jobs := s.agenda.jobs ++ [.resume runner] } := by
      refine hk.waits.beside rfl (fun i hm => List.mem_append_left _ hm) fun t i => ?_
      rw [ha, List.mem_cons, or_iff_right nofun]
    exact ⟨⟨hwaits, hk.begun, hruns, ⟨hinTime.sorted, hinTime.ahead⟩, hk.lasting⟩, hcarries,
      fun _ _ => .inl⟩

/-- Time moves when no job is left, and not beyond an alarm. -/
theorem Kept.tick (hk : Kept d h s) (hj : s.agenda.jobs = []) (hle : s.agenda.now ≤ time)
    (ha : ∀ alarm ∈ s.agenda.alarms, time ≤ alarm.1) :
    Goes d h s h { s with agenda := { s.agenda with now := time } } := by
  have hresume : ∀ r, .resume r ∈ s.agenda.jobs → time = s.agenda.now := fun r hm => by
    rw [hj] at hm
    cases hm
  obtain ⟨hruns, hcarries⟩ := hk.runs.beside (b := s.debouncer)
    (a := { s.agenda with now := time }) hle (fun _ => id) (fun _ _ => Iff.rfl) (fun _ => Iff.rfl)
    hresume le_rfl (fun i t _ hf => ⟨t, hf, id⟩) fun i run time x hu => hu.hosts
  exact ⟨⟨hk.waits.tick hj time, hk.begun.tick hle, hruns, ⟨hk.inTime.sorted, ha⟩, hk.lasting⟩,
    hcarries, fun _ _ => .inl⟩

end CommitMessage.Debouncer.Session
