import CommitMessage.Proofs.Schedule.Called

/-! Time passes for a debouncer. Jobs run out and alarms run out, so that whatever is to happen up
to a time has happened when the session gets there. -/

namespace CommitMessage.Debouncer.Session

variable {d : ℚ} {h : List (ℚ × Call)} {s s' : Session ℚ} {runner : Runner} {run i : Nat}
  {time x : ℚ} {rest : List Job} {t : Timer} {b : Debouncer ℚ}

/-! Alarms to come -/

/-- How many alarms a timer will yet set. -/
def Stage.alarms : Stage → Nat
  | .fresh => 2
  | .sleeping | .awake => 1
  | .running => 0

def toSet (b : Debouncer ℚ) : Nat := (b.timers.map fun t => Stage.alarms t.stage).sum

/-- The alarms that are set, and those that timers will yet set. -/
def toRing (s : Session ℚ) : Nat := s.agenda.alarms.length + toSet s.debouncer

theorem length_insertAlarm (time : ℚ) (alarm : Alarm) (alarms : List (ℚ × Alarm)) :
    (Agenda.insertAlarm time alarm alarms).length = alarms.length + 1 := by
  induction alarms with
  | nil => rfl
  | cons first rest ih =>
    rw [Agenda.insertAlarm]
    split
    · rfl
    · rw [List.length_cons, ih, List.length_cons]

theorem toSet_remove (b : Debouncer ℚ) (timer : Nat) : toSet (b.remove timer) ≤ toSet b :=
  (List.filter_sublist.map _).sum_le_sum fun _ _ => Nat.zero_le _

theorem toSet_staged (hnd : (b.timers.map (·.id)).Nodup) (hf : b.find? i = some t)
    (stage : Stage) :
    toSet (b.update i fun t => { t with stage }) + Stage.alarms t.stage =
      toSet b + Stage.alarms stage := by
  obtain ⟨ht, rfl⟩ := mem_of_find? hf
  have hsame : (b.update t.id fun t => { t with stage }).timers =
      b.timers.map fun y => if y.id = t.id then { t with stage } else y := by
    refine List.map_congr_left fun y hy => ?_
    by_cases he : y.id = t.id
    · rw [if_pos he, if_pos he, List.inj_on_of_nodup_map hnd hy ht he]
    · rw [if_neg he, if_neg he]
  have hkey : ({ t with stage } : Timer).id = t.id := rfl
  rw [toSet, hsame]
  exact Keyed.sum_replace (b := { t with stage }) (fun t => Stage.alarms t.stage) hnd ht hkey

/-! Jobs to come -/

/-- The callers that have yet to be told that what they wait for is over. -/
def unheard (s : Session ℚ) : Nat :=
  s.callers.countP fun entry => !(s.isOver entry.2 && s.agenda.jobs.contains (.caller entry.1))

/-- What is left to do before time can move. -/
def effort (s : Session ℚ) : Nat := s.agenda.jobs.length + s.unheard

theorem countP_lt {α : Type} {l : List α} {p q : α → Bool} {a : α}
    (h : ∀ a ∈ l, p a = true → q a = true) (ha : a ∈ l) (hp : p a = false) (hq : q a = true) :
    l.countP p < l.countP q := by
  obtain ⟨before, after, rfl⟩ := List.append_of_mem ha
  have hbefore := List.countP_mono_left fun a hm => h a (List.mem_append_left _ hm)
  have hafter := List.countP_mono_left fun a hm =>
    h a (List.mem_append_right _ (List.mem_cons_of_mem _ hm))
  rw [List.countP_append, List.countP_append, List.countP_cons_of_neg (by simp [hp]),
    List.countP_cons_of_pos hq]
  omega

/-- What a job does to the rest of the session. -/
structure Spends (s : Session ℚ) (rest : List Job) (s' : Session ℚ) : Prop where
  now : s'.agenda.now = s.agenda.now
  jobs : s'.agenda.jobs = rest
  callers : s'.callers = s.callers ∨ ∃ i, s'.callers = s.callers.erase i
  timers : ∀ t ∈ s'.debouncer.timers, ∃ t' ∈ s.debouncer.timers, t'.id = t.id
  alarms : s'.toRing ≤ s.toRing

theorem isOver_mono (ht : ∀ t ∈ s'.debouncer.timers, ∃ t' ∈ s.debouncer.timers, t'.id = t.id)
    {w : Waiting} (hw : s.isOver w = true) : s'.isOver w = true := by
  cases w with
  | callback => cases hw
  | allTimers =>
    have hnil : s.debouncer.timers = [] := List.isEmpty_iff.mp hw
    refine List.isEmpty_iff.mpr (List.eq_nil_iff_forall_not_mem.mpr fun t hm => ?_)
    obtain ⟨t', hm', -⟩ := ht t hm
    rw [hnil] at hm'
    cases hm'
  | timers ids =>
    refine List.all_eq_true.mpr fun t hm => ?_
    obtain ⟨t', hm', he⟩ := ht t hm
    exact he ▸ List.all_eq_true.mp hw t' hm'

theorem mem_remove (hm : t ∈ (b.remove i).timers) : ∃ t' ∈ b.timers, t'.id = t.id :=
  ⟨t, List.mem_of_mem_filter hm, rfl⟩

theorem mem_staged {stage : Stage} (hm : t ∈ (b.update i fun t => { t with stage }).timers) :
    ∃ t' ∈ b.timers, t'.id = t.id := by
  rcases mem_update hm with ⟨hm, -⟩ | ⟨u, hu, -, rfl⟩
  · exact ⟨t, hm, rfl⟩
  · exact ⟨u, hu, rfl⟩

theorem Spends.startRun (hs : Spends s rest s') (hr : s'.toRing < s.toRing) (runner : Runner)
    (hcallers : (s'.startRun runner).callers = s'.callers) :
    Spends s rest (s'.startRun runner) := by
  obtain ⟨hagenda, -, hdebouncer⟩ := startRun_keeps s' runner
  have hset : toSet (s'.startRun runner).debouncer ≤ toSet s'.debouncer := by
    rcases hdebouncer with he | ⟨i, -, he⟩
    · rw [he]
    · rw [he]
      exact toSet_remove _ _
  refine ⟨?_, ?_, ?_, fun t hm => ?_, ?_⟩
  · rcases hagenda with he | ⟨x, -, he⟩
    · exact (congrArg Agenda.now he).trans hs.now
    · exact (congrArg Agenda.now he).trans hs.now
  · rcases hagenda with he | ⟨x, -, he⟩
    · exact (congrArg Agenda.jobs he).trans hs.jobs
    · exact (congrArg Agenda.jobs he).trans hs.jobs
  · rw [hcallers]
    exact hs.callers
  · have hm : t ∈ s'.debouncer.timers := by
      rcases hdebouncer with he | ⟨i, -, he⟩
      · exact he ▸ hm
      · rw [he] at hm
        exact List.mem_of_mem_filter hm
    exact hs.timers t hm
  · have hlength : (s'.startRun runner).agenda.alarms.length ≤ s'.agenda.alarms.length + 1 := by
      rcases hagenda with he | ⟨x, -, he⟩
      · rw [he]
        exact Nat.le_succ _
      · rw [he]
        exact (length_insertAlarm ..).le
    unfold toRing at hr ⊢
    omega

theorem callers_startRun_timer (s : Session ℚ) (i : Nat) :
    (s.startRun (.timer i)).callers = s.callers := by
  cases hx : s.lasts (s.runs + 1) with
  | none =>
    rw [startRun_of_none hx, endRun_eq]
    rfl
  | some x =>
    rw [startRun_of_some hx]
    rfl

theorem Turns.spends (hk : Kept d h s) (ht : Turns d s i rest s') : Spends s rest s' := by
  cases ht with
  | passes hp => exact ⟨rfl, rfl, .inl rfl, fun t hm => ⟨t, hm, rfl⟩, le_rfl⟩
  | ends hf hoff =>
    exact ⟨rfl, rfl, .inl rfl, fun t hm => mem_remove hm,
      Nat.add_le_add_left (toSet_remove _ _) _⟩
  | sleeps hf hoff hs =>
    refine ⟨rfl, rfl, .inl rfl, fun t hm => mem_staged hm, ?_⟩
    have hset := toSet_staged hk.waits.nodup hf .sleeping
    have hlength := length_insertAlarm (s.agenda.now + d) (.timer i) s.agenda.alarms
    rw [hs] at hset
    change _ + 2 = _ + 1 at hset
    change (Agenda.insertAlarm (s.agenda.now + d) (.timer i) s.agenda.alarms).length + _ ≤ _
    rw [hlength, toRing]
    simp only [asleep, withJobs]
    omega
  | runs hf hoff hs =>
    have hset := toSet_staged (b := { s.debouncer with current := none }) hk.waits.nodup hf .running
    rw [hs] at hset
    change _ + 1 = toSet s.debouncer at hset
    have hless : ((s.withJobs rest).overdue i).toRing < s.toRing := by
      unfold toRing
      refine Nat.add_lt_add_left ?_ _
      change toSet (({ s.debouncer with current := none } : Debouncer ℚ).update i
        fun t => { t with stage := .running }) < _
      omega
    have hspends : Spends s rest ((s.withJobs rest).overdue i) :=
      ⟨rfl, rfl, .inl rfl, fun t hm => mem_staged hm, hless.le⟩
    exact hspends.startRun hless _ (callers_startRun_timer _ _)

theorem spends_resume (s : Session ℚ) (rest : List Job) (runner : Runner) :
    Spends s rest (perform (s.withJobs rest) (.resume runner)) := by
  have hleave (s' : Session ℚ) (hs : Spends s rest s') (hc : s'.callers = s.callers) :
      Spends s rest (s'.leave runner) := by
    cases runner with
    | timer i =>
      refine ⟨hs.now, hs.jobs, hs.callers, fun t hm => ?_, ?_⟩
      · exact hs.timers t (List.mem_of_mem_filter hm)
      · exact (Nat.add_le_add_left (toSet_remove _ _) _).trans hs.alarms
    | caller i => exact ⟨hs.now, hs.jobs, .inr ⟨i, congrArg (·.erase i) hc⟩, hs.timers, hs.alarms⟩
  have hpopped : Spends s rest (s.withJobs rest) :=
    ⟨rfl, rfl, .inl rfl, fun t hm => ⟨t, hm, rfl⟩, le_rfl⟩
  have hreleased : Spends s rest ((s.withJobs rest).released runner) :=
    ⟨rfl, rfl, .inl rfl, fun t hm => ⟨t, hm, rfl⟩, le_rfl⟩
  rw [perform]
  cases ha : (s.withJobs rest).active.get? runner with
  | none =>
    rw [resume_of_none ha]
    exact hpopped
  | some run =>
    rcases resume_cases ha with ⟨i, rfl, -, he⟩ | he
    · rw [he]
      exact hleave _ hreleased rfl
    · rw [he, endRun_eq]
      exact hleave _ ⟨rfl, rfl, .inl rfl, fun t hm => ⟨t, hm, rfl⟩, le_rfl⟩ rfl

theorem spends_caller (s : Session ℚ) (rest : List Job) (i : Nat) :
    Spends s rest (perform (s.withJobs rest) (.caller i)) := by
  have hpopped : Spends s rest (s.withJobs rest) :=
    ⟨rfl, rfl, .inl rfl, fun t hm => ⟨t, hm, rfl⟩, le_rfl⟩
  rw [perform]
  split
  · split
    · exact ⟨rfl, rfl, .inr ⟨i, rfl⟩, fun t hm => ⟨t, hm, rfl⟩, le_rfl⟩
    · exact hpopped
  · exact hpopped

theorem Kept.spends (hd : 0 < d) (hk : Kept d h s) (job : Job) (rest : List Job) :
    Spends s rest (perform (s.withJobs rest) job) := by
  cases job with
  | timer i => exact (hk.turns hd i rest).spends hk
  | resume runner => exact spends_resume s rest runner
  | caller i => exact spends_caller s rest i

/-! Jobs run out -/

theorem sublist_callers (hc : s'.callers = s.callers ∨ ∃ i, s'.callers = s.callers.erase i) :
    s'.callers.Sublist s.callers := by
  rcases hc with he | ⟨i, he⟩
  · rw [he]
  · rw [he]
    exact List.filter_sublist

/-- A caller who has been told that it is over does not stay. -/
theorem not_isOver_of_stays (hnd : s.callers.keys.Nodup) {w : Waiting}
    (hm : (i, w) ∈ (perform (s.withJobs rest) (.caller i)).callers) : s.isOver w = false := by
  have hin : (i, w) ∈ s.callers := by
    have hsub := sublist_callers (spends_caller s rest i).callers
    exact hsub.subset hm
  have hget := Register.get?_of_mem hnd hin
  cases hover : s.isOver w with
  | false => rfl
  | true =>
    have hreturn : perform (s.withJobs rest) (.caller i) =
        (s.withJobs rest).returnCaller i none := by
      have hget' : (s.withJobs rest).callers.get? i = some w := hget
      have hover' : (s.withJobs rest).isOver w = true := by
        cases w <;> exact hover
      rw [perform, hget']
      exact if_pos hover'
    rw [hreturn] at hm
    have hne := (List.mem_filter.mp hm).2
    simp at hne

/-- A job that is done is one less, even when a caller has to be told again. -/
theorem Kept.effort_perform (hd : 0 < d) (hk : Kept d h s) {job : Job}
    (hj : s.agenda.jobs = job :: rest) :
    (perform (s.withJobs rest) job).effort < s.effort := by
  have hs := hk.spends hd job rest
  have hunheard : (perform (s.withJobs rest) job).unheard ≤ s.unheard := by
    refine (List.countP_mono_left fun entry hm hp => ?_).trans
      (sublist_callers hs.callers).countP_le
    by_contra hheard
    rw [Bool.not_eq_true, Bool.not_eq_false', Bool.and_eq_true, List.contains_iff_mem] at hheard
    obtain ⟨hover, hin⟩ := hheard
    rw [hs.jobs, isOver_mono hs.timers hover, Bool.true_and, Bool.not_eq_true',
      ← Bool.not_eq_true, List.contains_iff_mem] at hp
    rw [hj] at hin
    rcases List.mem_cons.mp hin with rfl | hin
    · rw [not_isOver_of_stays hk.runs.keys hm] at hover
      cases hover
    · exact hp hin
  rw [effort, effort, hs.jobs, hj, List.length_cons]
  omega

/-- To tell a caller is a job, and one caller less to be told. -/
theorem effort_soon (s : Session ℚ) {entry : Nat × Waiting} (hm : entry ∈ s.callers)
    (hover : s.isOver entry.2 = true) (hno : .caller entry.1 ∉ s.agenda.jobs) :
    (s.soon (.caller entry.1)).effort ≤ s.effort := by
  have hless : (s.soon (.caller entry.1)).unheard < s.unheard := by
    refine countP_lt (fun other _ hp => ?_) hm ?_ ?_
    · by_contra hheard
      rw [Bool.not_eq_true, Bool.not_eq_false', Bool.and_eq_true, List.contains_iff_mem] at hheard
      rw [Bool.not_eq_true', ← Bool.not_eq_true, Bool.and_eq_true, List.contains_iff_mem] at hp
      exact hp ⟨hheard.1, List.mem_append_left _ hheard.2⟩
    · rw [Bool.not_eq_false', Bool.and_eq_true, List.contains_iff_mem]
      exact ⟨hover, List.mem_append_right _ (List.mem_singleton.mpr rfl)⟩
    · rw [Bool.not_eq_true', ← Bool.not_eq_true, Bool.and_eq_true, List.contains_iff_mem]
      exact fun hin => hno hin.2
  have hlength : (s.soon (.caller entry.1)).agenda.jobs.length = s.agenda.jobs.length + 1 :=
    List.length_append
  rw [effort, effort, hlength]
  omega

theorem effort_callCallers (s : Session ℚ) : s.callCallers.effort ≤ s.effort := by
  refine (List.foldlRecOn (motive := fun s' : Session ℚ => s'.callers = s.callers ∧
    s'.effort ≤ s.effort) s.callers _ ⟨rfl, le_rfl⟩ fun s' hs entry hm => ?_).2
  split
  · next hcall =>
    rw [Bool.and_eq_true, Bool.not_eq_true', ← Bool.not_eq_true, List.contains_iff_mem] at hcall
    exact ⟨hs.1, (effort_soon s' (hs.1 ▸ hm) hcall.1 hcall.2).trans hs.2⟩
  · exact hs

theorem effort_le_backlog (s : Session ℚ) : s.effort ≤ s.backlog := by
  have hunheard : s.unheard ≤ s.callers.length := List.countP_le_length
  rw [effort, backlog]
  omega

theorem now_callCallers (s : Session ℚ) :
    s.callCallers.agenda.now = s.agenda.now ∧ s.callCallers.toRing = s.toRing := by
  obtain ⟨callers, he⟩ := s.callCallers_eq
  rw [he]
  exact ⟨rfl, rfl⟩

theorem Kept.workFor (hd : 0 < d) (hk : Kept d h s) {fuel : Nat} (hf : s.effort ≤ fuel) :
    Goes d h s h (workFor fuel s) ∧ (workFor fuel s).agenda.jobs = [] ∧
      (workFor fuel s).agenda.now = s.agenda.now ∧ (workFor fuel s).toRing ≤ s.toRing := by
  induction fuel generalizing s with
  | zero =>
    have hnil : s.agenda.jobs = [] := by
      rw [effort] at hf
      exact List.length_eq_zero_iff.mp (by omega)
    exact ⟨Carries.goes hk, hnil, rfl, le_rfl⟩
  | succ fuel ih =>
    unfold Session.workFor
    cases hj : s.agenda.jobs with
    | nil => exact ⟨Carries.goes hk, hj, rfl, le_rfl⟩
    | cons job rest =>
      have hgoes := hk.work hd
      have hless := hk.effort_perform hd hj
      have hspends := hk.spends hd job rest
      have hcall := effort_callCallers (perform (s.withJobs rest) job)
      obtain ⟨hnow, hring⟩ := now_callCallers (perform (s.withJobs rest) job)
      rw [← work_eq hj] at hcall hnow hring
      obtain ⟨hrest, hidle, hnow', hring'⟩ := ih hgoes.kept (by omega)
      refine ⟨hgoes.trans hrest, hidle, hnow'.trans (hnow.trans hspends.now), ?_⟩
      have halarms := hspends.alarms
      change (Session.workFor fuel s.work).toRing ≤ s.toRing
      omega

theorem Kept.drain (hd : 0 < d) (hk : Kept d h s) :
    Goes d h s h s.drain ∧ s.drain.agenda.jobs = [] ∧ s.drain.agenda.now = s.agenda.now ∧
      s.drain.toRing ≤ s.toRing :=
  hk.workFor hd (effort_le_backlog s)

/-! Alarms run out -/

theorem ring_withAlarms (s : Session ℚ) (alarm : Alarm) (alarms : List (ℚ × Alarm)) :
    (s.withAlarms alarms).ring alarm = (s.ring alarm).withAlarms alarms ∧
      (s.ring alarm).agenda.alarms = s.agenda.alarms ∧
      (s.ring alarm).agenda.now = s.agenda.now := by
  cases alarm with
  | timer i =>
    have hring (s : Session ℚ) : s.ring (.timer i) = s.apply (s.debouncer.wake i) := rfl
    have hsame : (s.withAlarms alarms).debouncer.wake i = s.debouncer.wake i := rfl
    rw [hring, hring, hsame]
    rcases wake_cases s.debouncer i with ⟨t, -, -, -, he⟩ | ⟨-, he⟩
    · rw [he]
      exact ⟨rfl, rfl, rfl⟩
    · rw [he]
      exact ⟨rfl, rfl, rfl⟩
  | callback runner => exact ⟨rfl, rfl, rfl⟩

theorem Kept.toSet_ring (hk : Kept d h s) (alarm : Alarm) :
    toSet (s.ring alarm).debouncer = toSet s.debouncer := by
  cases alarm with
  | timer i =>
    have hring : s.ring (.timer i) = s.apply (s.debouncer.wake i) := rfl
    rw [hring]
    rcases wake_cases s.debouncer i with ⟨t, hf, hs, -, he⟩ | ⟨-, he⟩
    · have hset := toSet_staged hk.waits.nodup hf .awake
      rw [hs] at hset
      rw [he]
      exact Nat.add_right_cancel hset
    · rw [he]
      rfl
  | callback runner => rfl

/-- All alarms of an instant ring. -/
theorem Kept.rings (hk : Kept d h s) {ringing later : List (ℚ × Alarm)}
    (ha : s.agenda.alarms = ringing ++ later) (hr : ∀ e ∈ ringing, e.1 = s.agenda.now) :
    Goes d h s h ((ringing.map (·.2)).foldl Session.ring (s.withAlarms later)) ∧
      ((ringing.map (·.2)).foldl Session.ring (s.withAlarms later)).agenda.now = s.agenda.now ∧
      ((ringing.map (·.2)).foldl Session.ring (s.withAlarms later)).toRing + ringing.length =
        s.toRing := by
  induction ringing generalizing s with
  | nil =>
    have hsame : s.withAlarms later = s := by
      rw [List.nil_append] at ha
      rw [withAlarms, ← ha]
    rw [List.map_nil, List.foldl_nil, hsame]
    exact ⟨Carries.goes hk, rfl, rfl⟩
  | cons e ringing ih =>
    have hfirst : s.agenda.alarms = (s.agenda.now, e.2) :: (ringing ++ later) := by
      rw [ha, List.cons_append, ← hr e List.mem_cons_self]
    have hgoes := hk.ring hfirst
    obtain ⟨hring, -, hnow⟩ := ring_withAlarms s e.2 (ringing ++ later)
    obtain ⟨hlater, -, -⟩ := ring_withAlarms s e.2 later
    rw [hring] at hgoes
    obtain ⟨hrest, hnow', hcount⟩ := ih (s := (s.ring e.2).withAlarms (ringing ++ later)) hgoes.kept
      rfl fun e' he => (hr e' (List.mem_cons_of_mem _ he)).trans hnow.symm
    rw [List.map_cons, List.foldl_cons, hlater]
    refine ⟨hgoes.trans hrest, hnow'.trans hnow, ?_⟩
    have hset := hk.toSet_ring e.2
    have hstart : ((s.ring e.2).withAlarms (ringing ++ later)).toRing + 1 = s.toRing := by
      have hlength : s.agenda.alarms.length = (ringing ++ later).length + 1 := by
        rw [hfirst, List.length_cons]
      unfold toRing
      simp only [withAlarms]
      omega
    have hsame : ((s.ring e.2).withAlarms (ringing ++ later)).withAlarms later =
      (s.ring e.2).withAlarms later := rfl
    rw [hsame] at hcount
    rw [List.length_cons]
    omega

/-- The next instant at which alarms ring, if it comes by the limit. -/
theorem Kept.leap (hd : 0 < d) (hk : Kept d h s) (hj : s.agenda.jobs = []) {limit : ℚ}
    {first : ℚ × Alarm} {later : List (ℚ × Alarm)} (ha : s.agenda.alarms = first :: later)
    (hle : first.1 ≤ limit) :
    ∃ s', s.leap? (some limit) = some s' ∧ Goes d h s h s' ∧ s'.agenda.jobs = [] ∧
      s'.agenda.now = first.1 ∧ s'.toRing < s.toRing := by
  have hahead : ∀ e ∈ s.agenda.alarms, first.1 ≤ e.1 := fun e he => by
    have hsorted := hk.inTime.sorted
    rw [ha] at hsorted he
    rcases List.mem_cons.mp he with rfl | he
    · exact le_rfl
    · exact (List.pairwise_cons.mp hsorted).1 e he
  have hnow : s.agenda.now ≤ first.1 := hk.inTime.ahead first (ha ▸ List.mem_cons_self)
  have hmax : (if s.agenda.now < first.1 then first.1 else s.agenda.now) = first.1 := by
    split
    · rfl
    · next hge => exact le_antisymm hnow (not_lt.mp hge)
  let rings (entry : ℚ × Alarm) : Bool := !decide (first.1 < entry.1)
  let ticked : Session ℚ := { s with agenda := { s.agenda with now := first.1 } }
  have hticked : Goes d h s h ticked := hk.tick hj hnow hahead
  have hsplit : ticked.agenda.alarms =
      s.agenda.alarms.takeWhile rings ++ s.agenda.alarms.dropWhile rings :=
    List.takeWhile_append_dropWhile.symm
  have hringing : ∀ e ∈ s.agenda.alarms.takeWhile rings, e.1 = ticked.agenda.now := by
    intro e he
    have hring := List.mem_takeWhile_imp he
    have hge : e.1 ≤ first.1 := by simpa [rings] using hring
    exact le_antisymm hge (hahead e ((List.takeWhile_sublist _).subset he))
  obtain ⟨hrung, hnow', hcount⟩ := hticked.kept.rings hsplit hringing
  obtain ⟨hdrained, hidle, hnow'', hless⟩ := hrung.kept.drain hd
  refine ⟨_, ?_, hticked.trans (hrung.trans hdrained), hidle, hnow''.trans hnow', ?_⟩
  · have hlimit : (some limit).any (· < first.1) = false := by simpa using hle
    simp only [leap?, Agenda.nextRing?, ha, List.head?_cons, Option.map_some, hlimit,
      Bool.false_eq_true, if_false, Agenda.ringAt, hmax]
    rfl
  · have hsome : 0 < (s.agenda.alarms.takeWhile rings).length := by
      rw [ha, List.takeWhile_cons_of_pos (by simp [rings]), List.length_cons]
      exact Nat.succ_pos _
    have hsame : ticked.toRing = s.toRing := rfl
    omega

theorem Kept.leapWhile (hd : 0 < d) (hk : Kept d h s) (hj : s.agenda.jobs = []) {limit : ℚ}
    (hle : s.agenda.now ≤ limit) {fuel : Nat} (hf : s.toRing ≤ fuel) :
    Goes d h s h (leapWhile (fun _ => true) (some limit) fuel s) ∧
      (leapWhile (fun _ => true) (some limit) fuel s).agenda.jobs = [] ∧
      (leapWhile (fun _ => true) (some limit) fuel s).agenda.now ≤ limit ∧
      ∀ alarm ∈ (leapWhile (fun _ => true) (some limit) fuel s).agenda.alarms, limit < alarm.1 := by
  induction fuel generalizing s with
  | zero =>
    have hnone : s.agenda.alarms = [] := by
      rw [toRing] at hf
      exact List.length_eq_zero_iff.mp (by omega)
    refine ⟨Carries.goes hk, hj, hle, fun alarm hm => ?_⟩
    change alarm ∈ s.agenda.alarms at hm
    rw [hnone] at hm
    cases hm
  | succ fuel ih =>
    cases ha : s.agenda.alarms with
    | nil =>
      have hsame : Session.leapWhile (fun _ => true) (some limit) (fuel + 1) s = s := by
        simp [Session.leapWhile, leap?, Agenda.nextRing?, ha]
      rw [hsame, ha]
      exact ⟨Carries.goes hk, hj, hle, nofun⟩
    | cons first later =>
      by_cases hover : limit < first.1
      · have hsame : Session.leapWhile (fun _ => true) (some limit) (fuel + 1) s = s := by
          simp [Session.leapWhile, leap?, Agenda.nextRing?, ha, hover]
        rw [hsame]
        refine ⟨Carries.goes hk, hj, hle, fun alarm hm => ?_⟩
        have hsorted := hk.inTime.sorted
        rw [ha] at hsorted hm
        rcases List.mem_cons.mp hm with rfl | hm
        · exact hover
        · exact hover.trans_le ((List.pairwise_cons.mp hsorted).1 alarm hm)
      · obtain ⟨s', hleap, hgoes, hidle, hnow, hless⟩ := hk.leap hd hj ha (not_lt.mp hover)
        have hnext : Session.leapWhile (fun _ => true) (some limit) (fuel + 1) s =
            Session.leapWhile (fun _ => true) (some limit) fuel s' := by
          simp only [Session.leapWhile, hleap, if_true]
        obtain ⟨hrest, hlast⟩ := ih hgoes.kept hidle (hnow.le.trans (not_lt.mp hover)) (by omega)
        rw [hnext]
        exact ⟨hgoes.trans hrest, hlast⟩

theorem toRing_le_instants (s : Session ℚ) : s.toRing ≤ s.instants := by
  have hset : toSet s.debouncer ≤ 2 * s.debouncer.timers.length := by
    unfold toSet
    induction s.debouncer.timers with
    | nil => exact le_rfl
    | cons t timers ih =>
      have hone : Stage.alarms t.stage ≤ 2 := by cases t.stage <;> simp [Stage.alarms]
      rw [List.map_cons, List.sum_cons, List.length_cons]
      omega
  rw [toRing, instants]
  omega

/-- Whatever is to happen in the time that passes has happened. -/
theorem Kept.advance (hd : 0 < d) (hk : Kept d h s) {dt : ℚ} (hdt : 0 ≤ dt) :
    Goes d h s h (s.advance dt) ∧ (s.advance dt).agenda.jobs = [] ∧
      (s.advance dt).agenda.now = s.agenda.now + dt ∧
      ∀ alarm ∈ (s.advance dt).agenda.alarms, s.agenda.now + dt < alarm.1 := by
  obtain ⟨hdrained, hidle, hnow, -⟩ := hk.drain hd
  have hle : s.drain.agenda.now ≤ s.drain.agenda.now + dt := le_add_of_nonneg_right hdt
  obtain ⟨hleaps, hidle', hnow', hlater⟩ := hdrained.kept.leapWhile hd hidle hle
    (toRing_le_instants s.drain)
  have htick := hleaps.kept.tick hidle' hnow' fun alarm hm => (hlater alarm hm).le
  refine ⟨hdrained.trans (hleaps.trans htick), hidle', congrArg (· + dt) hnow, ?_⟩
  rw [← hnow]
  exact hlater

end CommitMessage.Debouncer.Session
