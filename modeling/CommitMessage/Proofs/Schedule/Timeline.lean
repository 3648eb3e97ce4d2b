import CommitMessage.Proofs.Schedule.Elapsing

/-! The timeline of a debouncer. When callbacks begin, and whether a timer waits, is decided by the
calls and their times alone: it is the same however long callbacks take and whichever of them
fail. -/

namespace CommitMessage.Debouncer

/-- Waits for the quiet to be over. -/
def Timer.waits (t : Timer) : Bool := !t.calledOff && t.stage != .running

/-- Calls each at a time of its own, and none when a quiet ends. -/
structure Calm (d : ℚ) (h : List (ℚ × Call)) : Prop where
  apart : h.Pairwise (·.1 < ·.1)
  clear : ∀ call ∈ h, ¬Expires d h call.1

namespace Session

variable {d now time x : ℚ} {h rest : List (ℚ × Call)} {s s' : Session ℚ}
  {lasts : Nat → Option ℚ} {fails : Nat → Bool} {events before after : List (Event ℚ)}
  {e : Event ℚ} {c : Call}

theorem Calm.timely (hc : Calm d (h ++ (time, c) :: rest)) : Timely d h time := by
  obtain ⟨-, hrest, hbefore⟩ := List.pairwise_append.mp hc.apart
  refine ⟨fun call hm => hbefore call hm _ List.mem_cons_self, fun hx => ?_⟩
  refine hc.clear (time, c) (List.mem_append_right _ List.mem_cons_self)
    ⟨List.mem_append_left _ hx.1, fun call hm => ?_⟩
  rcases List.mem_append.mp hm with hm | hm
  · exact hx.2 call hm
  · rintro ⟨-, hlt⟩
    rcases List.mem_cons.mp hm with rfl | hm
    · exact lt_irrefl _ hlt
    · exact lt_asymm hlt ((List.pairwise_cons.mp hrest).1 call hm)

/-- The calls before one of them. -/
theorem filter_before (hc : Calm d (h ++ (time, c) :: rest)) :
    (h ++ (time, c) :: rest).filter (·.1 < time) = h := by
  obtain ⟨-, hrest, hbefore⟩ := List.pairwise_append.mp hc.apart
  have hh : h.filter (·.1 < time) = h := List.filter_eq_self.mpr fun call hm =>
    decide_eq_true (hbefore call hm _ List.mem_cons_self)
  have hr : rest.filter (·.1 < time) = [] := List.filter_eq_nil_iff.mpr fun call hm =>
    by simpa using ((List.pairwise_cons.mp hrest).1 call hm).le
  rw [List.filter_append, hh, List.filter_cons_of_neg (by simp), hr, List.append_nil]

/-! Steps -/

theorem now_startRun (s : Session ℚ) (runner : Runner) :
    (s.startRun runner).agenda.now = s.agenda.now := by
  rcases (startRun_keeps s runner).1 with he | ⟨x, -, he⟩
  · rw [he]
  · rw [he]
    rfl

theorem now_apply (s : Session ℚ) (change : Debouncer ℚ × List (Signal ℚ)) :
    (s.apply change).agenda.now = s.agenda.now := by
  refine List.foldlRecOn (motive := fun s' : Session ℚ => s'.agenda.now = s.agenda.now) change.2 _
    rfl fun s' hs signal _ => ?_
  cases signal with
  | turn timer => exact hs
  | sleep timer delay => exact hs
  | run timer => exact (now_startRun s' _).trans hs
  | ended timer => exact hs

theorem now_await (s : Session ℚ) (w : Waiting) : (s.await w).agenda.now = s.agenda.now := by
  rw [await_eq]
  split <;> rfl

theorem now_flush (s : Session ℚ) : s.flush.agenda.now = s.agenda.now := by
  refine Eq.trans ?_ (now_apply s s.debouncer.callOffCurrent)
  rw [flush]
  split
  · exact now_startRun _ _
  · rfl

theorem Kept.now_work (hd : 0 < d) (hk : Kept d h s) : s.work.agenda.now = s.agenda.now := by
  cases hj : s.agenda.jobs with
  | nil => rw [work_of_nil hj]
  | cons job rest =>
    rw [work_eq hj]
    exact (now_callCallers _).1.trans (hk.spends hd job rest).now

theorem Kept.now_step (hd : 0 < d) (hk : Kept d h s) (he : 0 ≤ e.lapse) :
    (s.step e).agenda.now = s.agenda.now + e.lapse := by
  cases e with
  | trigger => exact (now_apply s _).trans (add_zero _).symm
  | flush => exact s.now_flush.trans (add_zero _).symm
  | wait => exact (now_await s _).trans (add_zero _).symm
  | cancel => exact ((now_await _ _).trans (now_apply s _)).trans (add_zero _).symm
  | work => exact (hk.now_work hd).trans (add_zero _).symm
  | advance dt => exact (hk.advance hd he).2.2.1

/-- A flush that finds a timer starts the run, and one that does not has its answer. -/
theorem Kept.flush (hd : 0 < d) (hk : Kept d h s) (ht : Timely d h s.agenda.now) :
    Goes d h s (h ++ [(s.agenda.now, .flush)]) s.flush := by
  cases hp : s.debouncer.isPending with
  | true => exact (hk.flush_granted hd ht hp).1
  | false => exact (hk.flush_refused hd ht hp).1

theorem Kept.step (hd : 0 < d) (hk : Kept d h s) (he : 0 ≤ e.lapse)
    (ht : e.call? ≠ none → Timely d h s.agenda.now) :
    Goes d h s (h ++ (e.call?.map (s.agenda.now, ·)).toList) (s.step e) := by
  have hsame : h ++ [] = h := List.append_nil h
  cases e with
  | trigger => exact hk.trigger hd (ht nofun)
  | flush => exact hk.flush hd (ht nofun)
  | wait => exact hsame.symm ▸ hk.await .allTimers
  | cancel => exact hk.cancel hd (ht nofun)
  | work => exact hsame.symm ▸ hk.work hd
  | advance dt => exact hsame.symm ▸ (hk.advance hd he).1

/-! At rest -/

/-- Every quiet that is over has had its run. -/
def Exact (d : ℚ) (h : List (ℚ × Call)) (s : Session ℚ) : Prop :=
  ∀ time ≤ s.agenda.now, Expires d h time → ∃ run, .started run time ∈ s.record

theorem Kept.exact_of_idle (hk : Kept d h s) (hj : s.agenda.jobs = [])
    (ha : ∀ alarm ∈ s.agenda.alarms, s.agenda.now < alarm.1) : s.Exact d h := by
  intro time hle hx
  rcases hk.begun.expired time hle hx with ⟨run, hm⟩ | ⟨hp, hu⟩
  · exact ⟨run, mem_starts.mp hm⟩
  · obtain ⟨timer, hc⟩ := Option.isSome_iff_exists.mp hp
    obtain ⟨u, hu', hm⟩ := hk.waits.sleeps hc hj
    have hlater := ha _ hm
    have he := hu.unique hu'
    exact absurd hle (not_le.mpr (by linarith))

theorem Kept.exact_step (hd : 0 < d) (hk : Kept d h s) (he : 0 ≤ e.lapse)
    (ht : e.call? ≠ none → Timely d h s.agenda.now) (hx : s.Exact d h) :
    (s.step e).Exact d (h ++ (e.call?.map (s.agenda.now, ·)).toList) := by
  have hgoes := hk.step hd he ht
  have hnow := hk.now_step hd he
  cases hc : e.call? with
  | some c =>
    have hzero : e.lapse = 0 := by cases e <;> first | rfl | cases hc
    rw [hzero, add_zero] at hnow
    intro time hle hexpires
    have hcarried : ∃ run, (run, time) ∈ s.starts := hk.begun.expired_concat hd
      (ht (by rw [hc]; nofun)) (hk.due hd) (hnow ▸ hle) hexpires
    obtain ⟨run, hm⟩ := hcarried
    exact ⟨run, hgoes.carries.record _ (mem_starts.mp hm)⟩
  | none =>
    rw [hc, Option.map_none, Option.toList_none, List.append_nil] at hgoes
    rw [Option.map_none, Option.toList_none, List.append_nil]
    cases e with
    | advance dt =>
      obtain ⟨hadvance, hj, hnow, ha⟩ := hk.advance hd he
      exact hadvance.kept.exact_of_idle hj (hnow ▸ ha)
    | wait | work =>
      intro time hle hexpires
      rw [hnow] at hle
      obtain ⟨run, hm⟩ := hx time (hle.trans_eq (add_zero _)) hexpires
      exact ⟨run, hgoes.carries.record _ hm⟩
    | trigger | flush | cancel => cases hc

/-! Runs of a session -/

def new (d now : ℚ) (lasts : Nat → Option ℚ) (fails : Nat → Bool) : Session ℚ :=
  { debouncer := { delay := d }, agenda := { now }, lasts, fails }

theorem kept_new (d now : ℚ) (hl : ∀ run x, lasts run = some x → 0 ≤ x) (fails : Nat → Bool) :
    Kept d [] (new d now lasts fails) :=
  ⟨waits_new d now, begun_new d now, ⟨nofun, nofun, nofun, nofun, List.nodup_nil, nofun, nofun,
    nofun⟩, ⟨List.Pairwise.nil, nofun⟩, hl⟩

/-- What is kept up in the course of events. -/
structure Reached (d : ℚ) (h : List (ℚ × Call)) (s : Session ℚ) : Prop where
  kept : Kept d h s
  upToDate : s.Exact d h
  told : ∀ run time, .started run time ∈ s.record → ∃ runner, Fate h s runner run time

theorem reached_new (d now : ℚ) (hl : ∀ run x, lasts run = some x → 0 ≤ x) (fails : Nat → Bool) :
    Reached d [] (new d now lasts fails) :=
  ⟨kept_new d now hl fails, fun _ _ hx => absurd hx.1 List.not_mem_nil,
    fun _ _ hm => absurd hm List.not_mem_nil⟩

theorem Reached.step (hd : 0 < d) (hr : Reached d h s) (he : 0 ≤ e.lapse)
    (ht : e.call? ≠ none → Timely d h s.agenda.now) :
    Reached d (h ++ (e.call?.map (s.agenda.now, ·)).toList) (s.step e) := by
  have hgoes := hr.kept.step hd he ht
  refine ⟨hgoes.kept, hr.kept.exact_step hd he ht hr.upToDate, fun run time hm => ?_⟩
  rcases hgoes.told run time (mem_starts.mpr hm) with hold | hnew
  · obtain ⟨runner, hf⟩ := hr.told run time (mem_starts.mp hold)
    exact ⟨runner, hf.carry (mem_starts.mp hold) hgoes.carries⟩
  · exact hnew

/-- What more events make of a session. -/
theorem Reached.more (hd : 0 < d) (hr : Reached d h s) (events : List (Event ℚ))
    (hlapse : ∀ e ∈ events, 0 ≤ e.lapse) (hc : Calm d (h ++ calls s.agenda.now events)) :
    Reached d (h ++ calls s.agenda.now events) (s.run events) ∧
      Carries h s (h ++ calls s.agenda.now events) (s.run events) ∧
      (s.run events).agenda.now = clock s.agenda.now events := by
  induction events generalizing h s with
  | nil =>
    rw [calls, List.append_nil]
    exact ⟨hr, .refl h s, rfl⟩
  | cons e events ih =>
    have he := hlapse e List.mem_cons_self
    have ht : e.call? ≠ none → Timely d h s.agenda.now := fun hcall => by
      obtain ⟨c, hcall⟩ := Option.ne_none_iff_exists'.mp hcall
      rw [calls, hcall] at hc
      exact Calm.timely hc
    have hstep := hr.step hd he ht
    have hgoes := hr.kept.step hd he ht
    have hnow := hr.kept.now_step hd he
    rw [calls, ← List.append_assoc, ← hnow] at hc ⊢
    obtain ⟨hrest, hcarries, hclock⟩ :=
      ih hstep (fun e' hm => hlapse e' (List.mem_cons_of_mem _ hm)) hc
    refine ⟨hrest, hgoes.carries.trans hcarries, hclock.trans ?_⟩
    rw [hnow]
    rfl

/-! What is known of a session that has been reached -/

theorem Reached.starts_iff (hr : Reached d h s) (hc : Calm d h) (time : ℚ) :
    (∃ run, .started run time ∈ s.record ∧ (time, .flush) ∉ h) ↔
      time ≤ s.agenda.now ∧ Expires d h time := by
  constructor
  · rintro ⟨run, hm, hno⟩
    obtain ⟨hle, hx | hf⟩ := hr.kept.begun.due _ (mem_starts.mpr hm)
    · exact ⟨hle, hx⟩
    · exact absurd hf.1 hno
  · rintro ⟨hle, hx⟩
    obtain ⟨run, hm⟩ := hr.upToDate time hle hx
    exact ⟨run, hm, fun hf => hc.clear _ hf hx⟩

/-- The times at which runs begin, flushes included. -/
theorem Reached.begins_iff (hr : Reached d h s) (time : ℚ) :
    (∃ run, .started run time ∈ s.record) ↔
      time ≤ s.agenda.now ∧ (Expires d h time ∨ Flushes d h time) := by
  constructor
  · rintro ⟨run, hm⟩
    exact hr.kept.begun.due _ (mem_starts.mpr hm)
  · rintro ⟨hle, hx | hf⟩
    · exact hr.upToDate time hle hx
    · obtain ⟨run, hm⟩ := hr.kept.begun.flushed time hf
      exact ⟨run, mem_starts.mp hm⟩

theorem Reached.pending_iff (hd : 0 < d) (hr : Reached d h s) :
    s.debouncer.isPending = true ↔ Pending d h s.agenda.now := by
  refine ⟨fun hp => ?_, hr.kept.begun.waits_of_pending⟩
  obtain ⟨u, hu, hle⟩ := hr.kept.due hd hp
  refine Debouncer.pending_iff.mpr ⟨u, hu, lt_of_le_of_ne hle fun he => ?_⟩
  -- a run that had begun now would have begun before the trigger
  obtain ⟨run, hm⟩ := hr.upToDate (u + d) he.ge hu.expires
  have hbefore := hr.kept.begun.before hp u hu _ (mem_starts.mpr hm)
  linarith

theorem Reached.waiting (hr : Reached d h s) :
    (s.debouncer.timers.filter Timer.waits).length = if s.debouncer.isPending then 1 else 0 := by
  have hw := hr.kept.waits
  have hcurrent : ∀ t ∈ s.debouncer.timers, t.waits = true → s.debouncer.current = some t.id := by
    intro t ht hwaits
    have hf := find?_of_mem hw.nodup ht
    rw [Timer.waits, Bool.and_eq_true, Bool.not_eq_true', bne_iff_ne] at hwaits
    exact hw.alone t.id t hf hwaits.1 hwaits.2
  cases hc : s.debouncer.current with
  | none =>
    rw [isPending, hc, Option.isSome_none, if_neg Bool.false_ne_true, List.length_eq_zero_iff,
      List.filter_eq_nil_iff]
    intro t ht hwaits
    rw [hcurrent t ht hwaits] at hc
    cases hc
  | some timer =>
    obtain ⟨u, t, -, hf, hoff, hst⟩ := hw.current timer hc
    obtain ⟨ht, rfl⟩ := mem_of_find? hf
    -- the timers that wait are those with the id of the one that is current
    have hone : s.debouncer.timers.countP Timer.waits =
        (s.debouncer.timers.map (·.id)).count t.id := by
      rw [List.count, List.countP_map]
      refine List.countP_congr fun y hy => ?_
      rw [Function.comp_apply, beq_iff_eq]
      constructor
      · intro hwaits
        exact Option.some.inj ((hcurrent y hy hwaits).symm.trans hc)
      · intro he
        obtain rfl := List.inj_on_of_nodup_map hw.nodup hy ht he
        rw [Timer.waits, hoff, Bool.not_false, Bool.true_and, bne_iff_ne]
        intro hs
        rw [hs] at hst
        exact hst
    rw [isPending, hc, Option.isSome_some, if_pos rfl, ← List.countP_eq_length_filter, hone]
    exact List.count_eq_one_of_mem hw.nodup (List.mem_map_of_mem ht)

/-- A run goes on until its time is over, unless a cancel stops it. -/
theorem Reached.fate (hr : Reached d h s) {runner : Runner} {run : Nat}
    (hf : Fate h s runner run time) (hs : .started run time ∈ s.record) :
    (∃ i, runner = .timer i) ∧ Cancelled h time (time + (s.lasts run).getD 0) ∨
      s.outcome run (time + (s.lasts run).getD 0) ∈ s.record ∧
        time + (s.lasts run).getD 0 ≤ s.agenda.now ∧
        (∀ i, runner = .caller i → .returned i (some true) ∈ s.record) ∨
      s.active.get? runner = some run ∧ s.agenda.now ≤ time + (s.lasts run).getD 0 := by
  cases hf with
  | goesOn hactive =>
    obtain ⟨time', x, hu⟩ := hr.kept.runs.active runner run hactive
    obtain rfl := hr.kept.begun.time_unique (mem_starts.mpr hs) (mem_starts.mpr hu.started)
    refine .inr (.inr ⟨hactive, ?_⟩)
    rw [hu.lasts, Option.getD_some]
    rcases hu.goes with hm | hm
    · exact hr.kept.inTime.ahead _ hm
    · exact (hu.resume hm).le
  | ended hle hend hanswer => exact .inr (.inl ⟨hend, hle, hanswer⟩)
  | stopped x hx hrunner hc =>
    refine .inl ⟨hrunner, ?_⟩
    rw [hx, Option.getD_some]
    exact hc

theorem Calm.left (hc : Calm d (h ++ rest)) : Calm d h := by
  obtain ⟨hh, -, hbefore⟩ := List.pairwise_append.mp hc.apart
  refine ⟨hh, fun call hm hx => hc.clear call (List.mem_append_left _ hm)
    ⟨List.mem_append_left _ hx.1, fun other ho => ?_⟩⟩
  rcases List.mem_append.mp ho with ho | ho
  · exact hx.2 other ho
  · exact fun hlt => lt_asymm hlt.2 (hbefore call hm other ho)

/-! Flushes, seen from a later time -/

/-- A flush in the course of events, and those after it. -/
theorem Reached.flush_more (hd : 0 < d) (hr : Reached d h s)
    (hlapse : ∀ e ∈ after, 0 ≤ e.lapse)
    (hc : Calm d (h ++ (s.agenda.now, .flush) :: calls s.agenda.now after)) :
    Reached d (h ++ (s.agenda.now, .flush) :: calls s.agenda.now after) (s.flush.run after) ∧
      Carries (h ++ [(s.agenda.now, .flush)]) s.flush
        (h ++ (s.agenda.now, .flush) :: calls s.agenda.now after) (s.flush.run after) := by
  have hflush : Reached d (h ++ [(s.agenda.now, .flush)]) s.flush :=
    hr.step (e := .flush) hd le_rfl fun _ => Calm.timely hc
  have hmore := hflush.more hd after hlapse
  rw [now_flush, ← List.append_cons] at hmore
  exact ⟨(hmore hc).1, (hmore hc).2.1⟩

/-- What comes of a flush that finds the one session after its calls, by the time of the other. -/
def Flushed (d : ℚ) (h : List (ℚ × Call)) (s : Session ℚ) (h' : List (ℚ × Call))
    (s' : Session ℚ) : Prop :=
  let run := s.runs + 1
  let stop := s.agenda.now + (s.lasts run).getD 0
  if Pending d h s.agenda.now then
    .started run s.agenda.now ∈ s'.record ∧
    (s'.outcome run stop ∈ s'.record ∧ stop ≤ s'.agenda.now ∧
        .returned s.nextCaller (some true) ∈ s'.record ∨
      s'.active.get? (.caller s.nextCaller) = some run ∧ s'.agenda.now ≤ stop) ∧
    -- the timers that might have waited run nothing any more
    ∀ u, (u, .trigger) ∈ h → s.agenda.now < u + d →
      ∀ run, .started run (u + d) ∈ s'.record → (u + d, .flush) ∈ h'
  else
    (∀ run, .started run s.agenda.now ∉ s'.record) ∧ .returned s.nextCaller (some false) ∈ s'.record

theorem Reached.flushed (hd : 0 < d) (hr : Reached d h s) (hlapse : ∀ e ∈ after, 0 ≤ e.lapse)
    (hc : Calm d (h ++ (s.agenda.now, .flush) :: calls s.agenda.now after)) :
    Flushed d h s (h ++ (s.agenda.now, .flush) :: calls s.agenda.now after)
      (s.flush.run after) := by
  have ht := Calm.timely hc
  obtain ⟨hrest, hcarries⟩ := hr.flush_more hd hlapse hc
  unfold Flushed
  extract_lets run stop
  split
  · next hp =>
    obtain ⟨hgoes, hm, hfate⟩ := hr.kept.flush_granted hd ht (hr.kept.begun.waits_of_pending hp)
    have hlasts : (s.flush.run after).lasts = s.lasts := hcarries.lasts.trans hgoes.carries.lasts
    have hstarted := hcarries.record _ (mem_starts.mp hm)
    refine ⟨hstarted, ?_, fun u hu hlt r hstart => ?_⟩
    · have hlater := hrest.fate (hfate.carry (mem_starts.mp hm) hcarries) hstarted
      rw [hlasts] at hlater
      rcases hlater with ⟨⟨i, hi⟩, -⟩ | ⟨hend, hle, hanswer⟩ | hgoesOn
      · cases hi
      · exact .inl ⟨hend, hle, hanswer _ rfl⟩
      · exact .inr hgoesOn
    · by_contra hno
      obtain ⟨-, hx⟩ := (hrest.starts_iff hc (u + d)).mp ⟨r, hstart, hno⟩
      refine hx.2 _ (List.mem_append_right _ List.mem_cons_self) ⟨?_, hlt⟩
      rw [add_sub_cancel_right]
      exact ht.apart _ hu
  · next hp =>
    have hwaits : s.debouncer.isPending = false :=
      Bool.eq_false_iff.mpr fun hw => hp ((hr.pending_iff hd).mp hw)
    obtain ⟨-, -, hanswer⟩ := hr.kept.flush_refused hd ht hwaits
    refine ⟨fun r hm => ?_, hcarries.record _ hanswer⟩
    obtain ⟨-, hx | ⟨-, hf⟩⟩ := hrest.kept.begun.due _ (mem_starts.mpr hm)
    · exact hc.clear _ (List.mem_append_right _ List.mem_cons_self) hx
    · rw [filter_before hc] at hf
      exact hp hf

/-! The timeline -/

theorem reached_run (hd : 0 < d) (now : ℚ) (hl : ∀ run x, lasts run = some x → 0 ≤ x)
    (fails : Nat → Bool) (ht : ∀ e ∈ events, 0 ≤ e.lapse) (hc : Calm d (calls now events)) :
    Reached d (calls now events) ((new d now lasts fails).run events) ∧
      ((new d now lasts fails).run events).lasts = lasts ∧
      ((new d now lasts fails).run events).agenda.now = clock now events := by
  obtain ⟨hr, hcarries, hclock⟩ := (reached_new d now hl fails).more hd events ht hc
  exact ⟨hr, hcarries.lasts, hclock⟩

theorem flush_in_run (hd : 0 < d) (now : ℚ) (hl : ∀ run x, lasts run = some x → 0 ≤ x)
    (fails : Nat → Bool) (ht : ∀ e ∈ before ++ .flush :: after, 0 ≤ e.lapse)
    (hc : Calm d (calls now (before ++ .flush :: after))) :
    let s := (new d now lasts fails).run (before ++ .flush :: after)
    let b := (new d now lasts fails).run before
    Flushed d (calls now before) b (calls now (before ++ .flush :: after)) s := by
  intro s b
  have hbefore : ∀ e ∈ before, 0 ≤ e.lapse := fun e hm => ht e (List.mem_append_left _ hm)
  have hafter : ∀ e ∈ after, 0 ≤ e.lapse := fun e hm =>
    ht e (List.mem_append_right _ (List.mem_cons_of_mem _ hm))
  have hs : s = b.flush.run after := List.foldl_append ..
  have hleft : Calm d (calls now before) := by
    rw [calls_append] at hc
    exact Calm.left hc
  obtain ⟨hb, -, hclock⟩ := reached_run hd now hl fails hbefore hleft
  have hsplit : calls now (before ++ .flush :: after) =
      calls now before ++ (b.agenda.now, .flush) :: calls b.agenda.now after := by
    rw [calls_append, calls, ← hclock, show Event.lapse .flush = 0 from rfl, add_zero]
    rfl
  rw [hsplit] at hc ⊢
  rw [hs]
  exact hb.flushed hd hafter hc

/-- Calls come each at a time of its own, and none when a quiet ends. Then a timer runs the
callback one delay after a trigger that no call follows in between, a flush runs it if such a
timer waits, and no run is stopped but by a cancel; whatever runs take, and whichever fail. -/
theorem run_timeline (hd : 0 < d) (now : ℚ) (hl : ∀ run x, lasts run = some x → 0 ≤ x)
    (fails : Nat → Bool) (ht : ∀ e ∈ events, 0 ≤ e.lapse) (hc : Calm d (calls now events)) :
    let s := (new d now lasts fails).run events
    let h := calls now events
    s.agenda.now = clock now events ∧
    (∀ time, (∃ run, .started run time ∈ s.record ∧ (time, .flush) ∉ h) ↔
      time ≤ s.agenda.now ∧ Expires d h time) ∧
    s.starts.Pairwise (fun later earlier => earlier.2 < later.2) ∧
    (s.debouncer.isPending = true ↔ Pending d h s.agenda.now) ∧
    (s.debouncer.timers.filter Timer.waits).length = (if s.debouncer.isPending then 1 else 0) ∧
    (∀ run time, .started run time ∈ s.record →
      let stop := time + (lasts run).getD 0
      Cancelled h time stop ∨ s.outcome run stop ∈ s.record ∧ stop ≤ s.agenda.now ∨
        (∃ runner, s.active.get? runner = some run) ∧ s.agenda.now ≤ stop) ∧
    (∀ before after, events = before ++ .flush :: after →
      Flushed d (calls now before) ((new d now lasts fails).run before) h s) ∧
    (∀ caller a a', .returned caller a ∈ s.record → .returned caller a' ∈ s.record → a = a') ∧
    ∀ lasts' fails', (∀ run x, lasts' run = some x → 0 ≤ x) →
      let s' := (new d now lasts' fails').run events
      s'.debouncer.isPending = s.debouncer.isPending ∧
        ∀ time, (∃ run, .started run time ∈ s'.record) ↔ ∃ run, .started run time ∈ s.record := by
  intro s h
  obtain ⟨hr, hlasts, hclock⟩ : Reached d h s ∧ s.lasts = lasts ∧
    s.agenda.now = clock now events := reached_run hd now hl fails ht hc
  refine ⟨hclock, hr.starts_iff hc, hr.kept.begun.rising.imp fun hlater => hlater.2,
    hr.pending_iff hd, hr.waiting, fun run time hm => ?_, fun before after he => ?_,
    hr.kept.runs.once, fun lasts' fails' hl' => ?_⟩
  · obtain ⟨runner, hf⟩ := hr.told run time hm
    rw [← hlasts]
    rcases hr.fate hf hm with ⟨-, hcancelled⟩ | ⟨hend, hle, -⟩ | ⟨hactive, hle⟩
    · exact .inl hcancelled
    · exact .inr (.inl ⟨hend, hle⟩)
    · exact .inr (.inr ⟨⟨runner, hactive⟩, hle⟩)
  · subst he
    exact flush_in_run hd now hl fails ht hc
  · obtain ⟨hr', -, hclock'⟩ := reached_run hd now hl' fails' ht hc
    refine ⟨?_, fun time => ?_⟩
    · rw [Bool.eq_iff_iff, hr'.pending_iff hd, hr.pending_iff hd, hclock, hclock']
    · rw [hr'.begins_iff, hr.begins_iff, hclock, hclock']

/-- The run that the timer began goes on for long after the flush, whose own run fails. -/
theorem run_timeline_overlapping :
    let events : List (Event ℚ) :=
      [.trigger, .advance 2, .trigger, .advance (1 / 2), .flush, .advance 3]
    let s := (new 1 0 (fun run => if run = 1 then some 4 else none) (· == 2)).run events
    (∀ e ∈ events, 0 ≤ e.lapse) ∧ Calm 1 (calls 0 events) ∧
      (∃ run, .started run 1 ∈ s.record) ∧ s.debouncer.isPending = false := by
  intro events s
  have ht : ∀ e ∈ events, 0 ≤ e.lapse := by decide +kernel
  have hc : Calm 1 (calls 0 events) := ⟨by decide +kernel, by decide +kernel⟩
  have hl : ∀ run x, (if run = 1 then some (4 : ℚ) else none) = some x → 0 ≤ x := by
    intro run x hx
    split at hx
    · obtain rfl := Option.some.inj hx
      decide +kernel
    · cases hx
  obtain ⟨hnow, hstarts, -, hpending, -⟩ := run_timeline (by decide +kernel) 0 hl (· == 2) ht hc
  have hclock : clock 0 events = 11 / 2 := by decide +kernel
  refine ⟨ht, hc, ?_, Bool.eq_false_iff.mpr fun hp => ?_⟩
  · obtain ⟨run, hm, -⟩ := (hstarts 1).mpr
      ⟨by rw [hnow, hclock]; decide +kernel, by decide +kernel⟩
    exact ⟨run, hm⟩
  · have hwaits := hpending.mp hp
    rw [hnow, hclock] at hwaits
    exact absurd hwaits (by decide +kernel)

end Session

end CommitMessage.Debouncer
