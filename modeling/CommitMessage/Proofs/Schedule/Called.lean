import CommitMessage.Proofs.Schedule.Debouncing

/-! What calls do to a debouncer with its callbacks. A call that comes at a time of its own, and
not when a quiet ends, leaves nothing outstanding. -/

namespace CommitMessage.Debouncer.Session

variable {d : ℚ} {h h' : List (ℚ × Call)} {s s' : Session ℚ} {runner : Runner} {run i : Nat}
  {time x : ℚ} {w : Waiting}

theorem Kept.due (hd : 0 < d) (hk : Kept d h s) (hp : s.debouncer.isPending = true) :
    ∃ u, Newest h u ∧ s.agenda.now ≤ u + d := by
  obtain ⟨timer, hc⟩ := Option.isSome_iff_exists.mp hp
  exact hk.waits.due hc hd hk.inTime.ahead

/-! Callers -/

/-- Somebody begins to wait. -/
def newCaller (s : Session ℚ) (w : Waiting) : Session ℚ :=
  { s with nextCaller := s.nextCaller + 1, callers := s.callers.set s.nextCaller w }

/-- Somebody has an answer at once. -/
def answerNow (s : Session ℚ) (answer : Option Bool) : Session ℚ :=
  { s with nextCaller := s.nextCaller + 1 }.note (.returned s.nextCaller answer)

theorem await_eq (s : Session ℚ) (w : Waiting) :
    s.await w = if s.isOver w then s.answerNow none else s.newCaller w := by
  unfold await answerNow newCaller
  cases w <;> rfl

theorem Spent.nextCaller (hs : s.Spent runner) :
    Spent { s with nextCaller := s.nextCaller + 1 } runner := by
  cases runner with
  | timer i => exact hs
  | caller i => exact Nat.lt_succ_of_lt hs

theorem Runs.newCaller (hr : Runs h s) (w : Waiting) :
    Runs h (s.newCaller w) ∧ Carries h s h (s.newCaller w) := by
  have hget (i : Nat) : (s.newCaller w).callers.get? i =
      if i = s.nextCaller then some w else s.callers.get? i := Register.get?_set ..
  refine ⟨{ hr with
    active := fun r run ha => ?_
    alarms := fun t r hm => (hr.alarms t r hm).nextCaller
    resumes := fun r hm => (hr.resumes r hm).nextCaller
    keys := Register.nodup_keys_set hr.keys
    callers := fun i w' hw => ?_
    answered := fun i a hm => ?_ },
    fun _ => id, le_rfl, rfl, rfl, fun _ => id, fun _ _ _ _ ha => .goesOn ha⟩
  · obtain ⟨time, x, hu⟩ := hr.active r run ha
    refine ⟨time, x, { hu with hosts := ?_ }⟩
    cases r with
    | timer i => exact hu.hosts
    | caller i => exact (hget i).trans ((if_neg (hr.callers i _ hu.hosts).ne).trans hu.hosts)
  · rw [hget] at hw
    split at hw
    · next he => exact he ▸ Nat.lt_succ_self _
    · exact Nat.lt_succ_of_lt (hr.callers i w' hw)
  · obtain ⟨hlt, hno⟩ := hr.answered i a hm
    exact ⟨Nat.lt_succ_of_lt hlt, (hget i).trans ((if_neg hlt.ne).trans hno)⟩

theorem Runs.answerNow (hr : Runs h s) (answer : Option Bool) :
    Runs h (s.answerNow answer) ∧ Carries h s h (s.answerNow answer) := by
  have hnew : ∀ a, .returned s.nextCaller a ∉ s.record := fun a hm =>
    absurd (hr.answered _ a hm).1 (lt_irrefl _)
  refine ⟨{ hr with
    active := fun r run ha => ?_
    alarms := fun t r hm => (hr.alarms t r hm).nextCaller
    resumes := fun r hm => (hr.resumes r hm).nextCaller
    callers := fun i w hw => Nat.lt_succ_of_lt (hr.callers i w hw)
    answered := fun i a hm => ?_
    once := fun i a b ha hb => ?_ },
    fun e he => List.mem_cons_of_mem _ he, le_rfl, rfl, rfl, fun _ => id,
    fun _ _ _ _ ha => .goesOn ha⟩
  · obtain ⟨time, x, hu⟩ := hr.active r run ha
    exact ⟨time, x, { hu with started := List.mem_cons_of_mem _ hu.started }⟩
  · rcases List.mem_cons.mp hm with he | hm
    · cases he
      refine ⟨Nat.lt_succ_self _, ?_⟩
      cases hw : s.callers.get? s.nextCaller with
      | none => exact hw
      | some w => exact absurd (hr.callers _ w hw) (lt_irrefl _)
    · exact ⟨Nat.lt_succ_of_lt (hr.answered i a hm).1, (hr.answered i a hm).2⟩
  · rcases List.mem_cons.mp ha with he | ha
    · cases he
      rcases List.mem_cons.mp hb with he | hb
      · cases he
        rfl
      · exact absurd hb (hnew b)
    · rcases List.mem_cons.mp hb with he | hb
      · cases he
        exact absurd ha (hnew a)
      · exact hr.once i a b ha hb

theorem Kept.newCaller (hk : Kept d h s) (w : Waiting) : Goes d h s h (s.newCaller w) := by
  obtain ⟨hruns, hcarries⟩ := hk.runs.newCaller w
  exact ⟨⟨hk.waits, hk.begun, hruns, hk.inTime, hk.lasting⟩, hcarries, fun _ _ => .inl⟩

theorem Kept.answerNow (hk : Kept d h s) (answer : Option Bool) :
    Goes d h s h (s.answerNow answer) := by
  obtain ⟨hruns, hcarries⟩ := hk.runs.answerNow answer
  exact ⟨⟨hk.waits, hk.begun, hruns, hk.inTime, hk.lasting⟩, hcarries, fun _ _ => .inl⟩

theorem Kept.await (hk : Kept d h s) (w : Waiting) : Goes d h s h (s.await w) := by
  rw [await_eq]
  split
  · exact hk.answerNow none
  · exact hk.newCaller w

/-! Calling off -/

/-- The timer that waits is called off, and these timers have a turn coming. -/
def calledOff (s : Session ℚ) (timers : List Nat) : Session ℚ :=
  { s with
    debouncer := s.debouncer.callOffCurrent.1
    agenda := { s.agenda with jobs := s.agenda.jobs ++ timers.map .timer } }

/-- No callback is called off with it. -/
theorem Kept.callOffCurrent (hk : Kept d h s) (c : Call) : ∃ timers : List Nat,
    s.debouncer.callOffCurrent.2 = timers.map .turn ∧
    Waits d (h ++ [(s.agenda.now, c)]) (s.calledOff timers).debouncer
      (s.calledOff timers).agenda ∧
    Runs (h ++ [(s.agenda.now, c)]) (s.calledOff timers) ∧
    Carries h s (h ++ [(s.agenda.now, c)]) (s.calledOff timers) ∧
    InTime (s.calledOff timers).agenda := by
  obtain ⟨timers, hsignals, hwaits⟩ := hk.waits.callOffCurrent (h ++ [(s.agenda.now, c)])
  have hnext : s.debouncer.callOffCurrent.1.nextId = s.debouncer.nextId := by
    rw [callOffCurrent_fst]
    cases s.debouncer.current <;> rfl
  have hresume : ∀ r, .resume r ∈ s.agenda.jobs ++ timers.map Job.timer ↔
      .resume r ∈ s.agenda.jobs := fun r => by simp
  have hstage : ∀ i t, i < s.debouncer.nextId → s.debouncer.callOffCurrent.1.find? i = some t →
      ∃ t', s.debouncer.find? i = some t' ∧ (t'.stage = .running → t.stage = .running) := by
    intro i t _ hf
    rw [find?_callOffCurrent] at hf
    obtain ⟨t', hf', rfl⟩ := Option.map_eq_some_iff.mp hf
    refine ⟨t', hf', fun hr => ?_⟩
    split <;> exact hr
  obtain ⟨hruns, hcarries⟩ := hk.runs.beside (b := s.debouncer.callOffCurrent.1)
    (a := { s.agenda with jobs := s.agenda.jobs ++ timers.map .timer }) le_rfl
    (fun _ => List.mem_append_left [(s.agenda.now, c)]) (fun _ _ => Iff.rfl) hresume
    (fun _ _ => rfl) hnext.ge hstage fun i run time x hu => by
      obtain ⟨t, hf, hs, hcan⟩ := hu.hosts
      refine ⟨t, ?_, hs, fun hoff => (hcan hoff).concat⟩
      rw [find?_callOffCurrent, hf, Option.map_some, if_neg (hk.waits.ne_of_running hf hs)]
  exact ⟨timers, hsignals, hwaits, hruns, hcarries, hk.inTime.sorted, hk.inTime.ahead⟩

theorem Kept.trigger (hd : 0 < d) (hk : Kept d h s) (ht : Timely d h s.agenda.now) :
    Goes d h s (h ++ [(s.agenda.now, .trigger)]) s.trigger := by
  obtain ⟨timers, hsignals, hwaits, hruns, hcarries, hinTime⟩ := hk.callOffCurrent .trigger
  have hcurrent := callOffCurrent_current s.debouncer
  have hstarted := hwaits.start hcurrent (newest_concat_trigger ht.apart)
  have htrigger : s.trigger = { s.calledOff timers with
      debouncer := (s.calledOff timers).debouncer.started
      agenda := { (s.calledOff timers).agenda with
        jobs := (s.calledOff timers).agenda.jobs ++
          [.timer (s.calledOff timers).debouncer.nextId] } } := by
    have hall : s.debouncer.trigger.2 =
        (timers ++ [s.debouncer.callOffCurrent.1.nextId]).map .turn := by
      rw [trigger_eq, hsignals, List.map_append]
      rfl
    rw [Session.trigger, apply_turns hall, List.map_append, ← List.append_assoc]
    rfl
  have hfind := hwaits.find?_started
  have hresume : ∀ r, .resume r ∈ (s.calledOff timers).agenda.jobs ++
      [.timer (s.calledOff timers).debouncer.nextId] ↔
        .resume r ∈ (s.calledOff timers).agenda.jobs := fun r => by simp
  obtain ⟨hruns', hcarries'⟩ := hruns.beside (b := (s.calledOff timers).debouncer.started)
    (a := { (s.calledOff timers).agenda with
      jobs := (s.calledOff timers).agenda.jobs ++ [.timer (s.calledOff timers).debouncer.nextId] })
    le_rfl (fun _ => id) (fun _ _ => Iff.rfl) hresume (fun _ _ => rfl) (Nat.le_succ _)
    (fun i t hlt hf => ⟨t, by rwa [hfind, if_neg hlt.ne] at hf, id⟩)
    fun i run time x hu => by
      obtain ⟨t, hf, hst⟩ := hu.hosts
      exact ⟨t, (hfind i).trans ((if_neg (hwaits.bound i t hf).ne).trans hf), hst⟩
  have hbegun := hk.begun.call (c := .trigger) hd ht (hk.due hd) nofun
  rw [htrigger]
  exact ⟨⟨hstarted, hbegun, hruns', ⟨hinTime.sorted, hinTime.ahead⟩, hk.lasting⟩,
    hcarries.trans hcarries', fun _ _ => .inl⟩

/-! Flushes -/

theorem Kept.flush_refused (hd : 0 < d) (hk : Kept d h s) (ht : Timely d h s.agenda.now)
    (hp : s.debouncer.isPending = false) :
    Goes d h s (h ++ [(s.agenda.now, .flush)]) s.flush ∧ s.flush.starts = s.starts ∧
      .returned s.nextCaller (some false) ∈ s.flush.record := by
  obtain ⟨timers, hsignals, hwaits, hruns, hcarries, hinTime⟩ := hk.callOffCurrent .flush
  have hflush : s.flush = (s.calledOff timers).answerNow (some false) := by
    rw [Session.flush, apply_turns hsignals]
    simp only [hp]
    rfl
  have hnone : (s.calledOff timers).debouncer.isPending = false := by
    rw [isPending, calledOff, callOffCurrent_current, Option.isSome_none]
  have hbegun := hk.begun.call (c := .flush) hd ht (hk.due hd) fun _ => hp
  have hkept : Kept d (h ++ [(s.agenda.now, .flush)]) (s.calledOff timers) := by
    refine ⟨hwaits, ?_, hruns, hinTime, hk.lasting⟩
    rw [hnone]
    exact hbegun
  have hgoes := hkept.answerNow (some false)
  rw [hflush]
  exact ⟨⟨hgoes.kept, hcarries.trans hgoes.carries, fun _ _ => .inl⟩, rfl, List.mem_cons_self⟩

theorem Kept.flush_granted (hd : 0 < d) (hk : Kept d h s) (ht : Timely d h s.agenda.now)
    (hp : s.debouncer.isPending = true) :
    Goes d h s (h ++ [(s.agenda.now, .flush)]) s.flush ∧
      (s.runs + 1, s.agenda.now) ∈ s.flush.starts ∧
      Fate (h ++ [(s.agenda.now, .flush)]) s.flush (.caller s.nextCaller) (s.runs + 1)
        s.agenda.now := by
  obtain ⟨timers, hsignals, hwaits, hruns, hcarries, hinTime⟩ := hk.callOffCurrent .flush
  have hflush : s.flush =
      ((s.calledOff timers).newCaller .callback).startRun (.caller s.nextCaller) := by
    rw [Session.flush, apply_turns hsignals]
    simp only [hp]
    rfl
  have hnone : (s.calledOff timers).debouncer.isPending = false := by
    rw [isPending, calledOff, callOffCurrent_current, Option.isSome_none]
  obtain ⟨hruns', hcarries'⟩ := hruns.newCaller .callback
  have hbegun : Begun d (h ++ [(s.agenda.now, .flush)]) s.agenda.now
      (s.calledOff timers).debouncer.isPending ((s.runs + 1, s.agenda.now) :: s.starts) := by
    rw [hnone]
    have hb := hk.begun
    rw [hp] at hb
    exact hb.flush hd ht (hk.due hd hp) fun start hm => Nat.lt_succ_of_le (hk.runs.counted start hm)
  have hnot : ¬s.Spent (.caller s.nextCaller) := fun hspent => absurd hspent (lt_irrefl _)
  have hno : s.active.get? (.caller s.nextCaller) = none := by
    cases ha : s.active.get? (.caller s.nextCaller) with
    | none => rfl
    | some run =>
      obtain ⟨time, x, hu⟩ := hk.runs.active _ run ha
      exact absurd (hk.runs.callers _ _ hu.hosts) (lt_irrefl _)
  have hfresh : Fresh ((s.calledOff timers).newCaller .callback) (.caller s.nextCaller) := by
    refine ⟨hno, fun time hm => hnot (hk.runs.alarms time _ hm), fun hm => ?_⟩
    rcases List.mem_append.mp hm with hm | hm
    · exact hnot (hk.runs.resumes _ hm)
    · obtain ⟨timer, -, he⟩ := List.mem_map.mp hm
      cases he
  obtain ⟨hgoes, hfate, hstarts⟩ := goes_startRun (s := (s.calledOff timers).newCaller .callback)
    hwaits hinTime hk.lasting hruns' hbegun (fun i he => by cases he) hfresh (Nat.lt_succ_self _)
    fun x => (Register.get?_set ..).trans (if_pos rfl)
  rw [hflush]
  refine ⟨⟨hgoes.kept, (hcarries.trans hcarries').trans hgoes.carries, hgoes.told⟩, ?_, hfate⟩
  rw [hstarts]
  exact List.mem_cons_self

/-! Cancels -/

/-- Whatever runs is called off, unless a caller runs it. -/
theorem Kept.callOffAll (hd : 0 < d) (hk : Kept d h s) (ht : Timely d h s.agenda.now) :
    Goes d h s (h ++ [(s.agenda.now, .cancel)]) (s.apply s.debouncer.callOffAll) := by
  obtain ⟨timers, hsignals, hwaits⟩ := hk.waits.callOffAll (h ++ [(s.agenda.now, .cancel)])
  have hresume : ∀ r, .resume r ∈ s.agenda.jobs ++ timers.map Job.timer ↔
      .resume r ∈ s.agenda.jobs := fun r => by simp
  have hfind (i : Nat) : s.debouncer.callOffAll.1.find? i =
      (s.debouncer.find? i).map fun t => { t with calledOff := true } :=
    find?_map (b := { s.debouncer with current := none })
      (f := fun t => { t with calledOff := true }) (fun _ => rfl) i
  obtain ⟨hruns, hcarries⟩ := hk.runs.beside (b := s.debouncer.callOffAll.1)
    (a := { s.agenda with jobs := s.agenda.jobs ++ timers.map .timer }) le_rfl
    (fun _ => List.mem_append_left [(s.agenda.now, Call.cancel)]) (fun _ _ => Iff.rfl) hresume
    (fun _ _ => rfl) le_rfl
    (fun i t _ hf => by
      rw [hfind] at hf
      obtain ⟨t', hf', rfl⟩ := Option.map_eq_some_iff.mp hf
      exact ⟨t', hf', id⟩)
    fun i run time x hu => by
      obtain ⟨t, hf, hs, -⟩ := hu.hosts
      refine ⟨{ t with calledOff := true }, by rw [hfind, hf, Option.map_some], hs, fun _ => ?_⟩
      refine ⟨_, mem_concat.mpr (.inr rfl), rfl, ?_, ?_⟩
      · exact hk.begun.earlier ht _ (mem_starts.mpr hu.started)
      · rcases hu.goes with hm | hm
        · exact hk.inTime.ahead _ hm
        · exact (hu.resume hm).le
  have hbegun := hk.begun.call (c := .cancel) hd ht (hk.due hd) nofun
  rw [apply_turns hsignals]
  exact ⟨⟨hwaits, hbegun, hruns, ⟨hk.inTime.sorted, hk.inTime.ahead⟩, hk.lasting⟩, hcarries,
    fun _ _ => .inl⟩

theorem Kept.cancel (hd : 0 < d) (hk : Kept d h s) (ht : Timely d h s.agenda.now) :
    Goes d h s (h ++ [(s.agenda.now, .cancel)]) s.cancel := by
  have hgoes := hk.callOffAll hd ht
  exact hgoes.trans (hgoes.kept.await _)

end CommitMessage.Debouncer.Session
