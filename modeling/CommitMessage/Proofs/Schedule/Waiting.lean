import CommitMessage.Proofs.Schedule.Calls
import CommitMessage.Proofs.Schedule.Timers

/-! The timer that waits. There is one exactly from a trigger until its quiet is over or another
call takes its place; it sleeps until the quiet is over, and every timer that is called off has the
turn at which it ends. -/

namespace CommitMessage

namespace Agenda

variable {α : Type} {time : ℚ} {a : α} {e : ℚ × α} {alarms : List (ℚ × α)}

theorem mem_insertAlarm : e ∈ insertAlarm time a alarms ↔ e = (time, a) ∨ e ∈ alarms := by
  induction alarms with
  | nil => simp [insertAlarm]
  | cons first rest ih =>
    rw [insertAlarm]
    split
    · exact List.mem_cons
    · rw [List.mem_cons, ih, List.mem_cons]
      exact or_left_comm

theorem pairwise_insertAlarm (h : alarms.Pairwise (·.1 ≤ ·.1)) :
    (insertAlarm time a alarms).Pairwise (·.1 ≤ ·.1) := by
  induction alarms with
  | nil => exact List.pairwise_singleton _ _
  | cons first rest ih =>
    obtain ⟨hfirst, hrest⟩ := List.pairwise_cons.mp h
    rw [insertAlarm]
    split
    · next hlt =>
      refine List.pairwise_cons.mpr ⟨fun e he => ?_, h⟩
      rcases List.mem_cons.mp he with rfl | he
      · exact hlt.le
      · exact hlt.le.trans (hfirst e he)
    · next hge =>
      refine List.pairwise_cons.mpr ⟨fun e he => ?_, ih hrest⟩
      rcases mem_insertAlarm.mp he with rfl | he
      · exact not_lt.mp hge
      · exact hfirst e he

end Agenda

namespace Debouncer

/-! Timers found -/

section Found

variable {b : Debouncer ℚ} {id timer : Nat} {t : Timer} {f : Timer → Timer}

theorem exists_find?_of_mem (h : t ∈ b.timers) : ∃ u, b.find? t.id = some u := by
  refine Option.isSome_iff_exists.mp (List.find?_isSome.mpr ⟨t, h, ?_⟩)
  exact beq_self_eq_true t.id

theorem find?_of_mem (hnd : (b.timers.map (·.id)).Nodup) (h : t ∈ b.timers) :
    b.find? t.id = some t :=
  Keyed.find?_of_mem hnd h (by simp)

theorem find?_map (hf : ∀ t, (f t).id = t.id) (id : Nat) :
    ({ b with timers := b.timers.map f } : Debouncer ℚ).find? id = (b.find? id).map f := by
  have hp : (fun t : Timer => t.id == id) ∘ f = fun t => t.id == id := funext fun t => by
    simp [hf]
  rw [find?, List.find?_map, hp]
  rfl

theorem find?_update (f : Timer → Timer) (hf : ∀ t, (f t).id = t.id) (timer id : Nat) :
    (b.update timer f).find? id = (b.find? id).map fun t => if id = timer then f t else t := by
  rw [update, find?_map fun t => by split <;> simp [hf]]
  cases hfind : b.find? id with
  | none => rfl
  | some t => rw [Option.map_some, Option.map_some, (mem_of_find? hfind).2]

theorem find?_remove (timer id : Nat) :
    (b.remove timer).find? id = if id = timer then none else b.find? id := by
  rw [remove, find?, List.find?_filter]
  by_cases h : id = timer
  · rw [if_pos h, List.find?_eq_none]
    rintro t - ht
    simp only [Bool.decide_and, Bool.and_eq_true, decide_eq_true_eq, beq_iff_eq] at ht
    exact ht.1 (ht.2.trans h)
  · rw [if_neg h, find?]
    refine congrArg (List.find? · b.timers) (funext fun t => ?_)
    by_cases ht : t.id = id
    · simp [ht, h]
    · simp [ht]

theorem map_id_update (f : Timer → Timer) (hf : ∀ t, (f t).id = t.id) (timer : Nat) :
    (b.update timer f).timers.map (·.id) = b.timers.map (·.id) := by
  rw [update, List.map_map]
  refine List.map_congr_left fun t _ => ?_
  by_cases ht : t.id = timer <;> simp [ht, hf]

theorem find?_staged (b : Debouncer ℚ) (stage : Stage) (timer id : Nat) :
    (b.update timer fun t => { t with stage }).find? id =
      (b.find? id).map fun t => if id = timer then { t with stage } else t :=
  find?_update (fun t => { t with stage }) (fun _ => rfl) timer id

theorem map_id_staged (b : Debouncer ℚ) (stage : Stage) (timer : Nat) :
    (b.update timer fun t => { t with stage }).timers.map (·.id) = b.timers.map (·.id) :=
  map_id_update (fun t => { t with stage }) (fun _ => rfl) timer

theorem eq_of_find?_staged {stage : Stage} {u : Timer} (ht : b.find? timer = some t)
    (h : (b.update timer fun t => { t with stage }).find? id = some u) :
    (id = timer ∧ u = { t with stage }) ∨ (id ≠ timer ∧ b.find? id = some u) := by
  rw [find?_staged] at h
  by_cases he : id = timer
  · subst he
    simp only [ht, Option.map_some, if_true, Option.some.injEq] at h
    exact .inl ⟨rfl, h.symm⟩
  · simp only [if_neg he, Option.map_id'] at h
    exact .inr ⟨he, h⟩

/-! Calling off -/

/-- The timers after the one that waits is called off: the others are as before. -/
theorem callOffCurrent_fst (b : Debouncer ℚ) : b.callOffCurrent.1 =
    match b.current with
    | some timer => { b with current := none }.update timer fun t => { t with calledOff := true }
    | none => b := by
  unfold callOffCurrent
  cases b.current with
  | none => rfl
  | some timer =>
    dsimp only [callOff]
    split
    · rfl
    · next hfind =>
      have hno := List.find?_eq_none.mp hfind
      have hsame : b.timers.map
          (fun t => if t.id = timer then { t with calledOff := true } else t) = b.timers := by
        refine (List.map_congr_left fun t ht => ?_).trans (List.map_id _)
        have hne : t.id ≠ timer := by simpa using hno t ht
        rw [if_neg hne, id]
      simp only [update, hsame]

theorem find?_callOffCurrent (b : Debouncer ℚ) (id : Nat) :
    b.callOffCurrent.1.find? id = (b.find? id).map fun t =>
      if b.current = some id then { t with calledOff := true } else t := by
  rw [callOffCurrent_fst]
  cases b.current with
  | none => simp
  | some timer =>
    refine (find?_update (fun t => { t with calledOff := true }) (fun _ => rfl) timer id).trans ?_
    simp only [Option.some.injEq, eq_comm]
    rfl

/-- The timer that is called off gets a turn if it has none coming. -/
theorem callOffCurrent_signals (b : Debouncer ℚ) : ∃ ids : List Nat,
    b.callOffCurrent.2 = ids.map .turn ∧ ∀ timer t, b.current = some timer →
      b.find? timer = some t → needsTurn t = true → timer ∈ ids := by
  unfold callOffCurrent
  cases hc : b.current with
  | none => exact ⟨[], rfl, nofun⟩
  | some timer =>
    dsimp only [callOff]
    split
    · next t hfind =>
      by_cases hn : needsTurn t = true
      · refine ⟨[timer], by simp [hn], fun id u he hu _ => ?_⟩
        exact List.mem_singleton.mpr (Option.some.inj he).symm
      · refine ⟨[], by simp [hn], fun id u he hu hneeds => ?_⟩
        obtain rfl := Option.some.inj he
        obtain rfl := Option.some.inj (hfind.symm.trans hu)
        exact absurd hneeds hn
    · next hnone =>
      refine ⟨[], rfl, fun id u he hu _ => ?_⟩
      obtain rfl := Option.some.inj he
      exact absurd (hnone.symm.trans hu) nofun

end Found

/-! The one that waits -/

/-- How far a timer has come that was started by a trigger at `u`. -/
def Stands (d u : ℚ) (a : Agenda ℚ Alarm Job) (timer : Nat) : Stage → Prop
  | .fresh => a.now = u ∧ ∀ time, (time, .timer timer) ∉ a.alarms
  | .sleeping => (u + d, .timer timer) ∈ a.alarms ∧
      ∀ time, (time, .timer timer) ∈ a.alarms → time = u + d
  | .awake => a.now = u + d
  | .running => False

structure Waits (d : ℚ) (h : List (ℚ × Call)) (b : Debouncer ℚ) (a : Agenda ℚ Alarm Job) :
    Prop where
  delay : b.delay = d
  nodup : (b.timers.map (·.id)).Nodup
  bound : ∀ timer t, b.find? timer = some t → timer < b.nextId
  alarms : ∀ time timer, (time, .timer timer) ∈ a.alarms → timer < b.nextId
  turns : ∀ timer t, b.find? timer = some t →
    t.calledOff = true ∨ t.stage = .fresh ∨ t.stage = .awake → .timer timer ∈ a.jobs
  alone : ∀ timer t, b.find? timer = some t → t.calledOff = false → t.stage ≠ .running →
    b.current = some timer
  current : ∀ timer, b.current = some timer → ∃ u t, Newest h u ∧ b.find? timer = some t ∧
    t.calledOff = false ∧ Stands d u a timer t.stage

variable {d u now : ℚ} {h : List (ℚ × Call)} {b b' : Debouncer ℚ} {a a' : Agenda ℚ Alarm Job}
  {timer : Nat} {t : Timer} {rest : List Job}

theorem waits_new (d now : ℚ) : Waits d [] { delay := d } { now } :=
  ⟨rfl, List.nodup_nil, nofun, nofun, nofun, nofun, nofun⟩

/-- What is of no concern to a timer. -/
theorem Waits.beside (hw : Waits d h b a) (hnow : a'.now = a.now)
    (hjobs : ∀ timer, .timer timer ∈ a.jobs → .timer timer ∈ a'.jobs)
    (halarms : ∀ time timer, (time, .timer timer) ∈ a'.alarms ↔ (time, .timer timer) ∈ a.alarms) :
    Waits d h b a' := by
  refine { hw with
    alarms := fun time timer hm => hw.alarms time timer ((halarms time timer).mp hm)
    turns := fun timer t hf ht => hjobs timer (hw.turns timer t hf ht)
    current := fun timer hc => ?_ }
  obtain ⟨u, t, hu, hf, hoff, hst⟩ := hw.current timer hc
  refine ⟨u, t, hu, hf, hoff, ?_⟩
  cases hs : t.stage with
  | fresh =>
    rw [hs] at hst
    exact ⟨hnow.trans hst.1, fun time hm => hst.2 time ((halarms _ _).mp hm)⟩
  | sleeping =>
    rw [hs] at hst
    exact ⟨(halarms _ _).mpr hst.1, fun time hm => hst.2 time ((halarms _ _).mp hm)⟩
  | awake =>
    rw [hs] at hst
    exact hnow.trans hst
  | running =>
    rw [hs] at hst
    exact hst

/-- A timer that does not wait is gone. -/
theorem Waits.remove (hw : Waits d h b a) (hc : b.current ≠ some timer) :
    Waits d h (b.remove timer) a := by
  have hfind : ∀ id t, (b.remove timer).find? id = some t → b.find? id = some t := by
    intro id t hf
    rw [find?_remove] at hf
    split at hf
    · cases hf
    · exact hf
  refine ⟨hw.delay, hw.nodup.sublist (List.filter_sublist.map _), fun id t hf =>
    hw.bound id t (hfind id t hf), hw.alarms, fun id t hf => hw.turns id t (hfind id t hf),
    fun id t hf => hw.alone id t (hfind id t hf), fun id hid => ?_⟩
  obtain ⟨u, t, hu, hf, hrest⟩ := hw.current id hid
  refine ⟨u, t, hu, ?_, hrest⟩
  rw [find?_remove, if_neg, hf]
  rintro rfl
  exact hc hid

/-! Turns -/

theorem mem_of_ne {job job' : Job} {jobs : List Job} (hj : jobs = job :: rest) (hm : job' ∈ jobs)
    (hne : job' ≠ job) : job' ∈ rest :=
  (List.mem_cons.mp (hj ▸ hm)).resolve_left hne

theorem Waits.turn_passes (hw : Waits d h b a) (hj : a.jobs = .timer timer :: rest)
    (hp : ∀ t, b.find? timer = some t →
      t.calledOff = false ∧ (t.stage = .sleeping ∨ t.stage = .running)) :
    Waits d h b { a with jobs := rest } := by
  refine { hw with turns := fun id t hf ht => mem_of_ne hj (hw.turns id t hf ht) fun he => ?_ }
  cases he
  obtain ⟨hoff, hs | hs⟩ := hp t hf
  · simp [hoff, hs] at ht
  · simp [hoff, hs] at ht

theorem Waits.turn_ends (hw : Waits d h b a) (hj : a.jobs = .timer timer :: rest)
    (hf : b.find? timer = some t) (hoff : t.calledOff = true) :
    Waits d h (b.remove timer) { a with jobs := rest } := by
  have hne : b.current ≠ some timer := fun hc => by
    obtain ⟨u, t', -, hf', hoff', -⟩ := hw.current timer hc
    obtain rfl := Option.some.inj (hf.symm.trans hf')
    exact absurd hoff (by simp [hoff'])
  have hr := hw.remove hne
  refine { hr with turns := fun id t hf ht => mem_of_ne hj (hr.turns id t hf ht) fun he => ?_ }
  cases he
  rw [find?_remove, if_pos rfl] at hf
  cases hf

/-- The timer that waits goes on to another stage. -/
theorem Waits.goesOn (hw : Waits d h b a) (hf : b.find? timer = some t) (hoff : t.calledOff = false)
    (hs : t.stage ≠ .running) {stage : Stage}
    (hjobs : ∀ id, id ≠ timer → .timer id ∈ a.jobs → .timer id ∈ a'.jobs)
    (halarms : ∀ time id, (time, .timer id) ∈ a'.alarms →
      id = timer ∨ (time, .timer id) ∈ a.alarms)
    (hturn : stage = .fresh ∨ stage = .awake → .timer timer ∈ a'.jobs)
    (hst : ∀ u, Stands d u a timer t.stage → Stands d u a' timer stage) :
    Waits d h (b.update timer fun t => { t with stage }) a' := by
  have hcur := hw.alone timer t hf hoff hs
  refine ⟨hw.delay, ?_, fun id t' hf' => ?_, fun time id hm => ?_, fun id t' hf' ht => ?_,
    fun id t' hf' hoff' hs' => ?_, fun id hid => ?_⟩
  · rw [map_id_staged]
    exact hw.nodup
  · rcases eq_of_find?_staged hf hf' with ⟨rfl, -⟩ | ⟨-, hf'⟩
    · exact hw.bound _ t hf
    · exact hw.bound id t' hf'
  · rcases halarms time id hm with rfl | hm
    · exact hw.bound _ t hf
    · exact hw.alarms time id hm
  · rcases eq_of_find?_staged hf hf' with ⟨rfl, rfl⟩ | ⟨hne, hf'⟩
    · exact hturn (ht.resolve_left (by simp [hoff]))
    · exact hjobs id hne (hw.turns id t' hf' ht)
  · rcases eq_of_find?_staged hf hf' with ⟨rfl, -⟩ | ⟨-, hf'⟩
    · exact hcur
    · exact hw.alone id t' hf' hoff' hs'
  · obtain rfl : timer = id := Option.some.inj (hcur.symm.trans hid)
    obtain ⟨u, t', hu, hf', -, hstands⟩ := hw.current timer hcur
    obtain rfl := Option.some.inj (hf.symm.trans hf')
    exact ⟨u, { t with stage }, hu, by simp [find?_staged, hf], hoff, hst u hstands⟩

theorem Waits.turn_sleeps (hw : Waits d h b a) (hj : a.jobs = .timer timer :: rest)
    (hf : b.find? timer = some t) (hoff : t.calledOff = false) (hs : t.stage = .fresh) :
    Waits d h (b.update timer fun t => { t with stage := .sleeping })
      (({ a with jobs := rest } : Agenda ℚ Alarm Job).later d (.timer timer)) := by
  refine hw.goesOn hf hoff (by simp [hs]) (fun id hne hm => ?_) (fun time id hm => ?_) nofun
    fun u hst => ?_
  · exact mem_of_ne hj hm fun he => hne (by cases he; rfl)
  · rcases Agenda.mem_insertAlarm.mp hm with he | hm
    · cases he
      exact .inl rfl
    · exact .inr hm
  · rw [hs] at hst
    obtain ⟨hnow, hno⟩ := hst
    refine ⟨Agenda.mem_insertAlarm.mpr (.inl (by rw [← hnow])), fun time hm => ?_⟩
    rcases Agenda.mem_insertAlarm.mp hm with he | hm
    · cases he
      exact congrArg (· + d) hnow
    · exact absurd hm (hno time)

/-- The quiet is over, and the timer waits no more. -/
theorem Waits.turn_runs (hw : Waits d h b a) (hj : a.jobs = .timer timer :: rest)
    (hf : b.find? timer = some t) (hoff : t.calledOff = false) (hs : t.stage = .awake) :
    Waits d h (({ b with current := none } : Debouncer ℚ).update timer
      fun t => { t with stage := .running }) { a with jobs := rest } := by
  have hcur := hw.alone timer t hf hoff (by simp [hs])
  have hfind {id : Nat} {t' : Timer} (hf' : (({ b with current := none } : Debouncer ℚ).update timer
      fun t => { t with stage := .running }).find? id = some t') :=
    eq_of_find?_staged (b := { b with current := none }) hf hf'
  refine ⟨hw.delay, ?_, fun id t' hf' => ?_, hw.alarms, fun id t' hf' ht => ?_,
    fun id t' hf' hoff' hs' => ?_, nofun⟩
  · rw [map_id_staged]
    exact hw.nodup
  · rcases hfind hf' with ⟨rfl, -⟩ | ⟨-, hf'⟩
    · exact hw.bound _ t hf
    · exact hw.bound id t' hf'
  · rcases hfind hf' with ⟨-, rfl⟩ | ⟨hne, hf'⟩
    · simp [hoff] at ht
    · exact mem_of_ne hj (hw.turns id t' hf' ht) fun he => hne (by cases he; rfl)
  · rcases hfind hf' with ⟨-, rfl⟩ | ⟨hne, hf'⟩
    · exact absurd rfl hs'
    · have hid := hw.alone id t' hf' hoff' hs'
      exact absurd (Option.some.inj (hid.symm.trans hcur)) hne

/-! Alarms -/

theorem wake_cases (b : Debouncer ℚ) (timer : Nat) :
    (∃ t, b.find? timer = some t ∧ t.stage = .sleeping ∧ t.calledOff = false ∧
      b.wake timer = (b.update timer fun t => { t with stage := .awake }, [.turn timer])) ∨
    (∀ t, b.find? timer = some t → t.stage = .sleeping → t.calledOff = true) ∧
      b.wake timer = (b, []) := by
  cases hf : b.find? timer with
  | none => exact .inr ⟨nofun, by simp [Debouncer.wake, hf]⟩
  | some t =>
    by_cases hs : t.stage = .sleeping
    · cases hoff : t.calledOff with
      | true =>
        refine .inr ⟨fun u hu _ => ?_, by simp [Debouncer.wake, hf, hoff]⟩
        exact Option.some.inj hu ▸ hoff
      | false => exact .inl ⟨t, rfl, hs, hoff, by simp [Debouncer.wake, hf, hs, hoff]⟩
    · refine .inr ⟨fun u hu hsu => ?_, by simp [Debouncer.wake, hf, hs]⟩
      exact absurd (Option.some.inj hu ▸ hsu) hs

theorem Waits.wakes (hw : Waits d h b a) {rest : List (ℚ × Alarm)}
    (ha : a.alarms = (a.now, .timer timer) :: rest) (hf : b.find? timer = some t)
    (hoff : t.calledOff = false) (hs : t.stage = .sleeping) :
    Waits d h (b.update timer fun t => { t with stage := .awake })
      { a with alarms := rest, jobs := a.jobs ++ [.timer timer] } := by
  refine hw.goesOn hf hoff (by simp [hs]) (fun id _ hm => List.mem_append_left _ hm)
    (fun time id hm => .inr (ha ▸ List.mem_cons_of_mem _ hm)) (fun _ => ?_) fun u hst => ?_
  · exact List.mem_append_right _ (List.mem_singleton.mpr rfl)
  · rw [hs] at hst
    exact hst.2 a.now (ha ▸ List.mem_cons_self)

/-- An alarm that comes too late for its timer. -/
theorem Waits.rings (hw : Waits d h b a) {time : ℚ} {rest : List (ℚ × Alarm)}
    (ha : a.alarms = (time, .timer timer) :: rest)
    (hno : ∀ t, b.find? timer = some t → t.stage = .sleeping → t.calledOff = true) :
    Waits d h b { a with alarms := rest } := by
  have hsub : ∀ e ∈ rest, e ∈ a.alarms := fun e he => ha ▸ List.mem_cons_of_mem _ he
  refine { hw with
    alarms := fun time id hm => hw.alarms time id (hsub _ hm)
    current := fun id hid => ?_ }
  obtain ⟨u, t, hu, hf, hoff, hst⟩ := hw.current id hid
  refine ⟨u, t, hu, hf, hoff, ?_⟩
  cases hs : t.stage with
  | fresh =>
    rw [hs] at hst
    exact ⟨hst.1, fun time hm => hst.2 time (hsub _ hm)⟩
  | sleeping =>
    rw [hs] at hst
    refine ⟨?_, fun time hm => hst.2 time (hsub _ hm)⟩
    have hin := hst.1
    rw [ha] at hin
    refine (List.mem_cons.mp hin).resolve_left fun he => ?_
    cases he
    exact absurd (hno t hf hs) (by simp [hoff])
  | awake =>
    rw [hs] at hst
    exact hst
  | running =>
    rw [hs] at hst
    exact hst

/-- Time passes, though not beyond an alarm. -/
theorem Waits.tick (hw : Waits d h b a) (hj : a.jobs = []) (now : ℚ) :
    Waits d h b { a with now } := by
  refine { hw with current := fun timer hc => ?_ }
  obtain ⟨u, t, hu, hf, hoff, hst⟩ := hw.current timer hc
  have hturn := hw.turns timer t hf
  rw [hj] at hturn
  refine ⟨u, t, hu, hf, hoff, ?_⟩
  cases hs : t.stage with
  | fresh => exact absurd (hturn (.inr (.inl hs))) List.not_mem_nil
  | sleeping =>
    rw [hs] at hst
    exact hst
  | awake => exact absurd (hturn (.inr (.inr hs))) List.not_mem_nil
  | running =>
    rw [hs] at hst
    exact hst

theorem Waits.ne_of_running (hw : Waits d h b a) (hf : b.find? timer = some t)
    (hs : t.stage = .running) : b.current ≠ some timer := by
  intro hc
  obtain ⟨u, t', -, hf', -, hst⟩ := hw.current timer hc
  obtain rfl := Option.some.inj (hf.symm.trans hf')
  rw [hs] at hst
  exact hst

/-! Calls -/

theorem Waits.running_of_none (hw : Waits d h b a) (hc : b.current = none)
    (hf : b.find? timer = some t) : t.calledOff = true ∨ t.stage = .running := by
  by_contra hno
  rw [not_or, Bool.not_eq_true] at hno
  have hcur := hw.alone timer t hf hno.1 hno.2
  rw [hc] at hcur
  cases hcur

theorem Waits.callOffCurrent (hw : Waits d h b a) (h' : List (ℚ × Call)) : ∃ ids : List Nat,
    b.callOffCurrent.2 = ids.map .turn ∧
      Waits d h' b.callOffCurrent.1 { a with jobs := a.jobs ++ ids.map .timer } := by
  obtain ⟨ids, hids, hturns⟩ := callOffCurrent_signals b
  have hnone := callOffCurrent_current b
  have hfind {id : Nat} {t : Timer} (hf : b.callOffCurrent.1.find? id = some t) :
      ∃ t', b.find? id = some t' ∧ t =
        if b.current = some id then { t' with calledOff := true } else t' := by
    rw [find?_callOffCurrent] at hf
    obtain ⟨t', hf', rfl⟩ := Option.map_eq_some_iff.mp hf
    exact ⟨t', hf', rfl⟩
  have hsame : b.callOffCurrent.1.timers.map (·.id) = b.timers.map (·.id) ∧
      b.callOffCurrent.1.nextId = b.nextId ∧ b.callOffCurrent.1.delay = b.delay := by
    rw [callOffCurrent_fst]
    cases b.current with
    | none => exact ⟨rfl, rfl, rfl⟩
    | some timer =>
      exact ⟨map_id_update (fun t => { t with calledOff := true }) (fun _ => rfl) timer, rfl, rfl⟩
  refine ⟨ids, hids, hsame.2.2.trans hw.delay, hsame.1 ▸ hw.nodup, fun id t hf => ?_,
    fun time id hm => hsame.2.1 ▸ hw.alarms time id hm, fun id t hf ht => ?_,
    fun id t hf hoff hs => ?_, fun id hid => ?_⟩
  · obtain ⟨t', hf', -⟩ := hfind hf
    exact hsame.2.1 ▸ hw.bound id t' hf'
  · obtain ⟨t', hf', rfl⟩ := hfind hf
    by_cases hc : b.current = some id
    · by_cases hn : needsTurn t' = true
      · exact List.mem_append_right _ (List.mem_map_of_mem (hturns id t' hc hf' hn))
      · -- a timer that neither sleeps nor runs has its turn coming
        refine List.mem_append_left _ (hw.turns id t' hf' ?_)
        cases hoff : t'.calledOff <;> cases hs : t'.stage <;> simp_all [needsTurn]
    · rw [if_neg hc] at ht
      exact List.mem_append_left _ (hw.turns id t' hf' ht)
  · obtain ⟨t', hf', rfl⟩ := hfind hf
    by_cases hc : b.current = some id
    · simp [hc] at hoff
    · rw [if_neg hc] at hoff hs
      exact absurd (hw.alone id t' hf' hoff hs) hc
  · rw [hnone] at hid
    cases hid

/-- Whether they wait or run, all timers are called off. -/
theorem Waits.callOffAll (hw : Waits d h b a) (h' : List (ℚ × Call)) : ∃ ids : List Nat,
    b.callOffAll.2 = ids.map .turn ∧
      Waits d h' b.callOffAll.1 { a with jobs := a.jobs ++ ids.map .timer } := by
  have hfind {id : Nat} {t : Timer} (hf : b.callOffAll.1.find? id = some t) :
      ∃ t', b.find? id = some t' ∧ t = { t' with calledOff := true } := by
    have hmap := find?_map (b := { b with current := none })
      (f := fun t => { t with calledOff := true }) (fun _ => rfl) id
    obtain ⟨t', hf', rfl⟩ := Option.map_eq_some_iff.mp (hmap.symm.trans hf)
    exact ⟨t', hf', rfl⟩
  refine ⟨(b.timers.filter needsTurn).map Timer.id, (List.map_map ..).symm, hw.delay, ?_,
    fun id t hf => ?_, hw.alarms, fun id t hf _ => ?_, fun id t hf hoff => ?_, nofun⟩
  · have hids : b.callOffAll.1.timers.map (·.id) = b.timers.map (·.id) := List.map_map ..
    exact hids ▸ hw.nodup
  · obtain ⟨t', hf', -⟩ := hfind hf
    exact hw.bound id t' hf'
  · obtain ⟨t', hf', rfl⟩ := hfind hf
    by_cases hn : needsTurn t' = true
    · refine List.mem_append_right _ (List.mem_map_of_mem (List.mem_map.mpr ⟨t', ?_, ?_⟩))
      · exact List.mem_filter.mpr ⟨(mem_of_find? hf').1, hn⟩
      · exact (mem_of_find? hf').2
    · refine List.mem_append_left _ (hw.turns id t' hf' ?_)
      cases hoff : t'.calledOff <;> cases hs : t'.stage <;> simp_all [needsTurn]
  · obtain ⟨t', -, rfl⟩ := hfind hf
    cases hoff

/-- A new timer is started. -/
def started (b : Debouncer ℚ) : Debouncer ℚ :=
  { b with
    current := some b.nextId
    timers := b.timers ++ [{ id := b.nextId, stage := .fresh }]
    nextId := b.nextId + 1 }

theorem trigger_eq (b : Debouncer ℚ) : b.trigger =
    (b.callOffCurrent.1.started, b.callOffCurrent.2 ++ [.turn b.callOffCurrent.1.nextId]) := rfl

theorem Waits.find?_started (hw : Waits d h b a) (id : Nat) : b.started.find? id =
    if id = b.nextId then some { id := b.nextId, stage := .fresh } else b.find? id := by
  have hno : b.find? b.nextId = none := by
    cases hf : b.find? b.nextId with
    | none => rfl
    | some t => exact absurd (hw.bound _ t hf) (lt_irrefl _)
  rw [find?, started, List.find?_append, ← find?]
  by_cases he : id = b.nextId
  · subst he
    simp [hno]
  · rw [if_neg he, List.find?_singleton, if_neg (by simpa using Ne.symm he), Option.or_none]

/-- A new timer, when all others have been called off. -/
theorem Waits.start (hw : Waits d h b a) (hc : b.current = none) (hu : Newest h a.now) :
    Waits d h b.started { a with jobs := a.jobs ++ [.timer b.nextId] } := by
  refine ⟨hw.delay, ?_, fun id t hf => ?_,
    fun time id hm => Nat.lt_succ_of_lt (hw.alarms time id hm), fun id t hf ht => ?_,
    fun id t hf hoff hs => ?_, fun id hid => ?_⟩
  · rw [started, List.map_append, List.nodup_append]
    refine ⟨hw.nodup, List.nodup_singleton _, fun x hx y hy => ?_⟩
    obtain ⟨t, ht, rfl⟩ := List.mem_map.mp hx
    obtain ⟨t', hf⟩ := exists_find?_of_mem ht
    rw [List.mem_singleton.mp hy]
    exact (hw.bound _ t' hf).ne
  · rw [hw.find?_started] at hf
    split at hf
    · next he => exact he ▸ Nat.lt_succ_self _
    · exact Nat.lt_succ_of_lt (hw.bound id t hf)
  · rw [hw.find?_started] at hf
    split at hf
    · next he => exact List.mem_append_right _ (List.mem_singleton.mpr (by rw [he]))
    · exact List.mem_append_left _ (hw.turns id t hf ht)
  · rw [hw.find?_started] at hf
    split at hf
    · next he => exact congrArg some he.symm
    · rcases hw.running_of_none hc hf with hoff' | hs'
      · exact absurd hoff' (by simp [hoff])
      · exact absurd hs' hs
  · obtain rfl := Option.some.inj hid
    refine ⟨a.now, _, hu, (hw.find?_started _).trans (if_pos rfl), rfl, rfl, fun time hm => ?_⟩
    exact absurd (hw.alarms time _ hm) (lt_irrefl _)

/-! The end of the quiet -/

theorem Waits.due (hw : Waits d h b a) (hc : b.current = some timer) (hd : 0 < d)
    (hahead : ∀ alarm ∈ a.alarms, a.now ≤ alarm.1) :
    ∃ u, Newest h u ∧ a.now ≤ u + d := by
  obtain ⟨u, t, hu, -, -, hst⟩ := hw.current timer hc
  refine ⟨u, hu, ?_⟩
  cases hs : t.stage with
  | fresh =>
    rw [hs] at hst
    linarith [hst.1]
  | sleeping =>
    rw [hs] at hst
    exact hahead _ hst.1
  | awake =>
    rw [hs] at hst
    exact le_of_eq hst
  | running =>
    rw [hs] at hst
    exact hst.elim

/-- When no job is left the timer that waits sleeps. -/
theorem Waits.sleeps (hw : Waits d h b a) (hc : b.current = some timer) (hj : a.jobs = []) :
    ∃ u, Newest h u ∧ (u + d, .timer timer) ∈ a.alarms := by
  obtain ⟨u, t, hu, hf, -, hst⟩ := hw.current timer hc
  have hturn := hw.turns timer t hf
  rw [hj] at hturn
  refine ⟨u, hu, ?_⟩
  cases hs : t.stage with
  | fresh => exact absurd (hturn (.inr (.inl hs))) List.not_mem_nil
  | sleeping =>
    rw [hs] at hst
    exact hst.1
  | awake => exact absurd (hturn (.inr (.inr hs))) List.not_mem_nil
  | running =>
    rw [hs] at hst
    exact hst.elim

end Debouncer

end CommitMessage
