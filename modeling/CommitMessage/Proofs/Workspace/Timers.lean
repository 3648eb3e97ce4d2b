import CommitMessage.Proofs.Schedule.Timers
import CommitMessage.Proofs.Workspace.Beside

/-! The timers of a workspace. Whatever happens, each has its turn among the jobs or its alarm set,
and one that waits belongs to the debouncer of its buffer, or is about to be called off. -/

namespace CommitMessage.Workspace

variable {w w' : Workspace ℚ} {key timer : Nat} {buffer : Text} {d d' : Debouncer ℚ}
  {due asleep : Nat → Nat → Prop} {debts debts' : Phase → Prop}

def HasTurn (w : Workspace ℚ) (key timer : Nat) : Prop := .timer key timer ∈ w.agenda.jobs

def HasAlarm (w : Workspace ℚ) (key timer : Nat) : Prop :=
  ∃ time, (time, Alarm.timer key timer) ∈ w.agenda.alarms

/-- Turns and alarms come to the timers, and calling off to those that are not in use. -/
structure Timed (due asleep : Nat → Nat → Prop) (debts : Phase → Prop) (w : Workspace ℚ) :
    Prop where
  sound : ∀ {key buffer d}, w.debouncers.get? key = some (buffer, d) → d.Sound (due key) (asleep key)
  lt : ∀ {key entry}, w.debouncers.get? key = some entry → key < w.nextDebouncer
  own : ∀ {buffer key}, w.debouncerOf.get? buffer = some key →
    ∃ d, w.debouncers.get? key = some (buffer, d)
  retired : ∀ {key buffer d}, w.debouncers.get? key = some (buffer, d) → d.current ≠ none →
    w.debouncerOf.get? buffer = some key ∨ debts (.callOffTimers key)

theorem Timed.mono {due' asleep' : Nat → Nat → Prop} (h : w.Timed due asleep debts)
    (hd : ∀ key timer, due key timer → due' key timer)
    (ha : ∀ key timer, asleep key timer → asleep' key timer)
    (hp : ∀ key, debts (.callOffTimers key) → debts' (.callOffTimers key)) :
    w.Timed due' asleep' debts' :=
  ⟨fun hget => (h.sound hget).mono (hd _) (ha _), h.lt, h.own,
    fun hget hc => (h.retired hget hc).imp_right (hp _)⟩

theorem KeepsTimers.hasTurn (hk : KeepsTimers w w') (h : w.HasTurn key timer) :
    w'.HasTurn key timer := hk.jobs h

theorem KeepsTimers.hasAlarm (hk : KeepsTimers w w') (h : w.HasAlarm key timer) :
    w'.HasAlarm key timer := by
  obtain ⟨time, ha⟩ := h
  exact ⟨time, hk.alarms _ _ _ ha⟩

theorem Timed.keep (h : w.Timed due asleep debts) (hk : KeepsTimers w w') :
    w'.Timed due asleep debts := by
  obtain ⟨hsound, hlt, hown, hretired⟩ := h
  rw [← hk.debouncers] at hown
  refine ⟨fun hget => hsound (hk.debouncers ▸ hget), fun hget => ?_, ?_, ?_⟩
  · rw [hk.nextDebouncer]
    exact hlt (hk.debouncers ▸ hget)
  · rw [hk.debouncerOf]
    exact hown
  · rw [hk.debouncerOf]
    exact fun hget => hretired (hk.debouncers ▸ hget)

/-! One debouncer -/

/-- Turns and alarms that a debouncer asks for. -/
def turnsOf (signals : List (Debouncer.Signal ℚ)) (timer : Nat) : Prop := .turn timer ∈ signals

def sleepsOf (signals : List (Debouncer.Signal ℚ)) (timer : Nat) : Prop :=
  ∃ delay, .sleep timer delay ∈ signals

/-- A debouncer has changed, and jobs and alarms have been added for its timers alone. -/
structure Changes (key : Nat) (buffer : Text) (change : Debouncer ℚ × List (Debouncer.Signal ℚ))
    (w w' : Workspace ℚ) : Prop where
  frame : ∃ agenda, w' = { w with
    debouncers := w.debouncers.set key (buffer, change.1), agenda }
  now : w'.agenda.now = w.agenda.now
  jobs : ∀ job, job ∈ w'.agenda.jobs ↔
    job ∈ w.agenda.jobs ∨ ∃ timer, turnsOf change.2 timer ∧ job = .timer key timer
  alarms : ∀ alarm, (∃ time, (time, alarm) ∈ w'.agenda.alarms) ↔
    (∃ time, (time, alarm) ∈ w.agenda.alarms) ∨
      ∃ timer, sleepsOf change.2 timer ∧ alarm = .timer key timer

theorem changes_foldl (key : Nat) (buffer : Text) {signals : List (Debouncer.Signal ℚ)}
    (hr : ∀ timer, .run timer ∉ signals) (w : Workspace ℚ) :
    ∃ agenda, signals.foldl (debouncerSignal key buffer) w = { w with agenda } ∧
      agenda.now = w.agenda.now ∧
      (∀ job, job ∈ agenda.jobs ↔
        job ∈ w.agenda.jobs ∨ ∃ timer, turnsOf signals timer ∧ job = .timer key timer) ∧
      ∀ alarm, (∃ time, (time, alarm) ∈ agenda.alarms) ↔
        (∃ time, (time, alarm) ∈ w.agenda.alarms) ∨
          ∃ timer, sleepsOf signals timer ∧ alarm = .timer key timer := by
  induction signals generalizing w with
  | nil => exact ⟨w.agenda, rfl, rfl, by simp [turnsOf], by simp [sleepsOf]⟩
  | cons s signals ih =>
    obtain ⟨agenda, he, hnow, hjobs, halarms⟩ :=
      ih (fun timer hm => hr timer (List.mem_cons_of_mem _ hm)) (debouncerSignal key buffer w s)
    rw [List.foldl_cons]
    cases s with
    | turn timer =>
      refine ⟨agenda, he, hnow, fun job => ?_, fun alarm => ?_⟩
      · rw [hjobs job]
        simp only [debouncerSignal, Workspace.soon, Agenda.soon, List.mem_append, turnsOf,
          List.mem_cons, Debouncer.Signal.turn.injEq]
        grind
      · rw [halarms alarm]
        simp [debouncerSignal, Workspace.soon, Agenda.soon, sleepsOf]
    | sleep timer delay =>
      refine ⟨agenda, he, hnow, fun job => ?_, fun alarm => ?_⟩
      · rw [hjobs job]
        simp [debouncerSignal, Workspace.later, Agenda.later, turnsOf]
      · rw [halarms alarm]
        simp only [debouncerSignal, Workspace.later, Agenda.later, (insertAlarm_perm _ _ _).mem_iff,
          List.mem_append, sleepsOf, List.mem_cons, Debouncer.Signal.sleep.injEq, Prod.mk.injEq]
        grind
    | run timer => exact absurd List.mem_cons_self (hr timer)
    | ended timer =>
      refine ⟨agenda, he, hnow, fun job => ?_, fun alarm => ?_⟩
      · rw [hjobs job]
        simp [debouncerSignal, turnsOf]
      · rw [halarms alarm]
        simp [debouncerSignal, sleepsOf]

theorem changes_withDebouncer {change : Debouncer ℚ → Debouncer ℚ × List (Debouncer.Signal ℚ)}
    (hget : w.debouncers.get? key = some (buffer, d))
    (hr : ∀ timer, .run timer ∉ (change d).2) :
    Changes key buffer (change d) w (w.withDebouncer key change) := by
  obtain ⟨agenda, he, hnow, hjobs, halarms⟩ := changes_foldl key buffer hr
    { w with debouncers := w.debouncers.set key (buffer, (change d).1) }
  have hwith : w.withDebouncer key change = { w with
      debouncers := w.debouncers.set key (buffer, (change d).1), agenda } := by
    rw [← he, withDebouncer, hget]
  rw [hwith]
  exact ⟨⟨agenda, rfl⟩, hnow, hjobs, halarms⟩

/-- The callback has run, and then the timer is gone. -/
theorem withDebouncer_run (change : Debouncer ℚ → Debouncer ℚ × List (Debouncer.Signal ℚ))
    (hget : w.debouncers.get? key = some (buffer, d)) (he : change d = (d', [.run timer])) :
    ∃ w₁ : Workspace ℚ,
      w₁ = ({ w with debouncers := w.debouncers.set key (buffer, d') }).runLatest buffer ∧
      w.withDebouncer key change = { w₁ with
        debouncers := w₁.debouncers.set key (buffer, (d'.finish timer).1) } := by
  refine ⟨_, rfl, ?_⟩
  have hkeeps := keepsTimers_runLatest
    { w with debouncers := w.debouncers.set key (buffer, d') } buffer
  have hget' : (runLatest { w with debouncers := w.debouncers.set key (buffer, d') }
      buffer).debouncers.get? key = some (buffer, d') := by
    rw [hkeeps.debouncers]
    simp
  simp only [withDebouncer, hget, he, List.foldl_cons, List.foldl_nil, debouncerSignal, hget']

/-- A debouncer takes the place of one that had what is due. -/
theorem Timed.set (h : w.Timed due asleep debts) {due' asleep' : Nat → Nat → Prop}
    (hget : w.debouncers.get? key = some (buffer, d)) {w' : Workspace ℚ}
    (hof : w'.debouncerOf = w.debouncerOf)
    (hset : ∀ other, w'.debouncers.get? other =
      if other = key then some (buffer, d') else w.debouncers.get? other)
    (hnext : w'.nextDebouncer = w.nextDebouncer)
    (hd : ∀ other timer, other ≠ key → due other timer → due' other timer)
    (ha : ∀ other timer, other ≠ key → asleep other timer → asleep' other timer)
    (hp : ∀ other, other ≠ key → debts (.callOffTimers other) → debts' (.callOffTimers other))
    (hsound : d'.Sound (due' key) (asleep' key))
    (hc : d'.current ≠ none →
      w.debouncerOf.get? buffer = some key ∨ debts' (.callOffTimers key)) :
    w'.Timed due' asleep' debts' := by
  have hcases {other : Nat} {entry : Text × Debouncer ℚ}
      (he : w'.debouncers.get? other = some entry) :
      (other = key ∧ entry = (buffer, d')) ∨
        other ≠ key ∧ w.debouncers.get? other = some entry := by
    rw [hset] at he
    split at he
    · next heq => exact .inl ⟨heq, (Option.some.inj he).symm⟩
    · next hne => exact .inr ⟨hne, he⟩
  refine ⟨fun he => ?_, fun he => ?_, fun {other i} ho => ?_, fun he hcur => ?_⟩
  · rcases hcases he with ⟨rfl, heq⟩ | ⟨hne, he⟩
    · cases heq
      exact hsound
    · exact (h.sound he).mono (hd _ · hne) (ha _ · hne)
  · rw [hnext]
    rcases hcases he with ⟨rfl, -⟩ | ⟨-, he⟩
    · exact h.lt hget
    · exact h.lt he
  · rw [hof] at ho
    obtain ⟨d₀, hd₀⟩ := h.own ho
    rw [hset]
    by_cases heq : i = key
    · rw [heq, hget] at hd₀
      cases hd₀
      exact ⟨d', by rw [if_pos heq]⟩
    · exact ⟨d₀, by rw [if_neg heq, hd₀]⟩
  · rw [hof]
    rcases hcases he with ⟨rfl, heq⟩ | ⟨hne, he⟩
    · cases heq
      exact hc hcur
    · exact (h.retired he hcur).imp_right (hp _ hne)

/-- What a debouncer asks for is enough for its timers. -/
theorem Timed.changes {change : Debouncer ℚ × List (Debouncer.Signal ℚ)}
    (h : w.Timed due asleep debts) (hget : w.debouncers.get? key = some (buffer, d))
    (hch : Changes key buffer change w w')
    (hd : ∀ other timer, other ≠ key → due other timer → w.HasTurn other timer)
    (ha : ∀ other timer, other ≠ key → asleep other timer → w.HasAlarm other timer)
    (hp : ∀ other, other ≠ key → debts (.callOffTimers other) → debts' (.callOffTimers other))
    (hsound : change.1.Sound (fun timer => w.HasTurn key timer ∨ turnsOf change.2 timer)
      (fun timer => w.HasAlarm key timer ∨ sleepsOf change.2 timer))
    (hc : change.1.current ≠ none →
      w.debouncerOf.get? buffer = some key ∨ debts' (.callOffTimers key)) :
    w'.Timed w'.HasTurn w'.HasAlarm debts' := by
  obtain ⟨agenda, he⟩ := hch.frame
  have hturn {other timer : Nat} (ht : w.HasTurn other timer) : w'.HasTurn other timer :=
    (hch.jobs _).mpr (.inl ht)
  have halarm {other timer : Nat} (ht : w.HasAlarm other timer) : w'.HasAlarm other timer :=
    (hch.alarms _).mpr (.inl ht)
  refine h.set hget (by rw [he]) (fun other => by rw [he, Register.get?_set]) (by rw [he])
    (fun other timer hne hdue => hturn (hd _ _ hne hdue))
    (fun other timer hne hdue => halarm (ha _ _ hne hdue)) hp (hsound.mono ?_ ?_) hc
  · rintro timer (ht | ht)
    · exact hturn ht
    · exact (hch.jobs _).mpr (.inr ⟨timer, ht, rfl⟩)
  · rintro timer (ht | ht)
    · exact halarm ht
    · exact (hch.alarms _).mpr (.inr ⟨timer, ht, rfl⟩)

/-! Turns and alarms -/

theorem withDebouncer_none {change : Debouncer ℚ → Debouncer ℚ × List (Debouncer.Signal ℚ)}
    (hget : w.debouncers.get? key = none) : w.withDebouncer key change = w := by
  rw [withDebouncer, hget]

theorem Timed.turn
    (h : w.Timed (fun i t => w.HasTurn i t ∨ (i = key ∧ t = timer)) w.HasAlarm debts) :
    let w' := w.withDebouncer key (·.turn timer)
    w'.Timed w'.HasTurn w'.HasAlarm debts := by
  intro w'
  have hother : ∀ other t, other ≠ key → (w.HasTurn other t ∨ (other = key ∧ t = timer)) →
      w.HasTurn other t := fun _ _ hne hd => hd.resolve_right fun he => hne he.1
  cases hget : w.debouncers.get? key with
  | none =>
    have he : w' = w := withDebouncer_none hget
    rw [he]
    refine ⟨fun {other _ _} ho => (h.sound ho).mono (fun t => hother other t ?_) fun _ => id,
      h.lt, h.own, h.retired⟩
    rintro rfl
    rw [hget] at ho
    cases ho
  | some entry =>
    obtain ⟨buffer, d⟩ := entry
    have hs : d.Sound (fun t => w.HasTurn key t ∨ t = timer) (w.HasAlarm key) :=
      (h.sound hget).mono (fun t hd => hd.imp_right And.right) fun _ => id
    have hchanges {change : Debouncer ℚ × List (Debouncer.Signal ℚ)}
        (he : d.turn timer = change) (hr : ∀ t, .run t ∉ change.2)
        (hsound : change.1.Sound (fun t => w.HasTurn key t ∨ turnsOf change.2 t)
          (fun t => w.HasAlarm key t ∨ sleepsOf change.2 t))
        (hc : change.1.current = d.current) : w'.Timed w'.HasTurn w'.HasAlarm debts := by
      subst he
      exact h.changes hget (changes_withDebouncer hget hr) hother (fun _ _ _ => id)
        (fun _ _ => id) hsound fun hcur => h.retired hget (hc ▸ hcur)
    rcases hs.turn_cases timer with ⟨hd, he⟩ | ⟨hc, he⟩ | ⟨ht, delay, he⟩ | ⟨ht, he⟩ | ⟨hc, he⟩
    · exact hchanges he (by simp) ((hs.passes hd).mono (fun _ => .inl) fun _ => .inl) rfl
    · exact hchanges he (by simp) ((hs.ends hc).mono (fun _ => .inl) fun _ => .inl) rfl
    · refine hchanges he (by simp) ((hs.sleeps ht).mono (fun _ => .inl) fun t => ?_) rfl
      exact Or.imp_right fun ht => ⟨delay, by simp [ht]⟩
    · refine hchanges he (by simp) ?_ rfl
      have hwakes : (d.update timer fun t => { t with stage := .awake }).Sound _ _ := hs.wakes
      refine hwakes.mono (fun t hd => ?_) fun _ => .inl
      simpa [turnsOf, or_assoc] using hd
    · obtain ⟨w₁, hw₁, hw'⟩ := withDebouncer_run (·.turn timer) hget he
      have hkeeps := keepsTimers_runLatest { w with
        debouncers := w.debouncers.set key (buffer, ({ d with current := none } : Debouncer ℚ).update
          timer fun t => { t with stage := .running }) } buffer
      rw [← hw₁] at hkeeps
      have hsound := hs.runs hc
      change w'.Timed _ _ _
      rw [show w' = _ from hw']
      refine h.set hget hkeeps.debouncerOf (fun other => ?_) hkeeps.nextDebouncer
        (fun other t hne hd => hkeeps.jobs (hother other t hne hd))
        (fun other t _ ha => hkeeps.hasAlarm ha) (fun _ _ => id)
        (hsound.mono (fun t ht => hkeeps.jobs ht) fun t ha => hkeeps.hasAlarm ha)
        fun hcur => absurd rfl hcur
      rw [Register.get?_set, hkeeps.debouncers, Register.get?_set]
      split <;> rfl

theorem Timed.wake
    (h : w.Timed w.HasTurn (fun i t => w.HasAlarm i t ∨ (i = key ∧ t = timer)) debts) :
    let w' := w.withDebouncer key (·.wake timer)
    w'.Timed w'.HasTurn w'.HasAlarm debts := by
  intro w'
  have hother : ∀ other t, other ≠ key → (w.HasAlarm other t ∨ (other = key ∧ t = timer)) →
      w.HasAlarm other t := fun _ _ hne hd => hd.resolve_right fun he => hne he.1
  cases hget : w.debouncers.get? key with
  | none =>
    have he : w' = w := withDebouncer_none hget
    rw [he]
    refine ⟨fun {other _ _} ho => (h.sound ho).mono (fun _ => id) fun t => hother other t ?_,
      h.lt, h.own, h.retired⟩
    rintro rfl
    rw [hget] at ho
    cases ho
  | some entry =>
    obtain ⟨buffer, d⟩ := entry
    have hs : d.Sound (w.HasTurn key) (fun t => w.HasAlarm key t ∨ t = timer) :=
      (h.sound hget).mono (fun _ => id) fun t hd => hd.imp_right And.right
    obtain ⟨hsound, hcur⟩ := hs.wake
    have hrun : ∀ t, .run t ∉ (d.wake timer).2 := by
      unfold Debouncer.wake
      split
      · split <;> simp
      · simp
    exact h.changes hget (changes_withDebouncer hget hrun) (fun _ _ _ => id) hother
      (fun _ _ => id) (hsound.mono (fun _ => id) fun _ => .inl)
      fun hc => h.retired hget (hcur ▸ hc)

/-! Changes of texts -/

theorem not_run_callOffCurrent (d : Debouncer ℚ) (timer : Nat) :
    .run timer ∉ d.callOffCurrent.2 := by
  unfold Debouncer.callOffCurrent Debouncer.callOff
  split
  · split
    · dsimp only
      split <;> simp
    · simp
  · simp

theorem Timed.debouncerFor (h : w.Timed w.HasTurn w.HasAlarm debts) (buffer : Text) :
    let w' := (w.debouncerFor buffer).2
    w'.Timed w'.HasTurn w'.HasAlarm debts ∧
      w'.debouncerOf.get? buffer = some (w.debouncerFor buffer).1 := by
  unfold Workspace.debouncerFor
  cases hof : w.debouncerOf.get? buffer with
  | some key => exact ⟨h, hof⟩
  | none =>
    refine ⟨⟨fun {key _ _} hget => ?_, fun {key _} hget => ?_, fun {other key} ho => ?_,
      fun {key other d} hget hc => ?_⟩, by simp⟩
    · rw [Register.get?_set] at hget
      split at hget
      · cases hget
        exact Debouncer.sound_new _
      · exact h.sound hget
    · rw [Register.get?_set] at hget
      split at hget
      · next he => exact he ▸ Nat.lt_succ_self _
      · exact Nat.lt_succ_of_lt (h.lt hget)
    · rw [Register.get?_set] at ho
      simp only [Register.get?_set]
      split at ho
      · next he =>
        cases ho
        exact ⟨_, by rw [if_pos rfl, he]⟩
      · obtain ⟨d, hd⟩ := h.own ho
        exact ⟨d, by rw [if_neg (h.lt hd).ne, hd]⟩
    · rw [Register.get?_set] at hget
      split at hget
      · cases hget
        exact absurd rfl hc
      · refine (h.retired hget hc).imp_left fun ho => ?_
        have hne : other ≠ buffer := by
          rintro rfl
          rw [hof] at ho
          cases ho
        rw [Register.get?_set, if_neg hne, ho]

theorem Timed.notify (h : w.Timed w.HasTurn w.HasAlarm debts) (buffer text : Text) :
    let w' := w.notify buffer text
    w'.Timed w'.HasTurn w'.HasAlarm debts := by
  let noted : Workspace ℚ := { w with texts := w.texts.set buffer text }
  have htexts : noted.Timed noted.HasTurn noted.HasAlarm debts :=
    ⟨h.sound, h.lt, h.own, h.retired⟩
  obtain ⟨hfor, hof⟩ := htexts.debouncerFor buffer
  obtain ⟨d, hget⟩ := hfor.own hof
  have hrun (timer : Nat) : .run timer ∉ d.trigger.2 := by
    have hno := not_run_callOffCurrent d timer
    unfold Debouncer.trigger
    simpa using hno
  exact hfor.changes hget (changes_withDebouncer hget hrun) (fun _ _ _ => id) (fun _ _ _ => id)
    (fun _ _ => id) ((hfor.sound hget).trigger.mono (fun _ => id) fun _ => .inl) fun _ => .inl hof

theorem Timed.flush (h : w.Timed w.HasTurn w.HasAlarm debts) (buffer : Text) :
    let w' := (w.flush buffer).2
    w'.Timed w'.HasTurn w'.HasAlarm debts := by
  unfold Workspace.flush
  split
  · next key hof =>
    split
    · obtain ⟨d, hget⟩ := h.own hof
      let off := w.withDebouncer key Debouncer.callOffCurrent
      have hoff : off.Timed off.HasTurn off.HasAlarm debts := h.changes hget
        (changes_withDebouncer hget (not_run_callOffCurrent d)) (fun _ _ _ => id)
        (fun _ _ _ => id) (fun _ _ => id)
        ((h.sound hget).callOffCurrent.1.mono (fun _ => id) fun _ => .inl) fun _ => .inl hof
      have hkeeps := keepsTimers_runLatest (w.withDebouncer key Debouncer.callOffCurrent) buffer
      exact (hoff.keep hkeeps).mono (fun _ _ => hkeeps.hasTurn) (fun _ _ => hkeeps.hasAlarm)
        fun _ => id
    · exact h
  · exact h

theorem debouncerFor_callers (w : Workspace ℚ) (buffer : Text) :
    (w.debouncerFor buffer).2.callers = w.callers ∧
      (w.debouncerFor buffer).2.nextCaller = w.nextCaller := by
  unfold Workspace.debouncerFor
  split <;> exact ⟨rfl, rfl⟩

theorem notify_callers (w : Workspace ℚ) (buffer text : Text) :
    (w.notify buffer text).callers = w.callers ∧
      (w.notify buffer text).nextCaller = w.nextCaller := by
  let noted : Workspace ℚ := { w with texts := w.texts.set buffer text }
  obtain ⟨hc, hn⟩ := debouncerFor_callers noted buffer
  obtain ⟨hc', hn'⟩ := withDebouncer_callers (noted.debouncerFor buffer).2
    (noted.debouncerFor buffer).1 Debouncer.trigger
  exact ⟨hc'.trans hc, hn'.trans hn⟩

theorem flush_callers (w : Workspace ℚ) (buffer : Text) :
    (w.flush buffer).2.callers = w.callers ∧ (w.flush buffer).2.nextCaller = w.nextCaller := by
  unfold Workspace.flush
  split
  · next key _ =>
    split
    · obtain ⟨hc, hn⟩ := withDebouncer_callers w key Debouncer.callOffCurrent
      have hkeeps := keepsTimers_runLatest (w.withDebouncer key Debouncer.callOffCurrent) buffer
      exact ⟨hkeeps.callers.trans hc, hkeeps.nextCaller.trans hn⟩
    · exact ⟨rfl, rfl⟩
  · exact ⟨rfl, rfl⟩

theorem Timed.keepAll (h : w.Timed w.HasTurn w.HasAlarm debts) (hk : KeepsTimers w w') :
    w'.Timed w'.HasTurn w'.HasAlarm debts :=
  (h.keep hk).mono (fun _ _ => hk.hasTurn) (fun _ _ => hk.hasAlarm) fun _ => id

/-! Callers -/

theorem Timed.callOffAll
    (h : w.Timed w.HasTurn w.HasAlarm fun p => p = .callOffTimers key ∨ debts p) :
    let w' := w.withDebouncer key Debouncer.callOffAll
    w'.Timed w'.HasTurn w'.HasAlarm debts := by
  intro w'
  have hother : ∀ other, other ≠ key →
      (Phase.callOffTimers other = .callOffTimers key ∨ debts (.callOffTimers other)) →
      debts (.callOffTimers other) := by
    intro other hne hp
    exact hp.resolve_left fun he => hne (by simpa using he)
  cases hget : w.debouncers.get? key with
  | none =>
    have he : w' = w := withDebouncer_none hget
    rw [he]
    refine ⟨h.sound, h.lt, h.own, fun {other _ _} ho hc => (h.retired ho hc).imp_right ?_⟩
    refine hother other ?_
    rintro rfl
    rw [hget] at ho
    cases ho
  | some entry =>
    obtain ⟨buffer, d⟩ := entry
    have hrun (timer : Nat) : .run timer ∉ d.callOffAll.2 := by simp [Debouncer.callOffAll]
    exact h.changes hget (changes_withDebouncer hget hrun) (fun _ _ _ => id) (fun _ _ _ => id)
      hother ((h.sound hget).callOffAll.mono (fun _ => id) fun _ => .inl) fun hc => absurd rfl hc

theorem Timed.proceed (caller fuel : Nat) (plan : List Phase)
    (h : w.Timed w.HasTurn w.HasAlarm fun p => p ∈ plan ∨ w.OthersOwe caller p) :
    let w' := proceed caller fuel plan w
    w'.Timed w'.HasTurn w'.HasAlarm w'.Owes := by
  refine proceed_owing (C := fun debts w => w.Timed w.HasTurn w.HasAlarm debts) caller
    (fun _ h => ⟨h.sound, h.lt, h.own, h.retired⟩) (fun h => ⟨h.sound, h.lt, h.own, h.retired⟩)
    (fun {w debts} phase h => ?_) fuel plan h
  by_cases hp : ∃ key, phase = .callOffTimers key
  · obtain ⟨key, rfl⟩ := hp
    exact h.callOffAll.mono (fun _ _ => id) (fun _ _ => id) fun _ => .inr
  · have hne : ∀ key, phase ≠ .callOffTimers key := fun key he => hp ⟨key, he⟩
    refine (h.keepAll (keepsTimers_enter w caller hne)).mono (fun _ _ => id) (fun _ _ => id) ?_
    rintro key (he | hd)
    · exact absurd he.symm (hne key)
    · exact .inr hd

/-! Moves -/

/-- Each caller has a number of its own, also the next. -/
def Numbered (w : Workspace ℚ) : Prop :=
  ∀ caller plan, w.callers.get? caller = some plan → caller < w.nextCaller

theorem Numbered.keep (h : w.Numbered) (hc : w'.callers = w.callers)
    (hn : w'.nextCaller = w.nextCaller) : w'.Numbered := by
  unfold Numbered
  rw [hc, hn]
  exact h

theorem Numbered.proceed (h : w.Numbered) {caller : Nat} (hc : caller < w.nextCaller) (fuel : Nat)
    (plan : List Phase) : (proceed caller fuel plan w).Numbered := by
  have hplan : ∀ phase ∈ plan, (fun _ : Phase => True) phase := fun _ _ => trivial
  refine (proceed_rec (C := fun w => w.Numbered ∧ caller < w.nextCaller)
    caller (fun w' plan hw _ => ⟨fun other plan' ho => ?_, hw.2⟩)
    (fun w' hw => ⟨fun other plan' ho => ?_, hw.2⟩) (fun w' phase hw _ => ⟨?_, by simp⟩) fuel
    hplan ⟨h, hc⟩).1
  · rw [Register.get?_set] at ho
    split at ho
    · next he => exact he ▸ hw.2
    · exact hw.1 other plan' ho
  · simp only [Workspace.note, Register.get?_erase] at ho
    split at ho
    · cases ho
    · exact hw.1 other plan' ho
  · obtain ⟨hcallers, hnext⟩ := enter_callers w' caller phase
    exact ⟨hw.1.keep hcallers hnext, hnext ▸ hw.2⟩

theorem Numbered.othersOwe (h : w.Numbered) {phase : Phase} (hp : w.Owes phase) :
    w.OthersOwe w.nextCaller phase := by
  obtain ⟨caller, plan, hget, hm⟩ := hp
  exact ⟨caller, plan, (h caller plan hget).ne, hget, hm⟩

/-- A workspace in which all timers are attended to. -/
structure OnTime (w : Workspace ℚ) : Prop where
  numbered : w.Numbered
  timed : w.Timed w.HasTurn w.HasAlarm w.Owes

theorem onTime_new (p : Plan ℚ) (now : ℚ) : (new p now).OnTime :=
  ⟨nofun, nofun, nofun, nofun, nofun⟩

theorem OnTime.keep (h : w.OnTime) (hk : KeepsTimers w w') : w'.OnTime := by
  refine ⟨h.numbered.keep hk.callers hk.nextCaller, ?_⟩
  rw [owes_congr hk.callers]
  exact h.timed.keepAll hk

theorem OnTime.callers_eq {w' : Workspace ℚ} (h : w.OnTime) (hc : w'.callers = w.callers)
    (hn : w'.nextCaller = w.nextCaller) (ht : w'.Timed w'.HasTurn w'.HasAlarm w.Owes) :
    w'.OnTime := by
  refine ⟨h.numbered.keep hc hn, ?_⟩
  rw [owes_congr hc]
  exact ht

/-- A new caller, who is to call off what is taken out of use. -/
theorem OnTime.start {w₁ : Workspace ℚ} (h : w.OnTime) {plan : List Phase}
    (hw : w₁ = { w with debouncerOf := w₁.debouncerOf })
    (ho : ∀ buffer key, w₁.debouncerOf.get? buffer = some key →
      w.debouncerOf.get? buffer = some key)
    (hp : ∀ buffer key, w.debouncerOf.get? buffer = some key →
      w₁.debouncerOf.get? buffer = some key ∨ .callOffTimers key ∈ plan) :
    (w₁.start plan).OnTime := by
  obtain ⟨hnumbered, hsound, hlt, hown, hretired⟩ := h
  rw [hw]
  have hnext : Numbered { w with debouncerOf := w₁.debouncerOf, nextCaller := w.nextCaller + 1 } :=
    fun caller plan hget => Nat.lt_succ_of_lt (hnumbered caller plan hget)
  refine ⟨hnext.proceed (Nat.lt_succ_self _) _ _, Timed.proceed _ _ _
    ⟨hsound, hlt, fun hget => hown (ho _ _ hget), fun {key buffer d} hget hc => ?_⟩⟩
  rcases hretired hget hc with hof | howes
  · exact (hp buffer key hof).imp_right .inl
  · exact .inr (.inr (hnumbered.othersOwe howes))

theorem OnTime.perform {job : Job} {rest : List Job} (h : w.OnTime)
    (hj : w.agenda.jobs = job :: rest) : ((w.withJobs rest).perform job).OnTime := by
  have hpop {key timer : Nat} (ht : w.HasTurn key timer) :
      (w.withJobs rest).HasTurn key timer ∨ Job.timer key timer = job := by
    unfold HasTurn at ht
    rw [hj] at ht
    exact (List.mem_cons.mp ht).symm
  by_cases htiming : job.IsTiming
  · cases job with
    | timer key timer =>
      have hturn : (w.withJobs rest).Timed
          (fun i t => (w.withJobs rest).HasTurn i t ∨ (i = key ∧ t = timer))
          (w.withJobs rest).HasAlarm w.Owes := by
        have hsame : (w.withJobs rest).Timed w.HasTurn w.HasAlarm w.Owes :=
          ⟨h.timed.sound, h.timed.lt, h.timed.own, h.timed.retired⟩
        exact hsame.mono (fun i t ht => (hpop ht).imp_right fun he => by simpa using he)
          (fun _ _ => id) fun _ => id
      obtain ⟨hc, hn⟩ := withDebouncer_callers (w.withJobs rest) key (·.turn timer)
      exact h.callers_eq hc hn hturn.turn
    | caller key =>
      have hkept : (w.withJobs rest).Timed (w.withJobs rest).HasTurn (w.withJobs rest).HasAlarm
          w.Owes := by
        have hsame : (w.withJobs rest).Timed w.HasTurn w.HasAlarm w.Owes :=
          ⟨h.timed.sound, h.timed.lt, h.timed.own, h.timed.retired⟩
        exact hsame.mono (fun i t ht => (hpop ht).resolve_right nofun) (fun _ _ => id) fun _ => id
      unfold Workspace.perform
      dsimp only
      split
      · next plan hget =>
        have hnumbered : (w.withJobs rest).Numbered := h.numbered.keep rfl rfl
        refine ⟨hnumbered.proceed (h.numbered key plan hget) _ _,
          Timed.proceed _ _ _ (hkept.mono (fun _ _ => id) (fun _ _ => id) ?_)⟩
        rintro i ⟨other, plan', hget', hm⟩
        by_cases he : other = key
        · subst he
          rw [show w.callers.get? other = some plan from hget] at hget'
          cases hget'
          exact .inl hm
        · exact .inr ⟨other, plan', he, hget', hm⟩
      · exact ⟨h.numbered.keep rfl rfl, hkept⟩
    | _ => exact htiming.elim
  · have hbeside := (beside_perform (w.withJobs rest) htiming).toKeepsTimers
    have hkept : (w.withJobs rest).OnTime := by
      refine ⟨h.numbered.keep rfl rfl, ?_⟩
      have hsame : (w.withJobs rest).Timed w.HasTurn w.HasAlarm w.Owes :=
        ⟨h.timed.sound, h.timed.lt, h.timed.own, h.timed.retired⟩
      refine hsame.mono (fun i t ht => (hpop ht).resolve_right ?_) (fun _ _ => id) fun _ => id
      rintro rfl
      exact htiming trivial
    exact hkept.keep hbeside

/-- One step of whatever kind. Time is advanced by alarms that ring and by waiting. -/
def Move.IsStep : Move → Prop
  | .event (.advance _) => False
  | _ => True

theorem OnTime.work (h : w.OnTime) : w.work.OnTime := by
  unfold Workspace.work Agenda.nextJob?
  cases hj : w.agenda.jobs with
  | nil => exact h
  | cons job rest => exact (h.perform hj).keep (beside_callCallers _).toKeepsTimers

theorem OnTime.event (h : w.OnTime) {e : Event ℚ} (he : Move.IsStep (.event e)) :
    (w.step e).OnTime := by
  have herase (plan : List Phase) {buffer : Text} (hp : ∀ key,
      w.debouncerOf.get? buffer = some key → .callOffTimers key ∈ plan) :
      (Workspace.start { w with debouncerOf := w.debouncerOf.erase buffer } plan).OnTime := by
    refine h.start rfl (fun other key ho => ?_) fun other key ho => ?_
    · rw [Register.get?_erase] at ho
      split at ho
      · cases ho
      · exact ho
    · rw [Register.get?_erase]
      split
      · next heq => exact .inr (hp key (heq ▸ ho))
      · exact .inl ho
  have hclear (plan : List Phase) (hp : w.shutdownPlan ⊆ plan) :
      (Workspace.start { w with debouncerOf := [] } plan).OnTime := by
    refine h.start rfl (by simp [Register.get?]) fun other key ho => .inr (hp ?_)
    exact List.mem_append_left _ (List.mem_map_of_mem (Register.mem_of_get? ho))
  by_cases hbeside : e.IsBeside
  · exact h.keep (beside_step w hbeside).toKeepsTimers
  cases e with
  | runPass buffer text => exact h.keep (keepsTimers_runPass w buffer text)
  | attach buffer path text => exact h.keep (keepsTimers_attach w buffer path text)
  | notify buffer text =>
    obtain ⟨hc, hn⟩ := notify_callers w buffer text
    exact h.callers_eq hc hn (h.timed.notify buffer text)
  | flush buffer =>
    obtain ⟨hc, hn⟩ := flush_callers w buffer
    exact h.callers_eq hc hn (h.timed.flush buffer)
  | settle buffer => exact h.start rfl (fun _ _ => id) fun _ _ => .inl
  | detach buffer =>
    refine herase _ fun key ho => ?_
    simp [ho]
  | shutdown => exact hclear _ fun _ hp => hp
  | dispose => exact hclear _ fun _ hp => List.mem_append_left _ hp
  | annotate buffer text =>
    have hpass := h.keep (keepsTimers_runPass w (buffer.getD w.freshBuffer) text)
    exact hpass.start rfl (fun _ _ => id) fun _ _ => .inl
  | work => exact h.work
  | advance dt => exact he.elim
  | _ => exact absurd trivial hbeside

theorem OnTime.ring {time : ℚ} {alarm : Alarm} {alarms : List (ℚ × Alarm)} (h : w.OnTime)
    (ha : w.agenda.alarms = (time, alarm) :: alarms) :
    (Workspace.ring (w.withAlarms alarms) alarm).OnTime := by
  have hpop {key timer : Nat} (ht : w.HasAlarm key timer) :
      (w.withAlarms alarms).HasAlarm key timer ∨ Alarm.timer key timer = alarm := by
    obtain ⟨time', ht⟩ := ht
    rw [ha] at ht
    rcases List.mem_cons.mp ht with he | ht
    · exact .inr (congrArg Prod.snd he)
    · exact .inl ⟨time', ht⟩
  have hsame : (w.withAlarms alarms).Timed w.HasTurn w.HasAlarm w.Owes :=
    ⟨h.timed.sound, h.timed.lt, h.timed.own, h.timed.retired⟩
  cases alarm with
  | timer key timer =>
    have hwake : (w.withAlarms alarms).Timed (w.withAlarms alarms).HasTurn
        (fun i t => (w.withAlarms alarms).HasAlarm i t ∨ (i = key ∧ t = timer)) w.Owes :=
      hsame.mono (fun _ _ => id) (fun i t ht => (hpop ht).imp_right fun he => by simpa using he)
        fun _ => id
    obtain ⟨hc, hn⟩ := withDebouncer_callers (w.withAlarms alarms) key (·.wake timer)
    exact h.callers_eq hc hn hwake.wake
  | limiter r =>
    have hkept : (w.withAlarms alarms).OnTime := ⟨h.numbered.keep rfl rfl,
      hsame.mono (fun _ _ => id) (fun _ _ ht => (hpop ht).resolve_right nofun) fun _ => id⟩
    exact hkept.keep (beside_applyDesk _ _).toKeepsTimers
  | reply r reply =>
    have hkept : (w.withAlarms alarms).OnTime := ⟨h.numbered.keep rfl rfl,
      hsame.mono (fun _ _ => id) (fun _ _ ht => (hpop ht).resolve_right nofun) fun _ => id⟩
    exact hkept.keep (beside_soon _ _).toKeepsTimers

theorem OnTime.move (h : w.OnTime) {m : Move} (hm : m.IsStep) : (w.move m).OnTime := by
  cases m with
  | event e => exact h.event hm
  | ring =>
    unfold Workspace.move
    dsimp only
    split
    · exact h
    · next alarm alarms ha => exact h.ring ha
  | wait time =>
    unfold Workspace.move
    dsimp only
    split
    · exact ⟨h.numbered.keep rfl rfl, ⟨h.timed.sound, h.timed.lt, h.timed.own, h.timed.retired⟩⟩
    · exact h

theorem OnTime.run (h : w.OnTime) {moves : List Move} (hm : ∀ m ∈ moves, m.IsStep) :
    (w.runMoves moves).OnTime :=
  List.foldlRecOn (motive := OnTime) moves Workspace.move h fun _ h' m hx => h'.move (hm m hx)

end CommitMessage.Workspace
