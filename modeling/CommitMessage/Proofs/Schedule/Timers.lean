import CommitMessage.Proofs.ExactTime
import CommitMessage.Proofs.Register
import CommitMessage.Schedule.Debouncer

/-! The timers of a debouncer. One at most waits to run the callback; all others are called off.
Each has a turn coming or sleeps until it gets one, so that none is left behind. -/

namespace CommitMessage.Debouncer

structure Timer.Attended (due asleep : Nat → Prop) (t : Timer) : Prop where
  idle : t.stage ≠ .running
  turn : t.calledOff = true ∨ t.stage ≠ .sleeping → due t.id
  alarm : t.calledOff = false → t.stage = .sleeping → asleep t.id

/-- The timer that waits is the only one that is not called off. -/
structure Sound (due asleep : Nat → Prop) (d : Debouncer ℚ) : Prop where
  nodup : (d.timers.map (·.id)).Nodup
  bound : ∀ t ∈ d.timers, t.id < d.nextId
  attended : ∀ t ∈ d.timers, t.Attended due asleep
  waits : ∀ t ∈ d.timers, t.calledOff = false → d.current = some t.id
  current : ∀ id, d.current = some id → ∃ t ∈ d.timers, t.id = id ∧ t.calledOff = false

variable {due asleep due' asleep' : Nat → Prop} {d : Debouncer ℚ} {t : Timer} {timer : Nat}

theorem Timer.Attended.mono (h : t.Attended due asleep) (hd : due t.id → due' t.id)
    (ha : asleep t.id → asleep' t.id) : t.Attended due' asleep' :=
  ⟨h.idle, fun ht => hd (h.turn ht), fun hc hs => ha (h.alarm hc hs)⟩

theorem Sound.mono (h : d.Sound due asleep) (hd : ∀ id, due id → due' id)
    (ha : ∀ id, asleep id → asleep' id) : d.Sound due' asleep' :=
  ⟨h.nodup, h.bound, fun t ht => (h.attended t ht).mono (hd _) (ha _), h.waits, h.current⟩

theorem sound_new (delay : ℚ) : ({ delay } : Debouncer ℚ).Sound due asleep :=
  ⟨List.nodup_nil, List.forall_mem_nil _, List.forall_mem_nil _, List.forall_mem_nil _, nofun⟩

theorem mem_of_find? (h : d.find? timer = some t) : t ∈ d.timers ∧ t.id = timer :=
  ⟨List.mem_of_find?_eq_some h, by simpa using List.find?_some h⟩

theorem Sound.eq_of_id (h : d.Sound due asleep) {u : Timer} (ht : t ∈ d.timers)
    (hu : u ∈ d.timers) (he : t.id = u.id) : t = u :=
  List.inj_on_of_nodup_map h.nodup ht hu he

theorem mem_update {f : Timer → Timer} (h : t ∈ (d.update timer f).timers) :
    (t ∈ d.timers ∧ t.id ≠ timer) ∨ ∃ u ∈ d.timers, u.id = timer ∧ t = f u := by
  obtain ⟨u, hu, rfl⟩ := List.mem_map.mp h
  by_cases he : u.id = timer
  · exact .inr ⟨u, hu, he, if_pos he⟩
  · exact .inl ⟨by rwa [if_neg he], by rwa [if_neg he]⟩

/-- A timer that goes on to another stage. -/
theorem Sound.update (h : d.Sound due asleep) (stage : Stage)
    (hd : ∀ id, id ≠ timer → due id → due' id) (ha : ∀ id, id ≠ timer → asleep id → asleep' id)
    (ht : ∀ t ∈ d.timers, t.id = timer →
      ({ t with stage } : Timer).Attended due' asleep') :
    (d.update timer fun t => { t with stage }).Sound due' asleep' := by
  have hids : (d.update timer fun t => { t with stage }).timers.map (·.id) =
      d.timers.map (·.id) := by
    simp only [Debouncer.update, List.map_map]
    refine List.map_congr_left fun t _ => ?_
    by_cases he : t.id = timer <;> simp [he]
  refine ⟨hids ▸ h.nodup, fun t hm => ?_, fun t hm => ?_, fun t hm hc => ?_, fun id hc => ?_⟩
  · rcases mem_update hm with ⟨hm, -⟩ | ⟨u, hu, -, rfl⟩
    · exact h.bound t hm
    · exact h.bound u hu
  · rcases mem_update hm with ⟨hm, hne⟩ | ⟨u, hu, he, rfl⟩
    · exact (h.attended t hm).mono (hd _ hne) (ha _ hne)
    · exact ht u hu he
  · rcases mem_update hm with ⟨hm, -⟩ | ⟨u, hu, -, rfl⟩
    · exact h.waits t hm hc
    · exact h.waits u hu hc
  · obtain ⟨t, hm, rfl, hoff⟩ := h.current id hc
    refine ⟨_, List.mem_map_of_mem hm, ?_, ?_⟩ <;> split <;> first | rfl | exact hoff

/-- A timer that is gone. -/
theorem Sound.remove (h : d.Sound due asleep) (hc : d.current ≠ some timer)
    (hd : ∀ id, id ≠ timer → due id → due' id) (ha : ∀ id, id ≠ timer → asleep id → asleep' id) :
    (d.remove timer).Sound due' asleep' := by
  have hmem {t : Timer} : t ∈ (d.remove timer).timers ↔ t ∈ d.timers ∧ t.id ≠ timer := by
    simp [Debouncer.remove]
  refine ⟨h.nodup.sublist (List.filter_sublist.map _), fun t ht => h.bound t (hmem.mp ht).1,
    fun t ht => ?_, fun t ht => h.waits t (hmem.mp ht).1, fun id hid => ?_⟩
  · obtain ⟨ht, hne⟩ := hmem.mp ht
    exact (h.attended t ht).mono (hd _ hne) (ha _ hne)
  · obtain ⟨t, ht, rfl, hoff⟩ := h.current id hid
    exact ⟨t, hmem.mpr ⟨ht, fun he => hc (he ▸ hid)⟩, rfl, hoff⟩

theorem Sound.calledOff_of_ne (h : d.Sound due asleep) (ht : t ∈ d.timers)
    (hc : d.current ≠ some t.id) : t.calledOff = true := by
  cases hoff : t.calledOff with
  | true => rfl
  | false => exact absurd (h.waits t ht hoff) hc

/-! Calling off -/

theorem Timer.Attended.callOff (h : t.Attended due asleep) (hd : due t.id → due' t.id)
    (hn : needsTurn t = true → due' t.id) :
    ({ t with calledOff := true } : Timer).Attended due' asleep' := by
  refine ⟨h.idle, fun _ => ?_, nofun⟩
  by_cases hneeds : needsTurn t = true
  · exact hn hneeds
  · refine hd (h.turn ?_)
    cases hc : t.calledOff with
    | true => exact .inl rfl
    | false => exact .inr fun hs => hneeds (by simp [needsTurn, hc, hs])

theorem callOffCurrent_current (d : Debouncer ℚ) : d.callOffCurrent.1.current = none := by
  unfold callOffCurrent callOff
  split
  · split <;> rfl
  · assumption

theorem Sound.callOffCurrent (h : d.Sound due asleep) :
    d.callOffCurrent.1.Sound (fun id => due id ∨ .turn id ∈ d.callOffCurrent.2) asleep ∧
      d.callOffCurrent.1.nextId = d.nextId := by
  unfold Debouncer.callOffCurrent
  cases hcur : d.current with
  | none => exact ⟨h.mono (fun _ => .inl) fun _ => id, rfl⟩
  | some timer =>
    obtain ⟨u, hu, rfl, -⟩ := h.current timer hcur
    have hfind : ({ d with current := none } : Debouncer ℚ).find? u.id = some u :=
      Keyed.find?_of_mem h.nodup hu (by simp)
    simp only [callOff, hfind]
    refine ⟨⟨?_, fun t hm => ?_, fun t hm => ?_, fun t hm hc => ?_, nofun⟩, rfl⟩
    · have hids : ((d.timers.map fun t => if t.id = u.id then { t with calledOff := true }
          else t).map (·.id)) = d.timers.map (·.id) := by
        rw [List.map_map]
        refine List.map_congr_left fun t _ => ?_
        by_cases he : t.id = u.id <;> simp [he]
      exact hids ▸ h.nodup
    · rcases mem_update hm with ⟨hm, -⟩ | ⟨v, hv, -, rfl⟩
      · exact h.bound t hm
      · exact h.bound v hv
    · rcases mem_update hm with ⟨hm, -⟩ | ⟨v, hv, he, rfl⟩
      · exact (h.attended t hm).mono .inl id
      · obtain rfl := h.eq_of_id hv hu he
        exact (h.attended v hu).callOff .inl fun hn => .inr (by simp [hn])
    · rcases mem_update hm with ⟨hm, hne⟩ | ⟨v, hv, he, rfl⟩
      · rw [h.waits t hm hc] at hcur
        exact absurd (Option.some.inj hcur) hne
      · cases hc

theorem Sound.trigger (h : d.Sound due asleep) :
    d.trigger.1.Sound (fun id => due id ∨ .turn id ∈ d.trigger.2) asleep := by
  obtain ⟨hoff, hnext⟩ := h.callOffCurrent
  have hcur := d.callOffCurrent_current
  unfold Debouncer.trigger
  dsimp only
  refine ⟨?_, fun t hm => ?_, fun t hm => ?_, fun t hm hc => ?_, fun id hc => ?_⟩
  · rw [List.map_append, List.nodup_append]
    refine ⟨hoff.nodup, List.nodup_singleton _, fun a ha b hb => ?_⟩
    obtain ⟨t, ht, rfl⟩ := List.mem_map.mp ha
    rw [List.map_singleton, List.mem_singleton] at hb
    exact hb ▸ (hoff.bound t ht).ne
  · rcases List.mem_append.mp hm with hm | hm
    · exact Nat.lt_succ_of_lt (hoff.bound t hm)
    · rw [List.mem_singleton.mp hm]
      exact Nat.lt_succ_self _
  · rcases List.mem_append.mp hm with hm | hm
    · refine (hoff.attended t hm).mono (Or.imp_right fun ht => ?_) id
      exact List.mem_append_left _ ht
    · rw [List.mem_singleton.mp hm]
      exact ⟨nofun, fun _ => .inr (List.mem_append_right _ (List.mem_singleton_self _)), nofun⟩
  · rcases List.mem_append.mp hm with hm | hm
    · have hno := hoff.waits t hm hc
      rw [hcur] at hno
      cases hno
    · rw [List.mem_singleton.mp hm]
  · obtain rfl := Option.some.inj hc
    exact ⟨_, List.mem_append_right _ (List.mem_singleton_self _), rfl, rfl⟩

theorem Sound.callOffAll (h : d.Sound due asleep) :
    d.callOffAll.1.Sound (fun id => due id ∨ .turn id ∈ d.callOffAll.2) asleep := by
  refine ⟨?_, fun t hm => ?_, fun t hm => ?_, fun t hm hc => ?_, nofun⟩
  · have hids : ((d.timers.map fun t => ({ t with calledOff := true } : Timer)).map (·.id)) =
        d.timers.map (·.id) := by
      rw [List.map_map]
      rfl
    exact hids ▸ h.nodup
  · obtain ⟨u, hu, rfl⟩ := List.mem_map.mp hm
    exact h.bound u hu
  · obtain ⟨u, hu, rfl⟩ := List.mem_map.mp hm
    refine (h.attended u hu).callOff .inl fun hn => .inr ?_
    exact List.mem_map.mpr ⟨u, List.mem_filter.mpr ⟨hu, hn⟩, rfl⟩
  · obtain ⟨u, hu, rfl⟩ := List.mem_map.mp hm
    cases hc

/-! Turns -/

/-- What a turn can come to. The callback runs for the timer that waits, which waits no more. -/
inductive TurnsOut (d : Debouncer ℚ) (timer : Nat) : Prop
  | passes (hd : ∀ t ∈ d.timers, t.id = timer → t.stage = .sleeping ∧ t.calledOff = false)
      (he : d.turn timer = (d, []))
  | ends (hc : d.current ≠ some timer) (he : d.turn timer = (d.remove timer, [.ended timer]))
  | sleeps (ht : ∃ t ∈ d.timers, t.id = timer ∧ t.calledOff = false) (delay : ℚ)
      (he : d.turn timer = (d.update timer fun t => { t with stage := .sleeping },
        [.sleep timer delay]))
  | wakes (ht : ∃ t ∈ d.timers, t.id = timer ∧ t.calledOff = false)
      (he : d.turn timer = (d.update timer fun t => { t with stage := .awake }, [.turn timer]))
  | runs (hc : d.current = some timer)
      (he : d.turn timer = ({ d with current := none }.update timer
        fun t => { t with stage := .running }, [.run timer]))

theorem Sound.turn_cases (h : d.Sound due asleep) (timer : Nat) : d.TurnsOut timer := by
  cases hfind : d.find? timer with
  | none =>
    refine .passes (fun t ht he => ?_) (by simp [Debouncer.turn, hfind])
    have hno := List.find?_eq_none.mp hfind t ht
    simp [he] at hno
  | some t =>
    obtain ⟨ht, rfl⟩ := mem_of_find? hfind
    cases hoff : t.calledOff with
    | true =>
      refine .ends (fun hc => ?_) (by simp [Debouncer.turn, hfind, hoff])
      obtain ⟨u, hu, he, huc⟩ := h.current _ hc
      obtain rfl := h.eq_of_id hu ht he
      rw [hoff] at huc
      cases huc
    | false =>
      cases hs : t.stage with
      | fresh =>
        by_cases hd : 0 < d.delay
        · exact .sleeps ⟨t, ht, rfl, hoff⟩ d.delay (by simp [Debouncer.turn, hfind, hoff, hs, hd])
        · exact .wakes ⟨t, ht, rfl, hoff⟩ (by simp [Debouncer.turn, hfind, hoff, hs, hd])
      | sleeping =>
        refine .passes (fun u hu he => ?_) (by simp [Debouncer.turn, hfind, hoff, hs])
        obtain rfl := h.eq_of_id hu ht he
        exact ⟨hs, hoff⟩
      | awake =>
        have hc := h.waits t ht hoff
        exact .runs hc (by simp [Debouncer.turn, hfind, hoff, hs, hc])
      | running => exact absurd hs (h.attended t ht).idle

theorem Sound.passes (h : d.Sound (fun id => due id ∨ id = timer) asleep)
    (hd : ∀ t ∈ d.timers, t.id = timer → t.stage = .sleeping ∧ t.calledOff = false) :
    d.Sound due asleep := by
  refine ⟨h.nodup, h.bound, fun t ht => ?_, h.waits, h.current⟩
  have ha := h.attended t ht
  refine ⟨ha.idle, fun hneeds => ?_, ha.alarm⟩
  rcases ha.turn hneeds with hdue | he
  · exact hdue
  · obtain ⟨hs, hoff⟩ := hd t ht he
    simp [hs, hoff] at hneeds

theorem Sound.ends (h : d.Sound (fun id => due id ∨ id = timer) asleep)
    (hc : d.current ≠ some timer) : (d.remove timer).Sound due asleep :=
  h.remove hc (fun _ hne hd => hd.resolve_right hne) fun _ _ => id

theorem Sound.sleeps (h : d.Sound (fun id => due id ∨ id = timer) asleep)
    (ht : ∃ t ∈ d.timers, t.id = timer ∧ t.calledOff = false) :
    (d.update timer fun t => { t with stage := .sleeping }).Sound due
      fun id => asleep id ∨ id = timer := by
  refine h.update .sleeping (fun _ hne hd => hd.resolve_right hne) (fun _ _ => .inl) ?_
  obtain ⟨u, hu, rfl, hoff⟩ := ht
  intro t ht he
  obtain rfl := h.eq_of_id ht hu he
  exact ⟨nofun, fun hneeds => by simp [hoff] at hneeds, fun _ _ => .inr rfl⟩

theorem Sound.wakes (h : d.Sound due asleep) :
    (d.update timer fun t => { t with stage := .awake }).Sound (fun id => due id ∨ id = timer)
      asleep :=
  h.update .awake (fun _ _ => .inl) (fun _ _ => id) fun _ _ he => ⟨nofun, fun _ => .inr he, nofun⟩

/-- The callback has run. -/
theorem Sound.runs (h : d.Sound (fun id => due id ∨ id = timer) asleep)
    (hc : d.current = some timer) :
    ((({ d with current := none } : Debouncer ℚ).update timer
      fun t => { t with stage := .running }).finish timer).1.Sound due asleep := by
  have hkept : (({ d with current := none } : Debouncer ℚ).update timer
      fun t => { t with stage := .running }).remove timer =
        { d.remove timer with current := none } := by
    simp only [Debouncer.remove, Debouncer.update, ne_eq, decide_not]
    congr 1
    induction d.timers with
    | nil => rfl
    | cons t rest ih => by_cases he : t.id = timer <;> simp [he, ih]
  rw [finish, hkept]
  have hmem {t : Timer} (ht : t ∈ (d.remove timer).timers) : t ∈ d.timers ∧ t.id ≠ timer := by
    simpa [Debouncer.remove] using ht
  refine ⟨h.nodup.sublist (List.filter_sublist.map _), fun t ht => h.bound t (hmem ht).1,
    fun t ht => ?_, fun t ht hoff => ?_, nofun⟩
  · obtain ⟨ht, hne⟩ := hmem ht
    exact (h.attended t ht).mono (fun hd => hd.resolve_right hne) id
  · obtain ⟨ht, hne⟩ := hmem ht
    have hw := h.waits t ht hoff
    rw [hc] at hw
    exact absurd (Option.some.inj hw).symm hne

theorem Sound.wake (h : d.Sound due fun id => asleep id ∨ id = timer) :
    (d.wake timer).1.Sound (fun id => due id ∨ .turn id ∈ (d.wake timer).2) asleep ∧
      (d.wake timer).1.current = d.current := by
  unfold Debouncer.wake
  cases hfind : d.find? timer with
  | none =>
    refine ⟨⟨h.nodup, h.bound, fun t ht => ?_, h.waits, h.current⟩, rfl⟩
    have hne : t.id ≠ timer := by simpa using List.find?_eq_none.mp hfind t ht
    exact (h.attended t ht).mono .inl fun ha => ha.resolve_right hne
  | some u =>
    obtain ⟨hu, rfl⟩ := mem_of_find? hfind
    dsimp only
    split
    · refine ⟨h.update .awake (fun _ _ => .inl) (fun _ hne ha => ha.resolve_right hne)
        fun t _ he => ⟨nofun, fun _ => .inr ?_, nofun⟩, rfl⟩
      exact he ▸ List.mem_singleton_self _
    · next hno =>
      refine ⟨⟨h.nodup, h.bound, fun t ht => ?_, h.waits, h.current⟩, rfl⟩
      have ha := h.attended t ht
      refine ⟨ha.idle, fun hneeds => .inl (ha.turn hneeds), fun hc hs => ?_⟩
      refine (ha.alarm hc hs).resolve_right fun he => hno ?_
      obtain rfl := h.eq_of_id ht hu he
      exact ⟨hs, by simp [hc]⟩

end CommitMessage.Debouncer
