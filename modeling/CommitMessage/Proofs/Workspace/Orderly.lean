import CommitMessage.Proofs.Workspace.Leaving

/-! Every move of a workspace is a run of steps at the desk, and leaves it in order. -/

namespace CommitMessage.Workspace

open Desk (Happening)
open Desk.Traffic (Step Steps)

variable {w w' w'' : Workspace ℚ} {hs : List (Happening Asker)}

structure Orderly (w : Workspace ℚ) : Prop where
  sane : w.desk.Sane
  sound : w.traffic.Sound
  plain : w.IsPlain

/-! Jobs -/

/-- Steps at the desk, in which no one leaves. -/
structure Goes (w : Workspace ℚ) (hs : List (Happening Asker)) (w' : Workspace ℚ) : Prop where
  now : w'.agenda.now = w.agenda.now
  steps : Steps (fun _ => False) w.traffic hs w'.traffic
  sane : w'.desk.Sane
  callers : w'.callers = w.callers

theorem Goes.quiet (h : Goes w hs w') (hq : Quiet w' w'') : Goes w hs w'' :=
  ⟨(congrArg (·.now) hq.traffic).trans h.now, hq.traffic ▸ h.steps, hq.desk ▸ h.sane,
    hq.callers.trans h.callers⟩

theorem Quiet.before (h : Quiet w w') (hg : Goes w' hs w'') : Goes w hs w'' :=
  ⟨hg.now.trans (congrArg (·.now) h.traffic), h.traffic ▸ hg.steps, hg.sane,
    hg.callers.trans h.callers⟩

theorem Quiet.goes (h : Quiet w w') (hd : w.desk.Sane) : Goes w [] w' :=
  Goes.quiet ⟨rfl, .refl _, hd, rfl⟩ h

theorem applyDesk_keeps (w : Workspace ℚ) (change : Desk ℚ Asker × List (Desk.Signal ℚ Asker)) :
    (w.applyDesk change).agenda.now = w.agenda.now ∧ (w.applyDesk change).callers = w.callers := by
  have hone (w : Workspace ℚ) (s : Desk.Signal ℚ Asker) :
      (w.deskSignal s).agenda.now = w.agenda.now ∧ (w.deskSignal s).callers = w.callers := by
    cases s with
    | request r url =>
      simp only [deskSignal, Workspace.request]
      split <;> exact ⟨rfl, rfl⟩
    | _ => exact ⟨rfl, rfl⟩
  refine List.foldlRecOn (motive := fun w' : Workspace ℚ =>
    w'.agenda.now = w.agenda.now ∧ w'.callers = w.callers) change.2 deskSignal ⟨rfl, rfl⟩
    fun w' h s _ => ?_
  obtain ⟨hnow, hcallers⟩ := hone w' s
  exact ⟨hnow.trans h.1, hcallers.trans h.2⟩

theorem applyTurn_keeps (w : Workspace ℚ) (change : Desk ℚ Asker × List (Desk.Signal ℚ Asker)) :
    (w.applyTurn change).agenda.now = w.agenda.now ∧ (w.applyTurn change).callers = w.callers := by
  obtain ⟨hnow, hcallers⟩ := applyDesk_keeps w change
  unfold applyTurn
  dsimp only
  split
  · rename_i r reply _
    obtain ⟨hnow', hcallers'⟩ := applyDesk_keeps (w.applyDesk change)
      ((w.applyDesk change).desk.reply (w.applyDesk change).agenda.now r reply)
    exact ⟨hnow'.trans hnow, hcallers'.trans hcallers⟩
  · exact ⟨hnow, hcallers⟩

/-- The traffic with one more job before all others. -/
def withJob (t : Desk.Traffic Asker) : Job → Desk.Traffic Asker
  | .fetch r => { t with turns := r :: t.turns }
  | .reply r reply => { t with replies := (r, reply) ::ₘ t.replies }
  | .forget r => { t with forgets := r :: t.forgets }
  | .answer asker outcome => { t with answers := (asker, outcome) :: t.answers }
  | _ => t

theorem traffic_eq {job : Job} {rest : List Job} (hj : w.agenda.jobs = job :: rest) :
    w.traffic = withJob (w.withJobs rest).traffic job := by
  cases job with
  | reply r reply =>
    simp [traffic, withJob, replies, hj, withJobs, fetched, forgetting, List.filterMap_cons,
      Job.turn?, Job.reply?, Job.answer?]
  | _ =>
    simp [traffic, withJob, replies, hj, withJobs, fetched, forgetting, List.filterMap_cons,
      Job.turn?, Job.reply?, Job.answer?]

theorem goes_ask (hd : w.desk.Sane) (asker : Asker) (pass : Option Text) (r : Reference) :
    Goes w [.asked asker r (w.desk.reception w.agenda.now asker pass r)]
      (w.ask asker pass r).2 :=
  ⟨(applyDesk_keeps _ _).1, (step_ask _ hd asker pass r).steps, sane_ask hd asker pass r,
    (applyDesk_keeps _ _).2⟩

theorem goes_slotTurn (hd : w.desk.Sane) (id slot : Nat) :
    Goes w (w.doing (.slot id slot)) (w.slotTurn id slot) := by
  have hboard : Quiet w { w with board := (w.board.slotTurn id slot).1 } := ⟨rfl, rfl, rfl⟩
  rcases Board.slotTurn_signals w.board id slot with he | ⟨pass, r, he⟩
  · have hdoing : w.doing (.slot id slot) = [] := by simp [doing, question?, he]
    have hturn : w.slotTurn id slot = { w with board := (w.board.slotTurn id slot).1 } := by
      simp [slotTurn, he]
    rw [hdoing, hturn]
    exact hboard.goes hd
  · have hdoing : w.doing (.slot id slot) =
        [.asked (.slot id slot) r
          (w.desk.reception w.agenda.now (.slot id slot) (some pass) r)] := by
      simp [doing, question?, he]
    have hask := hboard.before (goes_ask (w := { w with board := (w.board.slotTurn id slot).1 }) hd
      (.slot id slot) (some pass) r)
    rw [hdoing]
    simp only [slotTurn, he]
    split
    · exact hask.quiet (quiet_applyBoard _ (Board.isQuiet_answer _ _ _ _))
    · exact hask

theorem goes_memberTurn (hd : w.desk.Sane) (id place : Nat) :
    Goes w (w.doing (.member id place)) (w.memberTurn id place) := by
  unfold memberTurn
  split
  · rename_i tag names stage hc
    split
    · rename_i name answer hn
      have hdoing : w.doing (.member id place) =
          [.asked (.member id place) ⟨.profile, name⟩ (w.desk.reception w.agenda.now
            (.member id place) none ⟨.profile, name⟩)] := by
        simp [doing, question?, hc, hn]
      have hask := goes_ask hd (.member id place) none ⟨.profile, name⟩
      rw [hdoing]
      dsimp only
      split
      · exact hask.quiet (quiet_memberAnswer _ _ _ _)
      · exact hask
    · rename_i hn
      have hdoing : w.doing (.member id place) = [] := by simp [doing, question?, hc, hn]
      rw [hdoing]
      exact (Quiet.refl w).goes hd
  · rename_i hno
    have hdoing : w.doing (.member id place) = [] := by simp only [doing, question?]
    rw [hdoing]
    exact (Quiet.refl w).goes hd

theorem quiet_startProfiles (w : Workspace ℚ) (id : Nat) (tag : Text)
    (names : List (Text × Option Resolution)) :
    Quiet w (w.startCall id { tag, wanted := .profiles names }) := by
  cases names with
  | nil => exact quiet_endCall w id _ _
  | cons name names =>
    refine List.foldlRecOn (motive := Quiet w) _ _ (quiet_setCall w id _) fun w' h place _ => ?_
    exact h.trans (quiet_soon w' (show Job.IsAside (.member id place) from trivial))

theorem goes_callTurn (hd : w.desk.Sane) (id : Nat) :
    Goes w (w.doing (.call id)) (w.callTurn id) := by
  have hquiet (hq : w.question? (.call id) = none) (h : Quiet w (w.callTurn id)) :
      Goes w (w.doing (.call id)) (w.callTurn id) := by
    have hdoing : w.doing (.call id) = [] := by simp [doing, hq]
    rw [hdoing]
    exact h.goes hd
  cases hc : w.calls.get? id with
  | none => exact hquiet (by simp [question?, hc]) (by simpa [callTurn, hc] using .refl w)
  | some c =>
    obtain ⟨tag, wanted, stage, calledOff⟩ := c
    cases calledOff with
    | true =>
      refine hquiet (by simp [question?, hc]) ?_
      simpa [callTurn, hc] using quiet_endCall w id _ _
    | false =>
      cases stage with
      | waiting => exact hquiet (by simp [question?, hc]) (by simpa [callTurn, hc] using .refl w)
      | ready outcome =>
        refine hquiet (by simp [question?, hc]) ?_
        simpa [callTurn, hc] using quiet_endCall w id _ _
      | fresh =>
        cases wanted with
        | profiles names =>
          refine hquiet (by simp [question?, hc]) ?_
          simpa [callTurn, hc] using quiet_startProfiles w id tag names
        | one r =>
          have hdoing : w.doing (.call id) =
              [.asked (.call id) r (w.desk.reception w.agenda.now (.call id) none r)] := by
            simp [doing, question?, hc]
          have hask := goes_ask hd (.call id) none r
          rw [hdoing]
          simp only [callTurn, hc, startCall, Bool.false_eq_true, if_false]
          split
          · exact hask.quiet (quiet_endCall _ _ _ _)
          · exact hask.quiet (quiet_setCall _ _ _)

/-- Steps at the desk, in which those may leave who are called off. -/
structure Advances (w : Workspace ℚ) (hs : List (Happening Asker)) (w' : Workspace ℚ) : Prop where
  now : w'.agenda.now = w.agenda.now
  steps : Steps w'.IsCalledOff w.traffic hs w'.traffic
  sane : w'.desk.Sane
  plain : w'.IsPlain

theorem Advances.orderly (h : Advances w hs w') (ho : w.Orderly) : w'.Orderly :=
  ⟨h.sane, h.steps.sound ho.sound, h.plain⟩

theorem Goes.advances (h : Goes w hs w') (hp : w.IsPlain) : Advances w hs w' := by
  refine ⟨h.now, h.steps.mono fun _ => False.elim, h.sane, ?_⟩
  unfold IsPlain
  rw [h.callers]
  exact hp

theorem Quiet.advances (h : Quiet w w') (ho : w.Orderly) : Advances w [] w' :=
  (h.goes ho.sane).advances ho.plain

theorem Quiet.orderly (h : Quiet w w') (ho : w.Orderly) : w'.Orderly :=
  (h.advances ho).orderly ho

theorem Releases.advances (h : Releases w w') (ho : w.Orderly) : Advances w [] w' :=
  ⟨h.now, h.steps, h.sane ho.sane, h.plain ho.plain⟩

theorem Advances.releases (h : Advances w hs w') (hr : Releases w' w'') : Advances w hs w'' := by
  have hsteps := (h.steps.mono hr.calledOff).trans hr.steps
  rw [List.append_nil] at hsteps
  exact ⟨hr.now.trans h.now, hsteps, hr.sane h.sane, hr.plain h.plain⟩

theorem doing_withJobs (w : Workspace ℚ) (jobs : List Job) (job : Job) :
    (w.withJobs jobs).doing job = w.doing job := by
  cases job <;> rfl

theorem goes_reply {r : Reference} {reply : Reply} {rest : List Job} (h : w.Orderly)
    (hj : w.agenda.jobs = .reply r reply :: rest) :
    Goes w [.received r reply w.agenda.now] (perform (w.withJobs rest) (.reply r reply)) := by
  have hsound := h.sound
  rw [traffic_eq hj] at hsound
  have hm : r ∈ (↑(Desk.refsAt (· = .fetching) w.desk.fetches) : Multiset Reference) := by
    have hf := hsound.fetching
    simp only [withJob, Multiset.map_cons] at hf
    exact hf ▸ Multiset.mem_cons_self _ _
  obtain ⟨f, hf, hs, hr⟩ := Desk.mem_refsAt.mp (Multiset.mem_coe.mp hm)
  obtain ⟨hstep, hsane⟩ := step_reply (w := w.withJobs rest) (fun _ => False) reply h.sane hf hr
    (of_decide_eq_true hs)
  refine ⟨(applyDesk_keeps _ _).1, ?_, hsane, (applyDesk_keeps _ _).2⟩
  rw [traffic_eq hj]
  exact hstep.steps

theorem quiet_withJobs {job : Job} {rest : List Job} (hj : w.agenda.jobs = job :: rest)
    (ha : job.IsAside) : Quiet w (w.withJobs rest) := by
  refine ⟨?_, rfl, rfl⟩
  rw [traffic_eq hj]
  cases job with
  | fetch r => exact ha.elim
  | reply r reply => exact ha.elim
  | forget r => exact ha.elim
  | answer asker outcome => exact ha.elim
  | _ => rfl

/-- In no job but the turn of a caller does anyone leave. -/
theorem goes_perform {job : Job} {rest : List Job} (h : w.Orderly)
    (hj : w.agenda.jobs = job :: rest) (hc : ∀ id, job ≠ .caller id) :
    Goes w (w.doing job) (perform (w.withJobs rest) job) := by
  have hsound := h.sound
  have hsane : (w.withJobs rest).desk.Sane := h.sane
  have hpop := quiet_withJobs hj
  -- the job is part of the traffic until its turn comes
  rw [traffic_eq hj] at hsound
  rw [← doing_withJobs w rest]
  cases job with
  | fetch r =>
    obtain ⟨hsteps, hsane⟩ := steps_fetchTurn (w := w.withJobs rest) (fun _ => False) hsane hsound
    refine ⟨(applyTurn_keeps _ _).1, ?_, hsane, (applyTurn_keeps _ _).2⟩
    rw [traffic_eq hj]
    exact hsteps
  | limiter r =>
    obtain ⟨hsteps, hsane⟩ := steps_limiterTurn (fun _ => False) hsane r
    exact (hpop trivial).before ⟨(applyTurn_keeps _ _).1, hsteps, hsane, (applyTurn_keeps _ _).2⟩
  | reply r reply => exact goes_reply h hj
  | forget r =>
    obtain ⟨hstep, hsane⟩ := step_forget (w := w.withJobs rest) (fun _ => False) hsane hsound
    refine ⟨(applyDesk_keeps _ _).1, ?_, hsane, (applyDesk_keeps _ _).2⟩
    rw [traffic_eq hj]
    exact hstep.steps
  | answer asker outcome =>
    have htell : Step (fun _ => False) w.traffic [.told asker outcome]
        (w.withJobs rest).traffic := by
      rw [traffic_eq hj]
      exact .tell rfl
    have hgoes : Goes w [.told asker outcome] (w.withJobs rest) :=
      ⟨rfl, htell.steps, hsane, rfl⟩
    exact hgoes.quiet (quiet_deliver _ asker outcome)
  | slot id slot => exact (hpop trivial).before (goes_slotTurn hsane id slot)
  | call id => exact (hpop trivial).before (goes_callTurn hsane id)
  | member id place => exact (hpop trivial).before (goes_memberTurn hsane id place)
  | timer debouncer timer =>
    exact ((hpop trivial).trans (quiet_withDebouncer _ debouncer (·.turn timer))).goes h.sane
  | group id =>
    exact ((hpop trivial).trans (quiet_applyBoard _ (Board.isQuiet_groupTurn _ id))).goes h.sane
  | caller id => exact absurd rfl (hc id)

theorem advances_perform {job : Job} {rest : List Job} (h : w.Orderly)
    (hj : w.agenda.jobs = job :: rest) :
    Advances w (w.doing job) (perform (w.withJobs rest) job) := by
  by_cases hc : ∃ id, job = .caller id
  · obtain ⟨id, rfl⟩ := hc
    have hrest : Releases w (w.withJobs rest) :=
      (quiet_withJobs hj trivial).releases (fun _ h => h) rfl
    unfold perform
    dsimp only
    split
    · rename_i plan hplan
      refine (hrest.trans (releases_proceed _ _ (fun p hp => ?_) _)).advances h
      exact h.plain _ (Register.mem_of_get? hplan) p hp
    · exact hrest.advances h
  · exact (goes_perform h hj fun id he => hc ⟨id, he⟩).advances h.plain

theorem advances_work (h : w.Orderly) : Advances w (w.happenings (.event .work)) w.work := by
  unfold work Agenda.nextJob? happenings
  cases hj : w.agenda.jobs with
  | nil => exact (Quiet.refl w).advances h
  | cons job rest => exact (advances_perform h hj).releases (releases_callCallers _)

/-! Events -/

/-- When an alarm rings, no one leaves. -/
theorem goes_ring {alarms : List (ℚ × Alarm)} {alarm : ℚ × Alarm} (h : w.Orderly)
    (ha : w.agenda.alarms = alarm :: alarms) :
    Goes w [] (ring { w with agenda := { w.agenda with alarms } } alarm.2) := by
  obtain ⟨time, alarm⟩ := alarm
  have hpop (hr : alarm.reply? = none) :
      Quiet w { w with agenda := { w.agenda with alarms } } := by
    refine ⟨?_, rfl, rfl⟩
    simp [traffic, replies, fetched, ha, hr]
  cases alarm with
  | timer debouncer timer =>
    exact ((hpop rfl).trans (quiet_withDebouncer _ debouncer (·.wake timer))).goes h.sane
  | limiter r =>
    have hsane : ({ w with agenda := { w.agenda with alarms } } : Workspace ℚ).desk.Sane := h.sane
    obtain ⟨hsteps, hsane⟩ := steps_limiterWake (fun _ => False) hsane r
    exact (hpop rfl).before ⟨(applyDesk_keeps _ _).1, hsteps, hsane, (applyDesk_keeps _ _).2⟩
  | reply r reply =>
    have hq : Quiet w ({ w with agenda := { w.agenda with alarms } }.soon (.reply r reply)) := by
      have hr : ({ w with agenda := { w.agenda with alarms } }.soon (.reply r reply)).replies =
          w.replies := by
        refine Multiset.coe_eq_coe.mpr ?_
        simp [Workspace.soon, Agenda.soon, ha, Job.reply?, Alarm.reply?]
      refine ⟨?_, rfl, rfl⟩
      unfold traffic
      rw [hr]
      simp [Workspace.soon, Agenda.soon, List.filterMap_cons, Job.turn?, Job.answer?, forgetting,
        fetched]
    exact hq.goes h.sane

theorem advances_thin (h : w.Orderly) (stays : Reference × Cache.Entry ℚ → Bool) :
    Advances w [.thinned] { w with desk := { w.desk with
      cache := { w.desk.cache with entries := w.desk.cache.entries.filter stays } } } :=
  ⟨rfl, (Step.thin (t := w.traffic) stays).steps,
    ⟨h.sane.nodup, h.sane.calledOff, h.sane.fair, h.sane.client, h.sane.attended, h.sane.sleeping,
      h.sane.awake, h.sane.called⟩, h.plain⟩

theorem isPlain_settlePlan (w : Workspace ℚ) (buffer : Text) :
    ∀ p ∈ w.settlePlan buffer, p.IsPlain := by
  unfold settlePlan
  split <;> simp [Phase.IsPlain]

theorem advances_event (h : w.Orderly) {e : Event ℚ} (hm : Move.IsFine (.event e)) :
    Advances w (w.happenings (.event e)) (w.step e) := by
  cases e with
  | dispose => exact hm.elim
  | advance dt => exact hm.elim
  | work => exact advances_work h
  | runPass buffer text => exact (quiet_runPass w buffer text).advances h
  | attach buffer path text => exact (quiet_attach w buffer path text).advances h
  | notify buffer text => exact (quiet_notify w buffer text).advances h
  | flush buffer => exact (quiet_flush w buffer).advances h
  | settle buffer => exact (releases_start w (isPlain_settlePlan w buffer)).advances h
  | detach buffer =>
    have hd : Releases w { w with debouncerOf := w.debouncerOf.erase buffer } :=
      Quiet.releases ⟨rfl, rfl, rfl⟩ (fun _ h => h) rfl
    refine (hd.trans (releases_start _ fun p hp => ?_)).advances h
    rcases List.mem_append.mp hp with hp | hp
    · split at hp
      · rw [List.mem_singleton.mp hp]
        trivial
      · cases hp
    · simp only [List.mem_cons, List.not_mem_nil, or_false] at hp
      rcases hp with rfl | rfl <;> trivial
  | shutdown =>
    have hd : Releases w { w with debouncerOf := [] } :=
      Quiet.releases ⟨rfl, rfl, rfl⟩ (fun _ h => h) rfl
    refine (hd.trans (releases_start _ fun p hp => ?_)).advances h
    rcases List.mem_append.mp hp with hp | hp
    · obtain ⟨entry, -, rfl⟩ := List.mem_map.mp hp
      trivial
    · simp only [List.mem_cons, List.not_mem_nil, or_false] at hp
      rcases hp with rfl | rfl <;> trivial
  | annotate buffer text =>
    have hpass := releases_runPass w (buffer.getD w.freshBuffer) text
    have hnext : Releases (w.runPass (buffer.getD w.freshBuffer) text).2
        { (w.runPass (buffer.getD w.freshBuffer) text).2 with
          nextCaller := (w.runPass (buffer.getD w.freshBuffer) text).2.nextCaller + 1 } :=
      Quiet.releases ⟨rfl, rfl, rfl⟩ (fun _ h => h) rfl
    refine ((hpass.trans hnext).trans (releases_proceed _ _ (fun p hp => ?_) _)).advances h
    rcases List.mem_append.mp hp with hp | hp
    · exact isPlain_settlePlan _ _ p hp
    · rcases List.mem_cons.mp hp with rfl | hp
      · trivial
      · split at hp
        · simp only [List.mem_cons, List.not_mem_nil, or_false] at hp
          rcases hp with rfl | rfl <;> trivial
        · cases hp
  | resolve tag r => exact (quiet_call w tag _).advances h
  | resolveProfiles tag names => exact (quiet_call w tag _).advances h
  | cancel tag => exact (releases_cancel w tag).advances h
  | respond url delivery =>
    have hq : Quiet w (w.step (.respond url delivery)) := ⟨rfl, rfl, rfl⟩
    exact hq.advances h
  | sweep =>
    exact (advances_thin h fun entry =>
      w.desk.cache.isFresh w.agenda.now entry.1 entry.2).releases (releases_notes _ _)
  | clear =>
    have hthin := advances_thin h fun _ => false
    rw [List.filter_false] at hthin
    exact hthin

/-- A move is a run of steps at the desk, and leaves all in order. -/
theorem steps_move (h : w.Orderly) {m : Move} (hm : m.IsFine) :
    Steps (w.move m).IsCalledOff w.traffic (w.happenings m) (w.move m).traffic ∧
      (w.move m).Orderly := by
  cases m with
  | event e =>
    have ha := advances_event h hm
    exact ⟨ha.steps, ha.orderly h⟩
  | ring =>
    unfold move
    dsimp only
    split
    · exact ⟨.refl _, h⟩
    · rename_i alarm alarms ha
      have ha := (goes_ring h ha).advances h.plain
      exact ⟨ha.steps, ha.orderly h⟩
  | wait time =>
    unfold move
    dsimp only
    split
    · rename_i ht
      have hstep (gone : Asker → Prop) : Step gone w.traffic [] { w.traffic with now := time } :=
        .pass ht.le
      exact ⟨(hstep _).steps, h.sane, (hstep fun _ => False).sound h.sound, h.plain⟩
    · exact ⟨.refl _, h⟩

end CommitMessage.Workspace
