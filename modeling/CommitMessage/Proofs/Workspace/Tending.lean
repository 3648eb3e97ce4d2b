import CommitMessage.Proofs.Workspace.Calling
import CommitMessage.Proofs.Workspace.Timers

/-! Every move leaves a workspace tended, whoever is waiting and whatever is being called off. -/

namespace CommitMessage.Workspace

variable {w w' : Workspace ℚ} {jobs : List Job} {debts debts' : Phase → Prop}

/-- A job of which neither the desk nor the groups nor the calls see anything. -/
def Job.IsIdle : Job → Prop
  | .timer _ _ | .slot _ _ | .caller _ | .answer (.slot _ _) _ => True
  | _ => False

theorem keeps_idle (w : Workspace ℚ) {job : Job} (hj : job.IsIdle) : Keeps [job] w w := by
  refine ⟨[], (List.append_nil _).symm, fun {jobs debts} ht => ?_⟩
  have hkept {job' : Job} (hj' : ¬ job'.IsIdle) (hm : job' ∈ [job] ++ jobs) : job' ∈ jobs :=
    (List.mem_append.mp hm).resolve_left fun he => hj' (List.mem_singleton.mp he ▸ hj)
  have hforgets : forgetting ([job] ++ jobs) = forgetting jobs := by
    cases job <;> first | rfl | exact hj.elim
  rw [List.append_nil]
  refine ⟨hforgets ▸ ht.desk.mono fun t => hkept (by cases t <;> exact not_false),
    ht.board.mono fun id => hkept (show ¬ Job.IsIdle (.group id) from not_false), ht.housed,
    ht.distinct, fun id c hc => ?_⟩
  refine (ht.calls id c hc).mono (hkept not_false)
    (fun place hm => .inl (hkept (show ¬ Job.IsIdle (.member id place) from not_false) hm))
    fun a ha hw => hw.mono (fun o => hkept ?_) .inl
  cases a with
  | slot group slot => exact ha.elim
  | _ => exact not_false

theorem keeps_deliver (w : Workspace ℚ) (a : Asker) (outcome : Outcome) :
    Keeps [.answer a outcome] w (w.deliver a outcome) := by
  cases a with
  | slot id slot =>
    have hidle : Job.IsIdle (.answer (.slot id slot) outcome) := trivial
    exact (keeps_idle w hidle).trans (keeps_boardAnswer w id slot outcome)
  | call id => exact keeps_callAnswer w id outcome
  | member id place =>
    exact keeps_memberAnswer w id place outcome fun job hm =>
      .inr ⟨outcome, List.mem_singleton.mp hm⟩

/-- Any job but the turn of a caller. -/
theorem keeps_perform (w : Workspace ℚ) {job : Job} (hj : ∀ id, job ≠ .caller id) :
    Keeps [job] w (w.perform job) := by
  cases job with
  | timer id timer =>
    have hidle : Job.IsIdle (.timer id timer) := trivial
    exact (keeps_idle w hidle).trans (keeps_withDebouncer w id _)
  | group id => exact keeps_groupTurn w id
  | slot id slot =>
    have hidle : Job.IsIdle (.slot id slot) := trivial
    exact (keeps_idle w hidle).trans (keeps_slotTurn w id slot)
  | fetch r => exact keeps_fetchTurn w r
  | limiter r => exact keeps_limiterTurn w r
  | reply r reply => exact keeps_reply w r reply
  | forget r => exact keeps_forget w r
  | answer a outcome => exact keeps_deliver w a outcome
  | call id => exact keeps_callTurn w id
  | member id place => exact keeps_memberTurn w id place
  | caller id => exact absurd rfl (hj id)

/-! Callers -/

theorem Tended.rehouse (h : w.Tended jobs debts) (hh : Housed debts' w.board) :
    w.Tended jobs debts' :=
  ⟨h.desk, h.board, hh, h.distinct, h.calls⟩

theorem Keeps.tended (h : Keeps [] w w') (ht : w.Tended w.agenda.jobs debts) :
    w'.Tended w'.agenda.jobs debts := by
  obtain ⟨more, hjobs, hkeeps⟩ := h
  exact hjobs ▸ hkeeps ht

theorem keeps_callOffKind (w : Workspace ℚ) (kind : Reference.Kind) :
    Keeps [] w (w.stopFetches kind) := by
  have hdesk : Keeps [] w (w.applyDesk (w.desk.callOffKind kind)) :=
    keeps_applyDesk (fun _ hm => nomatch hm) fun ht => (ht.desk.callOffKind kind).1
  exact hdesk.trans (keeps_same rfl rfl rfl rfl)

theorem Tended.callOffSheet {sheet : Nat}
    (h : w.Tended w.agenda.jobs fun p => p = .callOffSheet sheet ∨ debts p) :
    let w' := w.applyBoard (w.board.callOffSheet sheet)
    w'.Tended w'.agenda.jobs debts := by
  intro w'
  have hkeeps : Keeps [] w w' := keeps_applyBoard (fun _ hm => nomatch hm)
    (fun hb => ((hb.mono fun i hd => hd.resolve_right List.not_mem_nil).callOffSheet sheet).1)
    fun hh => hh.follows (h.board.callOffSheet sheet).2.1
  obtain ⟨askers, agenda, record, -, he, -⟩ := applyBoard_frame w (w.board.callOffSheet sheet)
  refine (hkeeps.tended h).rehouse ?_
  have hboard : w'.board = (w.board.callOffSheet sheet).1 := congrArg Workspace.board he
  rw [hboard]
  exact h.housed.callOffSheet h.board

theorem Tended.enter (caller : Nat) (phase : Phase)
    (h : w.Tended w.agenda.jobs fun p => p = phase ∨ debts p) :
    (w.enter caller phase).1.Tended (w.enter caller phase).1.agenda.jobs
      fun p => p ∈ (w.enter caller phase).2 ∨ debts p := by
  have hdone {w' : Workspace ℚ} {phases : List Phase} (hk : Keeps [] w w')
      (hp : ∀ sheet, phase ≠ .callOffSheet sheet) :
      w'.Tended w'.agenda.jobs fun p => p ∈ phases ∨ debts p := by
    refine (hk.tended h).rehouse ((hk.tended h).housed.mono fun sheet hd => .inr ?_)
    exact hd.resolve_left (Ne.symm (hp sheet))
  have hsame {w' : Workspace ℚ} {phases : List Phase} (hd : w'.desk = w.desk)
      (hb : w'.board = w.board) (hc : w'.calls = w.calls) (hj : w'.agenda.jobs = w.agenda.jobs)
      (hp : ∀ sheet, phase ≠ .callOffSheet sheet) :
      w'.Tended w'.agenda.jobs fun p => p ∈ phases ∨ debts p :=
    hdone (keeps_same hd hb hc hj) hp
  have hother (hp : ∀ sheet, phase ≠ .callOffSheet sheet) : Housed debts w.board :=
    h.housed.mono fun sheet hd => hd.resolve_left (Ne.symm (hp sheet))
  cases phase with
  | callOffTimers id => exact hdone (keeps_withDebouncer w id _) (by simp)
  | drop buffer =>
    simp only [Workspace.enter]
    split
    · next s hs =>
      have hhoused := (hother (by simp)).drop hs
      have hboard : Tended w.agenda.jobs (fun p => p = .callOffSheet s.serial ∨ debts p)
          { w with board := w.board.drop buffer } :=
        ⟨h.desk, ⟨h.board.nodup, h.board.id_lt, h.board.ends⟩, hhoused, h.distinct, h.calls⟩
      exact hboard.rehouse (hhoused.mono fun _ => Or.imp_left List.mem_singleton.mpr)
    · exact hsame rfl rfl rfl rfl (by simp)
  | dropAll =>
    exact ⟨h.desk, ⟨h.board.nodup, h.board.id_lt, h.board.ends⟩, (hother (by simp)).dropAll,
      h.distinct, h.calls⟩
  | callOffSheet sheet =>
    exact h.callOffSheet.rehouse (h.callOffSheet.housed.mono fun _ => .inr)
  | idle buffer =>
    simp only [Workspace.enter]
    split <;> exact hsame rfl rfl rfl rfl (by simp)
  | stopFetches kind => exact hdone (keeps_callOffKind w kind) (by simp)
  | _ => exact hsame rfl rfl rfl rfl (by simp)

theorem Tended.proceed (caller fuel : Nat) (plan : List Phase)
    (h : w.Tended w.agenda.jobs fun p => p ∈ plan ∨ w.OthersOwe caller p) :
    let w' := proceed caller fuel plan w
    w'.Tended w'.agenda.jobs w'.Owes :=
  proceed_owing (C := fun debts w => w.Tended w.agenda.jobs debts) caller
    (fun _ h => ⟨h.desk, h.board, h.housed, h.distinct, h.calls⟩)
    (fun h => ⟨h.desk, h.board, h.housed, h.distinct, h.calls⟩)
    (fun phase h => h.enter caller phase) fuel plan h

/-! Moves -/

/-- A workspace in which everything is tended and every timer attended to. -/
structure InOrder (w : Workspace ℚ) : Prop extends OnTime w where
  tended : w.Tended w.agenda.jobs w.Owes

theorem inOrder_new (p : Plan ℚ) (now : ℚ) : (new p now).InOrder :=
  ⟨onTime_new p now, Desk.tended_new _ _ _ _, Board.ending_empty, nofun, List.nodup_nil, nofun⟩

theorem Keeps.inOrder (hk : Keeps [] w w') (h : w.InOrder) (ht : w'.OnTime)
    (hc : w'.callers = w.callers) : w'.InOrder := by
  refine ⟨ht, ?_⟩
  rw [owes_congr hc]
  exact hk.tended h.tended

/-- A new caller. -/
theorem Tended.start {plan : List Phase} (hn : w.Numbered) (h : w.Tended w.agenda.jobs w.Owes) :
    (w.start plan).Tended (w.start plan).agenda.jobs (w.start plan).Owes := by
  refine Tended.proceed _ _ _ ?_
  have hsame : Tended w.agenda.jobs w.Owes { w with nextCaller := w.nextCaller + 1 } :=
    ⟨h.desk, h.board, h.housed, h.distinct, h.calls⟩
  exact hsame.rehouse (h.housed.mono fun _ ho => .inr (hn.othersOwe ho))

theorem perform_callers (w : Workspace ℚ) {job : Job} (hj : ∀ id, job ≠ .caller id) :
    (w.perform job).callers = w.callers := by
  by_cases htiming : job.IsTiming
  · cases job with
    | timer id timer => exact (withDebouncer_callers w id _).1
    | caller id => exact absurd rfl (hj id)
    | _ => exact htiming.elim
  · exact (beside_perform w htiming).callers

theorem Tended.withJobs (h : w.Tended jobs debts) (rest : List Job) :
    (w.withJobs rest).Tended jobs debts :=
  ⟨h.desk, h.board, h.housed, h.distinct, h.calls⟩

theorem Tended.popIdle {job : Job} (h : w.Tended (job :: jobs) debts) (hj : job.IsIdle) :
    w.Tended jobs debts := by
  obtain ⟨more, hmore, hkeeps⟩ := keeps_idle w hj
  obtain rfl : more = [] := List.self_eq_append_right.mp hmore
  have hkept : w.Tended (jobs ++ []) debts := hkeeps h
  rwa [List.append_nil] at hkept

theorem InOrder.perform {job : Job} {rest : List Job} (h : w.InOrder)
    (hj : w.agenda.jobs = job :: rest) : ((w.withJobs rest).perform job).InOrder := by
  have htended : (w.withJobs rest).Tended (job :: rest) w.Owes := hj ▸ h.tended.withJobs rest
  refine ⟨h.toOnTime.perform hj, ?_⟩
  by_cases hcaller : ∃ id, job = .caller id
  · obtain ⟨id, rfl⟩ := hcaller
    have hidle := htended.popIdle trivial
    unfold Workspace.perform
    dsimp only
    split
    · next plan hget =>
      refine Tended.proceed _ _ _ (hidle.rehouse (hidle.housed.mono fun sheet => ?_))
      rintro ⟨other, plan', hget', hm⟩
      by_cases he : other = id
      · subst he
        rw [show w.callers.get? other = some plan from hget] at hget'
        cases hget'
        exact .inl hm
      · exact .inr ⟨other, plan', he, hget', hm⟩
    · exact hidle
  · have hne : ∀ id, job ≠ .caller id := fun id he => hcaller ⟨id, he⟩
    obtain ⟨more, hmore, hkeeps⟩ := keeps_perform (w.withJobs rest) hne
    rw [owes_congr (perform_callers (w.withJobs rest) hne), hmore]
    exact hkeeps htended

theorem keeps_callCallers (w : Workspace ℚ) : Keeps [] w w.callCallers :=
  callCallers_rec (C := Keeps [] w) (.refl w) fun w' _ h => h.trans (keeps_soon w' nofun)

theorem InOrder.work (h : w.InOrder) : w.work.InOrder := by
  have htime := h.toOnTime.work
  unfold Workspace.work Agenda.nextJob? at htime ⊢
  cases hj : w.agenda.jobs with
  | nil => exact h
  | cons job rest =>
    simp only [hj] at htime
    exact (keeps_callCallers _).inOrder (h.perform hj) htime (beside_callCallers _).callers

theorem keeps_notify (w : Workspace ℚ) (buffer text : Text) :
    Keeps [] w (w.notify buffer text) := by
  let noted : Workspace ℚ := { w with texts := w.texts.set buffer text }
  have hnoted : Keeps [] w noted := keeps_same rfl rfl rfl rfl
  have hfor : Keeps [] noted (noted.debouncerFor buffer).2 := by
    unfold debouncerFor
    split
    · exact .refl noted
    · exact keeps_same rfl rfl rfl rfl
  exact (hnoted.trans hfor).trans (keeps_withDebouncer _ _ Debouncer.trigger)

theorem keeps_flush (w : Workspace ℚ) (buffer : Text) : Keeps [] w (w.flush buffer).2 := by
  unfold flush
  split
  · split
    · exact (keeps_withDebouncer w _ _).trans (keeps_runLatest _ buffer)
    · exact .refl w
  · exact .refl w

theorem keeps_attach (w : Workspace ℚ) (buffer path text : Text) :
    Keeps [] w (w.attach buffer path text).2 := by
  unfold attach
  split
  · exact keeps_runPass w buffer text
  · exact keeps_same rfl rfl rfl rfl

theorem keeps_cache (w : Workspace ℚ) (cache : Cache ℚ) :
    Keeps [] w { w with desk.cache := cache } := by
  refine ⟨[], (List.append_nil _).symm, fun {jobs debts} ht => ?_⟩
  rw [List.append_nil]
  exact ⟨⟨ht.desk.nodup, ht.desk.orderly, ht.desk.client, ht.desk.stirs, ht.desk.fetches,
    ht.desk.once, ht.desk.known⟩, ht.board, ht.housed, ht.distinct, ht.calls⟩

theorem InOrder.event (h : w.InOrder) {e : Event ℚ} (he : Move.IsStep (.event e)) :
    (w.step e).InOrder := by
  have htime := h.toOnTime.event he
  -- All who start first take debouncers out of use, or nothing.
  have hstart (debouncerOf : Register Text Nat) {plan : List Phase}
      (ho : (Workspace.start { w with debouncerOf } plan).OnTime) :
      (Workspace.start { w with debouncerOf } plan).InOrder :=
    ⟨ho, Tended.start h.numbered ⟨h.tended.desk, h.tended.board, h.tended.housed,
      h.tended.distinct, h.tended.calls⟩⟩
  cases e with
  | runPass buffer text =>
    exact (keeps_runPass w buffer text).inOrder h htime (keepsTimers_runPass w buffer text).callers
  | attach buffer path text =>
    exact (keeps_attach w buffer path text).inOrder h htime
      (keepsTimers_attach w buffer path text).callers
  | notify buffer text =>
    exact (keeps_notify w buffer text).inOrder h htime (notify_callers w buffer text).1
  | flush buffer => exact (keeps_flush w buffer).inOrder h htime (flush_callers w buffer).1
  | settle buffer => exact hstart _ htime
  | detach buffer => exact hstart _ htime
  | shutdown => exact hstart [] htime
  | dispose => exact hstart [] htime
  | annotate buffer text =>
    have hpass := (keeps_runPass w (buffer.getD w.freshBuffer) text).inOrder h
      (h.toOnTime.keep (keepsTimers_runPass w _ text)) (keepsTimers_runPass w _ text).callers
    exact ⟨htime, hpass.tended.start hpass.numbered⟩
  | resolve tag r =>
    have hw : ∀ names, Wanted.one r = .profiles names → ∀ e ∈ names, e.2 = none :=
      fun _ hn => nomatch hn
    exact (keeps_call w tag hw).inOrder h htime
      (beside_step w (e := .resolve tag r) trivial).callers
  | resolveProfiles tag names =>
    refine (keeps_call w tag fun names' hn e hm => ?_).inOrder h htime
      (beside_step w (e := .resolveProfiles tag names) trivial).callers
    obtain rfl := Wanted.profiles.inj hn
    obtain ⟨name, -, rfl⟩ := List.mem_map.mp hm
    rfl
  | cancel tag => exact (keeps_cancel w tag).inOrder h htime (beside_cancel w tag).callers
  | respond url delivery =>
    have hk : Keeps [] w (w.step (.respond url delivery)) := keeps_same rfl rfl rfl rfl
    exact hk.inOrder h htime rfl
  | sweep =>
    have hnotes := keeps_foldl (fun w n => w.note (.noted ⟨none, n⟩))
      (fun w n => keeps_same rfl rfl rfl rfl) (Cache.sweepNotices (w.desk.cache.sweep w.agenda.now))
      { w with desk.cache := (w.desk.cache.sweep w.agenda.now).2 }
    exact ((keeps_cache w _).trans hnotes).inOrder h htime
      (beside_step w (e := .sweep) trivial).callers
  | clear => exact (keeps_cache w w.desk.cache.clear).inOrder h htime rfl
  | work => exact h.work
  | advance dt => exact he.elim

theorem InOrder.ring {time : ℚ} {alarm : Alarm} {alarms : List (ℚ × Alarm)} (h : w.InOrder)
    (ha : w.agenda.alarms = (time, alarm) :: alarms) :
    (Workspace.ring (w.withAlarms alarms) alarm).InOrder := by
  have hsame : Keeps [] w (w.withAlarms alarms) := keeps_same rfl rfl rfl rfl
  have htime := h.toOnTime.ring ha
  cases alarm with
  | timer id timer =>
    exact (hsame.trans (keeps_withDebouncer _ id (·.wake timer))).inOrder h htime
      (withDebouncer_callers (w.withAlarms alarms) id _).1
  | limiter r =>
    exact (hsame.trans (keeps_limiterWake _ r)).inOrder h htime
      (beside_applyDesk (w.withAlarms alarms) _).callers
  | reply r reply =>
    have hsoon : Keeps [] (w.withAlarms alarms) ((w.withAlarms alarms).soon (.reply r reply)) :=
      keeps_soon _ nofun
    exact (hsame.trans hsoon).inOrder h htime rfl

theorem InOrder.move (h : w.InOrder) {m : Move} (hm : m.IsStep) : (w.move m).InOrder := by
  have htime := h.toOnTime.move hm
  cases m with
  | event e => exact h.event hm
  | ring =>
    unfold Workspace.move
    dsimp only
    split
    · exact h
    · next alarm alarms ha => exact h.ring ha
  | wait time =>
    unfold Workspace.move at htime ⊢
    dsimp only at htime ⊢
    split at htime
    · next hw =>
      rw [if_pos hw]
      have hk : Keeps [] w { w with agenda := { w.agenda with now := time } } :=
        keeps_same rfl rfl rfl rfl
      exact hk.inOrder h htime rfl
    · next hw =>
      rw [if_neg hw]
      exact h

theorem InOrder.run (h : w.InOrder) {moves : List Move} (hm : ∀ m ∈ moves, m.IsStep) :
    (w.runMoves moves).InOrder :=
  List.foldlRecOn (motive := InOrder) moves Workspace.move h fun _ h' m hx => h'.move (hm m hx)

end CommitMessage.Workspace
