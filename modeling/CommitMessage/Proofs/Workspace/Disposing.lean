import CommitMessage.Proofs.Workspace.Released

/-! A workspace that is being disposed of. First the timers are called off, then texts and sheets
are forgotten, then groups are called off, and last the fetches; what has been called off does not
come back. -/

namespace CommitMessage.Workspace

variable {told : Asker → Outcome → Prop} {w w' start : Workspace ℚ} {plan rest : List Phase}
  {caller : Nat} {phase : Phase} {job : Job} {jobs : List Job}

/-- In the course of these moves the outcome is handed over to one who asked. -/
inductive HandedOver : Workspace ℚ → List Move → Asker → Outcome → Prop
  | now {w : Workspace ℚ} {m : Move} {moves : List Move} {a : Asker} {outcome : Outcome}
    (h : HandsOver w (w.move m) a outcome) : HandedOver w (m :: moves) a outcome
  | later {w : Workspace ℚ} {m : Move} {moves : List Move} {a : Asker} {outcome : Outcome}
    (h : HandedOver (w.move m) moves a outcome) : HandedOver w (m :: moves) a outcome

/-! What is ahead -/

/-- The fetches of every kind are still to be called off. -/
def stopping : List Phase := Reference.Kind.all.map Phase.stopFetches

def Phase.IsOfTimers : Phase → Prop
  | .callOffTimers _ | .timersEnded _ _ => True
  | _ => False

def Phase.IsOfGroups : Phase → Prop
  | .callOffSheet _ | .groupsEnded _ => True
  | _ => False

def Phase.IsOfFetches : Phase → Prop
  | .stopFetches _ | .fetchesStopped _ => True
  | _ => False

/-- What is ahead of a disposal, with what has been reached. -/
inductive Ahead (w : Workspace ℚ) : List Phase → Prop
  | timers {phases : List Phase} (hp : ∀ p ∈ phases, p.IsOfTimers) :
    Ahead w (phases ++ .forgetAll :: .dropAll :: stopping)
  | sheets (ht : w.texts = []) : Ahead w (.dropAll :: stopping)
  | groups {phases : List Phase} (hp : ∀ p ∈ phases, p.IsOfGroups) (ht : w.texts = [])
    (hs : w.board.sheets = []) : Ahead w (phases ++ stopping)
  | fetches {phases : List Phase} (hp : ∀ p ∈ phases, p.IsOfFetches) (ht : w.texts = [])
    (hs : w.board.sheets = []) (hg : ∀ g ∈ w.board.groups, g.calledOff = true)
    (hf : ∀ kind, .stopFetches kind ∈ phases ∨
      ∀ f ∈ w.desk.fetches, f.reference.kind = kind → f.calledOff = true ∨ f.IsOver) :
    Ahead w phases

theorem Ahead.subsides (h : Ahead w plan) (hw : Subsides w w') : Ahead w' plan := by
  cases h with
  | timers hp => exact .timers hp
  | sheets ht => exact .sheets (hw.texts ht)
  | groups hp ht hs => exact .groups hp (hw.texts ht) ((hw.board ht).sheets_eq_nil hs)
  | fetches hp ht hs hg hf =>
    refine .fetches hp (hw.texts ht) ((hw.board ht).sheets_eq_nil hs) (fun g' hm' => ?_)
      fun kind => (hf kind).imp_right fun hoff f' hm' hk => ?_
    · obtain ⟨g, hm, -, -, hc⟩ := (hw.board ht).groups g' hm'
      exact hc (hg g hm)
    · rcases hw.fetches f' hm' with ⟨g, hm, hlive⟩ | ⟨f, hm, hlater⟩
      · simp [hg g hm] at hlive
      · exact (hoff f hm (hlater.reference ▸ hk)).imp hlater.calledOff hlater.isOver

/-- With no sheet left and none to be called off, every group is called off. -/
theorem Tended.calledOff (h : w.Tended jobs (· ∈ stopping)) (hs : w.board.sheets = []) :
    ∀ g ∈ w.board.groups, g.calledOff = true := by
  intro g hm
  rcases h.housed g hm with hoff | ⟨buffer, s, hsheet, -⟩ | hd
  · exact hoff
  · rw [hs] at hsheet
    cases hsheet
  · obtain ⟨kind, -, he⟩ := List.mem_map.mp hd
    cases he

theorem isOfFetches_stopping : ∀ p ∈ stopping, p.IsOfFetches := by
  intro p hm
  obtain ⟨kind, -, rfl⟩ := List.mem_map.mp hm
  trivial

theorem mem_stopping (kind : Reference.Kind) : .stopFetches kind ∈ stopping :=
  List.mem_map_of_mem (by cases kind <;> decide)

/-- The fetches of one kind after the other. -/
theorem Ahead.enterFetches (h : w.Tended jobs (· ∈ phase :: rest))
    (hp : ∀ p ∈ phase :: rest, p.IsOfFetches) (ht : w.texts = []) (hs : w.board.sheets = [])
    (hg : ∀ g ∈ w.board.groups, g.calledOff = true)
    (hf : ∀ kind, .stopFetches kind ∈ phase :: rest ∨
      ∀ f ∈ w.desk.fetches, f.reference.kind = kind → f.calledOff = true ∨ f.IsOver) :
    Ahead (w.enter caller phase).1 ((w.enter caller phase).2 ++ rest) := by
  have hrest : ∀ p ∈ rest, p.IsOfFetches := fun p hm => hp p (List.mem_cons_of_mem _ hm)
  have hphase := hp phase List.mem_cons_self
  cases phase with
  | stopFetches kind =>
    obtain ⟨hcontinues, -, hoff⟩ := h.desk.callOffKind kind
    obtain ⟨agenda, record, he, -⟩ := applyDesk_frame w (w.desk.callOffKind kind)
    have hstop : (w.enter caller (.stopFetches kind)).1 = { w with
        desk := (w.desk.callOffKind kind).1
        agenda := (w.stopFetches kind).agenda, record } := by
      simp only [Workspace.enter, Workspace.stopFetches, he]
      rfl
    rw [hstop]
    refine .fetches (fun p hm => ?_) ht hs hg fun k => ?_
    · rcases List.mem_cons.mp hm with rfl | hm
      · trivial
      · exact hrest p hm
    · by_cases hk : k = kind
      · exact .inr fun f hm hr => hoff f hm (hr.trans hk)
      · refine (hf k).imp (fun hm => ?_) fun hall f' hm' hr => ?_
        · rcases List.mem_cons.mp hm with he | hm
          · cases he
            exact absurd rfl hk
          · exact List.mem_cons_of_mem _ hm
        · obtain ⟨f, hm, hlater⟩ := hcontinues.carriesOn.later hm'
          exact (hall f hm (hlater.reference ▸ hr)).imp hlater.calledOff hlater.isOver
  | fetchesStopped references =>
    refine .fetches hrest ht hs hg fun k => (hf k).imp_left fun hm => ?_
    exact (List.mem_cons.mp hm).resolve_left (by simp)
  | _ => exact hphase.elim

/-- What is entered leaves the rest ahead. -/
theorem Ahead.enter (h : w.Tended w.agenda.jobs (· ∈ phase :: rest))
    (ha : Ahead w (phase :: rest)) :
    Ahead (w.enter caller phase).1 ((w.enter caller phase).2 ++ rest) := by
  generalize hplan : phase :: rest = plan at ha
  cases ha with
  | timers hp =>
    rename_i phases
    cases phases with
    | nil =>
      obtain ⟨rfl, rfl⟩ := List.cons.inj hplan
      exact .sheets rfl
    | cons first phases =>
      obtain ⟨rfl, rfl⟩ := List.cons.inj hplan
      have hrest : ∀ p ∈ phases, p.IsOfTimers := fun p hm => hp p (List.mem_cons_of_mem _ hm)
      have hfirst := hp phase List.mem_cons_self
      cases phase with
      | callOffTimers key =>
        have hcons : ∀ p ∈ (w.enter caller (.callOffTimers key)).2 ++ phases, p.IsOfTimers := by
          intro p hm
          rcases List.mem_cons.mp hm with rfl | hm
          · trivial
          · exact hrest p hm
        exact .timers hcons
      | timersEnded key timers => exact .timers hrest
      | _ => exact hfirst.elim
  | sheets ht =>
    obtain ⟨rfl, rfl⟩ := List.cons.inj hplan
    refine .groups (fun p hm => ?_) ht rfl
    obtain ⟨entry, -, rfl⟩ := List.mem_map.mp hm
    trivial
  | groups hp ht hs =>
    rename_i phases
    cases phases with
    | nil =>
      have hstop : phase :: rest = stopping := hplan
      have hoff : ∀ g ∈ w.board.groups, g.calledOff = true := by
        rw [hstop] at h
        exact h.calledOff hs
      refine Ahead.enterFetches h ?_ ht hs hoff fun kind => .inl ?_
      · rw [hstop]
        exact isOfFetches_stopping
      · rw [hstop]
        exact mem_stopping kind
    | cons first phases =>
      obtain ⟨rfl, rfl⟩ := List.cons.inj hplan
      have hrest : ∀ p ∈ phases, p.IsOfGroups := fun p hm => hp p (List.mem_cons_of_mem _ hm)
      have hfirst := hp phase List.mem_cons_self
      cases phase with
      | callOffSheet sheet =>
        obtain ⟨askers, agenda, record, -, he, -⟩ := applyBoard_frame w (w.board.callOffSheet sheet)
        have henter : (w.enter caller (.callOffSheet sheet)).1 = _ := he
        rw [henter]
        have hcons : ∀ p ∈ (w.enter caller (.callOffSheet sheet)).2 ++ phases, p.IsOfGroups := by
          intro p hm
          rcases List.mem_cons.mp hm with rfl | hm
          · trivial
          · exact hrest p hm
        exact .groups hcons ht ((Board.callOffSheet_sheets w.board sheet).trans hs)
      | groupsEnded groups => exact .groups hrest ht hs
      | _ => exact hfirst.elim
  | fetches hp ht hs hg hf =>
    subst hplan
    exact Ahead.enterFetches h hp ht hs hg hf

/-! The one who disposes -/

/-- Phases are entered in the order of the plan, up to one that is waited for. -/
theorem proceed_plan {C : List Phase → Workspace ℚ → Prop} (caller : Nat)
    (hcallers : ∀ {w plan} (callers : Register Nat (List Phase)), C plan w →
      C plan { w with callers })
    (hdone : ∀ {w}, C [] w → C [] (w.note (.returned caller)))
    (henter : ∀ {w phase rest}, C (phase :: rest) w →
      C ((w.enter caller phase).2 ++ rest) (w.enter caller phase).1)
    (fuel : Nat) {w : Workspace ℚ} (h : C plan w) :
    ∃ rest, C rest (proceed caller fuel plan w) ∧
      ((proceed caller fuel plan w).callers = w.callers.erase caller ∧ rest = [] ∨
        (proceed caller fuel plan w).callers = w.callers.set caller rest) := by
  induction fuel generalizing plan w with
  | zero =>
    cases plan with
    | nil => exact ⟨[], hdone (hcallers _ h), .inl ⟨rfl, rfl⟩⟩
    | cons phase rest => exact ⟨_, hcallers _ h, .inr rfl⟩
  | succ fuel ih =>
    cases plan with
    | nil => exact ⟨[], hdone (hcallers _ h), .inl ⟨rfl, rfl⟩⟩
    | cons phase rest =>
      unfold proceed
      split
      · have hrest := ih (henter h)
        rw [(enter_callers w caller phase).1] at hrest
        exact hrest
      · exact ⟨_, hcallers _ h, .inr rfl⟩

theorem tells_enter (h : w.Tended w.agenda.jobs (· ∈ plan)) (caller : Nat) (phase : Phase) :
    Tells told w (w.enter caller phase).1 := by
  have hsame {w' : Workspace ℚ} (hc : w'.calls = w.calls) (hr : w'.record = w.record)
      (hj : w'.agenda.jobs = w.agenda.jobs) : Tells told w w' :=
    tells_same hc (hr ▸ List.suffix_refl _) (hj ▸ List.Subset.refl _)
  cases phase with
  | callOffTimers key => exact tells_withDebouncer w key Debouncer.callOffAll
  | drop buffer =>
    simp only [Workspace.enter]
    split <;> exact hsame rfl rfl rfl
  | callOffSheet sheet => exact tells_applyBoard w _
  | idle buffer =>
    simp only [Workspace.enter]
    split <;> exact .refl w
  | stopFetches kind =>
    obtain ⟨-, htells, -⟩ := h.desk.callOffKind kind
    have hdesk : Tells told w (w.applyDesk (w.desk.callOffKind kind)) :=
      tells_applyDesk w fun a outcome hm => .inl (htells a outcome hm)
    exact hdesk.trans (tells_same rfl (List.suffix_refl _) (List.Subset.refl _))
  | present pass => exact tells_note w _
  | _ => exact hsame rfl rfl rfl

theorem enter_debouncerOf (w : Workspace ℚ) (caller : Nat) (phase : Phase) :
    (w.enter caller phase).1.debouncerOf = w.debouncerOf := by
  by_cases hp : ∃ key, phase = .callOffTimers key
  · obtain ⟨key, rfl⟩ := hp
    exact (subsides_withDebouncer w key Debouncer.callOffAll).debouncerOf
  · exact (keepsTimers_enter w caller fun key he => hp ⟨key, he⟩).debouncerOf

/-- What is ahead, and what has been told on the way. -/
structure Proceeds (told : Asker → Outcome → Prop) (start : Workspace ℚ) (plan : List Phase)
    (w : Workspace ℚ) : Prop where
  tended : w.Tended w.agenda.jobs (· ∈ plan)
  ahead : Ahead w plan
  debouncerOf : w.debouncerOf = []
  tells : Tells told start w

theorem Ahead.congr (h : Ahead w plan) (ht : w'.texts = w.texts) (hb : w'.board = w.board)
    (hd : w'.desk = w.desk) : Ahead w' plan := by
  cases h with
  | timers hp => exact .timers hp
  | sheets htexts => exact .sheets (ht.trans htexts)
  | groups hp htexts hs => exact .groups hp (ht.trans htexts) (hb ▸ hs)
  | fetches hp htexts hs hg hf => exact .fetches hp (ht.trans htexts) (hb ▸ hs) (hb ▸ hg) (hd ▸ hf)

theorem Proceeds.enter (h : Proceeds told start (phase :: rest) w) :
    Proceeds told start ((w.enter caller phase).2 ++ rest) (w.enter caller phase).1 := by
  have htended : w.Tended w.agenda.jobs fun p => p = phase ∨ p ∈ rest :=
    h.tended.rehouse (h.tended.housed.mono fun _ => List.mem_cons.mp)
  have hentered := htended.enter caller phase
  exact ⟨hentered.rehouse (hentered.housed.mono fun _ => List.mem_append.mpr),
    h.ahead.enter h.tended, (enter_debouncerOf w caller phase).trans h.debouncerOf,
    h.tells.trans (tells_enter h.tended caller phase)⟩

theorem Proceeds.proceed (h : Proceeds told start plan w) (caller fuel : Nat) :
    ∃ rest, Proceeds told start rest (proceed caller fuel plan w) ∧
      ((Workspace.proceed caller fuel plan w).callers = w.callers.erase caller ∧ rest = [] ∨
        (Workspace.proceed caller fuel plan w).callers = w.callers.set caller rest) := by
  refine proceed_plan caller (fun callers h => ?_) (fun h => ?_) (fun h => h.enter) fuel h
  · exact ⟨⟨h.tended.desk, h.tended.board, h.tended.housed, h.tended.distinct, h.tended.calls⟩,
      h.ahead.congr rfl rfl rfl, h.debouncerOf,
      h.tells.trans (tells_same rfl (List.suffix_refl _) (List.Subset.refl _))⟩
  · exact ⟨⟨h.tended.desk, h.tended.board, h.tended.housed, h.tended.distinct, h.tended.calls⟩,
      h.ahead.congr rfl rfl rfl, h.debouncerOf, h.tells.trans (tells_note _ _)⟩

/-! Moves -/

/-- A workspace is being disposed of, and nothing else is asked of it. -/
structure Disposing (told : Asker → Outcome → Prop) (start w : Workspace ℚ) : Prop where
  inOrder : w.InOrder
  watched : Watched told start w
  debouncerOf : w.debouncerOf = []
  ahead : ∃ plan, Ahead w plan ∧
    (w.callers = [] ∧ plan = [] ∨ ∃ caller, w.callers = [(caller, plan)])

theorem handsOver_congr {w'' : Workspace ℚ} (hd : w''.desk = w'.desk) {a : Asker}
    {outcome : Outcome} (h : HandsOver w w' a outcome) : HandsOver w w'' a outcome := by
  unfold HandsOver
  rw [hd]
  exact h

theorem Watched.perform (h : Watched told start w) {debts : Phase → Prop} {jobs : List Job}
    (ht : w.Tended w.agenda.jobs debts) (hj : w.agenda.jobs = job :: jobs)
    (hc : ∀ id, job ≠ .caller id)
    (hh : ∀ a outcome, HandsOver w ((w.withJobs jobs).perform job) a outcome → told a outcome) :
    Watched told start ((w.withJobs jobs).perform job) := by
  have hpop : Watched told start (w.withJobs jobs) :=
    h.tells (tells_same rfl (List.suffix_refl _) fun _ hm => hj ▸ List.mem_cons_of_mem _ hm)
  have hanswer {a : Asker} {outcome : Outcome} (he : job = .answer a outcome) :
      outcome = .stopped ∨ told a outcome :=
    h.answers a outcome (hj ▸ he ▸ List.mem_cons_self)
  by_cases hcall : job.IsCall
  · cases job with
    | answer a outcome =>
      cases a with
      | slot id slot => exact hcall.elim
      | call id => exact hpop.callAnswer (hanswer rfl)
      | member id place => exact hpop.memberAnswer (hanswer rfl)
    | call id => exact hpop.callTurn id
    | _ => exact hcall.elim
  · exact h.tells ((tells_perform ht h.asked hj hc hcall).mono hh)

/-- One caller has a plan. -/
theorem owes_single {w : Workspace ℚ} (hc : w.callers = [(caller, plan)]) (phase : Phase) :
    w.Owes phase ↔ phase ∈ plan := by
  have hget (other : Nat) : w.callers.get? other = if other = caller then some plan else none := by
    have hset := Register.get?_set ([] : Register Nat (List Phase)) caller other plan
    rw [hc]
    exact hset
  unfold Owes
  simp only [hget]
  constructor
  · rintro ⟨other, plan', he, hm⟩
    split at he
    · cases he
      exact hm
    · cases he
  · exact fun hm => ⟨caller, plan, if_pos rfl, hm⟩

theorem Disposing.proceed {before : Workspace ℚ} (h : Watched told start before) {fuel : Nat}
    (hp : Proceeds told before plan w)
    (hc : w.callers = [] ∨ ∃ plan', w.callers = [(caller, plan')])
    (hw : (proceed caller fuel plan w).InOrder) :
    Disposing told start (Workspace.proceed caller fuel plan w) := by
  obtain ⟨rest, hrest, hcallers⟩ := hp.proceed caller fuel
  refine ⟨hw, h.tells hrest.tells, hrest.debouncerOf, rest, hrest.ahead, ?_⟩
  rcases hcallers with ⟨he, hnil⟩ | he
  · refine .inl ⟨?_, hnil⟩
    rcases hc with hc | ⟨plan', hc⟩ <;> simp [he, hc, Register.erase]
  · refine .inr ⟨caller, ?_⟩
    rcases hc with hc | ⟨plan', hc⟩ <;> simp [he, hc, Register.set]

theorem Disposing.perform (h : Disposing told start w) {jobs : List Job}
    (hj : w.agenda.jobs = job :: jobs)
    (hh : ∀ a outcome, HandsOver w ((w.withJobs jobs).perform job) a outcome → told a outcome) :
    Disposing told start ((w.withJobs jobs).perform job) := by
  obtain ⟨plan, hahead, hplan⟩ := h.ahead
  have hinOrder := h.inOrder.perform hj
  by_cases hcaller : ∃ id, job = .caller id
  · obtain ⟨id, rfl⟩ := hcaller
    have hpop : Tells told w (w.withJobs jobs) :=
      tells_same rfl (List.suffix_refl _) fun _ hm => hj ▸ List.mem_cons_of_mem _ hm
    have htended : (w.withJobs jobs).Tended (.caller id :: jobs) w.Owes :=
      hj ▸ h.inOrder.tended.withJobs jobs
    have hidle := htended.popIdle trivial
    unfold Workspace.perform at hinOrder ⊢
    dsimp only at hinOrder ⊢
    split at hinOrder
    · next plan' hget =>
      obtain ⟨hnil, -⟩ | ⟨caller, hsingle⟩ := hplan
      · simp [withJobs, hnil] at hget
      · obtain ⟨rfl, rfl⟩ : id = caller ∧ plan' = plan := by
          have hm := Register.mem_of_get? hget
          rw [show (w.withJobs jobs).callers = _ from hsingle] at hm
          simpa using hm
        have hproceeds : Proceeds told w plan' (w.withJobs jobs) :=
          ⟨hidle.rehouse (hidle.housed.mono fun _ => (owes_single hsingle _).mp),
            hahead.congr rfl rfl rfl, h.debouncerOf, hpop⟩
        exact .proceed h.watched hproceeds (.inr ⟨plan', hsingle⟩) hinOrder
    · next hnone =>
      exact ⟨hinOrder, h.watched.tells hpop, h.debouncerOf, plan, hahead.congr rfl rfl rfl, hplan⟩
  · have hc : ∀ id, job ≠ .caller id := fun id he => hcaller ⟨id, he⟩
    have hsubsides := subsides_perform h.inOrder.tended h.watched.asked hj hc
    refine ⟨hinOrder, h.watched.perform h.inOrder.tended hj hc hh,
      hsubsides.debouncerOf.trans h.debouncerOf, plan, hahead.subsides hsubsides, ?_⟩
    rw [perform_callers _ hc]
    exact hplan

/-- What happens beside lookups and calls. -/
theorem Disposing.aside (h : Disposing told start w) (hw : w'.InOrder) (ht : Tells told w w')
    (hs : Subsides w w') (hc : w'.callers = w.callers) : Disposing told start w' := by
  obtain ⟨plan, hahead, hplan⟩ := h.ahead
  exact ⟨hw, h.watched.tells ht, hs.debouncerOf.trans h.debouncerOf, plan, hahead.subsides hs,
    hc ▸ hplan⟩

theorem callCallers_frame (w : Workspace ℚ) : ∃ agenda, w.callCallers = { w with agenda } := by
  refine callCallers_rec (C := fun w' => ∃ agenda, w' = { w with agenda }) ⟨w.agenda, rfl⟩ ?_
  rintro _ id ⟨agenda, rfl⟩
  exact ⟨agenda.soon (.caller id), rfl⟩

theorem work_cons {jobs : List Job} (hj : w.agenda.jobs = job :: jobs) :
    w.work = ((w.withJobs jobs).perform job).callCallers := by
  rw [Workspace.work, Agenda.nextJob?, hj]
  rfl

theorem Disposing.work (h : Disposing told start w)
    (hh : ∀ a outcome, HandsOver w w.work a outcome → told a outcome) :
    Disposing told start w.work := by
  have hinOrder := h.inOrder.work
  cases hj : w.agenda.jobs with
  | nil =>
    rw [Workspace.work, Agenda.nextJob?, hj]
    exact h
  | cons job jobs =>
    rw [work_cons hj] at hinOrder hh ⊢
    obtain ⟨agenda, he⟩ := callCallers_frame ((w.withJobs jobs).perform job)
    have hsame : Subsides ((w.withJobs jobs).perform job)
        ((w.withJobs jobs).perform job).callCallers := by
      rw [he]
      exact subsides_same rfl rfl rfl rfl
    have hperform := h.perform hj fun a outcome ho => hh a outcome (handsOver_congr (by rw [he]) ho)
    exact hperform.aside hinOrder (tells_callCallers _) hsame (by rw [he])

theorem Disposing.ring (h : Disposing told start w) {time : ℚ} {alarm : Alarm}
    {alarms : List (ℚ × Alarm)} (ha : w.agenda.alarms = (time, alarm) :: alarms) :
    Disposing told start (Workspace.ring (w.withAlarms alarms) alarm) := by
  have hinOrder := h.inOrder.ring ha
  have hpop : Tells told w (w.withAlarms alarms) :=
    tells_same rfl (List.suffix_refl _) (List.Subset.refl _)
  have hsubsides {w' : Workspace ℚ} (hs : Subsides (w.withAlarms alarms) w') : Subsides w w' :=
    ⟨hs.debouncerOf, hs.texts, hs.board, hs.fetches⟩
  cases alarm with
  | timer key timer =>
    exact h.aside hinOrder (hpop.trans (tells_withDebouncer _ key (·.wake timer)))
      (hsubsides (subsides_withDebouncer _ key _))
      (withDebouncer_callers (w.withAlarms alarms) key _).1
  | limiter r =>
    obtain ⟨hcontinues, htells⟩ := h.inOrder.tended.desk.limiterWake r
    exact h.aside hinOrder
      (hpop.trans (tells_applyDesk _ fun a outcome hm => .inl (htells a outcome hm)))
      (hsubsides (subsides_applyDesk hcontinues.carriesOn))
      (beside_applyDesk (w.withAlarms alarms) _).callers
  | reply r reply =>
    exact h.aside hinOrder (hpop.trans (tells_soon _ trivial)) (subsides_same rfl rfl rfl rfl) rfl

theorem Disposing.move (h : Disposing told start w) {m : Move} (hm : m.IsPassive)
    (hh : ∀ a outcome, HandsOver w (w.move m) a outcome → told a outcome) :
    Disposing told start (w.move m) := by
  have hinOrder := h.inOrder.move hm.isStep
  cases m with
  | event e =>
    cases e with
    | work => exact h.work hh
    | _ => exact hm.elim
  | ring =>
    unfold Workspace.move
    dsimp only
    split
    · exact h
    · next alarm alarms ha => exact h.ring ha
  | wait time =>
    unfold Workspace.move at hinOrder ⊢
    dsimp only at hinOrder ⊢
    split at hinOrder
    · next hw =>
      rw [if_pos hw]
      exact h.aside hinOrder (tells_same rfl (List.suffix_refl _) (List.Subset.refl _))
        (subsides_same rfl rfl rfl rfl) rfl
    · next hw =>
      rw [if_neg hw]
      exact h

theorem Disposing.run {moves : List Move} (h : Disposing told start w)
    (hm : ∀ m ∈ moves, m.IsPassive)
    (hh : ∀ a outcome, HandedOver w moves a outcome → told a outcome) :
    Disposing told start (w.runMoves moves) := by
  induction moves generalizing w with
  | nil => exact h
  | cons m moves ih =>
    have hmove := h.move (hm m List.mem_cons_self) fun a outcome ho => hh a outcome (.now ho)
    exact ih hmove (fun m' hm' => hm m' (List.mem_cons_of_mem _ hm')) fun a outcome ho =>
      hh a outcome (.later ho)

end CommitMessage.Workspace
