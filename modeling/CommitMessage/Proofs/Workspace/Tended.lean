import CommitMessage.Proofs.Lookup.CallingOff
import CommitMessage.Proofs.Workspace.Beside
import CommitMessage.Proofs.Workspace.Going
import CommitMessage.Proofs.Workspace.Leaving

/-! A workspace in which nothing that has been called off is left alone. Whatever is called off has
its end among the jobs to come, or among what a caller still has to do, and so has every lookup
that someone waits for. -/

namespace CommitMessage.Workspace

variable {w w' w'' : Workspace ℚ} {jobs jobs' spent : List Job} {debts debts' : Phase → Prop}
  {change : Desk ℚ Asker × List (Desk.Signal ℚ Asker)}

/-- The job that a turn at the desk is. -/
def turnJob : Desk.Turn → Job
  | .fetch r => .fetch r
  | .limiter r => .limiter r

/-- One who asked and will be told: an answer is among the jobs, or a fetch is to end. -/
def WillHear (jobs : List Job) (w : Workspace ℚ) (a : Asker) : Prop :=
  w.desk.Waits a ∨ ∃ outcome, .answer a outcome ∈ jobs

/-- One who asks in the course of a call. -/
def Asker.IsOf (id : Nat) : Asker → Prop
  | .slot _ _ => False
  | .call id' | .member id' _ => id' = id

/-- A call that does not wait has a turn coming. One that waits is going to be told what it is
still without, or is yet to ask for it. -/
structure Call.Attended (jobs : List Job) (awaits : Asker → Prop) (id : Nat) (c : Call) :
    Prop where
  fresh : c.stage = .fresh → ∀ names, c.wanted = .profiles names → ∀ e ∈ names, e.2 = none
  turn : c.calledOff = true ∨ c.stage ≠ .waiting → .call id ∈ jobs
  one : c.calledOff = false → c.stage = .waiting → ∀ r, c.wanted = .one r → awaits (.call id)
  profiles : c.calledOff = false → c.stage = .waiting → ∀ names, c.wanted = .profiles names →
    isOpen names = true ∧ ∀ place e, names[place]? = some e → e.2 = none →
      .member id place ∈ jobs ∨ awaits (.member id place)

/-- A group that goes on is on the sheet that it was made for, or to be called off with it. -/
def Housed (debts : Phase → Prop) (b : Board) : Prop :=
  ∀ g ∈ b.groups, g.calledOff = true ∨
    (∃ buffer s, b.sheets.get? buffer = some s ∧ s.serial = g.sheet) ∨
    debts (.callOffSheet g.sheet)

/-- Everything is tended when these jobs are to be done, and these phases are still ahead of some
caller. -/
structure Tended (jobs : List Job) (debts : Phase → Prop) (w : Workspace ℚ) : Prop where
  desk : w.desk.Tended (fun t => turnJob t ∈ jobs) (forgetting jobs)
  board : w.board.Ending fun id => .group id ∈ jobs
  housed : Housed debts w.board
  distinct : w.calls.keys.Nodup
  calls : ∀ id c, w.calls.get? id = some c → c.Attended jobs (w.WillHear jobs) id

/-- The jobs spent are done with, and those that were added see to what they had to. -/
def Keeps (spent : List Job) (w w' : Workspace ℚ) : Prop :=
  ∃ more, w'.agenda.jobs = w.agenda.jobs ++ more ∧ ∀ {jobs : List Job} {debts : Phase → Prop},
    w.Tended (spent ++ jobs) debts → w'.Tended (jobs ++ more) debts

/-- A job of the desk, of which the board and the calls see nothing. -/
def Job.IsDesk : Job → Prop
  | .fetch _ | .limiter _ | .reply _ _ | .forget _ => True
  | _ => False

theorem Call.Attended.mono {awaits awaits' : Asker → Prop} {id : Nat} {c : Call}
    (h : c.Attended jobs awaits id) (hturn : .call id ∈ jobs → .call id ∈ jobs')
    (hmember : ∀ place, .member id place ∈ jobs →
      .member id place ∈ jobs' ∨ awaits' (.member id place))
    (hawaits : ∀ a : Asker, a.IsOf id → awaits a → awaits' a) : c.Attended jobs' awaits' id := by
  refine ⟨h.fresh, fun hc => hturn (h.turn hc), fun hc hs r hr => hawaits _ rfl (h.one hc hs r hr),
    fun hc hs names hn => ?_⟩
  obtain ⟨hopen, hplaces⟩ := h.profiles hc hs names hn
  refine ⟨hopen, fun place e he hnone => ?_⟩
  rcases hplaces place e he hnone with hm | ha
  · exact hmember place hm
  · exact .inr (hawaits _ rfl ha)

theorem WillHear.mono {a : Asker} (h : w.WillHear jobs a)
    (hj : ∀ outcome, .answer a outcome ∈ jobs → .answer a outcome ∈ jobs')
    (hw : w.desk.Waits a → w'.WillHear jobs' a) : w'.WillHear jobs' a := by
  rcases h with h | ⟨outcome, hm⟩
  · exact hw h
  · exact .inr ⟨outcome, hj outcome hm⟩

/-- The desk may change, and jobs of the desk be spent. -/
theorem Tended.update (h : w.Tended jobs debts)
    (hdesk : w'.desk.Tended (fun t => turnJob t ∈ jobs') (forgetting jobs'))
    (hboard : w'.board = w.board) (hcalls : w'.calls = w.calls)
    (hjobs : ∀ job ∈ jobs, job.IsDesk ∨ job ∈ jobs')
    (hwaits : ∀ id, ∀ a : Asker, a.IsOf id → w.desk.Waits a → w'.WillHear jobs' a) :
    w'.Tended jobs' debts := by
  have hkept {job : Job} (hj : ¬ job.IsDesk) (hm : job ∈ jobs) : job ∈ jobs' :=
    (hjobs job hm).resolve_left hj
  refine ⟨hdesk, ?_, hboard ▸ h.housed, hcalls ▸ h.distinct, fun id c hc => ?_⟩
  · rw [hboard]
    exact h.board.mono fun id => hkept (show ¬ Job.IsDesk (.group id) from not_false)
  · rw [hcalls] at hc
    exact (h.calls id c hc).mono (hkept not_false)
      (fun place hm => .inl (hkept (show ¬ Job.IsDesk (.member id place) from not_false) hm))
      fun a ha hw => hw.mono (fun _ => hkept not_false) (hwaits id a ha)

theorem Keeps.refl (w : Workspace ℚ) : Keeps [] w w :=
  ⟨[], (List.append_nil _).symm, fun h => by rwa [List.append_nil]⟩

theorem Keeps.trans (h : Keeps spent w w') (h' : Keeps [] w' w'') : Keeps spent w w'' := by
  obtain ⟨more, hjobs, hkeeps⟩ := h
  obtain ⟨more', hjobs', hkeeps'⟩ := h'
  refine ⟨more ++ more', by rw [hjobs', hjobs, List.append_assoc], fun ht => ?_⟩
  rw [← List.append_assoc]
  exact hkeeps' (hkeeps ht)

theorem keeps_same (hd : w'.desk = w.desk) (hb : w'.board = w.board) (hc : w'.calls = w.calls)
    (hj : w'.agenda.jobs = w.agenda.jobs) : Keeps [] w w' := by
  refine ⟨[], by rw [hj, List.append_nil], fun {jobs debts} ht => ?_⟩
  rw [List.append_nil]
  exact ht.update (hd ▸ ht.desk) hb hc (fun job hm => .inr hm)
    fun id a _ hw => .inl (hd ▸ hw)

theorem forgetting_append (jobs jobs' : List Job) :
    forgetting (jobs ++ jobs') = forgetting jobs ++ forgetting jobs' := List.filterMap_append

theorem keeps_soon (w : Workspace ℚ) {job : Job} (hj : ∀ r, job ≠ .forget r) :
    Keeps [] w (w.soon job) := by
  refine ⟨[job], rfl, fun {jobs debts} ht => ?_⟩
  have hforgets : forgetting [job] = [] := by
    refine List.eq_nil_iff_forall_not_mem.mpr fun r hr => ?_
    exact hj r (List.mem_singleton.mp (mem_forgetting.mp hr)).symm
  refine ht.update ?_ rfl rfl (fun j hm => .inr (List.mem_append_left _ hm))
    fun id a _ hw => .inl hw
  rw [forgetting_append, hforgets, List.append_nil]
  exact ht.desk.mono fun t => List.mem_append_left _

theorem keeps_foldl {α : Type} (step : Workspace ℚ → α → Workspace ℚ)
    (hs : ∀ w a, Keeps [] w (step w a)) (l : List α) (w : Workspace ℚ) :
    Keeps [] w (l.foldl step w) :=
  List.foldlRecOn (motive := Keeps [] w) l step (.refl w) fun w' h a _ => h.trans (hs w' a)

/-! The desk -/

/-- What the signals of a desk do to all else. -/
theorem applyDesk_frame (w : Workspace ℚ) (change : Desk ℚ Asker × List (Desk.Signal ℚ Asker)) :
    ∃ agenda record, w.applyDesk change = { w with desk := change.1, agenda, record } ∧
      agenda.now = w.agenda.now ∧
      agenda.jobs = w.agenda.jobs ++ change.2.filterMap deskJob? ∧ w.record <:+ record := by
  obtain ⟨d, signals⟩ := change
  rw [applyDesk]
  generalize hw₁ : ({ w with desk := d } : Workspace ℚ) = w₁
  have hone (s : Desk.Signal ℚ Asker) (w : Workspace ℚ) : ∃ agenda record,
      w.deskSignal s = { w with agenda, record } ∧ agenda.now = w.agenda.now ∧
        agenda.jobs = w.agenda.jobs ++ (deskJob? s).toList ∧ w.record <:+ record := by
    have hnote (e : Entry ℚ) : w.record <:+ e :: w.record := List.suffix_cons e _
    have hsame := List.suffix_refl w.record
    cases s with
    | request r url =>
      simp only [deskSignal, Workspace.request]
      split
      · exact ⟨_, _, rfl, rfl, (List.append_nil _).symm, hnote _⟩
      · exact ⟨_, _, rfl, rfl, (List.append_nil _).symm, hnote _⟩
    | fetchTurn r => exact ⟨_, _, rfl, rfl, rfl, hsame⟩
    | limiterTurn r => exact ⟨_, _, rfl, rfl, rfl, hsame⟩
    | deliver a o => exact ⟨_, _, rfl, rfl, rfl, hsame⟩
    | forget r => exact ⟨_, _, rfl, rfl, rfl, hsame⟩
    | sleep r delay => exact ⟨_, _, rfl, rfl, (List.append_nil _).symm, hsame⟩
    | withdraw r => exact ⟨_, _, rfl, rfl, (List.append_nil _).symm, hsame⟩
    | note e => exact ⟨_, _, rfl, rfl, (List.append_nil _).symm, hnote _⟩
  have hall : ∃ agenda record, signals.foldl deskSignal w₁ = { w₁ with agenda, record } ∧
      agenda.now = w₁.agenda.now ∧
        agenda.jobs = w₁.agenda.jobs ++ signals.filterMap deskJob? ∧ w₁.record <:+ record := by
    clear hw₁
    induction signals generalizing w₁ with
    | nil => exact ⟨_, _, rfl, rfl, (List.append_nil _).symm, List.suffix_refl _⟩
    | cons s signals ih =>
      obtain ⟨agenda, record, he, hnow, hjobs, hrecord⟩ := hone s w₁
      obtain ⟨agenda', record', he', hnow', hjobs', hrecord'⟩ := ih (w₁.deskSignal s)
      refine ⟨agenda', record', ?_, ?_, ?_, ?_⟩
      · rw [List.foldl_cons, he', he]
      · rw [hnow', he, hnow]
      · rw [hjobs', he, hjobs, List.append_assoc]
        cases hs : deskJob? s <;> simp [hs]
      · rw [he] at hrecord'
        exact hrecord.trans hrecord'
  obtain ⟨agenda, record, he, hnow, hjobs, hrecord⟩ := hall
  subst hw₁
  exact ⟨agenda, record, he, hnow, hjobs, hrecord⟩

theorem turnJob_mem {signals : List (Desk.Signal ℚ Asker)} {t : Desk.Turn}
    (ht : t ∈ Desk.turnsIn signals) : turnJob t ∈ signals.filterMap deskJob? := by
  obtain ⟨s, hs, he⟩ := List.mem_filterMap.mp ht
  refine List.mem_filterMap.mpr ⟨s, hs, ?_⟩
  cases s <;> cases he <;> rfl

theorem keeps_applyDesk (hspent : ∀ job ∈ spent, job.IsDesk)
    (hc : ∀ {jobs : List Job} {debts : Phase → Prop}, w.Tended (spent ++ jobs) debts →
      w.desk.Continues (fun t => turnJob t ∈ jobs) (forgetting jobs) change) :
    Keeps spent w (w.applyDesk change) := by
  obtain ⟨agenda, record, he, -, hjobs, -⟩ := applyDesk_frame w change
  refine ⟨change.2.filterMap deskJob?, by rw [he]; exact hjobs, fun {jobs debts} ht => ?_⟩
  obtain ⟨htended, hcarries⟩ := hc ht
  rw [he]
  refine ht.update ?_ rfl rfl (fun job hm => ?_) fun id a _ ⟨f, hf, ha⟩ => ?_
  · rw [forgetting_append, forgetting_deskJobs]
    exact htended.mono fun t hd => List.mem_append.mpr (hd.imp_right turnJob_mem)
  · rcases List.mem_append.mp hm with hm | hm
    · exact .inl (hspent job hm)
    · exact .inr (List.mem_append_left _ hm)
  · rcases hcarries.kept f hf a ha with hw | ⟨outcome, hm⟩
    · exact .inl hw
    · exact .inr ⟨outcome, List.mem_append_right _ (List.mem_filterMap.mpr ⟨_, hm, rfl⟩)⟩

theorem applyDesk_append (w : Workspace ℚ) (change : Desk ℚ Asker × List (Desk.Signal ℚ Asker))
    (change' : Desk ℚ Asker × List (Desk.Signal ℚ Asker)) :
    (w.applyDesk change).applyDesk change' = w.applyDesk (change'.1, change.2 ++ change'.2) := by
  have hone (w : Workspace ℚ) (d : Desk ℚ Asker) (s : Desk.Signal ℚ Asker) :
      ({ w with desk := d } : Workspace ℚ).deskSignal s = { w.deskSignal s with desk := d } := by
    cases s with
    | request r url =>
      simp only [deskSignal, Workspace.request, Workspace.note]
      split <;> rfl
    | _ => rfl
  have hall (signals : List (Desk.Signal ℚ Asker)) (w : Workspace ℚ) (d : Desk ℚ Asker) :
      signals.foldl deskSignal { w with desk := d } =
        { signals.foldl deskSignal w with desk := d } := by
    induction signals generalizing w with
    | nil => rfl
    | cons s signals ih => rw [List.foldl_cons, hone, ih, List.foldl_cons]
  rw [applyDesk, applyDesk, applyDesk, List.foldl_append, hall change.2 w change.1,
    hall change.2 w change'.1]

/-- A reply that comes at once is read in the same turn. -/
theorem applyTurn_cases (w : Workspace ℚ)
    (change : Desk ℚ Asker × List (Desk.Signal ℚ Asker)) :
    w.applyTurn change = w.applyDesk change ∨ ∃ r reply, w.applyTurn change =
      w.applyDesk ((change.1.reply w.agenda.now r reply).1,
        change.2 ++ (change.1.reply w.agenda.now r reply).2) := by
  obtain ⟨agenda, record, he, hnow, -⟩ := applyDesk_frame w change
  have hdesk : (w.applyDesk change).desk = change.1 := by rw [he]
  have htime : (w.applyDesk change).agenda.now = w.agenda.now := by rw [he]; exact hnow
  rw [applyTurn]
  split
  · next r reply _ =>
    refine .inr ⟨r, reply, ?_⟩
    rw [hdesk, htime, applyDesk_append]
  · exact .inl rfl

theorem keeps_applyTurn (hspent : ∀ job ∈ spent, job.IsDesk)
    (hc : ∀ {jobs : List Job} {debts : Phase → Prop}, w.Tended (spent ++ jobs) debts →
      w.desk.Continues (fun t => turnJob t ∈ jobs) (forgetting jobs) change ∧
        Desk.TellsStopped change) :
    Keeps spent w (w.applyTurn change) := by
  rcases applyTurn_cases w change with he | ⟨r, reply, he⟩
  · rw [he]
    exact keeps_applyDesk hspent fun ht => (hc ht).1
  · rw [he]
    refine keeps_applyDesk hspent fun ht => ?_
    obtain ⟨hcontinues, htells⟩ := hc ht
    exact hcontinues.trans (hcontinues.tended.reply w.agenda.now r reply) htells

theorem Tended.fetchTurn {r : Reference} (h : w.Tended (.fetch r :: jobs) debts) (now : ℚ) :
    w.desk.Continues (fun t => turnJob t ∈ jobs) (forgetting jobs) (w.desk.fetchTurn now r) ∧
      Desk.TellsStopped (w.desk.fetchTurn now r) := by
  refine Desk.Tended.fetchTurn (h.desk.mono fun t hd => ?_) now
  rcases List.mem_cons.mp hd with he | hd
  · cases t <;> cases he
    exact .inr rfl
  · exact .inl hd

theorem Tended.limiterTurn {r : Reference} (h : w.Tended (.limiter r :: jobs) debts) (now : ℚ) :
    w.desk.Continues (fun t => turnJob t ∈ jobs) (forgetting jobs) (w.desk.limiterTurn now r) ∧
      Desk.TellsStopped (w.desk.limiterTurn now r) := by
  refine Desk.Tended.limiterTurn (h.desk.mono fun t hd => ?_) now
  rcases List.mem_cons.mp hd with he | hd
  · cases t <;> cases he
    exact .inr rfl
  · exact .inl hd

theorem Tended.reply {r : Reference} {reply : Reply}
    (h : w.Tended (.reply r reply :: jobs) debts) (now : ℚ) :
    w.desk.Continues (fun t => turnJob t ∈ jobs) (forgetting jobs) (w.desk.reply now r reply) := by
  refine Desk.Tended.reply (h.desk.mono fun t hd => ?_) now r reply
  rcases List.mem_cons.mp hd with he | hd
  · cases t <;> cases he
  · exact hd

theorem Tended.forget {r : Reference} (h : w.Tended (.forget r :: jobs) debts) :
    w.desk.Continues (fun t => turnJob t ∈ jobs) (forgetting jobs) (w.desk.forget r) := by
  refine Desk.Tended.forget (h.desk.mono fun t hd => ?_)
  rcases List.mem_cons.mp hd with he | hd
  · cases t <;> cases he
  · exact hd

theorem isDesk_of_mem {job : Job} (hj : job.IsDesk) : ∀ job' ∈ [job], job'.IsDesk :=
  fun _ hm => List.mem_singleton.mp hm ▸ hj

theorem keeps_fetchTurn (w : Workspace ℚ) (r : Reference) :
    Keeps [.fetch r] w (w.applyTurn (w.desk.fetchTurn w.agenda.now r)) :=
  keeps_applyTurn (isDesk_of_mem trivial) fun ht => ht.fetchTurn _

theorem keeps_limiterTurn (w : Workspace ℚ) (r : Reference) :
    Keeps [.limiter r] w (w.applyTurn (w.desk.limiterTurn w.agenda.now r)) :=
  keeps_applyTurn (isDesk_of_mem trivial) fun ht => ht.limiterTurn _

theorem keeps_limiterWake (w : Workspace ℚ) (r : Reference) :
    Keeps [] w (w.applyDesk (w.desk.limiterWake r)) :=
  keeps_applyDesk (fun _ hm => nomatch hm) fun ht => (ht.desk.limiterWake r).1

theorem keeps_reply (w : Workspace ℚ) (r : Reference) (reply : Reply) :
    Keeps [.reply r reply] w (w.applyDesk (w.desk.reply w.agenda.now r reply)) :=
  keeps_applyDesk (isDesk_of_mem trivial) fun ht => ht.reply _

theorem keeps_forget (w : Workspace ℚ) (r : Reference) :
    Keeps [.forget r] w (w.applyDesk (w.desk.forget r)) :=
  keeps_applyDesk (isDesk_of_mem trivial) fun ht => ht.forget

/-- What a job of the desk comes to. -/
theorem Tended.carriesOn {job : Job} (h : w.Tended (job :: jobs) debts) (hj : job.IsDesk) :
    ∃ change, w.perform job = w.applyDesk change ∧ w.desk.CarriesOn change := by
  have hturn {change : Desk ℚ Asker × List (Desk.Signal ℚ Asker)}
      (hc : w.desk.Continues (fun t => turnJob t ∈ jobs) (forgetting jobs) change ∧
        Desk.TellsStopped change) :
      ∃ change', w.applyTurn change = w.applyDesk change' ∧ w.desk.CarriesOn change' := by
    obtain ⟨hcontinues, htells⟩ := hc
    rcases applyTurn_cases w change with he | ⟨r, reply, he⟩
    · exact ⟨_, he, hcontinues.carriesOn⟩
    · have hreply := hcontinues.tended.reply w.agenda.now r reply
      exact ⟨_, he, (hcontinues.trans hreply htells).carriesOn⟩
  cases job with
  | fetch r => exact hturn (h.fetchTurn w.agenda.now)
  | limiter r => exact hturn (h.limiterTurn w.agenda.now)
  | reply r reply => exact ⟨_, rfl, (h.reply w.agenda.now).carriesOn⟩
  | forget r => exact ⟨_, rfl, h.forget.carriesOn⟩
  | _ => exact hj.elim

/-- One who asks is told at once, or waits. -/
theorem keeps_ask (w : Workspace ℚ) (a : Asker) (pass : Option Text) (r : Reference) :
    Keeps [] w (w.ask a pass r).2 ∧ ∀ {jobs : List Job} {debts : Phase → Prop},
      w.Tended jobs debts → (w.ask a pass r).1 = none → (w.ask a pass r).2.desk.Waits a := by
  obtain ⟨agenda, record, he, -, hjobs, -⟩ :=
    applyDesk_frame w (w.desk.ask w.agenda.now a pass r).2
  have hask : (w.ask a pass r).2 = w.applyDesk (w.desk.ask w.agenda.now a pass r).2 := rfl
  have hsignals := w.desk.ask_signals w.agenda.now a pass r
  rw [hask, he]
  refine ⟨⟨_, hjobs, fun {jobs debts} ht => ?_⟩, fun ht hnone =>
    (ht.desk.ask w.agenda.now a pass r).2.1 hnone⟩
  obtain ⟨htended, -, hwaits⟩ := ht.desk.ask w.agenda.now a pass r
  have hforgets : Desk.forgetsIn (w.desk.ask w.agenda.now a pass r).2.2 = [] :=
    Desk.forgetsIn_eq_nil fun r' hm => by
      rcases hsignals _ hm with ⟨e, he⟩ | he <;> cases he
  refine ht.update ?_ rfl rfl (fun job hm => .inr (List.mem_append_left _ hm))
    fun id a' _ hw => .inl (hwaits a' hw)
  rw [forgetting_append, forgetting_deskJobs, hforgets, List.append_nil]
  exact htended.mono fun t hd => List.mem_append.mpr (hd.imp_right turnJob_mem)

end CommitMessage.Workspace
