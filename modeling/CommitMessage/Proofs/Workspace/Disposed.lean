import CommitMessage.Proofs.Workspace.Cached
import CommitMessage.Proofs.Workspace.Disposing

/-! A workspace that has been disposed of. When the one who disposes has returned and no job is
left, nothing is in progress any more, and nothing but the clock goes on. -/

namespace CommitMessage

namespace Limiter

variable {ι : Type} {l : Limiter ℚ ι} {c : ι}

/-- A client that has given up is about to leave. -/
theorem stirs_of_not_contender (hc : c ∈ l.clients) (hn : c ∉ l.contenders) : l.Stirs c := by
  rcases mem_clients.mp hc with ⟨holding, hheld⟩ | ⟨s, hline⟩
  · cases holding with
    | leaving => exact .inr (.inl hheld)
    | _ => exact absurd (mem_contenders.mpr (.inl ⟨_, hheld, rfl⟩)) hn
  · refine .inr (.inr ⟨s, hline, ?_⟩)
    rintro rfl
    exact hn (mem_contenders.mpr (.inr ⟨_, hline, rfl⟩))

theorem wake_of_no_clients [DecidableEq ι] (h : l.clients = []) (c : ι) : l.wake c = (l, []) := by
  unfold wake
  split
  · next holder hheld =>
    have hm : holder ∈ l.clients := mem_clients.mpr (.inl ⟨_, hheld⟩)
    rw [h] at hm
    cases hm
  · rfl

end Limiter

namespace Workspace

variable {told : Asker → Outcome → Prop} {w w' w'' start : Workspace ℚ}

/-- Nothing is in progress. Replies may still come, but nobody waits for them. -/
structure Still (w : Workspace ℚ) : Prop where
  fetches : w.desk.fetches = []
  clients : w.desk.limiter.clients = []
  groups : w.board.groups = []
  timers : ∀ key buffer d, w.debouncers.get? key = some (buffer, d) → d.timers = []
  calls : w.calls = []
  callers : w.callers = []
  jobs : ∀ job ∈ w.agenda.jobs, ∃ r reply, job = .reply r reply

/-! The end of a disposal -/

theorem Ahead.nil (h : Ahead w []) : (∀ g ∈ w.board.groups, g.calledOff = true) ∧
    ∀ f ∈ w.desk.fetches, f.calledOff = true ∨ f.IsOver := by
  generalize hplan : [] = plan at h
  cases h with
  | timers => simp at hplan
  | sheets => cases hplan
  | groups =>
    rename_i phases _ _ _
    cases phases <;> cases hplan
  | fetches _ _ _ hg hf =>
    subst hplan
    exact ⟨hg, fun f hm => (hf f.reference.kind).resolve_left nofun f hm rfl⟩

/-- When no job is left, no fetch that is called off is left. -/
theorem Tended.fetches_eq_nil {debts : Phase → Prop} (h : w.Tended [] debts)
    (hoff : ∀ f ∈ w.desk.fetches, f.calledOff = true ∨ f.IsOver) : w.desk.fetches = [] := by
  refine List.eq_nil_iff_forall_not_mem.mpr fun f hm => ?_
  have hf := h.desk.fetches f hm
  have hover : ¬ f.IsOver := fun ho => List.not_mem_nil (hf.isOver.mp ho)
  have hc := (hoff f hm).resolve_right hover
  cases hs : f.stage with
  | fresh => exact List.not_mem_nil (hf.fresh hs)
  | inLine =>
    have hstirs := Limiter.stirs_of_not_contender (hf.line.mp hs) (hf.leaves hs hc)
    exact List.not_mem_nil (h.desk.stirs _ hstirs)
  | fetching => exact List.not_mem_nil (hf.stops hs hc)
  | finished outcome => exact hover ⟨outcome, hs⟩

theorem Tended.groups_eq_nil {debts : Phase → Prop} (h : w.Tended [] debts)
    (hoff : ∀ g ∈ w.board.groups, g.calledOff = true) : w.board.groups = [] := by
  refine List.eq_nil_iff_forall_not_mem.mpr fun g hm => ?_
  have hends := h.board.ends g hm
  by_cases hs : g.stage = .waiting
  · have hwaits := hends.waits hs
    rw [hoff g hm] at hwaits
    cases hwaits
  · exact List.not_mem_nil (hends.turn hs)

/-- When no job is left, no call waits but for a fetch. -/
theorem Tended.calls_eq_nil {debts : Phase → Prop} (h : w.Tended [] debts)
    (hf : w.desk.fetches = []) : w.calls = [] := by
  have hnone (a : Asker) : ¬ w.WillHear [] a := by
    rintro (⟨f, hm, -⟩ | ⟨outcome, hm⟩)
    · rw [hf] at hm
      cases hm
    · cases hm
  refine List.eq_nil_iff_forall_not_mem.mpr fun ⟨id, c⟩ hm => ?_
  have hc := h.calls id c (Register.get?_of_mem h.distinct hm)
  by_cases hturn : c.calledOff = true ∨ c.stage ≠ .waiting
  · exact List.not_mem_nil (hc.turn hturn)
  · obtain ⟨hoff, hs⟩ : c.calledOff = false ∧ c.stage = .waiting := by simpa using hturn
    cases hw : c.wanted with
    | one r => exact hnone _ (hc.one hoff hs r hw)
    | profiles names =>
      obtain ⟨hopen, hplaces⟩ := hc.profiles hoff hs names hw
      obtain ⟨e, he, hnoAnswer⟩ := List.any_eq_true.mp hopen
      obtain ⟨place, hplace⟩ := List.getElem?_of_mem he
      rcases hplaces place e hplace (Option.isNone_iff_eq_none.mp hnoAnswer) with hm | ha
      · exact List.not_mem_nil hm
      · exact hnone _ ha

/-- Timers that nobody will call off any more, and that have no turn coming, are over. -/
theorem OnTime.timers_eq_nil (h : w.OnTime) (ho : w.debouncerOf = []) (hc : w.callers = [])
    (hj : w.agenda.jobs = []) {key : Nat} {buffer : Text} {d : Debouncer ℚ}
    (hget : w.debouncers.get? key = some (buffer, d)) : d.timers = [] := by
  have hs := h.timed.sound hget
  have hcurrent : d.current = none := by
    by_contra hne
    rcases h.timed.retired hget hne with hof | ⟨caller, plan, hplan, -⟩
    · rw [ho] at hof
      cases hof
    · rw [hc] at hplan
      cases hplan
  refine List.eq_nil_iff_forall_not_mem.mpr fun t hm => ?_
  have hoff := hs.calledOff_of_ne hm (by rw [hcurrent]; nofun)
  have hturn : w.HasTurn key t.id := (hs.attended t hm).turn (.inl hoff)
  rw [HasTurn, hj] at hturn
  cases hturn

theorem Disposing.still (h : Disposing told start w) (hc : w.callers = [])
    (hj : w.agenda.jobs = []) : w.Still := by
  obtain ⟨plan, hahead, ⟨-, rfl⟩ | ⟨caller, he⟩⟩ := h.ahead
  · obtain ⟨hg, hoff⟩ := hahead.nil
    have htended : w.Tended [] w.Owes := hj ▸ h.inOrder.tended
    have hf := htended.fetches_eq_nil hoff
    refine ⟨hf, List.eq_nil_iff_forall_not_mem.mpr fun c hm => ?_, htended.groups_eq_nil hg,
      fun key buffer d hget => h.inOrder.timers_eq_nil h.debouncerOf hc hj hget,
      htended.calls_eq_nil hf, hc, by rw [hj]; nofun⟩
    obtain ⟨f, hm, -⟩ := htended.desk.client c hm
    rw [hf] at hm
    cases hm
  · rw [hc] at he
    cases he

/-! Afterwards -/

/-- Nothing has changed but the clock, its alarms and jobs, and what is kept of timers. -/
def Idles (w w' : Workspace ℚ) : Prop := ∃ agenda debouncers, w' = { w with agenda, debouncers }

theorem Idles.refl (w : Workspace ℚ) : Idles w w := ⟨w.agenda, w.debouncers, rfl⟩

theorem Idles.trans (h : Idles w w') (h' : Idles w' w'') : Idles w w'' := by
  obtain ⟨agenda, debouncers, rfl⟩ := h
  obtain ⟨agenda', debouncers', rfl⟩ := h'
  exact ⟨agenda', debouncers', rfl⟩

theorem Still.agenda (h : w.Still) {agenda : Agenda ℚ Alarm Job}
    (hj : ∀ job ∈ agenda.jobs, ∃ r reply, job = .reply r reply) :
    Still { w with agenda } :=
  ⟨h.fetches, h.clients, h.groups, h.timers, h.calls, h.callers, hj⟩

/-- A reply that nobody waits for is not read. -/
theorem Still.reply (h : w.Still) (r : Reference) (reply : Reply) :
    w.perform (.reply r reply) = w := by
  have hnone : w.desk.fetch? r = none := by simp [Desk.fetch?, h.fetches]
  have hreply : w.desk.reply w.agenda.now r reply = (w.desk, []) := by
    rw [Desk.reply, hnone]
  rw [Workspace.perform, hreply]
  rfl

theorem Still.work (h : w.Still) : Idles w w.work ∧ w.work.Still := by
  cases hj : w.agenda.jobs with
  | nil =>
    have he : w.work = w := by
      rw [Workspace.work, Agenda.nextJob?, hj]
    rw [he]
    exact ⟨.refl w, h⟩
  | cons job jobs =>
    obtain ⟨r, reply, rfl⟩ := h.jobs job (hj ▸ List.mem_cons_self)
    have hpop : (w.withJobs jobs).Still :=
      h.agenda fun job hm => h.jobs job (hj ▸ List.mem_cons_of_mem _ hm)
    have he : w.work = w.withJobs jobs := by
      rw [work_cons hj, hpop.reply, callCallers, hpop.callers]
      rfl
    rw [he]
    exact ⟨⟨(w.withJobs jobs).agenda, w.debouncers, rfl⟩, hpop⟩

theorem Still.ring (h : w.Still) (alarm : Alarm) :
    Idles w (w.ring alarm) ∧ (w.ring alarm).Still := by
  cases alarm with
  | timer key timer =>
    simp only [Workspace.ring, withDebouncer]
    split
    · next buffer d hget =>
      have hwake : d.wake timer = (d, []) := by
        simp [Debouncer.wake, Debouncer.find?, h.timers key buffer d hget]
      rw [hwake]
      refine ⟨⟨w.agenda, w.debouncers.set key (buffer, d), rfl⟩, h.fetches, h.clients, h.groups,
        fun key' buffer' d' hget' => ?_, h.calls, h.callers, h.jobs⟩
      replace hget' := (Register.get?_set _ _ _ _).symm.trans hget'
      split at hget'
      · cases hget'
        exact h.timers key buffer d hget
      · exact h.timers key' buffer' d' hget'
    · exact ⟨.refl w, h⟩
  | limiter r =>
    have hwake : w.desk.limiterWake r = (w.desk, []) := by
      rw [Desk.limiterWake, Limiter.wake_of_no_clients h.clients]
      rfl
    rw [Workspace.ring, hwake]
    exact ⟨.refl w, h⟩
  | reply r reply =>
    refine ⟨⟨w.agenda.soon (.reply r reply), w.debouncers, rfl⟩, h.agenda fun job hm => ?_⟩
    rcases List.mem_append.mp hm with hm | hm
    · exact h.jobs job hm
    · exact ⟨r, reply, List.mem_singleton.mp hm⟩

theorem Still.move (h : w.Still) {m : Move} (hm : m.IsPassive) :
    Idles w (w.move m) ∧ (w.move m).Still := by
  cases m with
  | event e =>
    cases e with
    | work => exact h.work
    | _ => exact hm.elim
  | ring =>
    unfold Workspace.move
    dsimp only
    split
    · exact ⟨.refl w, h⟩
    · next alarm alarms _ =>
      have hstill : (w.withAlarms alarms).Still := h.agenda h.jobs
      have hidles : Idles w (w.withAlarms alarms) := ⟨_, w.debouncers, rfl⟩
      exact ⟨hidles.trans (hstill.ring alarm.2).1, (hstill.ring alarm.2).2⟩
  | wait time =>
    unfold Workspace.move
    dsimp only
    split
    · exact ⟨⟨_, w.debouncers, rfl⟩, h.agenda h.jobs⟩
    · exact ⟨.refl w, h⟩

theorem Still.run {moves : List Move} (h : w.Still) (hm : ∀ m ∈ moves, m.IsPassive) :
    Idles w (w.runMoves moves) ∧ (w.runMoves moves).Still := by
  induction moves generalizing w with
  | nil => exact ⟨.refl w, h⟩
  | cons m moves ih =>
    obtain ⟨hidles, hstill⟩ := h.move (hm m List.mem_cons_self)
    obtain ⟨hrest, hstill'⟩ := ih hstill fun m' hm' => hm m' (List.mem_cons_of_mem _ hm')
    exact ⟨hidles.trans hrest, hstill'⟩

/-- Every page takes a second. -/
def slowPlan : Plan ℚ :=
  { emptyPlan with pause := 1, network := fun _ => { reply := .page ⟨404, []⟩, delay := some 1 } }

end Workspace

end CommitMessage
