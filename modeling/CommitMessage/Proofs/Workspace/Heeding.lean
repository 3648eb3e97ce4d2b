import CommitMessage.Proofs.Board.Lasting
import CommitMessage.Proofs.Workspace.Elsewhere
import CommitMessage.Proofs.Workspace.Jobs
import CommitMessage.Proofs.Workspace.Tending

/-! A workspace whose board is not overlooked. Jobs bring every group its turns, and those who
wait for an outcome are told one, for as long as their group is not called off. A slot asks for
what its mention says. -/

namespace CommitMessage

namespace Desk.Traffic

variable {κ : Type} {gone : κ → Prop} {t t' : Traffic κ} {hs : List (Happening κ)} {c : κ}

/-- One who waits for a fetch, or is to be told an outcome. -/
def Hears (t : Traffic κ) (c : κ) : Prop :=
  (∃ f ∈ t.fetches, c ∈ f.callers) ∨ ∃ outcome, (c, outcome) ∈ t.answers

theorem Step.hears (h : Step gone t hs t') (ht : t.Sound) (hc : t.Hears c) :
    gone c ∨ t'.Hears c ∨ ∃ outcome, .told c outcome ∈ hs := by
  rcases hc with ⟨f, hf, hc⟩ | ⟨outcome, hm⟩
  · have ho : ¬ f.IsOver := fun ho => by
      rw [ht.idle f hf ho] at hc
      cases hc
    rcases h.follows ht hf ho hc with hgone | ⟨-, f', hf', -, -, hc'⟩ |
      ⟨before, reply, time, after, rfl, -, hm⟩
    · exact .inl hgone
    · exact .inr (.inl (.inl ⟨f', hf', hc'⟩))
    · rcases hm with hm | hm
      · exact .inr (.inl (.inr ⟨_, hm⟩))
      · exact .inr (.inr ⟨_, List.mem_append_right _ (List.mem_cons_of_mem _ hm)⟩)
  · rcases h.answers hm with hm | hm
    · exact .inr (.inl (.inr ⟨outcome, hm⟩))
    · exact .inr (.inr ⟨outcome, hm⟩)

theorem Step.hears_asked (h : Step gone t hs t') {r : Reference} {how : Reception}
    (hm : .asked c r how ∈ hs) (hw : ∀ outcome, how ≠ .given outcome) : t'.Hears c := by
  cases h with
  | give h =>
    cases List.mem_singleton.mp hm
    exact absurd rfl (hw _)
  | join hf ho hc =>
    cases List.mem_singleton.mp hm
    exact .inl ⟨_, List.mem_append_right _ List.mem_cons_self,
      List.mem_append_right _ List.mem_cons_self⟩
  | make hv hr hc =>
    cases List.mem_singleton.mp hm
    exact .inl ⟨_, List.mem_append_right _ List.mem_cons_self, List.mem_cons_self⟩
  | _ => simp at hm

/-- Whoever waited or has begun to wait goes on waiting, unless it is told or gone. -/
theorem Steps.hears (h : Steps gone t hs t') (ht : t.Sound)
    (hc : t.Hears c ∨ ∃ r how, (∀ outcome, how ≠ .given outcome) ∧ .asked c r how ∈ hs) :
    gone c ∨ t'.Hears c ∨ ∃ outcome, .told c outcome ∈ hs := by
  induction h with
  | refl =>
    rcases hc with hc | ⟨r, how, -, hm⟩
    · exact .inr (.inl hc)
    · cases hm
  | @tail t' t'' hs hs' hsteps hstep ih =>
    have hlast (hc : t'.Hears c) :
        gone c ∨ t''.Hears c ∨ ∃ outcome, .told c outcome ∈ hs ++ hs' := by
      refine (hstep.hears (hsteps.sound ht) hc).imp_right (Or.imp_right ?_)
      rintro ⟨outcome, hm⟩
      exact ⟨outcome, List.mem_append_right _ hm⟩
    have hfirst
        (hc : t.Hears c ∨ ∃ r how, (∀ outcome, how ≠ .given outcome) ∧ .asked c r how ∈ hs) :
        gone c ∨ t''.Hears c ∨ ∃ outcome, .told c outcome ∈ hs ++ hs' := by
      rcases ih hc with hgone | hc | ⟨outcome, hm⟩
      · exact .inl hgone
      · exact hlast hc
      · exact .inr (.inr ⟨outcome, List.mem_append_left _ hm⟩)
    rcases hc with hc | ⟨r, how, hw, hm⟩
    · exact hfirst (.inl hc)
    · rcases List.mem_append.mp hm with hm | hm
      · exact hfirst (.inr ⟨r, how, hw, hm⟩)
      · exact .inr (.inl (hstep.hears_asked hm hw))

end Desk.Traffic

namespace Workspace

open Desk (Happening)
open Board (Lasting)

variable {w w' w'' : Workspace ℚ} {answers : Nat → Nat → Prop} {P : Board → Prop}
  {jobs jobs' : List Job} {fits : Reference → Outcome → Prop} {debts debts' : Phase → Prop}

/-- What is to come for the board: its jobs, and answers for these slots. -/
def dueWith (answers : Nat → Nat → Prop) (jobs : List Job) : Board.Wake → Prop
  | .group id => .group id ∈ jobs
  | .slot id slot => .slot id slot ∈ jobs
  | .answer id slot => answers id slot

/-- Nothing on the board is overlooked if these slots are told their answers, and the groups that
go on have the property. -/
structure Heeds (answers : Nat → Nat → Prop) (P : Board → Prop) (w : Workspace ℚ) : Prop where
  heeded : w.board.Heeded (dueWith answers w.agenda.jobs)
  lasting : P w.board.kept

theorem dueWith_mono (hj : jobs ⊆ jobs') {e : Board.Wake} (h : dueWith answers jobs e) :
    dueWith answers jobs' e := by
  cases e with
  | group id => exact hj h
  | slot id slot => exact hj h
  | answer id slot => exact h

theorem Heeds.aside (h : w.Heeds answers P) (hb : w'.board = w.board)
    (hj : w.agenda.jobs ⊆ w'.agenda.jobs) : w'.Heeds answers P := by
  refine ⟨?_, hb ▸ h.lasting⟩
  rw [hb]
  exact h.heeded.mono fun _ _ _ _ => dueWith_mono hj

theorem Heeds.elsewhere (h : w.Heeds answers P) (he : Elsewhere w w') : w'.Heeds answers P :=
  h.aside he.board he.jobs

/-! The board -/

/-- A change of the board in which no slot asks. -/
theorem heeds_applyBoard {change : Board × List Board.Signal}
    (hb : change.1.Heeded fun e => dueWith answers w.agenda.jobs e ∨ e ∈ Board.wakes change.2)
    (hl : P change.1.kept) (hn : ∀ id slot pass r, .ask id slot pass r ∉ change.2) :
    (w.applyBoard change).Heeds answers P := by
  obtain ⟨askers, agenda, record, -, he, -, hjobs, -⟩ := applyBoard_frame w change
  rw [he]
  refine ⟨hb.mono fun g _ e _ hd => ?_, hl⟩
  rcases hd with hd | hd
  · exact dueWith_mono (by rw [hjobs]; exact List.subset_append_left _ _) hd
  · obtain ⟨x, hx, hw⟩ := List.mem_filterMap.mp hd
    have hjob {job : Job} (hj : boardJob? x = some job) : job ∈ agenda.jobs := by
      rw [hjobs]
      exact List.mem_append_right _ (List.mem_filterMap.mpr ⟨x, hx, hj⟩)
    cases x with
    | groupTurn id =>
      cases hw
      exact hjob rfl
    | slotTurn id slot =>
      cases hw
      exact hjob rfl
    | ask id slot pass r => exact absurd hx (hn id slot pass r)
    | _ => cases hw

theorem not_ask_of_isQuiet {signals : List Board.Signal} (hq : ∀ x ∈ signals, x.IsQuiet) :
    ∀ id slot pass r, .ask id slot pass r ∉ signals := fun _ _ _ _ hm => hq _ hm

theorem Heeds.runPass (hP : Lasting fits P) (h : w.Heeds answers P) (buffer text : Text) :
    (w.runPass buffer text).2.Heeds answers P := by
  let noted : Workspace ℚ := { w with texts := w.texts.set buffer text }
  have hboard : (noted.applyBoard (w.board.startPass buffer
      ((Occurrence.ofLines text.messageLines).map Occurrence.mention)).2).Heeds answers P :=
    heeds_applyBoard (h.heeded.startPass buffer _)
      (h.heeded.startPass_lasting hP h.lasting buffer _)
      (not_ask_of_isQuiet (Board.isQuiet_startPass w.board buffer _))
  obtain ⟨w', h', he⟩ := runPass_rec (C := Heeds answers P) w buffer text hboard
    (fun _ _ h => h.aside rfl fun _ hj => hj) fun _ _ h => h.aside rfl fun _ hj => hj
  rw [he]
  exact h'.aside rfl fun _ hj => hj

theorem Heeds.runLatest (hP : Lasting fits P) (h : w.Heeds answers P) (buffer : Text) :
    (w.runLatest buffer).Heeds answers P := by
  unfold Workspace.runLatest
  split
  · exact h.runPass hP buffer _
  · exact h

theorem Heeds.withDebouncer (hP : Lasting fits P) (h : w.Heeds answers P) (id : Nat)
    (change : Debouncer ℚ → Debouncer ℚ × List (Debouncer.Signal ℚ)) :
    (w.withDebouncer id change).Heeds answers P := by
  have hone (buffer : Text) (w : Workspace ℚ) (s : Debouncer.Signal ℚ) (h : w.Heeds answers P) :
      (debouncerSignal id buffer w s).Heeds answers P := by
    cases s with
    | turn timer => exact h.aside rfl (List.subset_append_left _ _)
    | sleep timer delay => exact h.aside rfl fun _ hj => hj
    | run timer =>
      have hrun := h.runLatest hP buffer
      simp only [debouncerSignal]
      split
      · exact hrun.aside rfl fun _ hj => hj
      · exact hrun
    | ended timer => exact h
  unfold Workspace.withDebouncer
  split
  · next buffer d _ =>
    have hset : Heeds answers P
        { w with debouncers := w.debouncers.set id (buffer, (change d).1) } :=
      h.aside rfl fun _ hj => hj
    exact List.foldlRecOn (motive := Heeds answers P) (change d).2 (debouncerSignal id buffer) hset
      fun w' h' s _ => hone buffer w' s h'
  · exact h

/-! Callers -/

/-- Sheets that are yet to be called off belong to no buffer any more. -/
def Owing (P : Board → Prop) (debts : Phase → Prop) (b : Board) : Prop :=
  P b ∧ b.Dropped fun sheet => debts (.callOffSheet sheet)

theorem lasting_owing (hP : Lasting fits P) (debts : Phase → Prop) :
    Lasting fits (Owing P debts) := hP.and (Board.lasting_dropped _)

theorem Heeds.owing_mono (h : w.Heeds answers (Owing P debts))
    (hd : ∀ sheet, debts' (.callOffSheet sheet) → debts (.callOffSheet sheet)) :
    w.Heeds answers (Owing P debts') :=
  ⟨h.heeded, h.lasting.1, fun sheet hs => h.lasting.2 sheet (hd sheet hs)⟩

/-- Sheets are dropped, and then they are to be called off. -/
theorem Heeds.sheets (hP : Lasting fits P) (h : w.Heeds answers (Owing P debts))
    {sheets : Register Text Board.Sheet} (hs : Board.Fewer sheets w.board.sheets)
    (hd : ∀ sheet, debts' (.callOffSheet sheet) → debts (.callOffSheet sheet) ∨
      ∃ entry ∈ w.board.sheets, entry.2.serial = sheet ∧
        ∀ x s, sheets.get? x = some s → s.serial ≠ sheet) :
    Heeds answers (Owing P debts') { w with board := { w.board with sheets } } := by
  refine ⟨h.heeded.of_sheets hs, h.heeded.sheets_lasting hP h.lasting.1 hs, fun sheet hs' => ?_⟩
  rcases hd sheet hs' with hold | ⟨entry, hm, rfl, hne⟩
  · exact h.lasting.2.of_sheets hs sheet hold
  · exact ⟨h.heeded.placed.serial_lt entry hm, hne⟩

theorem Heeds.enter (hP : Lasting fits P) (caller : Nat) (phase : Phase)
    (h : w.Heeds answers (Owing P fun p => p = phase ∨ debts p)) :
    (w.enter caller phase).1.Heeds answers
      (Owing P fun p => p ∈ (w.enter caller phase).2 ∨ debts p) := by
  -- most phases bring no sheets to be called off
  have hdone {w' : Workspace ℚ} {phases : List Phase}
      (h' : w'.Heeds answers (Owing P fun p => p = phase ∨ debts p))
      (hp : ∀ sheet, .callOffSheet sheet ∉ phases) :
      w'.Heeds answers (Owing P fun p => p ∈ phases ∨ debts p) :=
    h'.owing_mono fun sheet hd => .inr (hd.resolve_left (hp sheet))
  cases phase with
  | callOffTimers id =>
    exact hdone (h.withDebouncer (lasting_owing hP _) id Debouncer.callOffAll) fun _ hm => by
      cases List.mem_singleton.mp hm
  | drop buffer =>
    simp only [Workspace.enter]
    split
    · next s hs =>
      have hfewer := Board.fewer_erase w.board.sheets buffer
      refine h.sheets hP hfewer fun sheet hd => ?_
      rcases hd with hd | hd
      · cases List.mem_singleton.mp hd
        refine .inr ⟨(buffer, s), Register.mem_of_get? hs, rfl, fun x s' hx he => ?_⟩
        have hxb := h.heeded.placed.distinct x buffer s' s (hfewer.get? x s' hx) hs he
        rw [hxb, Register.get?_erase, if_pos rfl] at hx
        cases hx
      · exact .inl (.inr hd)
    · exact hdone h (by simp)
  | dropAll =>
    refine h.sheets hP (Board.fewer_nil _) fun sheet hd => ?_
    rcases hd with hd | hd
    · obtain ⟨entry, hm, he⟩ := List.mem_map.mp hd
      cases he
      exact .inr ⟨entry, hm, rfl, by simp⟩
    · exact .inl (.inr hd)
  | callOffSheet sheet =>
    have hoff : w.board.Dropped (· = sheet) := fun s hs => h.lasting.2 s (.inl (hs ▸ rfl))
    refine hdone (heeds_applyBoard ((h.heeded.callOffSheet sheet).mono fun _ _ _ _ => .inl) ?_
      (Board.not_ask_callOffSheet w.board sheet)) fun _ hm => by cases List.mem_singleton.mp hm
    exact h.heeded.callOffSheet_lasting (lasting_owing hP _) h.lasting hoff
  | idle buffer =>
    simp only [Workspace.enter]
    split <;> exact hdone h (by simp)
  | stopFetches kind =>
    refine hdone (h.elsewhere (elsewhere_stopFetches w kind)) fun _ hm => ?_
    cases List.mem_singleton.mp hm
  | _ => exact hdone (h.aside rfl fun _ hj => hj) fun _ => List.not_mem_nil

theorem Heeds.proceed (hP : Lasting fits P) (caller fuel : Nat) (plan : List Phase)
    (h : w.Heeds answers (Owing P fun p => p ∈ plan ∨ w.OthersOwe caller p)) :
    (Workspace.proceed caller fuel plan w).Heeds answers
      (Owing P (Workspace.proceed caller fuel plan w).Owes) :=
  proceed_owing (C := fun debts w => w.Heeds answers (Owing P debts)) caller
    (fun _ h => h.aside rfl fun _ hj => hj) (fun h => h.aside rfl fun _ hj => hj)
    (fun phase h => h.enter hP caller phase) fuel plan h

theorem Heeds.start (hP : Lasting fits P) (h : w.Heeds answers (Owing P w.Owes))
    {plan : List Phase} (hp : ∀ sheet, .callOffSheet sheet ∉ plan) :
    (w.start plan).Heeds answers (Owing P (w.start plan).Owes) := by
  have hnext : Heeds answers (Owing P w.Owes) { w with nextCaller := w.nextCaller + 1 } :=
    h.aside rfl fun _ hj => hj
  refine Heeds.proceed hP _ _ plan (hnext.owing_mono fun sheet hd => ?_)
  obtain ⟨other, plan', -, hget, hm⟩ := hd.resolve_left (hp sheet)
  exact ⟨other, plan', hget, hm⟩

/-! Jobs -/

/-- Slots that ask wait for an answer or are given one that fits, and answers that come fit. -/
structure Minds (answers : Nat → Nat → Prop) (fits : Reference → Outcome → Prop) (job : Job)
    (w : Workspace ℚ) : Prop where
  waits : ∀ id slot pass r, job = .slot id slot →
    (w.board.slotTurn id slot).2 = [.ask id slot pass r] →
    (w.ask (.slot id slot) (some pass) r).1 = none → answers id slot
  given : ∀ id slot pass r outcome, job = .slot id slot →
    (w.board.slotTurn id slot).2 = [.ask id slot pass r] →
    (w.ask (.slot id slot) (some pass) r).1 = some outcome →
    outcome ≠ .stopped ∧ (w.board.slotTurn id slot).1.kept.Fits fits id slot outcome
  told : ∀ id slot outcome, job = .answer (.slot id slot) outcome →
    outcome ≠ .stopped ∧ w.board.kept.Fits fits id slot outcome

theorem heeds_slotTurn (hP : Lasting fits P) {id slot : Nat}
    (hb : w.board.Heeded fun e => dueWith answers w.agenda.jobs e ∨ e = .slot id slot)
    (hl : P w.board.kept) (hm : w.Minds answers fits (.slot id slot)) :
    (w.slotTurn id slot).Heeds answers P := by
  have hturn := hb.slotTurn
  have hlast := hb.slotTurn_lasting hP hl id slot
  rcases Board.slotTurn_signals w.board id slot with he | ⟨pass, r, he⟩
  · have hslot : w.slotTurn id slot = { w with board := (w.board.slotTurn id slot).1 } := by
      simp [Workspace.slotTurn, he]
    rw [hslot]
    rw [he] at hturn
    exact ⟨hturn.mono fun _ _ _ _ hd => hd.resolve_right List.not_mem_nil, hlast⟩
  · let asking : Workspace ℚ := { w with board := (w.board.slotTurn id slot).1 }
    have hask := elsewhere_ask asking (.slot id slot) (some pass) r
    have hturn : asking.board.Heeded
        fun e => dueWith answers asking.agenda.jobs e ∨ e = .answer id slot := by
      rw [he] at hturn
      exact hturn.mono fun _ _ _ _ => Or.imp_right List.mem_singleton.mp
    simp only [Workspace.slotTurn, he]
    split
    · next outcome hgiven =>
      obtain ⟨ho, hf⟩ := hm.given id slot pass r outcome rfl he hgiven
      have hboard : (asking.ask (.slot id slot) (some pass) r).2.board = asking.board := hask.board
      refine heeds_applyBoard ?_ ?_ (not_ask_of_isQuiet (Board.isQuiet_answer _ id slot outcome))
      · rw [hboard]
        exact (hturn.answer ho).mono fun _ _ _ _ => Or.imp_left (dueWith_mono hask.jobs)
      · rw [hboard]
        exact hturn.answer_lasting hP hlast ho hf
    · next hnone =>
      have hanswer := hm.waits id slot pass r rfl he hnone
      have hasked : asking.Heeds answers P := by
        refine ⟨hturn.mono fun _ _ _ _ hd => hd.elim (fun hd => hd) ?_, hlast⟩
        rintro rfl
        exact hanswer
      exact hasked.elsewhere hask

/-- Any job but the turn of a caller. -/
theorem heeds_perform (hP : Lasting fits P) {job : Job} (hj : ∀ id, job ≠ .caller id)
    (hb : w.board.Heeded fun e => dueWith answers w.agenda.jobs e ∨ job.boardWake? = some e)
    (hl : P w.board.kept) (hm : w.Minds answers fits job) : (w.perform job).Heeds answers P := by
  have hwoken {e : Board.Wake} (he : job.boardWake? = some e) :
      w.board.Heeded fun e' => dueWith answers w.agenda.jobs e' ∨ e' = e :=
    hb.mono fun _ _ _ _ => Or.imp_right fun hw => (Option.some.inj (he.symm.trans hw)).symm
  have hnone (he : job.boardWake? = none) : w.Heeds answers P :=
    ⟨hb.mono fun _ _ _ _ hd => hd.resolve_right (by simp [he]), hl⟩
  cases job with
  | timer id timer => exact (hnone rfl).withDebouncer hP id _
  | group id =>
    have hb := hwoken rfl
    exact heeds_applyBoard hb.groupTurn (hb.groupTurn_lasting hP hl id)
      (not_ask_of_isQuiet (Board.isQuiet_groupTurn w.board id))
  | slot id slot => exact heeds_slotTurn hP (hwoken rfl) hl hm
  | answer asker outcome =>
    cases asker with
    | slot id slot =>
      have hb := hwoken rfl
      obtain ⟨ho, hf⟩ := hm.told id slot outcome rfl
      exact heeds_applyBoard (hb.answer ho) (hb.answer_lasting hP hl ho hf)
        (not_ask_of_isQuiet (Board.isQuiet_answer w.board id slot outcome))
    | call id => exact (hnone rfl).elsewhere (elsewhere_perform w rfl)
    | member id place => exact (hnone rfl).elsewhere (elsewhere_perform w rfl)
  | caller id => exact absurd rfl (hj id)
  | _ => exact (hnone rfl).elsewhere (elsewhere_perform w rfl)

theorem Heeds.callerJob (hP : Lasting fits P) (h : w.Heeds answers (Owing P w.Owes)) (id : Nat) :
    (w.perform (.caller id)).Heeds answers (Owing P (w.perform (.caller id)).Owes) := by
  unfold perform
  dsimp only
  split
  · next plan hget =>
    refine Heeds.proceed hP _ _ plan (h.owing_mono fun sheet hd => ?_)
    rcases hd with hm | ⟨other, plan', -, hget', hm⟩
    · exact ⟨id, plan, hget, hm⟩
    · exact ⟨other, plan', hget', hm⟩
  · exact h

/-! Events -/

theorem Heeds.notify (hP : Lasting fits P) (h : w.Heeds answers P) (buffer text : Text) :
    (w.notify buffer text).Heeds answers P := by
  have hfor (w : Workspace ℚ) (h : w.Heeds answers P) :
      (w.debouncerFor buffer).2.Heeds answers P := by
    unfold debouncerFor
    split
    · exact h
    · exact h.aside rfl fun _ hj => hj
  have hnoted : { w with texts := w.texts.set buffer text }.Heeds answers P :=
    h.aside rfl fun _ hj => hj
  exact (hfor _ hnoted).withDebouncer hP _ Debouncer.trigger

theorem Heeds.flush (hP : Lasting fits P) (h : w.Heeds answers P) (buffer : Text) :
    (w.flush buffer).2.Heeds answers P := by
  unfold Workspace.flush
  split
  · split
    · exact (h.withDebouncer hP _ Debouncer.callOffCurrent).runLatest hP buffer
    · exact h
  · exact h

theorem Heeds.attach (hP : Lasting fits P) (h : w.Heeds answers P) (buffer path text : Text) :
    (w.attach buffer path text).2.Heeds answers P := by
  unfold Workspace.attach
  split
  · exact h.runPass hP buffer text
  · exact h.aside rfl fun _ hj => hj

theorem not_callOffSheet_settlePlan (w : Workspace ℚ) (buffer : Text) (sheet : Nat) :
    .callOffSheet sheet ∉ w.settlePlan buffer := by
  unfold settlePlan
  split <;> simp

/-- Any event but that jobs are done or time passes. -/
theorem Heeds.event (hP : Lasting fits P) (h : w.Heeds answers (Owing P w.Owes)) {e : Event ℚ}
    (he : Move.IsStep (.event e)) (hwork : e ≠ .work) :
    (w.step e).Heeds answers (Owing P (w.step e).Owes) := by
  have hsame {w' : Workspace ℚ} (h' : w'.Heeds answers (Owing P w.Owes))
      (hc : w'.callers = w.callers) : w'.Heeds answers (Owing P w'.Owes) := by
    rwa [owes_congr hc]
  have hstart (debouncerOf : Register Text Nat) {plan : List Phase}
      (hp : ∀ sheet, .callOffSheet sheet ∉ plan) :
      (Workspace.start { w with debouncerOf } plan).Heeds answers
        (Owing P (Workspace.start { w with debouncerOf } plan).Owes) := by
    have hset : Heeds answers (Owing P w.Owes) { w with debouncerOf } := h.aside rfl fun _ hj => hj
    exact Heeds.start hP hset hp
  have helse {e : Event ℚ} (he : e.IsBeside) : (w.step e).Heeds answers (Owing P (w.step e).Owes) :=
    hsame (h.elsewhere (elsewhere_step w he)) (elsewhere_step w he).callers
  have hlast := lasting_owing hP w.Owes
  cases e with
  | runPass buffer text =>
    exact hsame (h.runPass hlast buffer text) (keepsTimers_runPass w buffer text).callers
  | attach buffer path text =>
    exact hsame (h.attach hlast buffer path text) (keepsTimers_attach w buffer path text).callers
  | notify buffer text => exact hsame (h.notify hlast buffer text) (notify_callers w buffer text).1
  | flush buffer => exact hsame (h.flush hlast buffer) (flush_callers w buffer).1
  | settle buffer => exact h.start hP (not_callOffSheet_settlePlan w buffer)
  | detach buffer =>
    refine hstart _ fun sheet hm => ?_
    rcases List.mem_append.mp hm with hm | hm
    · split at hm <;> simp at hm
    · simp at hm
  | shutdown => exact hstart [] (by simp [shutdownPlan])
  | dispose => exact hstart [] (by simp [shutdownPlan])
  | annotate buffer text =>
    let name := buffer.getD w.freshBuffer
    have hpass := hsame (h.runPass hlast name text) (keepsTimers_runPass w name text).callers
    refine hpass.start hP fun sheet hm => ?_
    rcases List.mem_append.mp hm with hm | hm
    · exact not_callOffSheet_settlePlan _ _ _ hm
    · split at hm <;> simp at hm
  | work => exact absurd rfl hwork
  | advance dt => exact he.elim
  | _ =>
    exact helse trivial

theorem Heeds.ring (hP : Lasting fits P) (h : w.Heeds answers (Owing P w.Owes)) (alarm : Alarm) :
    (w.ring alarm).Heeds answers (Owing P (w.ring alarm).Owes) := by
  cases alarm with
  | timer id timer =>
    have hdebouncer := h.withDebouncer (lasting_owing hP w.Owes) id (·.wake timer)
    rwa [← owes_congr (withDebouncer_callers w id (·.wake timer)).1] at hdebouncer
  | limiter r =>
    have helse := elsewhere_applyDesk w (w.desk.limiterWake r)
    have hdesk := h.elsewhere helse
    rwa [← owes_congr helse.callers] at hdesk
  | reply r reply => exact h.aside rfl (List.subset_append_left _ _)

end Workspace

end CommitMessage
