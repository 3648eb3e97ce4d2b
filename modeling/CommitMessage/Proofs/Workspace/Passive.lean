import CommitMessage.Proofs.Workspace.Tending

/-! What goes on by itself while nothing is asked of a workspace. Groups, fetches and timers come to
their ends, only a group that goes on begins a fetch, and only a fetch that is not called off has
anything to tell. -/

namespace CommitMessage

/-! Fetches in the course of time -/

namespace Desk

variable {κ : Type} [DecidableEq κ] {d : Desk ℚ κ} {f f' f'' : Fetch κ}

/-- A fetch as it is later on. -/
structure Fetch.Later (f f' : Fetch κ) : Prop where
  reference : f'.reference = f.reference
  calledOff : f.calledOff = true → f'.calledOff = true
  isOver : f.IsOver → f'.IsOver

omit [DecidableEq κ] in
theorem Fetch.Later.refl (f : Fetch κ) : f.Later f := ⟨rfl, id, id⟩

omit [DecidableEq κ] in
theorem Fetch.Later.trans (h : f.Later f') (h' : f'.Later f'') : f.Later f'' :=
  ⟨h'.reference.trans h.reference, h'.calledOff ∘ h.calledOff, h'.isOver ∘ h.isOver⟩

omit [DecidableEq κ] in
theorem CarriesOn.later {change : Desk ℚ κ × List (Signal ℚ κ)} (h : d.CarriesOn change)
    (hf : f' ∈ change.1.fetches) : ∃ f ∈ d.fetches, f.Later f' := by
  obtain ⟨f, hm, hr, hoff, hover, -⟩ := h.old f' hf
  refine ⟨f, hm, hr, hoff, ?_⟩
  rintro ⟨outcome, ho⟩
  exact ⟨outcome, hover outcome ho⟩

theorem later_leaveAll (callers : List κ) (hf : f' ∈ (callers.foldl leave d).fetches) :
    ∃ f ∈ d.fetches, f.Later f' := by
  induction callers generalizing d with
  | nil => exact ⟨f', hf, .refl f'⟩
  | cons c callers ih =>
    obtain ⟨f, hm, hlater⟩ := ih hf
    obtain ⟨f₀, hm₀, rfl⟩ := List.mem_map.mp hm
    exact ⟨f₀, hm₀, hlater.reference, hlater.calledOff, hlater.isOver⟩

end Desk

namespace Workspace

variable {w w' w'' : Workspace ℚ} {job : Job} {jobs rest : List Job} {debts : Phase → Prop}
  {told told' : Asker → Outcome → Prop}

theorem Move.IsPassive.isStep {m : Move} (h : m.IsPassive) : m.IsStep := by
  cases m with
  | event e =>
    cases e with
    | work => trivial
    | _ => exact h.elim
  | ring => trivial
  | wait time => trivial

/-- No call that goes on is still to ask for anything. -/
def Asked (w : Workspace ℚ) : Prop :=
  ∀ id c, w.calls.get? id = some c → c.calledOff = false →
    c.stage ≠ .fresh ∧ ∀ place, .member id place ∉ w.agenda.jobs

/-- A fetch that is not called off comes to its end, for one who waits for it. -/
def HandsOver (w w' : Workspace ℚ) (a : Asker) (outcome : Outcome) : Prop :=
  ∃ f ∈ w.desk.fetches, f.calledOff = false ∧ a ∈ f.callers ∧
    ∃ f' ∈ w'.desk.fetches, f'.reference = f.reference ∧ f'.stage = .finished outcome

/-! Groups and fetches -/

/-- Nothing new has been asked for. Without texts there are no new groups, and without groups that
go on there are no new fetches. -/
structure Subsides (w w' : Workspace ℚ) : Prop where
  debouncerOf : w'.debouncerOf = w.debouncerOf
  texts : w.texts = [] → w'.texts = []
  board : w.texts = [] → w.board.Follows w'.board
  fetches : ∀ f' ∈ w'.desk.fetches, (∃ g ∈ w.board.groups, g.calledOff = false) ∨
    ∃ f ∈ w.desk.fetches, f.Later f'

theorem subsides_same (ho : w'.debouncerOf = w.debouncerOf) (ht : w'.texts = w.texts)
    (hb : w'.board = w.board) (hf : w'.desk.fetches = w.desk.fetches) : Subsides w w' :=
  ⟨ho, fun h => ht.trans h, fun _ => hb ▸ .refl _, fun f hm => .inr ⟨f, hf ▸ hm, .refl f⟩⟩

theorem subsides_applyDesk {change : Desk ℚ Asker × List (Desk.Signal ℚ Asker)}
    (hc : w.desk.CarriesOn change) : Subsides w (w.applyDesk change) := by
  obtain ⟨agenda, record, he, -⟩ := applyDesk_frame w change
  rw [he]
  exact ⟨rfl, id, fun _ => .refl _, fun f hm => .inr (hc.later hm)⟩

theorem subsides_applyBoard {change : Board × List Board.Signal}
    (hf : w.board.Follows change.1) : Subsides w (w.applyBoard change) := by
  obtain ⟨askers, agenda, record, -, he, -⟩ := applyBoard_frame w change
  rw [he]
  exact ⟨rfl, id, fun _ => hf, fun f hm => .inr (Desk.later_leaveAll askers hm)⟩

theorem Subsides.then (h : Subsides w w') (hs : ∀ f' ∈ w''.desk.fetches, ∃ f ∈ w'.desk.fetches,
    f.Later f') (ho : w''.debouncerOf = w'.debouncerOf) (ht : w''.texts = w'.texts)
    (hb : w'.board.Follows w''.board) : Subsides w w'' := by
  refine ⟨ho.trans h.debouncerOf, fun hw => ht.trans (h.texts hw),
    fun hw => (h.board hw).trans hb, fun f'' hm => ?_⟩
  obtain ⟨f', hm', hlater'⟩ := hs f'' hm
  refine (h.fetches f' hm').imp_right ?_
  rintro ⟨f, hm, hlater⟩
  exact ⟨f, hm, hlater.trans hlater'⟩

theorem subsides_slotTurn (w : Workspace ℚ) (id slot : Nat) : Subsides w (w.slotTurn id slot) := by
  obtain ⟨hfollows, -⟩ := Board.ending_slotTurn w.board id slot
  have hturned : Subsides w { w with board := (w.board.slotTurn id slot).1 } :=
    ⟨rfl, fun h => h, fun _ => hfollows, fun f hm => .inr ⟨f, hm, .refl f⟩⟩
  unfold Workspace.slotTurn
  dsimp only
  split
  · next group i pass r hsignals =>
    -- The slot asks, so its group goes on.
    have hlive : ∃ g ∈ w.board.groups, g.calledOff = false := by
      unfold Board.slotTurn at hsignals
      split at hsignals
      · cases hsignals
      · next g hg =>
        split at hsignals
        · next hc _ => exact ⟨g, (Board.mem_of_group? hg).1, hc⟩
        · cases hsignals
    obtain ⟨agenda, record, he, -⟩ := applyDesk_frame
      { w with board := (w.board.slotTurn id slot).1 }
      (w.desk.ask w.agenda.now (.slot group i) (some pass) r).2
    have hasked : Subsides w (Workspace.ask { w with board := (w.board.slotTurn id slot).1 }
        (.slot group i) (some pass) r).2 := by
      rw [show (Workspace.ask { w with board := (w.board.slotTurn id slot).1 }
        (.slot group i) (some pass) r).2 = _ from he]
      exact ⟨rfl, fun h => h, fun _ => hfollows, fun _ _ => .inl hlive⟩
    split
    · next outcome _ =>
      obtain ⟨askers, agenda, record, -, he, -⟩ := applyBoard_frame
        (Workspace.ask { w with board := (w.board.slotTurn id slot).1 }
          (.slot group i) (some pass) r).2
        ((Workspace.ask { w with board := (w.board.slotTurn id slot).1 }
          (.slot group i) (some pass) r).2.board.answer group i outcome)
      refine hasked.then ?_ ?_ ?_ ?_
      · rw [he]
        exact fun f hm => Desk.later_leaveAll askers hm
      · rw [he]
      · rw [he]
      · rw [he]
        exact (Board.ending_answer _ group i outcome).1
    · exact hasked
  · exact hturned

theorem subsides_withDebouncer (w : Workspace ℚ) (id : Nat)
    (change : Debouncer ℚ → Debouncer ℚ × List (Debouncer.Signal ℚ)) :
    Subsides w (w.withDebouncer id change) := by
  have hone (buffer : Text) (w : Workspace ℚ) (s : Debouncer.Signal ℚ) :
      (debouncerSignal id buffer w s).debouncerOf = w.debouncerOf ∧
        (w.texts = [] → (debouncerSignal id buffer w s).texts = [] ∧
          (debouncerSignal id buffer w s).board = w.board) := by
    cases s with
    | turn timer => exact ⟨rfl, fun h => ⟨h, rfl⟩⟩
    | sleep timer delay => exact ⟨rfl, fun h => ⟨h, rfl⟩⟩
    | ended timer => exact ⟨rfl, fun h => ⟨h, rfl⟩⟩
    | run timer =>
      have hrun : (w.runLatest buffer).debouncerOf = w.debouncerOf ∧ (w.texts = [] →
          (w.runLatest buffer).texts = [] ∧ (w.runLatest buffer).board = w.board) := by
        refine ⟨(keepsTimers_runLatest w buffer).debouncerOf, fun h => ?_⟩
        have he : w.runLatest buffer = w := by simp [runLatest, h, Register.get?]
        exact ⟨he.symm ▸ h, by rw [he]⟩
      simp only [debouncerSignal]
      split <;> exact hrun
  have hall (buffer : Text) (signals : List (Debouncer.Signal ℚ)) (w : Workspace ℚ) :
      (signals.foldl (debouncerSignal id buffer) w).debouncerOf = w.debouncerOf ∧
        (w.texts = [] → (signals.foldl (debouncerSignal id buffer) w).texts = [] ∧
          (signals.foldl (debouncerSignal id buffer) w).board = w.board) := by
    refine List.foldlRecOn (motive := fun w' : Workspace ℚ => w'.debouncerOf = w.debouncerOf ∧
      (w.texts = [] → w'.texts = [] ∧ w'.board = w.board)) signals _
      ⟨rfl, fun h => ⟨h, rfl⟩⟩ fun w' hw s _ => ?_
    obtain ⟨ho, hs⟩ := hone buffer w' s
    refine ⟨ho.trans hw.1, fun h => ?_⟩
    obtain ⟨htexts, hboard⟩ := hw.2 h
    exact ⟨(hs htexts).1, (hs htexts).2.trans hboard⟩
  have hdesk := (quiet_withDebouncer w id change).desk
  unfold withDebouncer at hdesk ⊢
  split
  · next buffer d hget =>
    simp only [hget] at hdesk
    obtain ⟨ho, hs⟩ := hall buffer (change d).2
      { w with debouncers := w.debouncers.set id (buffer, (change d).1) }
    refine ⟨ho, fun h => (hs h).1, fun h => ?_, fun f hm => .inr ⟨f, hdesk ▸ hm, .refl f⟩⟩
    have hboard := (hs h).2
    dsimp only at hboard ⊢
    rw [hboard]
    exact .refl _
  · exact subsides_same rfl rfl rfl rfl

/-! What comes of calls -/

/-- Calls have changed, and nothing else but jobs and the record. -/
def ChangesCalls (w w' : Workspace ℚ) : Prop :=
  ∃ calls agenda record, w' = { w with calls, agenda, record }

theorem ChangesCalls.subsides (h : ChangesCalls w w') : Subsides w w' := by
  obtain ⟨calls, agenda, record, rfl⟩ := h
  exact subsides_same rfl rfl rfl rfl

theorem changesCalls_callAnswer (w : Workspace ℚ) (id : Nat) (outcome : Outcome) :
    ChangesCalls w (w.callAnswer id outcome) := by
  unfold callAnswer
  split
  · split
    · exact ⟨_, _, _, rfl⟩
    · exact ⟨_, _, _, rfl⟩
  · exact ⟨_, _, _, rfl⟩

theorem changesCalls_memberAnswer (w : Workspace ℚ) (id place : Nat) (outcome : Outcome) :
    ChangesCalls w (w.memberAnswer id place outcome) := by
  unfold memberAnswer
  split
  · split
    · dsimp only
      split
      · exact ⟨_, _, _, rfl⟩
      · exact ⟨_, _, _, rfl⟩
    · exact ⟨_, _, _, rfl⟩
    · exact ⟨_, _, _, rfl⟩
  · exact ⟨_, _, _, rfl⟩

/-- The turn of a call that has nothing to ask. -/
theorem callTurn_cases (w : Workspace ℚ) {id : Nat} {c : Call} (hget : w.calls.get? id = some c)
    (ha : c.calledOff = false → c.stage ≠ .fresh) :
    c.calledOff = true ∧ w.callTurn id = w.endCall id c .stopped ∨
      (∃ outcome, c.stage = .ready outcome ∧ w.callTurn id = w.endCall id c (c.result outcome)) ∨
      w.callTurn id = w := by
  rw [callTurn, hget]
  dsimp only
  cases hoff : c.calledOff with
  | true => exact .inl ⟨rfl, rfl⟩
  | false =>
    cases hs : c.stage with
    | fresh => exact absurd hs (ha hoff)
    | waiting => exact .inr (.inr rfl)
    | ready outcome => exact .inr (.inl ⟨outcome, rfl, rfl⟩)

theorem Asked.callTurn (h : w.Asked) (id : Nat) : ChangesCalls w (w.callTurn id) := by
  cases hget : w.calls.get? id with
  | none => exact ⟨_, _, _, by rw [Workspace.callTurn, hget]⟩
  | some c =>
    rcases callTurn_cases w hget fun hoff => (h id c hget hoff).1 with
      ⟨-, he⟩ | ⟨outcome, -, he⟩ | he
    · exact ⟨_, _, _, he⟩
    · exact ⟨_, _, _, he⟩
    · exact ⟨_, _, _, he⟩

/-- No name of a call that goes on is still to be asked for. -/
theorem Asked.memberTurn (h : w.Asked) {id place : Nat} (hj : .member id place ∈ w.agenda.jobs)
    (rest : List Job) : (w.withJobs rest).memberTurn id place = w.withJobs rest := by
  unfold Workspace.memberTurn
  split
  · next tag names stage hget => exact absurd hj ((h id _ hget rfl).2 place)
  · rfl

/-- Any job but the turn of a caller. -/
theorem subsides_perform (h : w.Tended w.agenda.jobs debts) (ha : w.Asked)
    (hj : w.agenda.jobs = job :: rest) (hc : ∀ id, job ≠ .caller id) :
    Subsides w ((w.withJobs rest).perform job) := by
  have hpop : Subsides w (w.withJobs rest) := subsides_same rfl rfl rfl rfl
  have hasked : (w.withJobs rest).Asked := fun id c hget hoff =>
    ⟨(ha id c hget hoff).1, fun place hm =>
      (ha id c hget hoff).2 place (hj ▸ List.mem_cons_of_mem _ hm)⟩
  have hpopped {w' : Workspace ℚ} (hs : Subsides (w.withJobs rest) w') : Subsides w w' :=
    ⟨hs.debouncerOf, hs.texts, hs.board, hs.fetches⟩
  by_cases hdesk : job.IsDesk
  · have htended : (w.withJobs rest).Tended (job :: rest) debts := hj ▸ h.withJobs rest
    obtain ⟨change, he, hcarries⟩ := htended.carriesOn hdesk
    rw [he]
    exact hpopped (subsides_applyDesk hcarries)
  · cases job with
    | timer id timer => exact hpopped (subsides_withDebouncer _ id _)
    | group id => exact hpopped (subsides_applyBoard (Board.ending_groupTurn _ id).1)
    | slot id slot => exact hpopped (subsides_slotTurn _ id slot)
    | answer a outcome =>
      cases a with
      | slot id slot => exact hpopped (subsides_applyBoard (Board.ending_answer _ id slot _).1)
      | call id => exact hpopped (changesCalls_callAnswer _ id outcome).subsides
      | member id place => exact hpopped (changesCalls_memberAnswer _ id place outcome).subsides
    | call id => exact hpopped (hasked.callTurn id).subsides
    | member id place =>
      rw [Workspace.perform, ha.memberTurn (hj ▸ List.mem_cons_self) rest]
      exact hpop
    | caller id => exact absurd rfl (hc id)
    | _ => exact absurd trivial hdesk

/-! Answers -/

/-- A job that tells no more than what may be told, and asks for nothing in the course of a call. -/
def Job.Tells (told : Asker → Outcome → Prop) : Job → Prop
  | .member _ _ => False
  | .answer a outcome => outcome = .stopped ∨ told a outcome
  | _ => True

/-- Calls are as before, and nobody is told of more than he may be. -/
structure Tells (told : Asker → Outcome → Prop) (w w' : Workspace ℚ) : Prop where
  calls : w'.calls = w.calls
  record : w.record <:+ w'.record
  jobs : ∀ job ∈ w'.agenda.jobs, job ∈ w.agenda.jobs ∨ job.Tells told

theorem Job.Tells.mono (h : job.Tells told) (ht : ∀ a outcome, told a outcome → told' a outcome) :
    job.Tells told' := by
  cases job with
  | answer a outcome => exact Or.imp_right (ht a outcome) h
  | _ => exact h

theorem Tells.mono (h : Tells told w w') (ht : ∀ a outcome, told a outcome → told' a outcome) :
    Tells told' w w' :=
  ⟨h.calls, h.record, fun job hm => (h.jobs job hm).imp_right fun hj => hj.mono ht⟩

theorem Tells.refl (w : Workspace ℚ) : Tells told w w :=
  ⟨rfl, List.suffix_refl _, fun _ => .inl⟩

theorem Tells.trans (h : Tells told w w') (h' : Tells told w' w'') : Tells told w w'' :=
  ⟨h'.calls.trans h.calls, h.record.trans h'.record, fun job hm =>
    (h'.jobs job hm).elim (h.jobs job) .inr⟩

theorem tells_same (hc : w'.calls = w.calls) (hr : w.record <:+ w'.record)
    (hj : w'.agenda.jobs ⊆ w.agenda.jobs) : Tells told w w' :=
  ⟨hc, hr, fun _ hm => .inl (hj hm)⟩

theorem tells_note (w : Workspace ℚ) (e : Entry ℚ) : Tells told w (w.note e) :=
  tells_same rfl (List.suffix_cons e _) (List.Subset.refl _)

theorem tells_soon (w : Workspace ℚ) (hj : job.Tells told) : Tells told w (w.soon job) :=
  ⟨rfl, List.suffix_refl _, fun job' hm => (List.mem_append.mp hm).imp_right fun hm =>
    (List.mem_singleton.mp hm : job' = job) ▸ hj⟩

theorem tells_applyDesk (w : Workspace ℚ) {change : Desk ℚ Asker × List (Desk.Signal ℚ Asker)}
    (ht : ∀ a outcome, .deliver a outcome ∈ change.2 → outcome = .stopped ∨ told a outcome) :
    Tells told w (w.applyDesk change) := by
  obtain ⟨agenda, record, he, -, hjobs, hrecord⟩ := applyDesk_frame w change
  rw [he]
  refine ⟨rfl, hrecord, fun job hm => ?_⟩
  rw [show agenda.jobs = _ from hjobs] at hm
  refine (List.mem_append.mp hm).imp_right fun hm => ?_
  obtain ⟨s, hs, he⟩ := List.mem_filterMap.mp hm
  cases s with
  | deliver a outcome =>
    cases he
    exact ht a outcome hs
  | _ => cases he <;> trivial

theorem tells_applyBoard (w : Workspace ℚ) (change : Board × List Board.Signal) :
    Tells told w (w.applyBoard change) := by
  obtain ⟨askers, agenda, record, -, he, -, hjobs, hrecord⟩ := applyBoard_frame w change
  rw [he]
  refine ⟨rfl, hrecord, fun job hm => ?_⟩
  rw [show agenda.jobs = _ from hjobs] at hm
  refine (List.mem_append.mp hm).imp_right fun hm => ?_
  obtain ⟨x, -, he⟩ := List.mem_filterMap.mp hm
  rcases boardJob?_cases he with ⟨id, rfl⟩ | ⟨id, slot, rfl⟩ <;> trivial

theorem tells_ask (w : Workspace ℚ) (a : Asker) (pass : Option Text) (r : Reference) :
    Tells told w (w.ask a pass r).2 :=
  tells_applyDesk w fun b outcome hm => by
    rcases w.desk.ask_signals w.agenda.now a pass r _ hm with ⟨e, he⟩ | he <;> cases he

theorem tells_slotTurn (w : Workspace ℚ) (id slot : Nat) : Tells told w (w.slotTurn id slot) := by
  have hboard : Tells told w { w with board := (w.board.slotTurn id slot).1 } :=
    tells_same rfl (List.suffix_refl _) (List.Subset.refl _)
  unfold Workspace.slotTurn
  dsimp only
  split
  · next group i pass r _ =>
    have hask := hboard.trans (tells_ask _ (.slot group i) (some pass) r)
    split
    · exact hask.trans (tells_applyBoard _ _)
    · exact hask
  · exact hboard

theorem tells_runPass (w : Workspace ℚ) (buffer text : Text) :
    Tells told w (w.runPass buffer text).2 := by
  have htexts : Tells told w { w with texts := w.texts.set buffer text } :=
    tells_same rfl (List.suffix_refl _) (List.Subset.refl _)
  obtain ⟨w', h, he⟩ := runPass_rec (C := Tells told w) w buffer text
    (htexts.trans (tells_applyBoard _ _)) (fun w' _ h => h.trans (tells_note w' _))
    fun w' _ h => h.trans (tells_note w' _)
  rw [he]
  exact h.trans (tells_same rfl (List.suffix_refl _) (List.Subset.refl _))

theorem tells_withDebouncer (w : Workspace ℚ) (id : Nat)
    (change : Debouncer ℚ → Debouncer ℚ × List (Debouncer.Signal ℚ)) :
    Tells told w (w.withDebouncer id change) := by
  have hone (buffer : Text) (w : Workspace ℚ) (s : Debouncer.Signal ℚ) :
      Tells told w (debouncerSignal id buffer w s) := by
    cases s with
    | turn timer => exact tells_soon w trivial
    | sleep timer delay => exact tells_same rfl (List.suffix_refl _) (List.Subset.refl _)
    | ended timer => exact .refl w
    | run timer =>
      have hrun : Tells told w (w.runLatest buffer) := by
        unfold runLatest
        split
        · exact tells_runPass w buffer _
        · exact .refl w
      simp only [debouncerSignal]
      split
      · exact hrun.trans (tells_same rfl (List.suffix_refl _) (List.Subset.refl _))
      · exact hrun
  unfold withDebouncer
  split
  · next buffer d _ =>
    have hset : Tells told w
        { w with debouncers := w.debouncers.set id (buffer, (change d).1) } :=
      tells_same rfl (List.suffix_refl _) (List.Subset.refl _)
    exact List.foldlRecOn (motive := Tells told w) _ _ hset
      fun w' h s _ => h.trans (hone buffer w' s)
  · exact .refl w

theorem tells_callCallers (w : Workspace ℚ) : Tells told w w.callCallers :=
  callCallers_rec (C := Tells told w) (.refl w) fun w' _ h => h.trans (tells_soon w' trivial)

/-- A job of a call. -/
def Job.IsCall : Job → Prop
  | .answer (.call _) _ | .answer (.member _ _) _ | .call _ => True
  | _ => False

/-- Any job but the turn of a caller, or one that has to do with a call. -/
theorem tells_perform (h : w.Tended w.agenda.jobs debts) (ha : w.Asked)
    (hj : w.agenda.jobs = job :: rest) (hc : ∀ id, job ≠ .caller id) (hcall : ¬ job.IsCall) :
    Tells (HandsOver w ((w.withJobs rest).perform job)) w ((w.withJobs rest).perform job) := by
  have hpop {told : Asker → Outcome → Prop} : Tells told w (w.withJobs rest) :=
    tells_same rfl (List.suffix_refl _) fun job hm => hj ▸ List.mem_cons_of_mem _ hm
  by_cases hdesk : job.IsDesk
  · have htended : (w.withJobs rest).Tended (job :: rest) debts := hj ▸ h.withJobs rest
    obtain ⟨change, he, hcarries⟩ := htended.carriesOn hdesk
    obtain ⟨agenda, record, hframe, -⟩ := applyDesk_frame (w.withJobs rest) change
    have hfetches : ((w.withJobs rest).perform job).desk = change.1 := by rw [he, hframe]
    refine hpop.trans (he ▸ tells_applyDesk _ fun a outcome hm => ?_)
    refine (hcarries.given a outcome hm).imp_right ?_
    rintro ⟨f, hf, hoff, hcaller, f', hf', hr, ho⟩
    exact ⟨f, hf, hoff, hcaller, f', by rwa [← he, hfetches], hr, ho⟩
  · cases job with
    | timer id timer => exact hpop.trans (tells_withDebouncer _ id _)
    | group id => exact hpop.trans (tells_applyBoard _ _)
    | slot id slot => exact hpop.trans (tells_slotTurn _ id slot)
    | answer a outcome =>
      cases a with
      | slot id slot => exact hpop.trans (tells_applyBoard _ _)
      | call id => exact absurd trivial hcall
      | member id place => exact absurd trivial hcall
    | call id => exact absurd trivial hcall
    | member id place =>
      rw [Workspace.perform, ha.memberTurn (hj ▸ List.mem_cons_self) rest]
      exact hpop
    | caller id => exact absurd rfl (hc id)
    | _ => exact absurd trivial hdesk

end Workspace

end CommitMessage
