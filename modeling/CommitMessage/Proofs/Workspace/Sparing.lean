import CommitMessage.Proofs.Workspace.Tending

/-! What goes on beside calls. Passes, timers, callers and the desk leave all calls as they are, and
give their names no turns. -/

namespace CommitMessage.Workspace

variable {w w' w'' : Workspace ℚ}

/-- The name of a call, by its place, whose turn it is. -/
def Job.member? : Job → Option (Nat × Nat)
  | .member id place => some (id, place)
  | _ => none

/-- The turns to come of the names of calls. -/
def memberTurns (w : Workspace ℚ) : List (Nat × Nat) := w.agenda.jobs.filterMap Job.member?

structure SparesCalls (w w' : Workspace ℚ) : Prop where
  calls : w'.calls = w.calls
  nextCall : w'.nextCall = w.nextCall
  turns : w'.memberTurns = w.memberTurns

theorem SparesCalls.refl (w : Workspace ℚ) : SparesCalls w w := ⟨rfl, rfl, rfl⟩

theorem SparesCalls.trans (h : SparesCalls w w') (h' : SparesCalls w' w'') : SparesCalls w w'' :=
  ⟨h'.calls.trans h.calls, h'.nextCall.trans h.nextCall, h'.turns.trans h.turns⟩

theorem memberTurns_soon (w : Workspace ℚ) (job : Job) :
    (w.soon job).memberTurns = w.memberTurns ++ job.member?.toList := by
  rw [memberTurns, Workspace.soon, Agenda.soon, List.filterMap_append]
  cases hj : job.member? <;> simp [hj, memberTurns]

theorem spares_soon (w : Workspace ℚ) {job : Job} (hj : job.member? = none) :
    SparesCalls w (w.soon job) :=
  ⟨rfl, rfl, by rw [memberTurns_soon, hj, Option.toList_none, List.append_nil]⟩

/-- Jobs that are no turns of names have come. -/
theorem spares_more {more : List Job} (hc : w'.calls = w.calls) (hn : w'.nextCall = w.nextCall)
    (hj : w'.agenda.jobs = w.agenda.jobs ++ more) (hm : ∀ job ∈ more, job.member? = none) :
    SparesCalls w w' := by
  refine ⟨hc, hn, ?_⟩
  rw [memberTurns, hj, List.filterMap_append, List.filterMap_eq_nil_iff.mpr hm, List.append_nil]
  rfl

theorem spares_applyDesk (w : Workspace ℚ) (change : Desk ℚ Asker × List (Desk.Signal ℚ Asker)) :
    SparesCalls w (w.applyDesk change) := by
  obtain ⟨agenda, record, he, -, hjobs, -⟩ := applyDesk_frame w change
  rw [he]
  refine spares_more rfl rfl hjobs fun job hm => ?_
  obtain ⟨s, -, hs⟩ := List.mem_filterMap.mp hm
  cases s <;> cases hs <;> rfl

theorem spares_applyTurn (w : Workspace ℚ) (change : Desk ℚ Asker × List (Desk.Signal ℚ Asker)) :
    SparesCalls w (w.applyTurn change) := by
  rcases applyTurn_cases w change with he | ⟨r, reply, he⟩
  · rw [he]
    exact spares_applyDesk w _
  · rw [he]
    exact spares_applyDesk w _

theorem spares_ask (w : Workspace ℚ) (a : Asker) (pass : Option Text) (r : Reference) :
    SparesCalls w (w.ask a pass r).2 := spares_applyDesk w _

theorem spares_applyBoard (w : Workspace ℚ) (change : Board × List Board.Signal) :
    SparesCalls w (w.applyBoard change) := by
  obtain ⟨askers, agenda, record, -, he, -, hjobs, -⟩ := applyBoard_frame w change
  rw [he]
  refine spares_more rfl rfl hjobs fun job hm => ?_
  obtain ⟨x, -, hx⟩ := List.mem_filterMap.mp hm
  rcases boardJob?_cases hx with ⟨id, rfl⟩ | ⟨group, slot, rfl⟩ <;> rfl

theorem spares_slotTurn (w : Workspace ℚ) (id slot : Nat) : SparesCalls w (w.slotTurn id slot) := by
  have hboard : SparesCalls w { w with board := (w.board.slotTurn id slot).1 } := ⟨rfl, rfl, rfl⟩
  unfold Workspace.slotTurn
  dsimp only
  split
  · next group i pass r _ =>
    have hask := hboard.trans (spares_ask _ (.slot group i) (some pass) r)
    split
    · exact hask.trans (spares_applyBoard _ _)
    · exact hask
  · exact hboard

/-! Passes and timers -/

theorem spares_runPass (w : Workspace ℚ) (buffer text : Text) :
    SparesCalls w (w.runPass buffer text).2 := by
  have htexts : SparesCalls w { w with texts := w.texts.set buffer text } := ⟨rfl, rfl, rfl⟩
  obtain ⟨w', h, he⟩ := runPass_rec (C := SparesCalls w) w buffer text
    (htexts.trans (spares_applyBoard _ _)) (fun _ _ h => h.trans ⟨rfl, rfl, rfl⟩)
    fun _ _ h => h.trans ⟨rfl, rfl, rfl⟩
  rw [he]
  exact h.trans ⟨rfl, rfl, rfl⟩

theorem spares_runLatest (w : Workspace ℚ) (buffer : Text) :
    SparesCalls w (w.runLatest buffer) := by
  unfold runLatest
  split
  · exact spares_runPass w buffer _
  · exact .refl w

theorem spares_attach (w : Workspace ℚ) (buffer path text : Text) :
    SparesCalls w (w.attach buffer path text).2 := by
  unfold attach
  split
  · exact spares_runPass w buffer text
  · exact ⟨rfl, rfl, rfl⟩

theorem spares_withDebouncer (w : Workspace ℚ) (id : Nat)
    (change : Debouncer ℚ → Debouncer ℚ × List (Debouncer.Signal ℚ)) :
    SparesCalls w (w.withDebouncer id change) := by
  have hone (buffer : Text) (w : Workspace ℚ) (s : Debouncer.Signal ℚ) :
      SparesCalls w (debouncerSignal id buffer w s) := by
    cases s with
    | turn timer => exact spares_soon w rfl
    | sleep timer delay => exact ⟨rfl, rfl, rfl⟩
    | ended timer => exact .refl w
    | run timer =>
      have hrun := spares_runLatest w buffer
      simp only [debouncerSignal]
      split
      · exact hrun.trans ⟨rfl, rfl, rfl⟩
      · exact hrun
  unfold withDebouncer
  split
  · next buffer d _ =>
    have hset : SparesCalls w
        { w with debouncers := w.debouncers.set id (buffer, (change d).1) } := ⟨rfl, rfl, rfl⟩
    exact List.foldlRecOn (motive := SparesCalls w) _ _ hset
      fun w' h s _ => h.trans (hone buffer w' s)
  · exact .refl w

theorem spares_notify (w : Workspace ℚ) (buffer text : Text) :
    SparesCalls w (w.notify buffer text) := by
  have htexts : SparesCalls w { w with texts := w.texts.set buffer text } := ⟨rfl, rfl, rfl⟩
  have hfor : SparesCalls w
      (debouncerFor { w with texts := w.texts.set buffer text } buffer).2 := by
    unfold debouncerFor
    split
    · exact htexts
    · exact ⟨rfl, rfl, rfl⟩
  exact hfor.trans (spares_withDebouncer _ _ Debouncer.trigger)

theorem spares_flush (w : Workspace ℚ) (buffer : Text) : SparesCalls w (w.flush buffer).2 := by
  unfold flush
  split
  · split
    · exact (spares_withDebouncer w _ _).trans (spares_runLatest _ buffer)
    · exact .refl w
  · exact .refl w

/-! Callers -/

theorem spares_enter (w : Workspace ℚ) (caller : Nat) (phase : Phase) :
    SparesCalls w (w.enter caller phase).1 := by
  cases phase with
  | callOffTimers id => exact spares_withDebouncer w id Debouncer.callOffAll
  | callOffSheet sheet => exact spares_applyBoard w _
  | stopFetches kind => exact (spares_applyDesk w (w.desk.callOffKind kind)).trans ⟨rfl, rfl, rfl⟩
  | drop buffer =>
    simp only [enter]
    split <;> exact ⟨rfl, rfl, rfl⟩
  | idle buffer =>
    simp only [enter]
    split <;> exact ⟨rfl, rfl, rfl⟩
  | _ => exact ⟨rfl, rfl, rfl⟩

theorem spares_proceed (caller fuel : Nat) (plan : List Phase) (w : Workspace ℚ) :
    SparesCalls w (proceed caller fuel plan w) := by
  have hplan : ∀ phase ∈ plan, (fun _ : Phase => True) phase := fun _ _ => trivial
  exact proceed_rec (C := SparesCalls w) caller (fun _ _ h _ => h.trans ⟨rfl, rfl, rfl⟩)
    (fun _ h => h.trans ⟨rfl, rfl, rfl⟩)
    (fun w' phase h _ => ⟨h.trans (spares_enter w' caller phase), fun _ _ => trivial⟩) fuel hplan
    (.refl w)

theorem spares_start (w : Workspace ℚ) (plan : List Phase) : SparesCalls w (w.start plan) := by
  have hnext : SparesCalls w { w with nextCaller := w.nextCaller + 1 } := ⟨rfl, rfl, rfl⟩
  exact hnext.trans (spares_proceed _ _ _ _)

theorem spares_callCallers (w : Workspace ℚ) : SparesCalls w w.callCallers :=
  callCallers_rec (C := SparesCalls w) (.refl w) fun w' _ h => h.trans (spares_soon w' rfl)

/-! Jobs, events and alarms -/

/-- A job that has to do with a call. -/
def Job.IsOfCalls (job : Job) : Prop := ∃ id, job.IsOf id

theorem spares_perform (w : Workspace ℚ) {job : Job} (hj : ¬ job.IsOfCalls) :
    SparesCalls w (w.perform job) := by
  cases job with
  | timer id timer => exact spares_withDebouncer w id _
  | group id => exact spares_applyBoard w _
  | slot id slot => exact spares_slotTurn w id slot
  | fetch r => exact spares_applyTurn w _
  | limiter r => exact spares_applyTurn w _
  | reply r reply => exact spares_applyDesk w _
  | forget r => exact spares_applyDesk w _
  | answer a outcome =>
    cases a with
    | slot id slot => exact spares_applyBoard w _
    | call id => exact absurd ⟨id, rfl⟩ hj
    | member id place => exact absurd ⟨id, rfl⟩ hj
  | call id => exact absurd ⟨id, rfl⟩ hj
  | member id place => exact absurd ⟨id, rfl⟩ hj
  | caller id =>
    unfold Workspace.perform
    dsimp only
    split
    · exact spares_proceed _ _ _ w
    · exact .refl w

/-- An event that begins or ends no call. -/
def Event.IsSparing : Event ℚ → Prop
  | .resolve _ _ | .resolveProfiles _ _ | .cancel _ | .work | .advance _ => False
  | _ => True

theorem spares_step (w : Workspace ℚ) {e : Event ℚ} (he : e.IsSparing) :
    SparesCalls w (w.step e) := by
  cases e with
  | runPass buffer text => exact spares_runPass w buffer text
  | attach buffer path text => exact spares_attach w buffer path text
  | notify buffer text => exact spares_notify w buffer text
  | flush buffer => exact spares_flush w buffer
  | settle buffer => exact spares_start w _
  | detach buffer =>
    have herase : SparesCalls w { w with debouncerOf := w.debouncerOf.erase buffer } :=
      ⟨rfl, rfl, rfl⟩
    exact herase.trans (spares_start _ _)
  | shutdown =>
    have herase : SparesCalls w { w with debouncerOf := [] } := ⟨rfl, rfl, rfl⟩
    exact herase.trans (spares_start _ _)
  | dispose =>
    have herase : SparesCalls w { w with debouncerOf := [] } := ⟨rfl, rfl, rfl⟩
    exact herase.trans (spares_start _ _)
  | annotate buffer text =>
    have hpass := spares_runPass w (buffer.getD w.freshBuffer) text
    have hnext : SparesCalls w { (w.runPass (buffer.getD w.freshBuffer) text).2 with
        nextCaller := (w.runPass (buffer.getD w.freshBuffer) text).2.nextCaller + 1 } :=
      hpass.trans ⟨rfl, rfl, rfl⟩
    exact hnext.trans (spares_proceed _ _ _ _)
  | respond url delivery => exact ⟨rfl, rfl, rfl⟩
  | sweep =>
    have hcache : SparesCalls w
        { w with desk.cache := (w.desk.cache.sweep w.agenda.now).2 } := ⟨rfl, rfl, rfl⟩
    exact List.foldlRecOn (motive := SparesCalls w) _ _ hcache
      fun w' h n _ => h.trans ⟨rfl, rfl, rfl⟩
  | clear => exact ⟨rfl, rfl, rfl⟩
  | _ => exact he.elim

theorem spares_ring (w : Workspace ℚ) (alarm : Alarm) : SparesCalls w (ring w alarm) := by
  cases alarm with
  | timer id timer => exact spares_withDebouncer w id _
  | limiter r => exact spares_applyDesk w _
  | reply r reply => exact spares_soon w rfl

end CommitMessage.Workspace
