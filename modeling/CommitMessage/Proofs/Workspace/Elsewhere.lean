import CommitMessage.Proofs.Workspace.Beside

/-! What goes on elsewhere: lookups and calls. No buffer notices any of it, and no one who waits
for a buffer. -/

namespace CommitMessage.Workspace

variable {w w' w'' : Workspace ℚ}

def Alarm.isTimer : Alarm → Bool
  | .timer _ _ => true
  | _ => false

/-- What is said about a buffer. -/
def Entry.isAbout (buffer : Text) : Entry ℚ → Bool
  | .committed c => c.buffer == buffer
  | .published buffer' _ => buffer' == buffer
  | _ => false

/-- Jobs have been added, and nothing has changed but for lookups and calls. -/
structure Elsewhere (w w' : Workspace ℚ) : Prop where
  board : w'.board = w.board
  texts : w'.texts = w.texts
  latest : w'.latest = w.latest
  debouncerOf : w'.debouncerOf = w.debouncerOf
  debouncers : w'.debouncers = w.debouncers
  callers : w'.callers = w.callers
  nextCaller : w'.nextCaller = w.nextCaller
  jobs : w.agenda.jobs ⊆ w'.agenda.jobs
  alarms : w'.agenda.alarms.filter (·.2.isTimer) = w.agenda.alarms.filter (·.2.isTimer)
  record : ∀ buffer, w'.record.filter (Entry.isAbout buffer) =
    w.record.filter (Entry.isAbout buffer)

theorem Elsewhere.refl (w : Workspace ℚ) : Elsewhere w w :=
  ⟨rfl, rfl, rfl, rfl, rfl, rfl, rfl, fun _ h => h, rfl, fun _ => rfl⟩

theorem Elsewhere.trans (h : Elsewhere w w') (h' : Elsewhere w' w'') : Elsewhere w w'' :=
  ⟨h'.board.trans h.board, h'.texts.trans h.texts, h'.latest.trans h.latest,
    h'.debouncerOf.trans h.debouncerOf, h'.debouncers.trans h.debouncers,
    h'.callers.trans h.callers, h'.nextCaller.trans h.nextCaller, fun _ hj => h'.jobs (h.jobs hj),
    h'.alarms.trans h.alarms, fun buffer => (h'.record buffer).trans (h.record buffer)⟩

theorem elsewhere_soon (w : Workspace ℚ) (job : Job) : Elsewhere w (w.soon job) :=
  ⟨rfl, rfl, rfl, rfl, rfl, rfl, rfl, List.subset_append_left _ _, rfl, fun _ => rfl⟩

theorem elsewhere_note (w : Workspace ℚ) {e : Entry ℚ} (he : ∀ buffer, e.isAbout buffer = false) :
    Elsewhere w (w.note e) :=
  ⟨rfl, rfl, rfl, rfl, rfl, rfl, rfl, fun _ h => h, rfl,
    fun buffer => List.filter_cons_of_neg (by simp [he])⟩

/-- Of the alarms that are left out of account, more may be set. -/
theorem filter_insertAlarm {α : Type} (p : ℚ × α → Bool) (time : ℚ) (a : α) (alarms : List (ℚ × α))
    (ha : p (time, a) = false) :
    (Agenda.insertAlarm time a alarms).filter p = alarms.filter p := by
  induction alarms with
  | nil => simp [Agenda.insertAlarm, ha]
  | cons first rest ih =>
    unfold Agenda.insertAlarm
    split
    · exact List.filter_cons_of_neg (by simp [ha])
    · simp only [List.filter_cons, ih]

theorem elsewhere_later (w : Workspace ℚ) (delay : ℚ) {alarm : Alarm}
    (ha : alarm.isTimer = false) : Elsewhere w (w.later delay alarm) :=
  ⟨rfl, rfl, rfl, rfl, rfl, rfl, rfl, fun _ h => h, filter_insertAlarm _ _ _ _ ha, fun _ => rfl⟩

theorem elsewhere_silence (w : Workspace ℚ) {p : Alarm → Bool}
    (hp : ∀ id timer, p (.timer id timer) = false) : Elsewhere w (w.silence p) := by
  refine ⟨rfl, rfl, rfl, rfl, rfl, rfl, rfl, fun _ h => h, ?_, fun _ => rfl⟩
  simp only [silence, Agenda.silence, List.filter_filter]
  refine List.filter_congr fun entry _ => ?_
  obtain ⟨time, alarm⟩ := entry
  cases alarm <;> simp [Alarm.isTimer, hp]

/-! Lookups -/

theorem elsewhere_deskSignal (w : Workspace ℚ) (s : Desk.Signal ℚ Asker) :
    Elsewhere w (w.deskSignal s) := by
  cases s with
  | fetchTurn r => exact elsewhere_soon w _
  | limiterTurn r => exact elsewhere_soon w _
  | sleep r delay => exact elsewhere_later w delay rfl
  | request r url =>
    have hnote : Elsewhere w (w.note (.fetched url w.agenda.now)) := elsewhere_note w fun _ => rfl
    simp only [deskSignal, Workspace.request]
    split
    · exact hnote.trans (elsewhere_later _ _ rfl)
    · exact hnote
  | withdraw r => exact elsewhere_silence w fun _ _ => rfl
  | deliver asker outcome => exact elsewhere_soon w _
  | forget r => exact elsewhere_soon w _
  | note e => exact elsewhere_note w fun _ => rfl

theorem elsewhere_desk (w : Workspace ℚ) (desk : Desk ℚ Asker) : Elsewhere w { w with desk } :=
  ⟨rfl, rfl, rfl, rfl, rfl, rfl, rfl, fun _ h => h, rfl, fun _ => rfl⟩

theorem elsewhere_applyDesk (w : Workspace ℚ)
    (change : Desk ℚ Asker × List (Desk.Signal ℚ Asker)) : Elsewhere w (w.applyDesk change) :=
  List.foldlRecOn (motive := Elsewhere w) change.2 deskSignal (elsewhere_desk w change.1)
    fun w' h s _ => h.trans (elsewhere_deskSignal w' s)

theorem elsewhere_applyTurn (w : Workspace ℚ)
    (change : Desk ℚ Asker × List (Desk.Signal ℚ Asker)) : Elsewhere w (w.applyTurn change) := by
  unfold applyTurn
  dsimp only
  split
  · exact (elsewhere_applyDesk w change).trans (elsewhere_applyDesk _ _)
  · exact elsewhere_applyDesk w change

theorem elsewhere_ask (w : Workspace ℚ) (asker : Asker) (pass : Option Text) (r : Reference) :
    Elsewhere w (w.ask asker pass r).2 := elsewhere_applyDesk w _

theorem elsewhere_stopFetches (w : Workspace ℚ) (kind : Reference.Kind) :
    Elsewhere w (w.stopFetches kind) :=
  (elsewhere_applyDesk w _).trans (elsewhere_silence _ fun _ _ => rfl)

/-! Calls -/

theorem elsewhere_calls (w : Workspace ℚ) (calls : Register Nat Call) (nextCall : Nat) :
    Elsewhere w { w with calls, nextCall } :=
  ⟨rfl, rfl, rfl, rfl, rfl, rfl, rfl, fun _ h => h, rfl, fun _ => rfl⟩

theorem elsewhere_setCall (w : Workspace ℚ) (id : Nat) (c : Call) :
    Elsewhere w (w.setCall id c) := elsewhere_calls w _ _

theorem elsewhere_endCall (w : Workspace ℚ) (id : Nat) (c : Call) (result : CallResult) :
    Elsewhere w (w.endCall id c result) :=
  (elsewhere_calls w (w.calls.erase id) w.nextCall).trans (elsewhere_note _ fun _ => rfl)

theorem elsewhere_memberAnswer (w : Workspace ℚ) (id place : Nat) (outcome : Outcome) :
    Elsewhere w (w.memberAnswer id place outcome) := by
  unfold memberAnswer
  split
  · split
    · dsimp only
      split
      · exact elsewhere_setCall w id _
      · exact (elsewhere_setCall w id _).trans (elsewhere_soon _ _)
    · exact (elsewhere_setCall w id _).trans (elsewhere_soon _ _)
    · exact .refl w
  · exact .refl w

theorem elsewhere_memberTurn (w : Workspace ℚ) (id place : Nat) :
    Elsewhere w (w.memberTurn id place) := by
  unfold memberTurn
  split
  · split
    · dsimp only
      split
      · exact (elsewhere_ask w _ _ _).trans (elsewhere_memberAnswer _ id place _)
      · exact elsewhere_ask w _ _ _
    · exact .refl w
  · exact .refl w

theorem elsewhere_startCall (w : Workspace ℚ) (id : Nat) (c : Call) :
    Elsewhere w (w.startCall id c) := by
  unfold startCall
  split
  · dsimp only
    split
    · exact (elsewhere_ask w _ _ _).trans (elsewhere_endCall _ id c _)
    · exact (elsewhere_ask w _ _ _).trans (elsewhere_setCall _ id _)
  · exact elsewhere_endCall w id c _
  · exact List.foldlRecOn (motive := Elsewhere w) _ _ (elsewhere_setCall w id _)
      fun w' h place _ => h.trans (elsewhere_soon w' _)

theorem elsewhere_callTurn (w : Workspace ℚ) (id : Nat) : Elsewhere w (w.callTurn id) := by
  unfold callTurn
  split
  · exact .refl w
  · split
    · exact elsewhere_endCall w id _ _
    · split
      · exact elsewhere_startCall w id _
      · exact .refl w
      · exact elsewhere_endCall w id _ _

theorem elsewhere_callAnswer (w : Workspace ℚ) (id : Nat) (outcome : Outcome) :
    Elsewhere w (w.callAnswer id outcome) := by
  unfold callAnswer
  split
  · split
    · exact .refl w
    · exact elsewhere_endCall w id _ _
  · exact .refl w

theorem elsewhere_cancel (w : Workspace ℚ) (tag : Text) : Elsewhere w (w.cancel tag).2 := by
  unfold cancel
  split
  · exact .refl w
  · next id c _ =>
    have hset := elsewhere_setCall w id { c with calledOff := true }
    dsimp only
    split
    · exact .refl w
    · split
      · exact (hset.trans (elsewhere_desk _ _)).trans (elsewhere_soon _ _)
      · exact hset

/-! Jobs and events -/

/-- A job of the desk or of a call. -/
def Job.isElsewhere : Job → Bool
  | .timer _ _ | .group _ | .slot _ _ | .answer (.slot _ _) _ | .caller _ => false
  | _ => true

theorem elsewhere_perform (w : Workspace ℚ) {job : Job} (hj : job.isElsewhere = true) :
    Elsewhere w (w.perform job) := by
  cases job with
  | fetch r => exact elsewhere_applyTurn w _
  | limiter r => exact elsewhere_applyTurn w _
  | reply r reply => exact elsewhere_applyDesk w _
  | forget r => exact elsewhere_applyDesk w _
  | call id => exact elsewhere_callTurn w id
  | member id place => exact elsewhere_memberTurn w id place
  | answer asker outcome =>
    cases asker with
    | slot id slot => cases hj
    | call id => exact elsewhere_callAnswer w id outcome
    | member id place => exact elsewhere_memberAnswer w id place outcome
  | _ => cases hj

theorem elsewhere_callCallers (w : Workspace ℚ) : Elsewhere w w.callCallers :=
  callCallers_rec (C := Elsewhere w) (.refl w) fun w' _ h => h.trans (elsewhere_soon w' _)

theorem elsewhere_step (w : Workspace ℚ) {e : Event ℚ} (he : e.IsBeside) :
    Elsewhere w (w.step e) := by
  cases e with
  | resolve tag r => exact (elsewhere_calls w _ _).trans (elsewhere_soon _ _)
  | resolveProfiles tag names => exact (elsewhere_calls w _ _).trans (elsewhere_soon _ _)
  | cancel tag => exact elsewhere_cancel w tag
  | respond url delivery =>
    exact ⟨rfl, rfl, rfl, rfl, rfl, rfl, rfl, fun _ h => h, rfl, fun _ => rfl⟩
  | sweep =>
    exact List.foldlRecOn (motive := Elsewhere w) _ _ (elsewhere_desk w _)
      fun w' h n _ => h.trans (elsewhere_note w' fun _ => rfl)
  | clear => exact elsewhere_desk w _
  | _ => exact he.elim

end CommitMessage.Workspace
