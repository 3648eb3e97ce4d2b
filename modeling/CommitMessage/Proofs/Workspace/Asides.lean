import CommitMessage.Proofs.Lookup.Traffic
import CommitMessage.Proofs.Workspace.Effects

/-! What a workspace does besides looking up references. The desk sees none of it: texts, passes,
timers, callers, and all that the board does but call off its groups. -/

namespace CommitMessage.Workspace

def Job.turn? : Job → Option Reference
  | .fetch r => some r
  | _ => none

def Job.reply? : Job → Option (Reference × Reply)
  | .reply r received => some (r, received)
  | _ => none

def Job.answer? : Job → Option (Asker × Outcome)
  | .answer asker outcome => some (asker, outcome)
  | _ => none

def Alarm.reply? : Alarm → Option (Reference × Reply)
  | .reply r received => some (r, received)
  | _ => none

def Entry.request? : Entry ℚ → Option (Text × ℚ)
  | .fetched url time => some (url, time)
  | _ => none

/-- What has been fetched, and when, in the order of the requests. -/
def fetched (w : Workspace ℚ) : List (Text × ℚ) := (w.record.filterMap Entry.request?).reverse

/-- Replies on their way, and those that have come and wait to be read. -/
def replies (w : Workspace ℚ) : Multiset (Reference × Reply) :=
  ↑(w.agenda.jobs.filterMap Job.reply? ++ w.agenda.alarms.filterMap fun e => Alarm.reply? e.2)

/-- What the desk sees of a workspace. -/
def traffic (w : Workspace ℚ) : Desk.Traffic Asker where
  now := w.agenda.now
  hosts := w.desk.hosts
  cache := w.desk.cache
  interval := w.desk.limiter.interval
  lastGrant := w.desk.limiter.lastGrant
  fetches := w.desk.fetches
  clients := w.desk.limiter.clients
  turns := w.agenda.jobs.filterMap Job.turn?
  replies := w.replies
  forgets := forgetting w.agenda.jobs
  answers := w.agenda.jobs.filterMap Job.answer?
  requests := w.fetched

/-- Nothing has changed for the desk, nor for those who wait. -/
structure Quiet (w w' : Workspace ℚ) : Prop where
  traffic : w'.traffic = w.traffic
  desk : w'.desk = w.desk
  callers : w'.callers = w.callers

variable {w w' w'' : Workspace ℚ}

theorem Quiet.refl (w : Workspace ℚ) : Quiet w w := ⟨rfl, rfl, rfl⟩

theorem Quiet.trans (h : Quiet w w') (h' : Quiet w' w'') : Quiet w w'' :=
  ⟨h'.traffic.trans h.traffic, h'.desk.trans h.desk, h'.callers.trans h.callers⟩

/-- A job that is none of the desk. -/
def Job.IsAside : Job → Prop
  | .fetch _ | .reply _ _ | .forget _ | .answer _ _ => False
  | _ => True

theorem quiet_soon (w : Workspace ℚ) {job : Job} (hj : job.IsAside) : Quiet w (w.soon job) := by
  refine ⟨?_, rfl, rfl⟩
  cases job with
  | fetch r => exact hj.elim
  | reply r reply => exact hj.elim
  | forget r => exact hj.elim
  | answer asker outcome => exact hj.elim
  | _ =>
    simp [traffic, replies, fetched, forgetting, Workspace.soon, Agenda.soon, List.filterMap_cons,
      Job.turn?, Job.reply?, Job.answer?]

theorem quiet_timer (w : Workspace ℚ) (delay : ℚ) (debouncer timer : Nat) :
    Quiet w (w.later delay (.timer debouncer timer)) := by
  have hp := (insertAlarm_perm (w.agenda.now + delay) (Alarm.timer debouncer timer)
    w.agenda.alarms).filterMap fun e => Alarm.reply? e.2
  have hr : (w.later delay (.timer debouncer timer)).replies = w.replies := by
    refine Multiset.coe_eq_coe.mpr (List.Perm.append_left _ (hp.trans ?_))
    simp [Alarm.reply?]
  refine ⟨?_, rfl, rfl⟩
  unfold traffic
  rw [hr]
  rfl

theorem quiet_note (w : Workspace ℚ) {e : Entry ℚ} (he : e.request? = none) :
    Quiet w (w.note e) := by
  refine ⟨?_, rfl, rfl⟩
  simp [traffic, replies, fetched, Workspace.note, he]

/-! The board -/

theorem quiet_handOver (w : Workspace ℚ) (pass : Option Text) (c : Board.Commit) :
    Quiet w (w.handOver pass c) := by
  unfold handOver
  split
  · exact .refl w
  · dsimp only
    split
    · exact (quiet_note w rfl).trans (quiet_note _ rfl)
    · exact quiet_note w rfl

theorem quiet_boardSignal (w : Workspace ℚ) {x : Board.Signal} (hx : x.IsQuiet) :
    Quiet w (w.boardSignal x) := by
  cases x with
  | groupTurn id => exact quiet_soon w trivial
  | slotTurn id slot => exact quiet_soon w trivial
  | ask id slot pass r => exact hx.elim
  | withdraw id slot => exact hx.elim
  | commit pass c => exact quiet_handOver w pass c
  | note e => exact quiet_note w rfl
  | ended id => exact .refl w

theorem quiet_applyBoard (w : Workspace ℚ) {change : Board × List Board.Signal}
    (hq : ∀ x ∈ change.2, x.IsQuiet) : Quiet w (w.applyBoard change) := by
  have hboard : Quiet w { w with board := change.1 } := ⟨rfl, rfl, rfl⟩
  exact List.foldlRecOn (motive := Quiet w) change.2 boardSignal hboard
    fun w' h x hx => h.trans (quiet_boardSignal w' (hq x hx))

theorem quiet_runPass (w : Workspace ℚ) (buffer text : Text) :
    Quiet w (w.runPass buffer text).2 := by
  have htexts : Quiet w { w with texts := w.texts.set buffer text } := ⟨rfl, rfl, rfl⟩
  have hboard := htexts.trans (quiet_applyBoard _ (Board.isQuiet_startPass w.board buffer
    ((Occurrence.ofLines text.messageLines).map Occurrence.mention)))
  obtain ⟨w', h, he⟩ := runPass_rec (C := Quiet w) w buffer text hboard
    (fun w' _ h => h.trans (quiet_note w' rfl)) fun w' _ h => h.trans (quiet_note w' rfl)
  rw [he]
  exact ⟨h.traffic, h.desk, h.callers⟩

theorem quiet_runLatest (w : Workspace ℚ) (buffer : Text) : Quiet w (w.runLatest buffer) := by
  unfold runLatest
  split
  · exact quiet_runPass w buffer _
  · exact .refl w

theorem quiet_attach (w : Workspace ℚ) (buffer path text : Text) :
    Quiet w (w.attach buffer path text).2 := by
  unfold attach
  split
  · exact quiet_runPass w buffer text
  · exact quiet_note w rfl

/-! Timers -/

theorem quiet_debouncerSignal (id : Nat) (buffer : Text) (w : Workspace ℚ)
    (s : Debouncer.Signal ℚ) : Quiet w (debouncerSignal id buffer w s) := by
  cases s with
  | turn timer => exact quiet_soon w trivial
  | sleep timer delay => exact quiet_timer w delay id timer
  | run timer =>
    have hrun := quiet_runLatest w buffer
    unfold debouncerSignal
    dsimp only
    split
    · exact ⟨hrun.traffic, hrun.desk, hrun.callers⟩
    · exact hrun
  | ended timer => exact .refl w

theorem quiet_withDebouncer (w : Workspace ℚ) (id : Nat)
    (change : Debouncer ℚ → Debouncer ℚ × List (Debouncer.Signal ℚ)) :
    Quiet w (w.withDebouncer id change) := by
  unfold withDebouncer
  split
  · rename_i buffer d hd
    have hset : Quiet w { w with
        debouncers := w.debouncers.set id (buffer, (change d).1) } := ⟨rfl, rfl, rfl⟩
    exact List.foldlRecOn (motive := Quiet w) (change d).2 (debouncerSignal id buffer) hset
      fun w' h s _ => h.trans (quiet_debouncerSignal id buffer w' s)
  · exact .refl w

theorem quiet_debouncerFor (w : Workspace ℚ) (buffer : Text) :
    Quiet w (w.debouncerFor buffer).2 := by
  unfold debouncerFor
  split
  · exact .refl w
  · exact ⟨rfl, rfl, rfl⟩

theorem quiet_notify (w : Workspace ℚ) (buffer text : Text) : Quiet w (w.notify buffer text) := by
  have htexts : Quiet w { w with texts := w.texts.set buffer text } := ⟨rfl, rfl, rfl⟩
  have hfor := htexts.trans (quiet_debouncerFor _ buffer)
  unfold notify
  exact hfor.trans (quiet_withDebouncer _ _ Debouncer.trigger)

theorem quiet_flush (w : Workspace ℚ) (buffer : Text) : Quiet w (w.flush buffer).2 := by
  unfold flush
  split
  · split
    · exact (quiet_withDebouncer w _ _).trans (quiet_runLatest _ buffer)
    · exact .refl w
  · exact .refl w

/-! Calls -/

theorem quiet_call (w : Workspace ℚ) (tag : Text) (wanted : Wanted) :
    Quiet w (w.call tag wanted) := by
  have hset : Quiet w { w with
      nextCall := w.nextCall + 1
      calls := w.calls.set w.nextCall { tag, wanted } } := ⟨rfl, rfl, rfl⟩
  exact hset.trans (quiet_soon _ trivial)

theorem quiet_setCall (w : Workspace ℚ) (id : Nat) (c : Call) : Quiet w (w.setCall id c) :=
  ⟨rfl, rfl, rfl⟩

theorem quiet_endCall (w : Workspace ℚ) (id : Nat) (c : Call) (result : CallResult) :
    Quiet w (w.endCall id c result) := by
  have herase : Quiet w { w with calls := w.calls.erase id } := ⟨rfl, rfl, rfl⟩
  exact herase.trans (quiet_note _ rfl)

theorem quiet_memberAnswer (w : Workspace ℚ) (id place : Nat) (outcome : Outcome) :
    Quiet w (w.memberAnswer id place outcome) := by
  unfold memberAnswer
  split
  · split
    · dsimp only
      split
      · exact quiet_setCall w id _
      · exact (quiet_setCall w id _).trans (quiet_soon _ trivial)
    · exact (quiet_setCall w id _).trans (quiet_soon _ trivial)
    · exact .refl w
  · exact .refl w

theorem quiet_callAnswer (w : Workspace ℚ) (id : Nat) (outcome : Outcome) :
    Quiet w (w.callAnswer id outcome) := by
  unfold callAnswer
  split
  · split
    · exact .refl w
    · exact quiet_endCall w id _ _
  · exact .refl w

theorem quiet_deliver (w : Workspace ℚ) (asker : Asker) (outcome : Outcome) :
    Quiet w (w.deliver asker outcome) := by
  cases asker with
  | slot id slot => exact quiet_applyBoard w (Board.isQuiet_answer w.board id slot outcome)
  | call id => exact quiet_callAnswer w id outcome
  | member id place => exact quiet_memberAnswer w id place outcome

/-- Those callers who can go on get a turn, and nothing else happens. -/
theorem callCallers_rec {C : Workspace ℚ → Prop} (hw : C w)
    (hs : ∀ w' id, C w' → C (w'.soon (.caller id))) : C w.callCallers := by
  refine List.foldlRecOn w.callers _ hw fun w' h entry _ => ?_
  split
  · exact hs w' entry.1 h
  · exact h

/-- A caller enters one phase after the other, and waits or is done in the end. -/
theorem proceed_rec {C : Workspace ℚ → Prop} {good : Phase → Prop} (caller : Nat)
    (hwait : ∀ w plan, C w → (∀ p ∈ plan, good p) →
      C { w with callers := w.callers.set caller plan })
    (hdone : ∀ w, C w → C ({ w with callers := w.callers.erase caller }.note (.returned caller)))
    (henter : ∀ w phase, C w → good phase → C (w.enter caller phase).1 ∧
      ∀ p ∈ (w.enter caller phase).2, good p)
    (fuel : Nat) {plan : List Phase} (hp : ∀ p ∈ plan, good p) (hw : C w) :
    C (proceed caller fuel plan w) := by
  induction fuel generalizing plan w with
  | zero =>
    cases plan with
    | nil => exact hdone w hw
    | cons phase rest => exact hwait w _ hw hp
  | succ fuel ih =>
    cases plan with
    | nil => exact hdone w hw
    | cons phase rest =>
      unfold proceed
      split
      · obtain ⟨hentered, hphases⟩ := henter w phase hw (hp phase List.mem_cons_self)
        refine ih (fun p hm => ?_) hentered
        rcases List.mem_append.mp hm with hm | hm
        · exact hphases p hm
        · exact hp p (List.mem_cons_of_mem _ hm)
      · exact hwait w _ hw hp

end CommitMessage.Workspace
