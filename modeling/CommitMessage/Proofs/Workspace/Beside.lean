import CommitMessage.Proofs.Board.Ending
import CommitMessage.Proofs.Board.Ledger
import CommitMessage.Proofs.Workspace.Inquiries

/-! What goes on beside texts and timers: lookups, calls, and the groups of the board. None of it
makes a pass, and no timer notices it. -/

namespace CommitMessage.Workspace

variable {w w' w'' : Workspace ℚ}

def Entry.published? : Entry ℚ → Option (Text × List Lint.Finding)
  | .published buffer findings => some (buffer, findings)
  | _ => none

/-- What has been published, the latest first. -/
def published (w : Workspace ℚ) : List (Text × List Lint.Finding) :=
  w.record.filterMap Entry.published?

/-- Jobs have been added, and nothing has changed for the timers and those who wait for them. -/
structure KeepsTimers (w w' : Workspace ℚ) : Prop where
  debouncerOf : w'.debouncerOf = w.debouncerOf
  debouncers : w'.debouncers = w.debouncers
  nextDebouncer : w'.nextDebouncer = w.nextDebouncer
  callers : w'.callers = w.callers
  nextCaller : w'.nextCaller = w.nextCaller
  jobs : w.agenda.jobs ⊆ w'.agenda.jobs
  alarms : ∀ time id timer, (time, .timer id timer) ∈ w.agenda.alarms →
    (time, Alarm.timer id timer) ∈ w'.agenda.alarms

/-- Nor has a pass been made. -/
structure Beside (w w' : Workspace ℚ) : Prop extends KeepsTimers w w' where
  texts : w'.texts = w.texts
  latest : w'.latest = w.latest
  generation : ∀ buffer, w'.board.generation buffer = w.board.generation buffer
  published : w'.published = w.published

theorem KeepsTimers.refl (w : Workspace ℚ) : KeepsTimers w w :=
  ⟨rfl, rfl, rfl, rfl, rfl, fun _ h => h, fun _ _ _ h => h⟩

theorem KeepsTimers.trans (h : KeepsTimers w w') (h' : KeepsTimers w' w'') : KeepsTimers w w'' :=
  ⟨h'.debouncerOf.trans h.debouncerOf, h'.debouncers.trans h.debouncers,
    h'.nextDebouncer.trans h.nextDebouncer, h'.callers.trans h.callers,
    h'.nextCaller.trans h.nextCaller, fun _ hj => h'.jobs (h.jobs hj),
    fun _ _ _ ha => h'.alarms _ _ _ (h.alarms _ _ _ ha)⟩

theorem Beside.refl (w : Workspace ℚ) : Beside w w := ⟨.refl w, rfl, rfl, fun _ => rfl, rfl⟩

theorem Beside.trans (h : Beside w w') (h' : Beside w' w'') : Beside w w'' :=
  ⟨h.toKeepsTimers.trans h'.toKeepsTimers, h'.texts.trans h.texts, h'.latest.trans h.latest,
    fun buffer => (h'.generation buffer).trans (h.generation buffer),
    h'.published.trans h.published⟩

theorem beside_soon (w : Workspace ℚ) (job : Job) : Beside w (w.soon job) :=
  ⟨⟨rfl, rfl, rfl, rfl, rfl, fun _ => List.mem_append_left _, fun _ _ _ h => h⟩, rfl, rfl,
    fun _ => rfl, rfl⟩

theorem keepsTimers_note (w : Workspace ℚ) (e : Entry ℚ) : KeepsTimers w (w.note e) :=
  ⟨rfl, rfl, rfl, rfl, rfl, fun _ h => h, fun _ _ _ h => h⟩

theorem beside_note (w : Workspace ℚ) {e : Entry ℚ} (he : e.published? = none) :
    Beside w (w.note e) :=
  ⟨keepsTimers_note w e, rfl, rfl, fun _ => rfl, List.filterMap_cons_none he⟩

theorem beside_later (w : Workspace ℚ) (delay : ℚ) (alarm : Alarm) :
    Beside w (w.later delay alarm) :=
  ⟨⟨rfl, rfl, rfl, rfl, rfl, fun _ h => h, fun _ _ _ h =>
    (insertAlarm_perm _ _ _).mem_iff.mpr (List.mem_append_left _ h)⟩, rfl, rfl, fun _ => rfl, rfl⟩

theorem beside_silence (w : Workspace ℚ) {p : Alarm → Bool}
    (hp : ∀ id timer, p (.timer id timer) = false) : Beside w (w.silence p) :=
  ⟨⟨rfl, rfl, rfl, rfl, rfl, fun _ h => h, fun _ _ _ h =>
    List.mem_filter.mpr ⟨h, by simp [hp]⟩⟩, rfl, rfl, fun _ => rfl, rfl⟩

/-! Lookups -/

theorem beside_deskSignal (w : Workspace ℚ) (s : Desk.Signal ℚ Asker) :
    Beside w (w.deskSignal s) := by
  cases s with
  | fetchTurn r => exact beside_soon w _
  | limiterTurn r => exact beside_soon w _
  | sleep r delay => exact beside_later w delay _
  | request r url =>
    have hnote : Beside w (w.note (.fetched url w.agenda.now)) := beside_note w rfl
    simp only [deskSignal, Workspace.request]
    split
    · exact hnote.trans (beside_later _ _ _)
    · exact hnote
  | withdraw r => exact beside_silence w fun _ _ => rfl
  | deliver asker outcome => exact beside_soon w _
  | forget r => exact beside_soon w _
  | note e => exact beside_note w rfl

theorem beside_applyDesk (w : Workspace ℚ) (change : Desk ℚ Asker × List (Desk.Signal ℚ Asker)) :
    Beside w (w.applyDesk change) := by
  have hdesk : Beside w { w with desk := change.1 } :=
    ⟨⟨rfl, rfl, rfl, rfl, rfl, fun _ h => h, fun _ _ _ h => h⟩, rfl, rfl, fun _ => rfl, rfl⟩
  exact List.foldlRecOn (motive := Beside w) change.2 deskSignal hdesk
    fun w' h s _ => h.trans (beside_deskSignal w' s)

theorem beside_applyTurn (w : Workspace ℚ) (change : Desk ℚ Asker × List (Desk.Signal ℚ Asker)) :
    Beside w (w.applyTurn change) := by
  unfold applyTurn
  dsimp only
  split
  · exact (beside_applyDesk w change).trans (beside_applyDesk _ _)
  · exact beside_applyDesk w change

theorem beside_ask (w : Workspace ℚ) (asker : Asker) (pass : Option Text) (r : Reference) :
    Beside w (w.ask asker pass r).2 := beside_applyDesk w _

/-! The board -/

theorem beside_handOver (w : Workspace ℚ) (pass : Option Text) (c : Board.Commit) :
    Beside w (w.handOver pass c) := by
  unfold handOver
  split
  · exact .refl w
  · dsimp only
    split
    · exact (beside_note w rfl).trans (beside_note _ rfl)
    · exact beside_note w rfl

theorem beside_boardSignal (w : Workspace ℚ) (x : Board.Signal) : Beside w (w.boardSignal x) := by
  cases x with
  | groupTurn group => exact beside_soon w _
  | slotTurn group slot => exact beside_soon w _
  | ask group slot pass r => exact .refl w
  | withdraw group slot =>
    exact ⟨⟨rfl, rfl, rfl, rfl, rfl, fun _ h => h, fun _ _ _ h => h⟩, rfl, rfl, fun _ => rfl, rfl⟩
  | commit pass c => exact beside_handOver w pass c
  | note e => exact beside_note w rfl
  | ended group => exact .refl w

theorem beside_boardSignals (w : Workspace ℚ) (change : Board × List Board.Signal) :
    Beside { w with board := change.1 } (w.applyBoard change) :=
  List.foldlRecOn (motive := Beside { w with board := change.1 }) change.2 boardSignal (.refl _)
    fun w' h x _ => h.trans (beside_boardSignal w' x)

theorem keepsTimers_applyBoard (w : Workspace ℚ) (change : Board × List Board.Signal) :
    KeepsTimers w (w.applyBoard change) :=
  have hboard : KeepsTimers w { w with board := change.1 } :=
    ⟨rfl, rfl, rfl, rfl, rfl, fun _ h => h, fun _ _ _ h => h⟩
  hboard.trans (beside_boardSignals w change).toKeepsTimers

theorem beside_applyBoard (w : Workspace ℚ) {change : Board × List Board.Signal}
    (hg : ∀ buffer, change.1.generation buffer = w.board.generation buffer) :
    Beside w (w.applyBoard change) :=
  have hboard : Beside w { w with board := change.1 } :=
    ⟨⟨rfl, rfl, rfl, rfl, rfl, fun _ h => h, fun _ _ _ h => h⟩, rfl, rfl, hg, rfl⟩
  hboard.trans (beside_boardSignals w change)

theorem beside_answer (w : Workspace ℚ) (id slot : Nat) (outcome : Outcome) :
    Beside w (w.applyBoard (w.board.answer id slot outcome)) :=
  beside_applyBoard w (Board.ending_answer w.board id slot outcome).1.generation_eq

theorem beside_slotTurn (w : Workspace ℚ) (id slot : Nat) : Beside w (w.slotTurn id slot) := by
  have hboard : Beside w { w with board := (w.board.slotTurn id slot).1 } :=
    ⟨⟨rfl, rfl, rfl, rfl, rfl, fun _ h => h, fun _ _ _ h => h⟩, rfl, rfl,
      (Board.ending_slotTurn w.board id slot).1.generation_eq, rfl⟩
  unfold Workspace.slotTurn
  dsimp only
  split
  · next group i pass r _ =>
    have hask := hboard.trans (beside_ask _ (.slot group i) (some pass) r)
    split
    · exact hask.trans (beside_answer _ _ _ _)
    · exact hask
  · exact hboard

/-! Calls -/

theorem beside_calls (w : Workspace ℚ) (calls : Register Nat Call) (next : Nat) :
    Beside w { w with calls, nextCall := next } :=
  ⟨⟨rfl, rfl, rfl, rfl, rfl, fun _ h => h, fun _ _ _ h => h⟩, rfl, rfl, fun _ => rfl, rfl⟩

theorem beside_setCall (w : Workspace ℚ) (id : Nat) (c : Call) : Beside w (w.setCall id c) :=
  beside_calls w _ _

theorem beside_endCall (w : Workspace ℚ) (id : Nat) (c : Call) (result : CallResult) :
    Beside w (w.endCall id c result) :=
  (beside_calls w _ _).trans (beside_note _ rfl)

theorem beside_memberAnswer (w : Workspace ℚ) (id place : Nat) (outcome : Outcome) :
    Beside w (w.memberAnswer id place outcome) := by
  unfold memberAnswer
  split
  · split
    · dsimp only
      split
      · exact beside_setCall w id _
      · exact (beside_setCall w id _).trans (beside_soon _ _)
    · exact (beside_setCall w id _).trans (beside_soon _ _)
    · exact .refl w
  · exact .refl w

theorem beside_memberTurn (w : Workspace ℚ) (id place : Nat) :
    Beside w (w.memberTurn id place) := by
  unfold memberTurn
  split
  · split
    · dsimp only
      split
      · exact (beside_ask w _ _ _).trans (beside_memberAnswer _ _ _ _)
      · exact beside_ask w _ _ _
    · exact .refl w
  · exact .refl w

theorem beside_startCall (w : Workspace ℚ) (id : Nat) (c : Call) :
    Beside w (w.startCall id c) := by
  unfold startCall
  split
  · dsimp only
    split
    · exact (beside_ask w _ _ _).trans (beside_endCall _ _ _ _)
    · exact (beside_ask w _ _ _).trans (beside_setCall _ _ _)
  · exact beside_endCall w id c _
  · exact List.foldlRecOn (motive := Beside w) _ _ (beside_setCall w id _)
      fun w' h place _ => h.trans (beside_soon w' _)

theorem beside_callTurn (w : Workspace ℚ) (id : Nat) : Beside w (w.callTurn id) := by
  unfold callTurn
  split
  · exact .refl w
  · split
    · exact beside_endCall w id _ _
    · split
      · exact beside_startCall w id _
      · exact .refl w
      · exact beside_endCall w id _ _

theorem beside_callAnswer (w : Workspace ℚ) (id : Nat) (outcome : Outcome) :
    Beside w (w.callAnswer id outcome) := by
  unfold callAnswer
  split
  · split
    · exact .refl w
    · exact beside_endCall w id _ _
  · exact .refl w

theorem beside_deliver (w : Workspace ℚ) (asker : Asker) (outcome : Outcome) :
    Beside w (w.deliver asker outcome) := by
  cases asker with
  | slot id slot => exact beside_answer w id slot outcome
  | call id => exact beside_callAnswer w id outcome
  | member id place => exact beside_memberAnswer w id place outcome

theorem beside_call (w : Workspace ℚ) (tag : Text) (wanted : Wanted) :
    Beside w (w.call tag wanted) :=
  (beside_calls w _ _).trans (beside_soon _ _)

theorem beside_cancel (w : Workspace ℚ) (tag : Text) : Beside w (w.cancel tag).2 := by
  unfold cancel
  split
  · exact .refl w
  · next id c _ =>
    have hset := beside_setCall w id { c with calledOff := true }
    dsimp only
    split
    · exact .refl w
    · split
      · have hdesk (desk : Desk ℚ Asker) : Beside (w.setCall id { c with calledOff := true })
            { w.setCall id { c with calledOff := true } with desk } :=
          ⟨⟨rfl, rfl, rfl, rfl, rfl, fun _ h => h, fun _ _ _ h => h⟩, rfl, rfl, fun _ => rfl, rfl⟩
        exact (hset.trans (hdesk _)).trans (beside_soon _ _)
      · exact hset

/-! Jobs and events -/

/-- A job of a timer or of one who waits. -/
def Job.IsTiming : Job → Prop
  | .timer _ _ | .caller _ => True
  | _ => False

theorem beside_perform (w : Workspace ℚ) {job : Job} (hj : ¬ job.IsTiming) :
    Beside w (w.perform job) := by
  cases job with
  | timer id timer => exact absurd trivial hj
  | caller id => exact absurd trivial hj
  | group id =>
    exact beside_applyBoard w (Board.ending_groupTurn w.board id).1.generation_eq
  | slot id slot => exact beside_slotTurn w id slot
  | fetch r => exact beside_applyTurn w _
  | limiter r => exact beside_applyTurn w _
  | reply r reply => exact beside_applyDesk w _
  | forget r => exact beside_applyDesk w _
  | answer asker outcome => exact beside_deliver w asker outcome
  | call id => exact beside_callTurn w id
  | member id place => exact beside_memberTurn w id place

theorem beside_callCallers (w : Workspace ℚ) : Beside w w.callCallers :=
  callCallers_rec (C := Beside w) (.refl w) fun w' _ h => h.trans (beside_soon w' _)

theorem beside_sweepCache (w : Workspace ℚ) : Beside w w.sweepCache.2 := by
  have hdesk : Beside w { w with desk.cache := (w.desk.cache.sweep w.agenda.now).2 } :=
    ⟨⟨rfl, rfl, rfl, rfl, rfl, fun _ h => h, fun _ _ _ h => h⟩, rfl, rfl, fun _ => rfl, rfl⟩
  exact List.foldlRecOn (motive := Beside w) _ _ hdesk
    fun w' h n _ => h.trans (beside_note w' rfl)

/-- An event that has to do with lookups alone. -/
def Event.IsBeside : Event ℚ → Prop
  | .resolve _ _ | .resolveProfiles _ _ | .cancel _ | .respond _ _ | .sweep | .clear => True
  | _ => False

theorem beside_step (w : Workspace ℚ) {e : Event ℚ} (he : e.IsBeside) : Beside w (w.step e) := by
  cases e with
  | resolve tag r => exact beside_call w tag _
  | resolveProfiles tag names => exact beside_call w tag _
  | cancel tag => exact beside_cancel w tag
  | respond url delivery =>
    exact ⟨⟨rfl, rfl, rfl, rfl, rfl, fun _ h => h, fun _ _ _ h => h⟩, rfl, rfl, fun _ => rfl, rfl⟩
  | sweep => exact beside_sweepCache w
  | clear =>
    exact ⟨⟨rfl, rfl, rfl, rfl, rfl, fun _ h => h, fun _ _ _ h => h⟩, rfl, rfl, fun _ => rfl, rfl⟩
  | _ => exact he.elim

/-! Passes -/

theorem keepsTimers_runPass (w : Workspace ℚ) (buffer text : Text) :
    KeepsTimers w (w.runPass buffer text).2 := by
  have htexts : KeepsTimers w { w with texts := w.texts.set buffer text } :=
    ⟨rfl, rfl, rfl, rfl, rfl, fun _ h => h, fun _ _ _ h => h⟩
  have hboard := htexts.trans (keepsTimers_applyBoard _ (w.board.startPass buffer
    ((Occurrence.ofLines text.messageLines).map Occurrence.mention)).2)
  obtain ⟨w', h, he⟩ := runPass_rec (C := KeepsTimers w) w buffer text hboard
    (fun w' _ h => h.trans (keepsTimers_note w' _)) fun w' _ h => h.trans (keepsTimers_note w' _)
  rw [he]
  exact ⟨h.debouncerOf, h.debouncers, h.nextDebouncer, h.callers, h.nextCaller, h.jobs, h.alarms⟩

theorem keepsTimers_runLatest (w : Workspace ℚ) (buffer : Text) :
    KeepsTimers w (w.runLatest buffer) := by
  unfold runLatest
  split
  · exact keepsTimers_runPass w buffer _
  · exact .refl w

theorem keepsTimers_attach (w : Workspace ℚ) (buffer path text : Text) :
    KeepsTimers w (w.attach buffer path text).2 := by
  unfold attach
  split
  · exact keepsTimers_runPass w buffer text
  · exact keepsTimers_note w _

theorem withDebouncer_callers (w : Workspace ℚ) (id : Nat)
    (change : Debouncer ℚ → Debouncer ℚ × List (Debouncer.Signal ℚ)) :
    (w.withDebouncer id change).callers = w.callers ∧
      (w.withDebouncer id change).nextCaller = w.nextCaller := by
  have hone (buffer : Text) (w : Workspace ℚ) (s : Debouncer.Signal ℚ) :
      (debouncerSignal id buffer w s).callers = w.callers ∧
        (debouncerSignal id buffer w s).nextCaller = w.nextCaller := by
    cases s with
    | turn timer => exact ⟨rfl, rfl⟩
    | sleep timer delay => exact ⟨rfl, rfl⟩
    | run timer =>
      have hrun := keepsTimers_runLatest w buffer
      simp only [debouncerSignal]
      split <;> exact ⟨hrun.callers, hrun.nextCaller⟩
    | ended timer => exact ⟨rfl, rfl⟩
  unfold withDebouncer
  split
  · next buffer d _ =>
    let set : Workspace ℚ := { w with debouncers := w.debouncers.set id (buffer, (change d).1) }
    have hset : set.callers = w.callers ∧ set.nextCaller = w.nextCaller := ⟨rfl, rfl⟩
    exact List.foldlRecOn (motive := fun w' : Workspace ℚ => w'.callers = w.callers ∧
        w'.nextCaller = w.nextCaller) (change d).2 (debouncerSignal id buffer) hset
      fun w' h s _ => ⟨(hone buffer w' s).1.trans h.1, (hone buffer w' s).2.trans h.2⟩
  · exact ⟨rfl, rfl⟩

/-! What callers owe -/

/-- What remains to be done for one of the callers. -/
def Owes (w : Workspace ℚ) (phase : Phase) : Prop :=
  ∃ caller plan, w.callers.get? caller = some plan ∧ phase ∈ plan

theorem owes_congr (hc : w'.callers = w.callers) : w'.Owes = w.Owes := by
  unfold Owes
  rw [hc]

/-- What remains to be done for callers other than one. -/
def OthersOwe (w : Workspace ℚ) (caller : Nat) (phase : Phase) : Prop :=
  ∃ other plan, other ≠ caller ∧ w.callers.get? other = some plan ∧ phase ∈ plan

theorem keepsTimers_enter (w : Workspace ℚ) (caller : Nat) {phase : Phase}
    (hp : ∀ id, phase ≠ .callOffTimers id) : KeepsTimers w (w.enter caller phase).1 := by
  have hsame {w' : Workspace ℚ} (hw : w' = { w with
      texts := w'.texts, latest := w'.latest, board := w'.board, record := w'.record }) :
      KeepsTimers w w' := by
    rw [hw]
    exact ⟨rfl, rfl, rfl, rfl, rfl, fun _ h => h, fun _ _ _ h => h⟩
  cases phase with
  | callOffTimers id => exact absurd rfl (hp id)
  | drop buffer =>
    simp only [enter]
    split <;> exact hsame rfl
  | idle buffer =>
    simp only [enter]
    split <;> exact .refl w
  | callOffSheet sheet => exact keepsTimers_applyBoard w _
  | stopFetches kind =>
    exact ((beside_applyDesk w _).trans (beside_silence _ fun _ _ => rfl)).toKeepsTimers
  | _ => exact hsame rfl

theorem enter_callers (w : Workspace ℚ) (caller : Nat) (phase : Phase) :
    (w.enter caller phase).1.callers = w.callers ∧
      (w.enter caller phase).1.nextCaller = w.nextCaller := by
  by_cases hp : ∃ id, phase = .callOffTimers id
  · obtain ⟨id, rfl⟩ := hp
    exact withDebouncer_callers w id _
  · have hkeeps := keepsTimers_enter w caller fun id he => hp ⟨id, he⟩
    exact ⟨hkeeps.callers, hkeeps.nextCaller⟩

theorem owes_set (w : Workspace ℚ) (caller : Nat) (plan : List Phase) (phase : Phase) :
    Owes { w with callers := w.callers.set caller plan } phase ↔
      phase ∈ plan ∨ w.OthersOwe caller phase := by
  constructor
  · rintro ⟨other, plan', hget, hm⟩
    rw [Register.get?_set] at hget
    split at hget
    · cases hget
      exact .inl hm
    · next hne => exact .inr ⟨other, plan', hne, hget, hm⟩
  · rintro (hm | ⟨other, plan', hne, hget, hm⟩)
    · exact ⟨caller, plan, by simp, hm⟩
    · exact ⟨other, plan', by simp [hne, hget], hm⟩

theorem owes_erase (w : Workspace ℚ) (caller : Nat) (phase : Phase) :
    Owes { w with callers := w.callers.erase caller } phase ↔ w.OthersOwe caller phase := by
  constructor
  · rintro ⟨other, plan, hget, hm⟩
    rw [Register.get?_erase] at hget
    split at hget
    · cases hget
    · next hne => exact ⟨other, plan, hne, hget, hm⟩
  · rintro ⟨other, plan, hne, hget, hm⟩
    exact ⟨other, plan, by simp [hne, hget], hm⟩

/-- What is owed is done phase by phase. -/
theorem proceed_owing {C : (Phase → Prop) → Workspace ℚ → Prop} (caller : Nat)
    (hcallers : ∀ {w} {debts : Phase → Prop} (callers : Register Nat (List Phase)), C debts w →
      C debts { w with callers })
    (hdone : ∀ {w} {debts : Phase → Prop}, C debts w → C debts (w.note (.returned caller)))
    (henter : ∀ {w} {debts : Phase → Prop} (phase : Phase), C (fun p => p = phase ∨ debts p) w →
      C (fun p => p ∈ (w.enter caller phase).2 ∨ debts p) (w.enter caller phase).1)
    (fuel : Nat) (plan : List Phase) {w : Workspace ℚ}
    (hw : C (fun p => p ∈ plan ∨ w.OthersOwe caller p) w) :
    C (proceed caller fuel plan w).Owes (proceed caller fuel plan w) := by
  have hsame {w : Workspace ℚ} {debts debts' : Phase → Prop} (hw : C debts w)
      (hp : ∀ p, debts' p ↔ debts p) : C debts' w := by
    rwa [funext fun p => propext (hp p)]
  have hwait (plan : List Phase) {w : Workspace ℚ}
      (hw : C (fun p => p ∈ plan ∨ w.OthersOwe caller p) w) :
      C { w with callers := w.callers.set caller plan }.Owes
        { w with callers := w.callers.set caller plan } :=
    hsame (hcallers _ hw) (owes_set w caller plan)
  have hreturn {w : Workspace ℚ} (hw : C (fun p => p ∈ [] ∨ w.OthersOwe caller p) w) :
      C ({ w with callers := w.callers.erase caller }.note (.returned caller)).Owes
        ({ w with callers := w.callers.erase caller }.note (.returned caller)) :=
    hsame (hdone (hcallers _ hw)) fun p => (owes_erase w caller p).trans (by simp)
  induction fuel generalizing plan w with
  | zero =>
    cases plan with
    | nil => exact hreturn hw
    | cons phase rest => exact hwait _ hw
  | succ fuel ih =>
    cases plan with
    | nil => exact hreturn hw
    | cons phase rest =>
      by_cases hover : w.isOver phase = true
      · have hstep : proceed caller (fuel + 1) (phase :: rest) w =
            proceed caller fuel ((w.enter caller phase).2 ++ rest) (w.enter caller phase).1 := by
          rw [proceed, if_pos hover]
        rw [hstep]
        have hentered : C (fun p => p ∈ (w.enter caller phase).2 ∨ p ∈ rest ∨
            w.OthersOwe caller p) (w.enter caller phase).1 :=
          henter phase (hsame hw fun p => by rw [List.mem_cons, or_assoc])
        refine ih _ (hsame hentered fun p => ?_)
        have hothers : (w.enter caller phase).1.OthersOwe caller p ↔ w.OthersOwe caller p := by
          simp only [OthersOwe, (enter_callers w caller phase).1]
        rw [hothers, List.mem_append, or_assoc]
      · rw [proceed, if_neg hover]
        exact hwait _ hw

end CommitMessage.Workspace
