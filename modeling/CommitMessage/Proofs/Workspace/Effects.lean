import CommitMessage.Proofs.Board.Turns
import CommitMessage.Proofs.Lookup.Effort
import CommitMessage.Proofs.Lookup.Truth
import CommitMessage.Workspace.Session

/-! What the signals of desk and board come to in a workspace: jobs, alarms, and entries of the
record. -/

namespace CommitMessage.Workspace

/-- The job that a signal of the desk makes. -/
def deskJob? : Desk.Signal ℚ Asker → Option Job
  | .fetchTurn r => some (.fetch r)
  | .limiterTurn r => some (.limiter r)
  | .deliver asker outcome => some (.answer asker outcome)
  | .forget r => some (.forget r)
  | _ => none

/-- The alarm that a signal of the desk sets. -/
def deskAlarm? (network : Text → Delivery ℚ) (now : ℚ) :
    Desk.Signal ℚ Asker → Option (ℚ × Alarm)
  | .sleep r delay => some (now + delay, .limiter r)
  | .request r url =>
    (network url).delay.map fun delay => (now + delay, .reply r (network url).reply)
  | _ => none

/-- The job that a signal of the board makes. -/
def boardJob? : Board.Signal → Option Job
  | .groupTurn group => some (.group group)
  | .slotTurn group slot => some (.slot group slot)
  | _ => none

def forgetting (jobs : List Job) : List Reference :=
  jobs.filterMap fun
    | .forget r => some r
    | _ => none

def withJobs (w : Workspace ℚ) (jobs : List Job) : Workspace ℚ :=
  { w with agenda := { w.agenda with jobs } }

/-- A workspace with more jobs and alarms, and nothing else that lookups could see. -/
structure Adds (jobs : List Job) (alarms : List (ℚ × Alarm)) (w w' : Workspace ℚ) : Prop where
  network : w'.network = w.network
  now : w'.agenda.now = w.agenda.now
  desk : w'.desk = w.desk
  board : w'.board = w.board
  callers : w'.callers = w.callers
  nextCaller : w'.nextCaller = w.nextCaller
  debouncerOf : w'.debouncerOf = w.debouncerOf
  debouncers : w'.debouncers = w.debouncers
  jobs : w'.agenda.jobs = w.agenda.jobs ++ jobs
  alarms : w'.agenda.alarms.Perm (w.agenda.alarms ++ alarms)

variable {w w' w'' : Workspace ℚ} {jobs jobs' : List Job} {alarms alarms' : List (ℚ × Alarm)}

theorem Adds.refl (w : Workspace ℚ) : Adds [] [] w w :=
  ⟨rfl, rfl, rfl, rfl, rfl, rfl, rfl, rfl, (List.append_nil _).symm, by rw [List.append_nil]⟩

theorem Adds.trans (h : Adds jobs alarms w w') (h' : Adds jobs' alarms' w' w'') :
    Adds (jobs ++ jobs') (alarms ++ alarms') w w'' := by
  refine ⟨h'.network.trans h.network, h'.now.trans h.now, h'.desk.trans h.desk,
    h'.board.trans h.board, h'.callers.trans h.callers, h'.nextCaller.trans h.nextCaller,
    h'.debouncerOf.trans h.debouncerOf, h'.debouncers.trans h.debouncers, ?_, ?_⟩
  · rw [h'.jobs, h.jobs, List.append_assoc]
  · rw [← List.append_assoc]
    exact h'.alarms.trans (h.alarms.append_right _)

theorem adds_note (w : Workspace ℚ) (e : Entry ℚ) : Adds [] [] w (w.note e) :=
  ⟨rfl, rfl, rfl, rfl, rfl, rfl, rfl, rfl, (List.append_nil _).symm,
    by rw [List.append_nil]; exact .refl _⟩

theorem adds_soon (w : Workspace ℚ) (job : Job) : Adds [job] [] w (w.soon job) :=
  ⟨rfl, rfl, rfl, rfl, rfl, rfl, rfl, rfl, rfl, by rw [List.append_nil]; exact .refl _⟩

theorem insertAlarm_perm (time : ℚ) (alarm : Alarm) (alarms : List (ℚ × Alarm)) :
    (Agenda.insertAlarm time alarm alarms).Perm (alarms ++ [(time, alarm)]) := by
  induction alarms with
  | nil => exact .refl _
  | cons first rest ih =>
    rw [Agenda.insertAlarm]
    split
    · exact (List.perm_append_singleton _ _).symm
    · exact ih.cons first

theorem adds_later (w : Workspace ℚ) (delay : ℚ) (alarm : Alarm) :
    Adds [] [(w.agenda.now + delay, alarm)] w (w.later delay alarm) :=
  ⟨rfl, rfl, rfl, rfl, rfl, rfl, rfl, rfl, (List.append_nil _).symm, insertAlarm_perm _ _ _⟩

/-! The desk -/

theorem adds_request (w : Workspace ℚ) (r : Reference) (url : Text) :
    Adds [] (deskAlarm? w.network w.agenda.now (.request r url)).toList w (w.request r url) := by
  have hn := adds_note w (.fetched url w.agenda.now)
  unfold request deskAlarm?
  cases hd : (w.network url).delay with
  | none =>
    dsimp only [Workspace.note]
    rw [hd]
    exact hn
  | some delay =>
    have hl := hn.trans (adds_later (w.note (.fetched url w.agenda.now)) delay
      (.reply r (w.network url).reply))
    dsimp only [Workspace.note]
    rw [hd]
    exact hl

theorem adds_deskSignal (w : Workspace ℚ) (s : Desk.Signal ℚ Asker) (hs : ∀ r, s ≠ .withdraw r) :
    Adds (deskJob? s).toList (deskAlarm? w.network w.agenda.now s).toList w (w.deskSignal s) := by
  cases s with
  | withdraw r => exact absurd rfl (hs r)
  | request r url => exact adds_request w r url
  | sleep r delay => exact adds_later w delay _
  | note e => exact adds_note w _
  | fetchTurn r => exact adds_soon w _
  | limiterTurn r => exact adds_soon w _
  | deliver asker outcome => exact adds_soon w _
  | forget r => exact adds_soon w _

theorem adds_foldl_deskSignal (signals : List (Desk.Signal ℚ Asker))
    (hs : ∀ r, .withdraw r ∉ signals) (w : Workspace ℚ) :
    Adds (signals.filterMap deskJob?) (signals.filterMap (deskAlarm? w.network w.agenda.now)) w
      (signals.foldl deskSignal w) := by
  induction signals generalizing w with
  | nil => exact .refl w
  | cons s signals ih =>
    have hone := adds_deskSignal w s fun r he => hs r (he ▸ List.mem_cons_self)
    have hrest := ih (fun r hr => hs r (List.mem_cons_of_mem _ hr)) (w.deskSignal s)
    rw [hone.network, hone.now] at hrest
    have hboth := hone.trans hrest
    have htoList {α β : Type} (f : α → Option β) (a : α) (l : List α) :
        (a :: l).filterMap f = (f a).toList ++ l.filterMap f := by
      cases hf : f a <;> simp [hf]
    rw [htoList, htoList, List.foldl_cons]
    exact hboth

theorem adds_applyDesk (change : Desk ℚ Asker × List (Desk.Signal ℚ Asker))
    (hs : ∀ r, .withdraw r ∉ change.2) (w : Workspace ℚ) :
    Adds (change.2.filterMap deskJob?)
      (change.2.filterMap (deskAlarm? w.network w.agenda.now)) { w with desk := change.1 }
      (w.applyDesk change) :=
  adds_foldl_deskSignal change.2 hs { w with desk := change.1 }

theorem length_deskJobs (signals : List (Desk.Signal ℚ Asker)) :
    (signals.filterMap deskJob?).length = signals.countP Desk.Signal.isJob := by
  induction signals with
  | nil => rfl
  | cons s signals ih =>
    cases s <;> simp [deskJob?, Desk.Signal.isJob, List.filterMap_cons, List.countP_cons, ih]

theorem length_deskAlarms (network : Text → Delivery ℚ) (now : ℚ)
    (signals : List (Desk.Signal ℚ Asker)) :
    (signals.filterMap (deskAlarm? network now)).length ≤
      signals.countP Desk.Signal.isAlarm := by
  induction signals with
  | nil => exact le_refl _
  | cons s signals ih =>
    cases s with
    | request r url =>
      rw [List.countP_cons_of_pos rfl]
      cases hd : (network url).delay with
      | none => simpa [deskAlarm?, hd] using Nat.le_succ_of_le ih
      | some delay => simpa [deskAlarm?, hd] using ih
    | sleep r delay =>
      rw [List.countP_cons_of_pos rfl]
      simpa [deskAlarm?] using ih
    | _ =>
      rw [List.countP_cons_of_neg (by simp [Desk.Signal.isAlarm]), List.filterMap_cons_none rfl]
      exact ih

/-- The reply that comes at once is one to a request. -/
theorem promptReply?_cases (w : Workspace ℚ) (signals : List (Desk.Signal ℚ Asker)) :
    (w.promptReply? signals = none ∧
      ∀ r url, .request r url ∈ signals → (w.network url).delay ≠ none) ∨
    ∃ r url, .request r url ∈ signals ∧ (w.network url).delay = none ∧
      w.promptReply? signals = some (r, (w.network url).reply) := by
  induction signals with
  | nil => exact .inl ⟨rfl, nofun⟩
  | cons s signals ih =>
    have hskip (hs : ∀ r url, s = .request r url → (w.network url).delay ≠ none) :
        w.promptReply? (s :: signals) = w.promptReply? signals := by
      unfold promptReply?
      rw [List.findSome?_cons]
      cases s with
      | request r url =>
        cases hd : (w.network url).delay with
        | none => exact absurd hd (hs r url rfl)
        | some delay => simp [hd]
      | _ => rfl
    by_cases hs : ∃ r url, s = .request r url ∧ (w.network url).delay = none
    · obtain ⟨r, url, rfl, hd⟩ := hs
      exact .inr ⟨r, url, List.mem_cons_self, hd, by simp [promptReply?, hd]⟩
    · have hskip := hskip fun r url he hd => hs ⟨r, url, he, hd⟩
      rw [hskip]
      rcases ih with ⟨hnone, hall⟩ | ⟨r, url, hm, hrest⟩
      · refine .inl ⟨hnone, fun r url hm => ?_⟩
        rcases List.mem_cons.mp hm with rfl | hm
        · exact fun hd => hs ⟨r, url, rfl, hd⟩
        · exact hall r url hm
      · exact .inr ⟨r, url, List.mem_cons_of_mem _ hm, hrest⟩

/-! The board -/

theorem adds_handOver (w : Workspace ℚ) (pass : Option Text) (c : Board.Commit) :
    Adds [] [] w (w.handOver pass c) := by
  unfold handOver
  split
  · exact .refl w
  · dsimp only
    split
    · exact (adds_note w _).trans (adds_note _ _)
    · exact adds_note w _

theorem adds_foldl_boardSignal (signals : List Board.Signal) (hq : ∀ x ∈ signals, x.IsQuiet)
    (w : Workspace ℚ) :
    Adds (signals.filterMap boardJob?) [] w (signals.foldl boardSignal w) := by
  induction signals generalizing w with
  | nil => exact .refl w
  | cons x signals ih =>
    have hone : Adds (boardJob? x).toList [] w (w.boardSignal x) := by
      cases x with
      | commit pass c => exact adds_handOver w pass c
      | ask group slot pass r => exact (hq _ List.mem_cons_self).elim
      | withdraw group slot => exact (hq _ List.mem_cons_self).elim
      | groupTurn id => exact adds_soon w _
      | slotTurn group slot => exact adds_soon w _
      | note e => exact adds_note w _
      | ended id => exact .refl w
    have hboth := hone.trans (ih (fun y hy => hq y (List.mem_cons_of_mem _ hy)) (w.boardSignal x))
    cases hj : boardJob? x <;> simpa [List.filterMap_cons, hj] using hboth

theorem adds_applyBoard (change : Board × List Board.Signal) (hq : ∀ x ∈ change.2, x.IsQuiet)
    (w : Workspace ℚ) :
    Adds (change.2.filterMap boardJob?) [] { w with board := change.1 } (w.applyBoard change) :=
  adds_foldl_boardSignal change.2 hq { w with board := change.1 }

theorem length_boardJobs (signals : List Board.Signal) :
    (signals.filterMap boardJob?).length = signals.countP Board.isTurn := by
  induction signals with
  | nil => rfl
  | cons x signals ih =>
    cases x <;> simp [boardJob?, Board.isTurn, List.filterMap_cons, List.countP_cons, ih]

/-- A pass goes to the board and is announced, and then it is the latest over its buffer. -/
theorem runPass_rec {C : Workspace ℚ → Prop} (w : Workspace ℚ) (buffer text : Text)
    (hboard : C ({ w with texts := w.texts.set buffer text }.applyBoard
      (w.board.startPass buffer ((Occurrence.ofLines text.messageLines).map Occurrence.mention)).2))
    (hpublished : ∀ w' findings, C w' → C (w'.note (.published buffer findings)))
    (hnoted : ∀ w' e, C w' → C (w'.note (.noted e))) :
    ∃ w', C w' ∧ (w.runPass buffer text).2 =
      { w' with latest := w'.latest.set buffer (w.runPass buffer text).1 } := by
  unfold runPass
  dsimp only
  refine ⟨_, hnoted _ _ ?_, rfl⟩
  split
  · exact hboard
  · exact hpublished _ _ hboard

end CommitMessage.Workspace
