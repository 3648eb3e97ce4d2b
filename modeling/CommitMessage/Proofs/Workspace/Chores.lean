import CommitMessage.Proofs.Board.Opening
import CommitMessage.Proofs.Workspace.Orderly

/-! What there is to do besides calling callers, and what cannot disturb it: callers that wait, and
what lookups bring. -/

namespace CommitMessage.Workspace

variable {w w' w'' : Workspace ℚ}

/-! Callers that wait -/

/-- A phase in which a caller does nothing but wait. -/
def Phase.IsWait : Phase → Prop
  | .noTimers _ | .idle _ | .sheetIdle _ => True
  | _ => False

def IsPatient (w : Workspace ℚ) : Prop := ∀ entry ∈ w.callers, ∀ phase ∈ entry.2, phase.IsWait

def Job.isCaller : Job → Bool
  | .caller _ => true
  | _ => false

/-- The jobs but for the turns of callers. -/
def chores (w : Workspace ℚ) : List Job := w.agenda.jobs.filter fun job => !job.isCaller

/-- Callers have gone on waiting or have returned, and nothing else has happened. -/
structure WaitsOn (w w' : Workspace ℚ) : Prop where
  traffic : w'.traffic = w.traffic
  board : w'.board = w.board
  debouncers : w'.debouncers = w.debouncers
  chores : w'.chores = w.chores
  patient : w.IsPatient → w'.IsPatient

theorem WaitsOn.refl (w : Workspace ℚ) : WaitsOn w w := ⟨rfl, rfl, rfl, rfl, id⟩

theorem WaitsOn.trans (h : WaitsOn w w') (h' : WaitsOn w' w'') : WaitsOn w w'' :=
  ⟨h'.traffic.trans h.traffic, h'.board.trans h.board, h'.debouncers.trans h.debouncers,
    h'.chores.trans h.chores, h'.patient ∘ h.patient⟩

theorem waitsOn_proceed (caller fuel : Nat) {plan : List Phase} (hp : ∀ p ∈ plan, p.IsWait)
    (w : Workspace ℚ) : WaitsOn w (proceed caller fuel plan w) := by
  refine proceed_rec (C := WaitsOn w) caller (fun w' plan h hp => h.trans ?_)
    (fun w' h => h.trans ?_) (fun w' phase h hphase => ?_) fuel hp (.refl w)
  · refine ⟨rfl, rfl, rfl, rfl, fun hw entry hm => ?_⟩
    rcases Register.mem_set hm with rfl | hm
    · exact hp
    · exact hw entry hm
  · exact ⟨(quiet_note _ rfl).traffic, rfl, rfl, rfl,
      fun hw entry hm => hw entry (List.mem_of_mem_filter hm)⟩
  · cases phase with
    | idle buffer =>
      simp only [enter]
      split
      · exact ⟨h, by simp [Phase.IsWait]⟩
      · exact ⟨h, by simp⟩
    | noTimers debouncer => exact ⟨h, by simp [enter]⟩
    | sheetIdle sheet => exact ⟨h, by simp [enter]⟩
    | _ => exact hphase.elim

theorem waitsOn_start (w : Workspace ℚ) {plan : List Phase} (hp : ∀ p ∈ plan, p.IsWait) :
    WaitsOn w (w.start plan) := by
  have hnext : WaitsOn w { w with nextCaller := w.nextCaller + 1 } := ⟨rfl, rfl, rfl, rfl, id⟩
  exact hnext.trans (waitsOn_proceed _ _ hp _)

theorem isWait_settlePlan (w : Workspace ℚ) (buffer : Text) :
    ∀ p ∈ w.settlePlan buffer, p.IsWait := by
  unfold settlePlan
  split <;> simp [Phase.IsWait]

theorem waitsOn_callCallers (w : Workspace ℚ) : WaitsOn w w.callCallers := by
  refine callCallers_rec (C := WaitsOn w) (.refl w) fun w' caller h => h.trans ?_
  have hsoon : Quiet w' (w'.soon (.caller caller)) := quiet_soon w' trivial
  exact ⟨hsoon.traffic, rfl, rfl,
    by simp [chores, Workspace.soon, Agenda.soon, Job.isCaller], id⟩

/-! What lookups bring -/

/-- A job that comes after all slots have asked. -/
def Job.IsLate : Job → Prop
  | .group _ | .fetch _ | .limiter _ | .reply _ _ | .forget _ | .answer _ _ => True
  | _ => False

/-- More late jobs, and nothing else that slots or timers could see. -/
structure Trails (w w' : Workspace ℚ) : Prop where
  board : w'.board = w.board
  debouncers : w'.debouncers = w.debouncers
  chores : ∃ late, w'.chores = w.chores ++ late ∧ ∀ job ∈ late, job.IsLate

theorem Trails.refl (w : Workspace ℚ) : Trails w w := ⟨rfl, rfl, [], by simp, nofun⟩

theorem Trails.trans (h : Trails w w') (h' : Trails w' w'') : Trails w w'' := by
  obtain ⟨late, he, hl⟩ := h.chores
  obtain ⟨late', he', hl'⟩ := h'.chores
  exact ⟨h'.board.trans h.board, h'.debouncers.trans h.debouncers, late ++ late',
    by rw [he', he, List.append_assoc],
    fun job hj => (List.mem_append.mp hj).elim (hl job) (hl' job)⟩

theorem Job.IsLate.isCaller_eq {job : Job} (h : job.IsLate) : job.isCaller = false := by
  cases job with
  | caller id => exact h.elim
  | _ => rfl

theorem trails_soon (w : Workspace ℚ) {job : Job} (hj : job.IsLate) : Trails w (w.soon job) :=
  ⟨rfl, rfl, [job], by simp [chores, Workspace.soon, Agenda.soon, hj.isCaller_eq],
    fun _ hm => List.mem_singleton.mp hm ▸ hj⟩

theorem trails_applyDesk (w : Workspace ℚ) (change : Desk ℚ Asker × List (Desk.Signal ℚ Asker)) :
    Trails w (w.applyDesk change) := by
  have hsame {w w' : Workspace ℚ} (hb : w'.board = w.board) (hd : w'.debouncers = w.debouncers)
      (hj : w'.agenda.jobs = w.agenda.jobs) : Trails w w' :=
    ⟨hb, hd, [], by simp [chores, hj], nofun⟩
  have hone (w : Workspace ℚ) (s : Desk.Signal ℚ Asker) : Trails w (w.deskSignal s) := by
    cases s with
    | fetchTurn r => exact trails_soon w trivial
    | limiterTurn r => exact trails_soon w trivial
    | deliver asker outcome => exact trails_soon w trivial
    | forget r => exact trails_soon w trivial
    | request r url =>
      simp only [deskSignal, Workspace.request]
      split <;> exact hsame rfl rfl rfl
    | _ => exact hsame rfl rfl rfl
  have hdesk : Trails w { w with desk := change.1 } := hsame rfl rfl rfl
  exact List.foldlRecOn (motive := Trails w) change.2 deskSignal hdesk
    fun w' h s _ => h.trans (hone w' s)

theorem trails_applyTurn (w : Workspace ℚ) (change : Desk ℚ Asker × List (Desk.Signal ℚ Asker)) :
    Trails w (w.applyTurn change) := by
  unfold applyTurn
  dsimp only
  split
  · exact (trails_applyDesk w change).trans (trails_applyDesk _ _)
  · exact trails_applyDesk w change

theorem chores_applyBoard (w : Workspace ℚ) {change : Board × List Board.Signal}
    (hq : ∀ x ∈ change.2, x.IsQuiet) : (w.applyBoard change).board = change.1 ∧
      (w.applyBoard change).debouncers = w.debouncers ∧
      (w.applyBoard change).chores = w.chores ++ change.2.filterMap boardJob? := by
  have ha := adds_applyBoard change hq w
  refine ⟨ha.board, ha.debouncers, ?_⟩
  have hnew : (change.2.filterMap boardJob?).filter (fun job => !job.isCaller) =
      change.2.filterMap boardJob? := by
    refine List.filter_eq_self.mpr fun job hj => ?_
    obtain ⟨x, -, he⟩ := List.mem_filterMap.mp hj
    rcases boardJob?_cases he with ⟨id, rfl⟩ | ⟨group, slot, rfl⟩ <;> rfl
  unfold chores
  rw [ha.jobs, List.filter_append, hnew]

theorem chores_eq {job : Job} {rest : List Job} (hj : w.agenda.jobs = job :: rest)
    (hc : job.isCaller = false) : w.chores = job :: (w.withJobs rest).chores := by
  simp [chores, hj, hc, withJobs]

theorem isLate_boardJobs {signals : List Board.Signal}
    (hn : ∀ group slot, .slotTurn group slot ∉ signals) :
    ∀ job ∈ signals.filterMap boardJob?, job.IsLate := by
  intro job hj
  obtain ⟨x, hx, he⟩ := List.mem_filterMap.mp hj
  cases x with
  | groupTurn id =>
    cases he
    trivial
  | slotTurn group slot => exact absurd hx (hn group slot)
  | _ => cases he

theorem isLate_answer {b : Board} (hb : b.Steady) (id slot : Nat) {outcome : Outcome}
    (ho : outcome ≠ .stopped) :
    ∀ job ∈ (b.answer id slot outcome).2.filterMap boardJob?, job.IsLate := by
  refine isLate_boardJobs fun group slot' hx => ?_
  rcases Board.answer_cases hb id slot ho with ⟨he, -⟩ | ⟨g, m, notes, -, -, hnotes, he⟩
  · simp [he] at hx
  · rw [he] at hx
    rcases List.mem_append.mp hx with hx | hx
    · obtain ⟨e, he⟩ := hnotes _ hx
      cases he
    · split at hx <;> simp at hx

/-! The order of turns -/

def turnOf (t : Board.Turn) : Job := .slot t.group t.slot

/-- First the groups have their turns, then the slots, and then come late jobs. -/
def Queues (groups : List Board.Group) (turns : List Board.Turn) (w : Workspace ℚ) : Prop :=
  ∃ late, w.chores = groups.map (Job.group ·.id) ++ turns.map turnOf ++ late ∧
    (∀ job ∈ late, job.IsLate) ∧ (groups ≠ [] → late = [])

theorem Queues.append {groups : List Board.Group} {turns : List Board.Turn} {late : List Job}
    (h : Queues groups turns w) (hc : w'.chores = w.chores ++ late)
    (hl : ∀ job ∈ late, job.IsLate) (hn : groups ≠ [] → late = []) : Queues groups turns w' := by
  obtain ⟨late', he, hl', hn'⟩ := h
  refine ⟨late' ++ late, by rw [hc, he, List.append_assoc], fun job hj => ?_, fun hne => ?_⟩
  · exact (List.mem_append.mp hj).elim (hl' job) (hl job)
  · rw [hn' hne, hn hne]
    rfl

theorem queues_nil : Queues [] [] w ↔ ∀ job ∈ w.chores, job.IsLate := by
  constructor
  · rintro ⟨late, he, hl, -⟩
    rw [he]
    simpa using hl
  · exact fun h => ⟨w.chores, by simp, h, fun _ => by simp at *⟩

end CommitMessage.Workspace
