import CommitMessage.Proofs.Board.Shown
import CommitMessage.Proofs.Workspace.Effects

/-! A workspace on its way from the start of a pass to its last answer. All that its jobs and alarms
carry agrees with the network, and no group and no fetch is without something to come. -/

namespace CommitMessage.Workspace

def Plan.answer (p : Plan ℚ) (r : Reference) : Option Resolution :=
  if r.isValid then (p.network (r.url p.hosts)).reply.answer r else some (.missing r)

/-- What a lookup of a pass over these mentions is to be answered. -/
def Answers (p : Plan ℚ) (mentions : List Mention) (q : Board.Query) (a : Option Resolution) :
    Prop :=
  ∃ m, (Board.onLine mentions q.line)[q.place]? = some m ∧ a = p.answer m.reference

/-- The pass of a buffer that had none. -/
def firstPass (buffer : Text) (mentions : List Mention) (x : Text) : Option (Nat × List Mention) :=
  if x = buffer then some (1, mentions) else none

def firstGroups (buffer : Text) (mentions : List Mention) : List Board.Group :=
  (({} : Board).startPass buffer mentions).2.1.groups

/-- A slot of one of these groups, and its reference. -/
def Wants (groups : List Board.Group) : Asker → Reference → Prop
  | .slot id slot, r => ∃ g ∈ groups, g.id = id ∧
    ∃ m, (g.slots.map (·.1))[slot]? = some m ∧ m.reference = r
  | _, _ => False

section

variable (p : Plan ℚ) (groups : List Board.Group)

/-- A job that a pass makes, with an answer of the network if it carries one. -/
def Job.IsFine : Job → Prop
  | .reply r received => received.answer r = p.answer r
  | .answer asker outcome => ∃ r, Wants groups asker r ∧ outcome.IsFor (p.answer r)
  | .timer _ _ | .call _ | .member _ _ => False
  | _ => True

def Alarm.IsFine : Alarm → Prop
  | .reply r received => received.answer r = p.answer r
  | .limiter _ => True
  | .timer _ _ => False

end

/-- The alarms for those who sleep at the limiter. -/
def sleepers (alarms : List (ℚ × Alarm)) : List (ℚ × Reference) :=
  alarms.filterMap fun
    | (time, .limiter r) => some (time, r)
    | _ => none

/-- What is to come for the desk, when these alarms are ringing. -/
def deskDue (ringing : List (ℚ × Alarm)) (w : Workspace ℚ) : Desk.Wake → Prop
  | .fetch r => .fetch r ∈ w.agenda.jobs
  | .limiter r => .limiter r ∈ w.agenda.jobs
  | .sleep r => ∃ time, (time, .limiter r) ∈ ringing ++ w.agenda.alarms
  | .reply r => ∃ reply, .reply r reply ∈ w.agenda.jobs ∨
    ∃ time, (time, .reply r reply) ∈ ringing ++ w.agenda.alarms

def boardDue (w : Workspace ℚ) : Board.Wake → Prop
  | .group id => .group id ∈ w.agenda.jobs
  | .slot group slot => .slot group slot ∈ w.agenda.jobs
  | .answer group slot =>
    w.desk.Waits (.slot group slot) ∨ ∃ outcome, .answer (.slot group slot) outcome ∈ w.agenda.jobs

/-- A workspace in the course of its first pass, while some alarms are ringing. Something more may
be to come for the desk and for the board than its jobs and alarms show. -/
structure Going (p : Plan ℚ) (buffer : Text) (mentions : List Mention) (ringing : List (ℚ × Alarm))
    (forDesk : Desk.Wake → Prop) (forBoard : Board.Wake → Prop) (w : Workspace ℚ) : Prop where
  network : w.network = p.network
  hosts : w.desk.hosts = p.hosts
  tracks : w.board.Tracks (firstPass buffer mentions) (Answers p mentions)
  same : ∀ g ∈ w.board.groups, ∃ g₀ ∈ firstGroups buffer mentions, g₀.Same g
  attended : w.board.Attended fun e => boardDue w e ∨ forBoard e
  live : w.desk.Live (fun e => deskDue ringing w e ∨ forDesk e) none
  truthful : w.desk.Truthful p.answer (Wants (firstGroups buffer mentions))
  jobs : ∀ job ∈ w.agenda.jobs, job.IsFine p (firstGroups buffer mentions)
  alarms : ∀ e ∈ ringing ++ w.agenda.alarms, e.2.IsFine p
  once : (forgetting w.agenda.jobs).Nodup
  finished : ∀ r ∈ forgetting w.agenda.jobs, w.desk.IsOver r
  sleeps : (sleepers (ringing ++ w.agenda.alarms)).Perm w.desk.limiter.sleeps
  prompt : w.desk.limiter.Prompt w.agenda.now
  past : ∀ e ∈ ringing, e.1 ≤ w.agenda.now
  callers : w.callers = [] ∧ w.board.groups = [] ∨ w.callers = [(0, [.sheetIdle 0])]
  called : ∀ id, .caller id ∈ w.agenda.jobs → w.board.groups = []

variable {p : Plan ℚ} {buffer : Text} {mentions : List Mention} {ringing : List (ℚ × Alarm)}
  {forDesk : Desk.Wake → Prop} {forBoard : Board.Wake → Prop} {w w' : Workspace ℚ}

theorem mem_forgetting {jobs : List Job} {r : Reference} :
    r ∈ forgetting jobs ↔ .forget r ∈ jobs := by
  rw [forgetting, List.mem_filterMap]
  constructor
  · rintro ⟨job, hj, he⟩
    cases job with
    | forget r' =>
      cases he
      exact hj
    | _ => cases he
  · exact fun hm => ⟨_, hm, rfl⟩

theorem forgetting_deskJobs (signals : List (Desk.Signal ℚ Asker)) :
    forgetting (signals.filterMap deskJob?) = Desk.forgetsIn signals := by
  rw [forgetting, Desk.forgetsIn, List.filterMap_filterMap]
  refine List.filterMap_congr fun s _ => ?_
  cases s <;> rfl

theorem sleepers_deskAlarms (network : Text → Delivery ℚ) (now : ℚ)
    (signals : List (Desk.Signal ℚ Asker)) :
    sleepers (signals.filterMap (deskAlarm? network now)) = Desk.sleepsIn now signals := by
  rw [sleepers, Desk.sleepsIn, List.filterMap_filterMap]
  refine List.filterMap_congr fun s _ => ?_
  cases s with
  | request r url => cases hd : (network url).delay <;> simp [deskAlarm?, hd]
  | _ => rfl

theorem Adds.mem_alarms {jobs : List Job} {alarms : List (ℚ × Alarm)} (h : Adds jobs alarms w w')
    {e : ℚ × Alarm} :
    e ∈ ringing ++ w'.agenda.alarms ↔ e ∈ ringing ++ w.agenda.alarms ∨ e ∈ alarms := by
  rw [List.mem_append, h.alarms.mem_iff, List.mem_append, List.mem_append, or_assoc]

/-! What is to come -/

theorem deskDue_mono {ringing' : List (ℚ × Alarm)}
    (hj : ∀ job ∈ w.agenda.jobs, job ∈ w'.agenda.jobs)
    (ha : ∀ e ∈ ringing ++ w.agenda.alarms, e ∈ ringing' ++ w'.agenda.alarms) {e : Desk.Wake}
    (he : deskDue ringing w e) : deskDue ringing' w' e := by
  cases e with
  | fetch r => exact hj _ he
  | limiter r => exact hj _ he
  | sleep r =>
    obtain ⟨time, hm⟩ := he
    exact ⟨time, ha _ hm⟩
  | reply r =>
    obtain ⟨reply, hm | ⟨time, hm⟩⟩ := he
    · exact ⟨reply, .inl (hj _ hm)⟩
    · exact ⟨reply, .inr ⟨time, ha _ hm⟩⟩

theorem boardDue_mono (hj : ∀ job ∈ w.agenda.jobs, job ∈ w'.agenda.jobs)
    (hw : ∀ c, w.desk.Waits c → w'.desk.Waits c) {e : Board.Wake} (he : boardDue w e) :
    boardDue w' e := by
  cases e with
  | group id => exact hj _ he
  | slot group slot => exact hj _ he
  | answer group slot => exact he.imp (hw _) fun ⟨outcome, hm⟩ => ⟨outcome, hj _ hm⟩

theorem Adds.mem_jobs {jobs : List Job} {alarms : List (ℚ × Alarm)} (h : Adds jobs alarms w w')
    {job : Job} : job ∈ w'.agenda.jobs ↔ job ∈ w.agenda.jobs ∨ job ∈ jobs := by
  rw [h.jobs, List.mem_append]

/-- What was to come still is, and so is what new jobs and alarms bring. -/
theorem deskDue_applyDesk {change : Desk ℚ Asker × List (Desk.Signal ℚ Asker)}
    (hw : ∀ r, .withdraw r ∉ change.2) {e : Desk.Wake}
    (he : deskDue ringing w e ∨ e ∈ Desk.wakes change.2) :
    deskDue ringing (w.applyDesk change) e ∨
      ∃ r url, .request r url ∈ change.2 ∧ (w.network url).delay = none ∧ e = .reply r := by
  have ha := adds_applyDesk change hw w
  rcases he with he | he
  · exact .inl (deskDue_mono (fun _ hm => ha.mem_jobs.mpr (.inl hm))
      (fun _ hm => ha.mem_alarms.mpr (.inl hm)) he)
  · obtain ⟨s, hs, he⟩ := List.mem_filterMap.mp he
    have hjob {job : Job} (hj : deskJob? s = some job) : job ∈ (w.applyDesk change).agenda.jobs :=
      ha.mem_jobs.mpr (.inr (List.mem_filterMap.mpr ⟨s, hs, hj⟩))
    have halarm {e : ℚ × Alarm} (he : deskAlarm? w.network w.agenda.now s = some e) :
        e ∈ ringing ++ (w.applyDesk change).agenda.alarms :=
      ha.mem_alarms.mpr (.inr (List.mem_filterMap.mpr ⟨s, hs, he⟩))
    cases s with
    | fetchTurn r =>
      cases he
      exact .inl (hjob rfl)
    | limiterTurn r =>
      cases he
      exact .inl (hjob rfl)
    | sleep r delay =>
      cases he
      exact .inl ⟨_, halarm rfl⟩
    | request r url =>
      cases he
      cases hd : (w.network url).delay with
      | none => exact .inr ⟨r, url, hs, hd, rfl⟩
      | some delay =>
        have hm : deskAlarm? w.network w.agenda.now (.request r url) =
            some (w.agenda.now + delay, .reply r (w.network url).reply) := by
          rw [deskAlarm?, hd, Option.map_some]
        exact .inl ⟨_, .inr ⟨_, halarm hm⟩⟩
    | _ => cases he

theorem boardDue_applyDesk {change : Desk ℚ Asker × List (Desk.Signal ℚ Asker)}
    (hw : ∀ r, .withdraw r ∉ change.2)
    (hwaits : ∀ c, w.desk.Waits c → change.1.Waits c ∨ ∃ o, .deliver c o ∈ change.2)
    {e : Board.Wake} (he : boardDue w e) : boardDue (w.applyDesk change) e := by
  have ha := adds_applyDesk change hw w
  have hold {job : Job} (hm : job ∈ w.agenda.jobs) : job ∈ (w.applyDesk change).agenda.jobs :=
    ha.mem_jobs.mpr (.inl hm)
  cases e with
  | group id => exact hold he
  | slot group slot => exact hold he
  | answer group slot =>
    rcases he with hc | ⟨outcome, hm⟩
    · rcases hwaits _ hc with hc | ⟨o, ho⟩
      · exact .inl (ha.desk ▸ hc)
      · exact .inr ⟨o, ha.mem_jobs.mpr (.inr (List.mem_filterMap.mpr ⟨_, ho, rfl⟩))⟩
    · exact .inr ⟨outcome, hold hm⟩

/-- The jobs of a board are turns. -/
theorem boardJob?_cases {x : Board.Signal} {job : Job} (h : boardJob? x = some job) :
    (∃ id, job = .group id) ∨ ∃ group slot, job = .slot group slot := by
  cases x with
  | groupTurn id =>
    cases h
    exact .inl ⟨id, rfl⟩
  | slotTurn group slot =>
    cases h
    exact .inr ⟨group, slot, rfl⟩
  | _ => cases h

theorem forgetting_boardJobs (signals : List Board.Signal) :
    forgetting (signals.filterMap boardJob?) = [] := by
  refine List.eq_nil_iff_forall_not_mem.mpr fun r hr => ?_
  obtain ⟨x, -, he⟩ := List.mem_filterMap.mp (mem_forgetting.mp hr)
  rcases boardJob?_cases he with ⟨id, he⟩ | ⟨group, slot, he⟩ <;> cases he

/-- What a quiet signal brings to the board is the job that it makes. -/
theorem boardDue_of_wakes {signals : List Board.Signal} (hq : ∀ x ∈ signals, x.IsQuiet)
    (hj : ∀ job ∈ signals.filterMap boardJob?, job ∈ w.agenda.jobs) {e : Board.Wake}
    (he : e ∈ Board.wakes signals) : boardDue w e := by
  obtain ⟨x, hx, he⟩ := List.mem_filterMap.mp he
  have hjob {job : Job} (hw : boardJob? x = some job) : job ∈ w.agenda.jobs :=
    hj job (List.mem_filterMap.mpr ⟨x, hx, hw⟩)
  cases x with
  | groupTurn id =>
    cases he
    exact hjob rfl
  | slotTurn group slot =>
    cases he
    exact hjob rfl
  | ask group slot pass r => exact (hq _ hx).elim
  | _ => cases he

/-! Changes of desk and board -/

section

variable {change : Desk ℚ Asker × List (Desk.Signal ℚ Asker)} {groups : List Board.Group}

theorem isFine_deskJob (hh : w.desk.Honest p.answer (Wants groups) change) {job : Job}
    (hj : job ∈ change.2.filterMap deskJob?) : job.IsFine p groups ∧ ∀ id, job ≠ .caller id := by
  obtain ⟨s, hs, he⟩ := List.mem_filterMap.mp hj
  cases s with
  | deliver asker outcome =>
    cases he
    exact ⟨hh.delivered asker outcome hs, nofun⟩
  | fetchTurn r =>
    cases he
    exact ⟨trivial, nofun⟩
  | limiterTurn r =>
    cases he
    exact ⟨trivial, nofun⟩
  | forget r =>
    cases he
    exact ⟨trivial, nofun⟩
  | _ => cases he

theorem isFine_deskAlarm (hn : w.network = p.network) (ho : w.desk.hosts = p.hosts)
    (hh : w.desk.Honest p.answer (Wants groups) change) {e : ℚ × Alarm}
    (he : e ∈ change.2.filterMap (deskAlarm? w.network w.agenda.now)) : e.2.IsFine p := by
  obtain ⟨s, hs, he⟩ := List.mem_filterMap.mp he
  cases s with
  | sleep r delay =>
    cases he
    trivial
  | request r url =>
    obtain ⟨delay, -, rfl⟩ := Option.map_eq_some_iff.mp he
    obtain ⟨hv, rfl⟩ := hh.requested r url hs
    simp only [Alarm.IsFine, Plan.answer, hv, if_true, ho]
    rw [← hn]
  | _ => cases he

end

/-- A change of the desk, up to replies that come at once, when some alarms have rung. -/
theorem Going.changeDesk {ringing' : List (ℚ × Alarm)}
    (h : Going p buffer mentions ringing' forDesk forBoard w)
    {change : Desk ℚ Asker × List (Desk.Signal ℚ Asker)}
    (hrung : ∀ e ∈ ringing, e ∈ ringing')
    (hl : change.1.Live (fun e => deskDue ringing w e ∨ e ∈ Desk.wakes change.2) none)
    (hh : w.desk.Honest p.answer (Wants (firstGroups buffer mentions)) change)
    (hs : (sleepers (ringing ++ w.agenda.alarms) ++ Desk.sleepsIn w.agenda.now change.2).Perm
      change.1.limiter.sleeps)
    (hp : change.1.limiter.Prompt w.agenda.now)
    (ho : ∀ r ∈ forgetting w.agenda.jobs, change.1.IsOver r) :
    Going p buffer mentions ringing
      (fun e => ∃ r url, .request r url ∈ change.2 ∧ (w.network url).delay = none ∧ e = .reply r)
      forBoard (w.applyDesk change) := by
  have ha := adds_applyDesk change hh.withdrawn w
  have hforgets : forgetting (w.applyDesk change).agenda.jobs =
      forgetting w.agenda.jobs ++ Desk.forgetsIn change.2 := by
    rw [ha.jobs, ← forgetting_deskJobs]
    exact List.filterMap_append
  refine ⟨ha.network.trans h.network, ?_, ha.board ▸ h.tracks, ha.board ▸ h.same, ?_, ?_, ?_,
    fun job hj => ?_, fun e he => ?_, ?_, fun r hr => ?_, ?_, ?_, fun e he => ?_, ?_,
    fun id hj => ?_⟩
  · rw [ha.desk]
    exact hh.hosts.trans h.hosts
  · rw [ha.board]
    exact h.attended.mono fun e he => he.imp_left (boardDue_applyDesk hh.withdrawn hh.waits)
  · rw [ha.desk]
    exact hl.mono fun e he => deskDue_applyDesk hh.withdrawn he
  · rw [ha.desk]
    exact hh.truthful
  · exact (ha.mem_jobs.mp hj).elim (h.jobs job) fun hj => (isFine_deskJob hh hj).1
  · rcases ha.mem_alarms.mp he with he | he
    · refine h.alarms e (List.mem_append.mpr ?_)
      exact (List.mem_append.mp he).imp_left (hrung e)
    · exact isFine_deskAlarm h.network h.hosts hh he
  · rw [hforgets]
    refine h.once.append hh.once fun r hr hr' => ?_
    exact (hh.forgotten r hr').1 (h.finished r hr)
  · rw [hforgets] at hr
    rw [ha.desk]
    exact (List.mem_append.mp hr).elim (ho r) fun hr => (hh.forgotten r hr).2
  · have hnew := sleepers_deskAlarms w.network w.agenda.now change.2
    rw [ha.desk]
    have hperm : (ringing ++ (w.applyDesk change).agenda.alarms).Perm
        ((ringing ++ w.agenda.alarms) ++
          change.2.filterMap (deskAlarm? w.network w.agenda.now)) := by
      rw [List.append_assoc]
      exact ha.alarms.append_left _
    refine ((hperm.filterMap _).trans ?_).trans hs
    rw [List.filterMap_append, ← hnew]
    exact .refl _
  · rw [ha.desk, ha.now]
    exact hp
  · rw [ha.now]
    exact h.past e (hrung e he)
  · rw [ha.callers, ha.board]
    exact h.callers
  · rw [ha.board]
    exact (ha.mem_jobs.mp hj).elim (h.called id) fun hj => absurd rfl ((isFine_deskJob hh hj).2 id)

theorem Going.applyDesk (h : Going p buffer mentions ringing forDesk forBoard w)
    {change : Desk ℚ Asker × List (Desk.Signal ℚ Asker)} {jobs alarms : Nat}
    (hl : change.1.Live (fun e => deskDue ringing w e ∨ e ∈ Desk.wakes change.2) none)
    (hh : w.desk.Honest p.answer (Wants (firstGroups buffer mentions)) change)
    (hf : w.desk.Frugal w.agenda.now jobs alarms change)
    (ho : ∀ r ∈ forgetting w.agenda.jobs, change.1.IsOver r) :
    Going p buffer mentions ringing
      (fun e => ∃ r url, .request r url ∈ change.2 ∧ (w.network url).delay = none ∧ e = .reply r)
      forBoard (w.applyDesk change) := by
  refine h.changeDesk (fun _ => id) hl hh ?_ hf.prompt ho
  rw [hf.sleeps]
  exact h.sleeps.append_right _

/-- A change of the board, after which something more may be to come for it. -/
theorem Going.applyBoard {forBoard' : Board.Wake → Prop}
    (h : Going p buffer mentions ringing forDesk forBoard w)
    {change : Board × List Board.Signal} (hq : ∀ x ∈ change.2, x.IsQuiet)
    (ht : change.1.Tracks (firstPass buffer mentions) (Answers p mentions))
    (hs : ∀ g ∈ change.1.groups, ∃ g₀ ∈ w.board.groups, g₀.Same g)
    (ha : change.1.Attended fun e => (boardDue w e ∨ e ∈ Board.wakes change.2) ∨ forBoard' e) :
    Going p buffer mentions ringing forDesk forBoard' (w.applyBoard change) := by
  have hadds := adds_applyBoard change hq w
  have hnil (hn : w.board.groups = []) : change.1.groups = [] :=
    List.eq_nil_iff_forall_not_mem.mpr fun g hg => by
      obtain ⟨g₀, hg₀, -⟩ := hs g hg
      rw [hn] at hg₀
      cases hg₀
  have hold : ∀ job ∈ w.agenda.jobs, job ∈ (w.applyBoard change).agenda.jobs :=
    fun _ hm => hadds.mem_jobs.mpr (.inl hm)
  have hforgets : forgetting (w.applyBoard change).agenda.jobs = forgetting w.agenda.jobs := by
    have hnone := forgetting_boardJobs change.2
    rw [forgetting] at hnone ⊢
    rw [hadds.jobs, List.filterMap_append, hnone, List.append_nil]
    rfl
  have halarms {e : ℚ × Alarm} : e ∈ ringing ++ (w.applyBoard change).agenda.alarms ↔
      e ∈ ringing ++ w.agenda.alarms := by
    rw [hadds.mem_alarms]
    simp
  refine ⟨hadds.network.trans h.network, ?_, hadds.board ▸ ht, fun g hg => ?_, ?_, ?_, ?_,
    fun job hj => ?_, fun e he => h.alarms e (halarms.mp he), hforgets ▸ h.once, fun r hr => ?_, ?_,
    ?_, fun e he => ?_, ?_, fun id hj => ?_⟩
  · rw [hadds.desk]
    exact h.hosts
  · rw [hadds.board] at hg
    obtain ⟨g', hg', hs'⟩ := hs g hg
    obtain ⟨g₀, hg₀, hs₀⟩ := h.same g' hg'
    exact ⟨g₀, hg₀, hs₀.trans hs'⟩
  · rw [hadds.board]
    refine ha.mono fun e he => he.imp_left fun he => he.elim ?_ ?_
    · exact boardDue_mono hold fun c hc => hadds.desk ▸ hc
    · exact boardDue_of_wakes hq fun _ hm => hadds.mem_jobs.mpr (.inr hm)
  · rw [hadds.desk]
    exact h.live.mono fun e he => he.imp_left (deskDue_mono hold fun _ hm => halarms.mpr hm)
  · rw [hadds.desk]
    exact h.truthful
  · rcases hadds.mem_jobs.mp hj with hj | hj
    · exact h.jobs job hj
    · obtain ⟨x, -, he⟩ := List.mem_filterMap.mp hj
      rcases boardJob?_cases he with ⟨id, rfl⟩ | ⟨group, slot, rfl⟩ <;> trivial
  · rw [hadds.desk]
    rw [hforgets] at hr
    exact h.finished r hr
  · rw [hadds.desk]
    have hp := hadds.alarms
    rw [List.append_nil] at hp
    exact ((hp.append_left ringing).filterMap _).trans h.sleeps
  · rw [hadds.desk, hadds.now]
    exact h.prompt
  · rw [hadds.now]
    exact h.past e he
  · rw [hadds.callers, hadds.board]
    exact h.callers.imp_left fun ⟨hc, hn⟩ => ⟨hc, hnil hn⟩
  · rw [hadds.board]
    rcases hadds.mem_jobs.mp hj with hj | hj
    · exact hnil (h.called id hj)
    · obtain ⟨x, -, he⟩ := List.mem_filterMap.mp hj
      rcases boardJob?_cases he with ⟨id, he⟩ | ⟨group, slot, he⟩ <;> cases he

end CommitMessage.Workspace
