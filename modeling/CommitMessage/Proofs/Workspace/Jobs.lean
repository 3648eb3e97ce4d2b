import CommitMessage.Proofs.Workspace.Going

/-! A job that is done keeps a workspace going, and leaves less to be done. -/

namespace CommitMessage.Workspace

variable {p : Plan ℚ} {buffer : Text} {mentions : List Mention} {ringing : List (ℚ × Alarm)}
  {forDesk : Desk.Wake → Prop} {forBoard : Board.Wake → Prop} {w w' w'' : Workspace ℚ}

/-! The first groups -/

theorem firstGroups_eq (buffer : Text) (mentions : List Mention) :
    firstGroups buffer mentions = Board.newGroups 0 0 1 buffer (Board.byLine mentions) := by
  rw [firstGroups, Board.startPass_eq]
  rfl

theorem steady_first (buffer : Text) (mentions : List Mention) :
    (({} : Board).startPass buffer mentions).2.1.Steady :=
  Board.steady_empty.startPass buffer mentions

theorem isNew_firstGroups {g : Board.Group} (hg : g ∈ firstGroups buffer mentions) :
    Board.IsNew 0 0 1 buffer (Board.byLine mentions) g :=
  Board.isNew_of_mem (firstGroups_eq buffer mentions ▸ hg)

/-- The groups of a workspace that is going are those of its first pass. -/
theorem Going.group (h : Going p buffer mentions ringing forDesk forBoard w) {g : Board.Group}
    (hg : g ∈ w.board.groups) : g.sheet = 0 ∧ g.buffer = buffer ∧ g.generation = 1 ∧
      g.slots.map (·.1) = Board.onLine mentions g.line := by
  obtain ⟨g₀, hg₀, hs⟩ := h.same g hg
  have hn := isNew_firstGroups hg₀
  have hgen : g.generation = 1 := hs.generation_eq.trans hn.generation
  obtain ⟨generation, mentions', hp, -, hslots⟩ := (h.tracks.group g hg).pass
  unfold firstPass at hp
  split at hp
  · cases hp
    exact ⟨hs.sheet.trans hn.sheet, hs.buffer_eq.trans hn.buffer, hgen, hslots hgen⟩
  · cases hp

theorem Going.answers (h : Going p buffer mentions ringing forDesk forBoard w) {g : Board.Group}
    {i : Nat} {m : Mention} {state : Board.Slot} (hg : g ∈ w.board.groups)
    (hi : g.slots[i]? = some (m, state)) :
    Answers p mentions (g.query i) (p.answer m.reference) := by
  obtain ⟨-, -, -, hs⟩ := h.group hg
  refine ⟨m, ?_, rfl⟩
  change (Board.onLine mentions g.line)[i]? = some m
  rw [← hs, List.getElem?_map, hi]
  rfl

/-- What a slot waits for is its own reference. -/
theorem Going.wants (h : Going p buffer mentions ringing forDesk forBoard w) {g : Board.Group}
    {i : Nat} {m : Mention} {state : Board.Slot} (hg : g ∈ w.board.groups)
    (hi : g.slots[i]? = some (m, state)) (r : Reference) :
    Wants (firstGroups buffer mentions) (.slot g.id i) r ↔ r = m.reference := by
  obtain ⟨g₀, hg₀, hs⟩ := h.same g hg
  have hm : (g₀.slots.map (·.1))[i]? = some m := by
    rw [← hs.mentions, List.getElem?_map, hi]
    rfl
  constructor
  · rintro ⟨g₁, hg₁, hid, m', hm', rfl⟩
    obtain rfl := List.inj_on_of_nodup_map (steady_first buffer mentions).nodup hg₁ hg₀
      (hid.trans hs.id)
    rw [hm] at hm'
    cases hm'
    rfl
  · rintro rfl
    exact ⟨g₀, hg₀, hs.id.symm, m, hm, rfl⟩

theorem isFor_resolution {a : Option Resolution} {o : Outcome} (h : o.IsFor a) :
    o ≠ .stopped ∧ o.resolution? = a := by
  cases o with
  | resolved r => exact ⟨nofun, h.symm⟩
  | failed f => exact ⟨nofun, h.symm⟩
  | stopped => exact h.elim

/-! What is left -/

/-- The jobs there are, and those that board and desk may still ask for. -/
def toDo (w : Workspace ℚ) : Nat := w.agenda.jobs.length + w.board.cost 4 + w.desk.load

/-- The alarms there are, and those that lookups may still set. -/
def toRing (ringing : List (ℚ × Alarm)) (w : Workspace ℚ) : Nat :=
  (ringing ++ w.agenda.alarms).length + w.board.cost 2 + w.desk.rings

/-- Less is left, and nothing that was to be done is lost. -/
structure Onward (ringing : List (ℚ × Alarm)) (w w' : Workspace ℚ) : Prop where
  toDo : w'.toDo ≤ w.toDo
  toRing : w'.toRing ringing ≤ w.toRing ringing
  callers : w'.callers = w.callers
  jobs : ∀ job ∈ w.agenda.jobs, job ∈ w'.agenda.jobs

theorem Onward.refl (ringing : List (ℚ × Alarm)) (w : Workspace ℚ) : Onward ringing w w :=
  ⟨le_refl _, le_refl _, rfl, fun _ => id⟩

theorem Onward.trans (h : Onward ringing w w') (h' : Onward ringing w' w'') :
    Onward ringing w w'' :=
  ⟨h'.toDo.trans h.toDo, h'.toRing.trans h.toRing, h'.callers.trans h.callers,
    fun job hj => h'.jobs job (h.jobs job hj)⟩

theorem left_applyDesk (ringing : List (ℚ × Alarm))
    {change : Desk ℚ Asker × List (Desk.Signal ℚ Asker)} {jobs alarms : Nat}
    (hw : ∀ r, .withdraw r ∉ change.2) (hf : w.desk.Frugal w.agenda.now jobs alarms change) :
    (w.applyDesk change).toDo ≤ w.toDo + jobs ∧
      (w.applyDesk change).toRing ringing ≤ w.toRing ringing + alarms := by
  have ha := adds_applyDesk change hw w
  have hload := hf.load
  have hrings := hf.rings
  have halarms := length_deskAlarms w.network w.agenda.now change.2
  have hlen : (w.applyDesk change).agenda.alarms.length = w.agenda.alarms.length +
      (change.2.filterMap (deskAlarm? w.network w.agenda.now)).length := by
    rw [ha.alarms.length_eq, List.length_append]
  have hd : (w.applyDesk change).desk = change.1 := ha.desk
  have hb : (w.applyDesk change).board = w.board := ha.board
  constructor
  · rw [toDo, toDo, ha.jobs, hd, hb, List.length_append, length_deskJobs]
    dsimp only
    omega
  · rw [toRing, toRing, hd, hb, List.length_append, List.length_append, hlen]
    omega

theorem onward_applyDesk {change : Desk ℚ Asker × List (Desk.Signal ℚ Asker)}
    (hw : ∀ r, .withdraw r ∉ change.2) (hf : w.desk.Frugal w.agenda.now 0 0 change) :
    Onward ringing w (w.applyDesk change) := by
  have ha := adds_applyDesk change hw w
  obtain ⟨hdo, hring⟩ := left_applyDesk ringing hw hf
  refine ⟨hdo, hring, ha.callers, fun job hj => ?_⟩
  rw [ha.jobs]
  exact List.mem_append_left _ hj

theorem onward_applyBoard {change : Board × List Board.Signal} (hq : ∀ x ∈ change.2, x.IsQuiet)
    (hc : ∀ c, change.2.countP Board.isTurn + change.1.cost c ≤ w.board.cost c) :
    Onward ringing w (w.applyBoard change) := by
  have ha := adds_applyBoard change hq w
  have hd : (w.applyBoard change).desk = w.desk := ha.desk
  have hb : (w.applyBoard change).board = change.1 := ha.board
  have hlen : (w.applyBoard change).agenda.alarms.length = w.agenda.alarms.length := by
    rw [ha.alarms.length_eq, List.append_nil]
  have hjobs := hc 4
  have hrings := hc 2
  refine ⟨?_, ?_, ha.callers, fun job hj => ?_⟩
  · rw [toDo, toDo, ha.jobs, hd, hb, List.length_append, length_boardJobs]
    dsimp only
    omega
  · rw [toRing, toRing, hd, hb, List.length_append, List.length_append, hlen]
    omega
  · rw [ha.jobs]
    exact List.mem_append_left _ hj

/-! Jobs -/

def Job.deskWake? : Job → Option Desk.Wake
  | .fetch r => some (.fetch r)
  | .limiter r => some (.limiter r)
  | .reply r _ => some (.reply r)
  | _ => none

def Job.boardWake? : Job → Option Board.Wake
  | .group id => some (.group id)
  | .slot id place => some (.slot id place)
  | .answer (.slot id place) _ => some (.answer id place)
  | _ => none

theorem Going.pop {job : Job} {rest : List Job}
    (h : Going p buffer mentions ringing (fun _ => False) (fun _ => False) w)
    (hj : w.agenda.jobs = job :: rest) :
    Going p buffer mentions ringing (fun e => job.deskWake? = some e)
      (fun e => job.boardWake? = some e) (w.withJobs rest) := by
  have hmem {job' : Job} (hm : job' ∈ w.agenda.jobs) : job' = job ∨ job' ∈ rest := by
    rwa [hj, List.mem_cons] at hm
  have hin {job' : Job} (hm : job' ∈ rest) : job' ∈ w.agenda.jobs := by
    rw [hj]
    exact List.mem_cons_of_mem _ hm
  have hsub : (forgetting rest).Sublist (forgetting w.agenda.jobs) := by
    rw [hj]
    exact (List.sublist_cons_self job rest).filterMap _
  refine ⟨h.network, h.hosts, h.tracks, h.same, h.attended.mono fun e he => ?_,
    h.live.mono fun e he => ?_, h.truthful, fun job' hm => h.jobs job' (hin hm), h.alarms,
    h.once.sublist hsub, fun r hr => h.finished r (hsub.subset hr), h.sleeps, h.prompt, h.past,
    h.callers, fun id hm => h.called id (hin hm)⟩
  · have he := he.resolve_right id
    cases e with
    | group id => exact (hmem he).elim (fun he => .inr (he ▸ rfl)) .inl
    | slot group slot => exact (hmem he).elim (fun he => .inr (he ▸ rfl)) .inl
    | answer group slot =>
      rcases he with hc | ⟨outcome, hm⟩
      · exact .inl (.inl hc)
      · exact (hmem hm).elim (fun he => .inr (he ▸ rfl)) fun hm => .inl (.inr ⟨outcome, hm⟩)
  · have he := he.resolve_right id
    cases e with
    | fetch r => exact (hmem he).elim (fun he => .inr (he ▸ rfl)) .inl
    | limiter r => exact (hmem he).elim (fun he => .inr (he ▸ rfl)) .inl
    | sleep r => exact .inl he
    | reply r =>
      obtain ⟨reply, hm | hm⟩ := he
      · exact (hmem hm).elim (fun he => .inr (he ▸ rfl)) fun hm => .inl ⟨reply, .inl hm⟩
      · exact .inl ⟨reply, .inr hm⟩

/-- What something more was to bring is among what is to come, or is no more. -/
theorem Going.settle {forDesk' : Desk.Wake → Prop} {forBoard' : Board.Wake → Prop}
    (h : Going p buffer mentions ringing forDesk forBoard w)
    (hd : ∀ e, forDesk e → deskDue ringing w e ∨ forDesk' e)
    (hb : ∀ e, forBoard e → boardDue w e ∨ forBoard' e) :
    Going p buffer mentions ringing forDesk' forBoard' w :=
  { h with
    attended := h.attended.mono fun e he => he.elim .inl (hb e)
    live := h.live.mono fun e he => he.elim .inl (hd e) }

theorem Going.reply {r : Reference} {reply : Reply}
    (h : Going p buffer mentions ringing (fun e => e = .reply r) forBoard w)
    (hr : reply.answer r = p.answer r) :
    Going p buffer mentions ringing (fun _ => False) forBoard
        (w.applyDesk (w.desk.reply w.agenda.now r reply)) ∧
      Onward ringing w (w.applyDesk (w.desk.reply w.agenda.now r reply)) := by
  have hh := h.live.honest_reply h.truthful hr w.agenda.now
  have hf := h.live.frugal_reply h.prompt r reply
  have hl : (w.desk.reply w.agenda.now r reply).1.Live (fun e => deskDue ringing w e ∨
      e ∈ Desk.wakes (w.desk.reply w.agenda.now r reply).2) none :=
    (h.live.reply w.agenda.now reply).mono fun _ => .inl
  refine ⟨(h.applyDesk hl hh hf fun r' hr' => ?_).settle ?_ fun _ => .inr,
    onward_applyDesk hh.withdrawn hf⟩
  · exact h.live.isOver_reply w.agenda.now reply (h.finished r' hr')
  · rintro e ⟨r', url, hm, -⟩
    exact absurd hm (h.live.request_not_mem_reply w.agenda.now reply r' url)

/-- A turn at the desk, with the reply that comes at once if there is one. -/
theorem Going.applyTurn (h : Going p buffer mentions ringing forDesk forBoard w)
    {change : Desk ℚ Asker × List (Desk.Signal ℚ Asker)}
    (hl : change.1.Live (fun e => deskDue ringing w e ∨ e ∈ Desk.wakes change.2) none)
    (ht : w.desk.Turned change) (hf : w.desk.Frugal w.agenda.now 0 0 change) :
    Going p buffer mentions ringing (fun _ => False) forBoard (w.applyTurn change) ∧
      Onward ringing w (w.applyTurn change) := by
  have hh := ht.honest h.truthful
  have hgo := h.applyDesk hl hh hf fun r hr => ht.like.isOver (h.finished r hr)
  have hon : Onward ringing w (w.applyDesk change) := onward_applyDesk hh.withdrawn hf
  unfold Workspace.applyTurn
  rcases promptReply?_cases w change.2 with ⟨hn, hall⟩ | ⟨r, url, hm, hd, hp⟩
  · rw [hn]
    refine ⟨hgo.settle ?_ fun _ => .inr, hon⟩
    rintro e ⟨r, url, hm, hd, -⟩
    exact absurd hd (hall r url hm)
  · have hone : Going p buffer mentions ringing (fun e => e = .reply r) forBoard
        (w.applyDesk change) := by
      refine hgo.settle ?_ fun _ => .inr
      rintro e ⟨r', url', hm', -, rfl⟩
      exact .inr (congrArg _ (ht.one r' r url' url hm' hm))
    have hr : (w.network url).reply.answer r = p.answer r := by
      obtain ⟨hv, rfl⟩ := hh.requested r url hm
      rw [Plan.answer, hv, if_pos rfl, ← h.network, ← h.hosts]
    obtain ⟨hgo', hon'⟩ := hone.reply hr
    rw [hp]
    exact ⟨hgo', hon.trans hon'⟩

theorem Going.fetchJob {r : Reference}
    (h : Going p buffer mentions ringing (fun e => e = .fetch r) forBoard w) :
    Going p buffer mentions ringing (fun _ => False) forBoard
        (w.applyTurn (w.desk.fetchTurn w.agenda.now r)) ∧
      Onward ringing w (w.applyTurn (w.desk.fetchTurn w.agenda.now r)) :=
  h.applyTurn (h.live.fetchTurn w.agenda.now) (h.live.turned_fetchTurn w.agenda.now)
    (h.live.frugal_fetchTurn h.prompt)

theorem Going.limiterJob {r : Reference}
    (h : Going p buffer mentions ringing (fun e => e = .limiter r) forBoard w) :
    Going p buffer mentions ringing (fun _ => False) forBoard
        (w.applyTurn (w.desk.limiterTurn w.agenda.now r)) ∧
      Onward ringing w (w.applyTurn (w.desk.limiterTurn w.agenda.now r)) :=
  h.applyTurn (h.live.limiterTurn w.agenda.now) (h.live.turned_limiterTurn w.agenda.now)
    (h.live.frugal_limiterTurn h.prompt)

theorem Going.forgetJob {r : Reference}
    (h : Going p buffer mentions ringing (fun _ => False) forBoard w) (hr : w.desk.IsOver r)
    (hn : r ∉ forgetting w.agenda.jobs) :
    Going p buffer mentions ringing (fun _ => False) forBoard (w.applyDesk (w.desk.forget r)) ∧
      Onward ringing w (w.applyDesk (w.desk.forget r)) := by
  have hover : ∀ f ∈ w.desk.fetches, f.reference = r → f.IsOver := fun f hf he => by
    obtain ⟨g, hg, rfl, ho⟩ := hr
    rwa [List.inj_on_of_nodup_map h.live.nodup hf hg he]
  have hh := h.live.honest_forget h.truthful hover
  have hf := Desk.frugal_forget h.prompt r
  have hl : (w.desk.forget r).1.Live (fun e => deskDue ringing w e ∨
      e ∈ Desk.wakes (w.desk.forget r).2) none :=
    (h.live.forget hover).mono fun _ he => .inl (he.resolve_right id)
  refine ⟨(h.applyDesk hl hh hf fun r' hr' => ?_).settle ?_ fun _ => .inr,
    onward_applyDesk hh.withdrawn hf⟩
  · exact Desk.isOver_forget (fun he => hn (he ▸ hr')) (h.finished r' hr')
  · rintro e ⟨r', url, hm, -⟩
    obtain ⟨e, he⟩ := (Desk.forget_cases w.desk r).2 _ hm
    cases he

theorem Going.groupJob {id : Nat}
    (h : Going p buffer mentions ringing forDesk (fun e => e = .group id) w) :
    Going p buffer mentions ringing forDesk (fun _ => False)
        (w.applyBoard (w.board.groupTurn id)) ∧
      Onward ringing w (w.applyBoard (w.board.groupTurn id)) := by
  have hst := h.tracks.steady
  have ht := h.tracks.groupTurn id
  have hq := Board.isQuiet_groupTurn w.board id
  refine ⟨h.applyBoard hq ht ?_ ?_, onward_applyBoard hq (Board.cost_groupTurn hst id)⟩
  · exact (Board.moves_groupTurn hst id).same ht.steady (Board.nextGroup_groupTurn hst id)
  · exact (h.attended.groupTurn hst).mono fun _ => .inl

theorem Going.answerJob {id slot : Nat} {outcome : Outcome}
    (h : Going p buffer mentions ringing forDesk (fun e => e = .answer id slot) w)
    (ho : ∃ r, Wants (firstGroups buffer mentions) (.slot id slot) r ∧ outcome.IsFor (p.answer r)) :
    Going p buffer mentions ringing forDesk (fun _ => False)
        (w.applyBoard (w.board.answer id slot outcome)) ∧
      Onward ringing w (w.applyBoard (w.board.answer id slot outcome)) := by
  obtain ⟨r, hw, hr⟩ := ho
  obtain ⟨hstop, hres⟩ := isFor_resolution hr
  have hst := h.tracks.steady
  have ht := h.tracks.answer id slot hstop fun g m hg hi => by
    obtain ⟨hm, rfl⟩ := Board.mem_of_group? hg
    obtain rfl := (h.wants hm hi r).mp hw
    exact hres ▸ h.answers hm hi
  have hq := Board.isQuiet_answer w.board id slot outcome
  refine ⟨h.applyBoard hq ht ?_ ?_,
    onward_applyBoard hq fun c => Board.cost_answer hst id slot c hstop⟩
  · exact (Board.moves_answer hst id slot hstop).same ht.steady
      (Board.nextGroup_answer hst id slot hstop)
  · exact (h.attended.answer hst hstop).mono fun _ => .inl

/-- A slot asks the desk: it is answered at once, or it waits. -/
theorem Going.ask {id slot : Nat} {r : Reference}
    (h : Going p buffer mentions ringing (fun _ => False) forBoard w)
    (hw : Wants (firstGroups buffer mentions) (.slot id slot) r) (pass : Option Text) :
    let asked := w.ask (.slot id slot) pass r
    Going p buffer mentions ringing (fun _ => False) forBoard asked.2 ∧
      (∀ o, asked.1 = some o → o.IsFor (p.answer r)) ∧
      (asked.1 = none → boardDue asked.2 (.answer id slot)) ∧
      asked.2.toDo ≤ w.toDo + 4 ∧ asked.2.toRing ringing ≤ w.toRing ringing + 2 ∧
      asked.2.callers = w.callers ∧ asked.2.board = w.board ∧
      ∀ job ∈ w.agenda.jobs, job ∈ asked.2.agenda.jobs := by
  have hmissing : ∀ r, r.isValid = false → p.answer r = some (.missing r) := fun r hr => by
    simp [Plan.answer, hr]
  have hh := h.live.honest_ask h.truthful hmissing hw w.agenda.now pass
  have hf := h.live.frugal_ask h.prompt (.slot id slot) pass r
  have hout := (h.truthful.ask hmissing hw w.agenda.now pass).2
  have hwaits := (h.live.waits_ask w.agenda.now (.slot id slot) pass r).1
  have hl : (w.desk.ask w.agenda.now (.slot id slot) pass r).2.1.Live
      (fun e => deskDue ringing w e ∨
        e ∈ Desk.wakes (w.desk.ask w.agenda.now (.slot id slot) pass r).2.2) none :=
    (h.live.ask w.agenda.now (.slot id slot) pass r).mono
      fun e he => he.imp_left fun he => he.resolve_right not_false
  have ha := adds_applyDesk _ hh.withdrawn w
  obtain ⟨hdo, hring⟩ := left_applyDesk ringing hh.withdrawn hf
  refine ⟨(h.applyDesk hl hh hf fun r' hr => ?_).settle ?_ fun _ => .inr, hout, fun hn => .inl ?_,
    hdo, hring, ha.callers, ha.board, fun job hj => ?_⟩
  · exact h.live.isOver_ask w.agenda.now (.slot id slot) pass r (h.finished r' hr)
  · rintro e ⟨r', url, hm, -⟩
    rcases Desk.ask_signals w.desk w.agenda.now (.slot id slot) pass r _ hm with ⟨e, he⟩ | he <;>
      cases he
  · exact ha.desk ▸ hwaits hn
  · change job ∈ (w.applyDesk (w.desk.ask w.agenda.now (.slot id slot) pass r).2).agenda.jobs
    rw [ha.jobs]
    exact List.mem_append_left _ hj

theorem Going.slotJob {id slot : Nat}
    (h : Going p buffer mentions ringing (fun _ => False) (fun e => e = .slot id slot) w) :
    Going p buffer mentions ringing (fun _ => False) (fun _ => False) (w.slotTurn id slot) ∧
      Onward ringing w (w.slotTurn id slot) := by
  have hst := h.tracks.steady
  have ha := h.attended.slotTurn hst
  have ht := h.tracks.slotTurn id slot
  have hsame := (Board.moves_slotTurn hst id slot).same ht.steady
    (Board.nextGroup_slotTurn hst id slot)
  have hcost := Board.cost_slotTurn hst id slot
  unfold Workspace.slotTurn
  rcases Board.slotTurn_cases hst id slot with ⟨he, -⟩ | ⟨g, m, hg, hi, he⟩
  · rw [he] at ha ⊢
    refine ⟨{ h with attended := ha.mono fun e he => .inl ?_ }, .refl ringing w⟩
    exact he.resolve_right nofun
  · rw [he] at ha ht hsame hcost ⊢
    obtain ⟨hm, rfl⟩ := Board.mem_of_group? hg
    have hasks := (h.wants hm hi m.reference).mpr rfl
    have h₁ : Going p buffer mentions ringing (fun _ => False) (fun e => e = .answer g.id slot)
        { w with board := w.board.setGroup (g.setSlot slot .asking) } := by
      change Going p buffer mentions ringing (fun _ => False) _
        (w.applyBoard (w.board.setGroup (g.setSlot slot .asking), []))
      refine h.applyBoard nofun ht hsame (ha.mono fun e he => ?_)
      exact he.imp .inl fun hw => List.mem_singleton.mp hw
    -- the slot pays for the fetch that its question may make
    have hb (c : Nat) :
        (w.board.setGroup (g.setSlot slot .asking)).cost c + c = w.board.cost c := by
      obtain ⟨_, _, -, hc⟩ := (hcost c).resolve_left fun hh => by
        cases (Prod.ext_iff.mp hh).2
      exact hc
    have hdo : toDo { w with board := w.board.setGroup (g.setSlot slot .asking) } + 4 = w.toDo := by
      have := hb 4
      simp only [toDo]
      omega
    have hring : toRing ringing { w with board := w.board.setGroup (g.setSlot slot .asking) } + 2 =
        w.toRing ringing := by
      have := hb 2
      simp only [toRing]
      omega
    obtain ⟨h₂, hout, hwaits, hdo₂, hring₂, hcallers, -, hjobs⟩ := h₁.ask hasks (some g.pass)
    have hon : Onward ringing w (Workspace.ask { w with
        board := w.board.setGroup (g.setSlot slot .asking) } (.slot g.id slot) (some g.pass)
        m.reference).2 := ⟨by omega, by omega, hcallers, hjobs⟩
    cases hasked : (Workspace.ask { w with board := w.board.setGroup (g.setSlot slot .asking) }
        (.slot g.id slot) (some g.pass) m.reference).1 with
    | none =>
      simp only [hasked]
      refine ⟨h₂.settle (fun _ => .inr) fun e he => .inl ?_, hon⟩
      rw [he]
      exact hwaits hasked
    | some o =>
      simp only [hasked]
      obtain ⟨h₃, hon₃⟩ := h₂.answerJob ⟨m.reference, hasks, hout o hasked⟩
      exact ⟨h₃, hon.trans hon₃⟩

theorem Going.soon (job : Job) (h : Going p buffer mentions ringing forDesk forBoard w)
    (hf : job.IsFine p (firstGroups buffer mentions)) (hforget : ∀ r, job ≠ .forget r)
    (hcall : ∀ id, job = .caller id → w.board.groups = []) :
    Going p buffer mentions ringing forDesk forBoard (w.soon job) := by
  have hin : ∀ job' ∈ w.agenda.jobs, job' ∈ (w.soon job).agenda.jobs :=
    fun _ hm => List.mem_append_left _ hm
  have hout {job' : Job} (hm : job' ∈ (w.soon job).agenda.jobs) :
      job' ∈ w.agenda.jobs ∨ job' = job := (List.mem_append.mp hm).imp_right List.mem_singleton.mp
  have hforgets : forgetting (w.soon job).agenda.jobs = forgetting w.agenda.jobs := by
    have hone : forgetting [job] = [] := List.eq_nil_iff_forall_not_mem.mpr fun r hr =>
      hforget r (List.mem_singleton.mp (mem_forgetting.mp hr)).symm
    rw [forgetting] at hone ⊢
    change (w.agenda.jobs ++ [job]).filterMap _ = _
    rw [List.filterMap_append, hone, List.append_nil]
    rfl
  exact ⟨h.network, h.hosts, h.tracks, h.same,
    h.attended.mono fun e he => he.imp_left (boardDue_mono hin fun _ hc => hc),
    h.live.mono fun e he => he.imp_left (deskDue_mono hin fun _ hm => hm), h.truthful,
    fun job' hm => (hout hm).elim (h.jobs job') fun he => he ▸ hf, h.alarms, hforgets ▸ h.once,
    fun r hr => h.finished r (hforgets ▸ hr), h.sleeps, h.prompt, h.past, h.callers,
    fun id hm => (hout hm).elim (h.called id) fun he => hcall id he.symm⟩

/-! Callers -/

theorem Going.isOver_iff (h : Going p buffer mentions ringing forDesk forBoard w) :
    w.isOver (.sheetIdle 0) = true ↔ w.board.groups = [] := by
  have hall : w.board.groupsOf 0 = w.board.groups :=
    List.filter_eq_self.mpr fun g hg => by simp [(h.group hg).1]
  simp [Workspace.isOver, hall]

theorem resume_idle (hn : w.isOver (.sheetIdle 0) = true) :
    w.resume 0 [.sheetIdle 0] =
      { w with callers := w.callers.erase 0 }.note (.returned 0) := by
  simp [resume, planLength, proceed, hn, enter]

theorem Going.callerJob (id : Nat) (h : Going p buffer mentions ringing forDesk forBoard w)
    (hn : w.board.groups = []) :
    Going p buffer mentions ringing forDesk forBoard (w.perform (.caller id)) ∧
      (w.perform (.caller id)).toDo = w.toDo ∧
      (w.perform (.caller id)).toRing ringing = w.toRing ringing ∧
      (w.perform (.caller id)).agenda = w.agenda ∧
      ((w.perform (.caller id)).callers = [] ∨
        id ≠ 0 ∧ (w.perform (.caller id)).callers = w.callers) := by
  have hstay (hg : w.callers.get? id = none) : w.perform (.caller id) = w := by
    simp [perform, hg]
  rcases h.callers with ⟨hc, -⟩ | hc
  · rw [hstay (by rw [hc]; rfl)]
    exact ⟨h, rfl, rfl, rfl, .inl hc⟩
  · by_cases hid : id = 0
    · subst hid
      have hp : w.perform (.caller 0) =
          { w with callers := w.callers.erase 0 }.note (.returned 0) := by
        have hg : w.callers.get? 0 = some [.sheetIdle 0] := by rw [hc]; rfl
        simp only [perform, hg]
        exact resume_idle (h.isOver_iff.mpr hn)
      have hnil : w.callers.erase 0 = [] := by rw [hc]; rfl
      rw [hp]
      exact ⟨{ h with callers := .inl ⟨hnil, hn⟩ }, rfl, rfl, rfl, .inl hnil⟩
    · rw [hstay (by rw [hc, Register.get?_cons, if_neg (Ne.symm hid)]; rfl)]
      exact ⟨h, rfl, rfl, rfl, .inr ⟨hid, rfl⟩⟩

/-- The turns that callers are still to get. -/
def toCall (w : Workspace ℚ) : Nat :=
  if w.callers = [] ∨ .caller 0 ∈ w.agenda.jobs then 0 else 1

theorem toCall_le (hc : w'.callers = w.callers)
    (hj : .caller 0 ∈ w.agenda.jobs → .caller 0 ∈ w'.agenda.jobs) : w'.toCall ≤ w.toCall := by
  unfold toCall
  rw [hc]
  by_cases hn : w.callers = [] ∨ .caller 0 ∈ w.agenda.jobs
  · rw [if_pos (hn.imp_right hj)]
    exact Nat.zero_le _
  · rw [if_neg hn]
    split <;> omega

/-! One job after the other -/

/-- Every job keeps a workspace going, and brings it forward. -/
theorem Going.perform {job : Job} {rest : List Job}
    (h : Going p buffer mentions ringing (fun _ => False) (fun _ => False) w)
    (hj : w.agenda.jobs = job :: rest) :
    Going p buffer mentions ringing (fun _ => False) (fun _ => False)
        ((w.withJobs rest).perform job) ∧
      ((w.withJobs rest).perform job).toDo < w.toDo ∧
      ((w.withJobs rest).perform job).toRing ringing ≤ w.toRing ringing ∧
      ((w.withJobs rest).perform job).toCall ≤ w.toCall := by
  have hpop := h.pop hj
  have hfine := h.jobs job (hj ▸ List.mem_cons_self)
  have hdo : (w.withJobs rest).toDo + 1 = w.toDo := by
    simp only [toDo, withJobs, hj, List.length_cons]
    omega
  have hcaller (hne : job ≠ .caller 0) (hm : .caller 0 ∈ w.agenda.jobs) : .caller 0 ∈ rest := by
    rw [hj] at hm
    exact (List.mem_cons.mp hm).resolve_left (Ne.symm hne)
  -- what comes of a job that moves the workspace onward
  have honward {w' : Workspace ℚ} (hne : job ≠ .caller 0)
      (hw : Going p buffer mentions ringing (fun _ => False) (fun _ => False) w' ∧
        Onward ringing (w.withJobs rest) w') :
      Going p buffer mentions ringing (fun _ => False) (fun _ => False) w' ∧
        w'.toDo < w.toDo ∧ w'.toRing ringing ≤ w.toRing ringing ∧ w'.toCall ≤ w.toCall := by
    refine ⟨hw.1, ?_, hw.2.toRing, toCall_le hw.2.callers fun hm => hw.2.jobs _ (hcaller hne hm)⟩
    have := hw.2.toDo
    omega
  cases job with
  | timer debouncer timer => exact hfine.elim
  | call id => exact hfine.elim
  | member id place => exact hfine.elim
  | group id =>
    refine honward nofun (Going.groupJob (hpop.settle ?_ ?_))
    · rintro e ⟨⟩
    · rintro e ⟨⟩
      exact .inr rfl
  | slot group slot =>
    refine honward nofun (Going.slotJob (hpop.settle ?_ ?_))
    · rintro e ⟨⟩
    · rintro e ⟨⟩
      exact .inr rfl
  | fetch r =>
    refine honward nofun (Going.fetchJob (hpop.settle ?_ ?_))
    · rintro e ⟨⟩
      exact .inr rfl
    · rintro e ⟨⟩
  | limiter r =>
    refine honward nofun (Going.limiterJob (hpop.settle ?_ ?_))
    · rintro e ⟨⟩
      exact .inr rfl
    · rintro e ⟨⟩
  | reply r reply =>
    refine honward nofun (Going.reply (hpop.settle ?_ ?_) hfine)
    · rintro e ⟨⟩
      exact .inr rfl
    · rintro e ⟨⟩
  | forget r =>
    have hforgets : forgetting w.agenda.jobs = r :: forgetting rest := by rw [hj]; rfl
    have hnd := h.once
    rw [hforgets] at hnd
    refine honward nofun (Going.forgetJob (hpop.settle ?_ ?_) ?_ (List.nodup_cons.mp hnd).1)
    · rintro e ⟨⟩
    · rintro e ⟨⟩
    · exact h.finished r (hforgets ▸ List.mem_cons_self)
  | answer asker outcome =>
    obtain ⟨r, hw, hr⟩ := hfine
    cases asker with
    | slot group slot =>
      refine honward nofun (Going.answerJob (hpop.settle ?_ ?_) ⟨r, hw, hr⟩)
      · rintro e ⟨⟩
      · rintro e ⟨⟩
        exact .inr rfl
    | call id => exact hw.elim
    | member id place => exact hw.elim
  | caller id =>
    have hn := h.called id (hj ▸ List.mem_cons_self)
    have hpop : Going p buffer mentions ringing (fun _ => False) (fun _ => False)
        (w.withJobs rest) := hpop.settle (by rintro e ⟨⟩) (by rintro e ⟨⟩)
    obtain ⟨hgo, hdo', hring, hagenda, hc⟩ := hpop.callerJob id hn
    refine ⟨hgo, by omega, hring.le, ?_⟩
    rcases hc with hc | ⟨hid, hc⟩
    · rw [toCall, if_pos (.inl hc)]
      exact Nat.zero_le _
    · refine toCall_le hc fun hm => ?_
      rw [hagenda]
      exact hcaller (by simpa using hid) hm

/-- No caller is forgotten: one that can go on has a turn coming. -/
def Called (w : Workspace ℚ) : Prop :=
  w.callers ≠ [] → w.board.groups = [] → .caller 0 ∈ w.agenda.jobs

theorem Going.callCallers
    (h : Going p buffer mentions ringing (fun _ => False) (fun _ => False) w) :
    Going p buffer mentions ringing (fun _ => False) (fun _ => False) w.callCallers ∧
      w.callCallers.toDo + w.callCallers.toCall ≤ w.toDo + w.toCall ∧
      w.callCallers.toRing ringing = w.toRing ringing ∧ w.callCallers.Called := by
  rcases h.callers with ⟨hc, -⟩ | hc
  · have he : w.callCallers = w := by simp [Workspace.callCallers, hc]
    rw [he]
    exact ⟨h, le_refl _, rfl, fun hn => absurd hc hn⟩
  · cases hcond : w.isOver (.sheetIdle 0) && !w.agenda.jobs.contains (.caller 0) with
    | true =>
      have he : w.callCallers = w.soon (.caller 0) := by
        simp only [Workspace.callCallers, hc, List.foldl_cons, List.foldl_nil, List.head?_cons,
          Option.all_some, hcond, if_true]
      obtain ⟨hn, hm⟩ : w.board.groups = [] ∧ .caller 0 ∉ w.agenda.jobs := by
        simpa [h.isOver_iff] using hcond
      have hin : .caller 0 ∈ (w.soon (.caller 0)).agenda.jobs :=
        List.mem_append_right _ List.mem_cons_self
      rw [he]
      refine ⟨h.soon (.caller 0) trivial nofun fun _ _ => hn, ?_, rfl, fun _ _ => hin⟩
      have hcall : w.toCall = 1 := if_neg (by simp [hc, hm])
      have hcall' : (w.soon (.caller 0)).toCall = 0 := if_pos (.inr hin)
      have hdo : (w.soon (.caller 0)).toDo = w.toDo + 1 := by
        simp only [toDo, Workspace.soon, Agenda.soon, List.length_append, List.length_singleton]
        omega
      omega
    | false =>
      have he : w.callCallers = w := by
        simp only [Workspace.callCallers, hc, List.foldl_cons, List.foldl_nil, List.head?_cons,
          Option.all_some, hcond, Bool.false_eq_true, if_false]
      rw [he]
      refine ⟨h, le_refl _, rfl, fun _ hn => ?_⟩
      simpa [h.isOver_iff.mpr hn] using hcond

theorem Going.work (h : Going p buffer mentions ringing (fun _ => False) (fun _ => False) w)
    (hj : w.agenda.jobs ≠ []) :
    Going p buffer mentions ringing (fun _ => False) (fun _ => False) w.work ∧
      w.work.toDo + w.work.toCall < w.toDo + w.toCall ∧
      w.work.toRing ringing ≤ w.toRing ringing ∧ w.work.Called := by
  obtain ⟨job, rest, hj⟩ := List.exists_cons_of_ne_nil hj
  have he : w.work = ((w.withJobs rest).perform job).callCallers := by
    simp only [Workspace.work, Agenda.nextJob?, hj]
    rfl
  obtain ⟨hgo, hdo, hring, hcall⟩ := h.perform hj
  obtain ⟨hgo', hdo', hring', hcalled⟩ := hgo.callCallers
  rw [he]
  exact ⟨hgo', by omega, by omega, hcalled⟩

end CommitMessage.Workspace
