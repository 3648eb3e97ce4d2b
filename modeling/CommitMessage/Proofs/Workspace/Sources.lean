import CommitMessage.Proofs.Lookup.Requests
import CommitMessage.Proofs.Workspace.Cached

/-! Where knowledge comes from. Whatever events make up a run, each reply that comes for a reference
is the reply to a request that went out to the address of that reference, and the cache holds
nothing else. -/

namespace CommitMessage.Workspace

variable {heard heard' : Reference → Reply → Prop} {w₀ w w' : Workspace ℚ} {r : Reference}

/-- A reply has come for the reference, or is on its way. -/
def Expects (w : Workspace ℚ) (r : Reference) (reply : Reply) : Prop :=
  .reply r reply ∈ w.agenda.jobs ∨ ∃ time, (time, Alarm.reply r reply) ∈ w.agenda.alarms

/-- Nothing is expected or known that has not been heard. -/
structure Sourced (heard : Reference → Reply → Prop) (w : Workspace ℚ) : Prop where
  proper : w.desk.IsProper
  replies : ∀ r reply, w.Expects r reply → heard r reply
  entries : ∀ r e, (r, e) ∈ w.desk.cache.entries → r.isValid = true ∧
    ∃ reply, reply.verdict? r = some e.verdict ∧ heard r reply

theorem Sourced.mono (h : w.Sourced heard) (hm : ∀ r reply, heard r reply → heard' r reply) :
    w.Sourced heard' := by
  refine ⟨h.proper, fun r reply he => hm r reply (h.replies r reply he), fun r e hc => ?_⟩
  obtain ⟨hv, reply, hverdict, hh⟩ := h.entries r e hc
  exact ⟨hv, reply, hverdict, hm r reply hh⟩

/-- Heard before the start, or in reply to a request that has gone out since then. -/
def HeardSince (heard : Reference → Reply → Prop) (w₀ w : Workspace ℚ) (r : Reference)
    (reply : Reply) : Prop :=
  heard r reply ∨ reply = (w₀.network (r.url w₀.desk.hosts)).reply ∧
    ∃ time, (r.url w₀.desk.hosts, time) ∈ w.fetched.drop w₀.fetched.length

theorem HeardSince.grow {reply : Reply} (h : HeardSince heard w₀ w r reply)
    (hf : w.fetched <+: w'.fetched) : HeardSince heard w₀ w' r reply := by
  refine h.imp_right fun ⟨hreply, time, hm⟩ => ⟨hreply, time, ?_⟩
  exact (hf.drop w₀.fetched.length).subset hm

/-- What a workspace may come to in the course of an event. -/
structure Underway (heard : Reference → Reply → Prop) (w₀ w : Workspace ℚ) : Prop where
  hosts : w.desk.hosts = w₀.desk.hosts
  network : w.network = w₀.network
  fetched : w₀.fetched <+: w.fetched
  sourced : w.Sourced (HeardSince heard w₀ w)

theorem underway_start (h : w₀.Sourced heard) : Underway heard w₀ w₀ :=
  ⟨rfl, rfl, List.prefix_rfl, h.mono fun _ _ => .inl⟩

namespace Underway

variable (h : Underway heard w₀ w)

include h

theorem next (hhosts : w'.desk.hosts = w.desk.hosts) (hnetwork : w'.network = w.network)
    (hfetched : w.fetched <+: w'.fetched) (hproper : w'.desk.IsProper)
    (hreplies : ∀ r reply, w'.Expects r reply →
      w.Expects r reply ∨ HeardSince heard w₀ w' r reply)
    (hentries : ∀ r e, (r, e) ∈ w'.desk.cache.entries → (r, e) ∈ w.desk.cache.entries ∨
      r.isValid = true ∧ ∃ reply, reply.verdict? r = some e.verdict ∧
        HeardSince heard w₀ w' r reply) : Underway heard w₀ w' := by
  have hold := h.sourced.mono fun r reply hh => hh.grow hfetched
  refine ⟨hhosts.trans h.hosts, hnetwork.trans h.network, h.fetched.trans hfetched, hproper,
    fun r reply he => ?_, fun r e hm => ?_⟩
  · exact (hreplies r reply he).elim (hold.replies r reply) id
  · exact (hentries r e hm).elim (hold.entries r e) id

/-- Nothing has changed for the desk, and nothing more is expected. -/
theorem keep (hd : w'.desk = w.desk) (hn : w'.network = w.network)
    (hf : w'.fetched = w.fetched)
    (hr : ∀ r reply, w'.Expects r reply → w.Expects r reply) : Underway heard w₀ w' :=
  h.next (hd ▸ rfl) hn (hf ▸ List.prefix_rfl) (hd ▸ h.sourced.proper)
    (fun r reply he => .inl (hr r reply he)) fun _ _ hm => .inl (hd ▸ hm)

theorem note {e : Entry ℚ} (he : e.request? = none) : Underway heard w₀ (w.note e) :=
  h.keep rfl rfl (by simp [Workspace.fetched, Workspace.note, he]) fun _ _ => id

theorem soon {job : Job} (hj : job.reply? = none) :
    Underway heard w₀ (w.soon job) := by
  refine h.keep rfl rfl rfl fun r reply he => he.imp_left fun hm => ?_
  rcases List.mem_append.mp hm with hm | hm
  · exact hm
  · rw [← List.mem_singleton.mp hm] at hj
    cases hj

theorem later (delay : ℚ) {alarm : Alarm}
    (ha : alarm.reply? = none) : Underway heard w₀ (w.later delay alarm) := by
  refine h.keep rfl rfl rfl fun r reply he => he.imp_right fun ⟨time, hm⟩ => ⟨time, ?_⟩
  rcases List.mem_append.mp ((insertAlarm_perm _ _ _).subset hm) with hm | hm
  · exact hm
  · cases List.mem_singleton.mp hm
    cases ha

theorem silence (p : Alarm → Bool) :
    Underway heard w₀ (w.silence p) :=
  h.keep rfl rfl rfl fun _ _ he =>
    he.imp_right fun ⟨time, hm⟩ => ⟨time, List.mem_of_mem_filter hm⟩

/-! The desk -/

/-- A request goes out to the address of its reference. -/
theorem request {url : Text} (hu : url = r.url w.desk.hosts) :
    Underway heard w₀ (w.request r url) := by
  have hadds := adds_request w r url
  have hfetched : (w.request r url).fetched = w.fetched ++ [(url, w.agenda.now)] :=
    (fetched_deskSignal w (.request r url)).2
  have hheard : HeardSince heard w₀ (w.request r url) r (w.network url).reply := by
    rw [h.hosts] at hu
    subst hu
    refine .inr ⟨by rw [h.network], w.agenda.now, ?_⟩
    rw [hfetched, List.drop_append_of_le_length h.fetched.length_le]
    exact List.mem_append_right _ (List.mem_singleton_self _)
  refine h.next (by rw [hadds.desk]) hadds.network ⟨_, hfetched.symm⟩ ?_ (fun r' reply' he => ?_)
    fun r' e hm => ?_
  · rw [hadds.desk]
    exact h.sourced.proper
  · rcases he with hm | ⟨time, hm⟩
    · rw [hadds.jobs, List.append_nil] at hm
      exact .inl (.inl hm)
    · rcases List.mem_append.mp (hadds.alarms.subset hm) with hm | hm
      · exact .inl (.inr ⟨time, hm⟩)
      · rw [Option.mem_toList, deskAlarm?, Option.map_eq_some_iff] at hm
        obtain ⟨delay, -, hm⟩ := hm
        cases hm
        exact .inr hheard
  · rw [hadds.desk] at hm
    exact .inl hm

theorem withDesk {d : Desk ℚ Asker} (hh : d.hosts = w.desk.hosts)
    (hc : d.cache = w.desk.cache) (hp : d.IsProper) : Underway heard w₀ { w with desk := d } :=
  h.next hh rfl List.prefix_rfl hp (fun _ _ => .inl) fun _ _ hm => .inl (hc ▸ hm)

theorem deskSignal {s : Desk.Signal ℚ Asker}
    (hs : ∀ r url, s = .request r url → url = r.url w.desk.hosts) :
    Underway heard w₀ (w.deskSignal s) := by
  cases s with
  | fetchTurn r => exact h.soon rfl
  | limiterTurn r => exact h.soon rfl
  | sleep r delay => exact h.later delay rfl
  | withdraw r => exact h.silence _
  | deliver asker outcome => exact h.soon rfl
  | forget r => exact h.soon rfl
  | note e => exact h.note rfl
  | request r url => exact h.request (hs r url rfl)

theorem applyDesk
    {change : Desk ℚ Asker × List (Desk.Signal ℚ Asker)} (hs : w.desk.Seeks change) :
    Underway heard w₀ (w.applyDesk change) := by
  have hdesk := h.withDesk hs.hosts hs.cache (hs.proper h.sourced.proper)
  refine List.foldlRecOn (motive := Underway heard w₀) change.2 Workspace.deskSignal hdesk
    fun w' h' s hm => h'.deskSignal fun r url he => ?_
  rw [h'.hosts, ← h.hosts]
  exact hs.requests r url (he ▸ hm)

theorem learn {f : Desk.Fetch Asker} {reply : Reply} (hf : f ∈ w.desk.fetches)
    (hh : HeardSince heard w₀ w f.reference reply) (now : ℚ) :
    Underway heard w₀ { w with desk := { w.desk with
      cache := w.desk.cache.learn now f.reference (reply.verdict? f.reference) } } := by
  refine h.next rfl rfl List.prefix_rfl h.sourced.proper (fun _ _ => .inl) fun r e hm => ?_
  cases hv : reply.verdict? f.reference with
  | none =>
    rw [hv] at hm
    exact .inl hm
  | some verdict =>
    rw [hv] at hm
    rcases Cache.mem_put hm with he | hm
    · cases he
      exact .inr ⟨h.sourced.proper f hf, reply, hv, hh⟩
    · exact .inl hm

theorem reply {reply : Reply} (hh : HeardSince heard w₀ w r reply) (now : ℚ) :
    Underway heard w₀ (w.applyDesk (w.desk.reply now r reply)) := by
  rcases w.desk.reply_learns now r reply with hs | ⟨f, hf, rfl, hs⟩
  · exact h.applyDesk hs
  · exact (h.learn hf hh now).applyDesk hs

theorem applyTurn
    {change : Desk ℚ Asker × List (Desk.Signal ℚ Asker)} (hs : w.desk.Seeks change) :
    Underway heard w₀ (w.applyTurn change) := by
  have hafter := h.applyDesk hs
  unfold Workspace.applyTurn
  dsimp only
  split
  · next r reply hp =>
    refine hafter.reply ?_ _
    rcases promptReply?_cases w change.2 with ⟨hnone, -⟩ | ⟨r', url, hm, -, hsome⟩
    · rw [hnone] at hp
      cases hp
    · rw [hsome] at hp
      cases hp
      obtain rfl := hs.requests _ _ hm
      refine .inr ⟨by rw [h.hosts, h.network], w.agenda.now, ?_⟩
      rw [fetched_applyDesk, List.drop_append_of_le_length h.fetched.length_le, ← h.hosts]
      exact List.mem_append_right _ (List.mem_filterMap.mpr ⟨_, hm, rfl⟩)
  · exact hafter

theorem ask (asker : Asker) (pass : Option Text)
    (r : Reference) : Underway heard w₀ (w.ask asker pass r).2 :=
  h.applyDesk (Desk.seeks_ask w.desk w.agenda.now asker pass r)

theorem leave (asker : Asker) :
    Underway heard w₀ { w with desk := w.desk.leave asker } :=
  h.withDesk rfl rfl (Desk.isProper_leave h.sourced.proper asker)

/-! The board -/

theorem handOver (pass : Option Text) (c : Board.Commit) :
    Underway heard w₀ (w.handOver pass c) := by
  unfold Workspace.handOver
  split
  · exact h
  · dsimp only
    split
    · exact (h.note rfl).note rfl
    · exact h.note rfl

theorem boardSignal (x : Board.Signal) :
    Underway heard w₀ (w.boardSignal x) := by
  cases x with
  | groupTurn id => exact h.soon rfl
  | slotTurn id slot => exact h.soon rfl
  | ask id slot pass r => exact h
  | withdraw id slot => exact h.leave _
  | commit pass c => exact h.handOver pass c
  | note e => exact h.note rfl
  | ended id => exact h

theorem withBoard (board : Board) :
    Underway heard w₀ { w with board } :=
  h.keep rfl rfl rfl fun _ _ => id

theorem applyBoard (change : Board × List Board.Signal) :
    Underway heard w₀ (w.applyBoard change) :=
  List.foldlRecOn (motive := Underway heard w₀) change.2 Workspace.boardSignal
    (h.withBoard change.1) fun _ h' x _ => h'.boardSignal x

theorem withTexts (texts : Register Text Text)
    (latest : Register Text Pass) : Underway heard w₀ { w with texts, latest } :=
  h.keep rfl rfl rfl fun _ _ => id

theorem runPass (buffer text : Text) :
    Underway heard w₀ (w.runPass buffer text).2 := by
  have hboard := (h.withTexts (w.texts.set buffer text) w.latest).applyBoard
    (w.board.startPass buffer ((Occurrence.ofLines text.messageLines).map Occurrence.mention)).2
  obtain ⟨w', h', he⟩ := runPass_rec (C := Underway heard w₀) w buffer text hboard
    (fun w' findings h' => h'.note rfl) fun w' e h' => h'.note rfl
  rw [he]
  exact h'.withTexts w'.texts _

theorem runLatest (buffer : Text) :
    Underway heard w₀ (w.runLatest buffer) := by
  unfold Workspace.runLatest
  split
  · exact h.runPass buffer _
  · exact h

theorem attach (buffer path text : Text) :
    Underway heard w₀ (w.attach buffer path text).2 := by
  unfold Workspace.attach
  split
  · exact h.runPass buffer text
  · exact h.note rfl

/-! Timers -/

theorem withDebouncers (debouncerOf : Register Text Nat)
    (debouncers : Register Nat (Text × Debouncer ℚ)) (nextDebouncer : Nat) :
    Underway heard w₀ { w with debouncerOf, debouncers, nextDebouncer } :=
  h.keep rfl rfl rfl fun _ _ => id

theorem debouncerSignal (id : Nat) (buffer : Text)
    (s : Debouncer.Signal ℚ) : Underway heard w₀ (debouncerSignal id buffer w s) := by
  cases s with
  | turn timer => exact h.soon rfl
  | sleep timer delay => exact h.later delay rfl
  | run timer =>
    have hrun := h.runLatest buffer
    unfold Workspace.debouncerSignal
    dsimp only
    split
    · exact hrun.withDebouncers _ _ _
    · exact hrun
  | ended timer => exact h

theorem withDebouncer (id : Nat)
    (change : Debouncer ℚ → Debouncer ℚ × List (Debouncer.Signal ℚ)) :
    Underway heard w₀ (w.withDebouncer id change) := by
  unfold Workspace.withDebouncer
  split
  · next buffer d _ =>
    exact List.foldlRecOn (motive := Underway heard w₀) (change d).2
      (Workspace.debouncerSignal id buffer) (h.withDebouncers _ _ _)
      fun _ h' s _ => h'.debouncerSignal id buffer s
  · exact h

theorem debouncerFor (buffer : Text) :
    Underway heard w₀ (w.debouncerFor buffer).2 := by
  unfold Workspace.debouncerFor
  split
  · exact h
  · exact h.withDebouncers _ _ _

theorem notify (buffer text : Text) :
    Underway heard w₀ (w.notify buffer text) := by
  have hnoted := h.withTexts (w.texts.set buffer text) w.latest
  exact (hnoted.debouncerFor buffer).withDebouncer _ Debouncer.trigger

theorem flush (buffer : Text) :
    Underway heard w₀ (w.flush buffer).2 := by
  unfold Workspace.flush
  split
  · split
    · exact (h.withDebouncer _ _).runLatest buffer
    · exact h
  · exact h

/-! Calls -/

theorem withCalls (calls : Register Nat Call)
    (nextCall : Nat) : Underway heard w₀ { w with calls, nextCall } :=
  h.keep rfl rfl rfl fun _ _ => id

theorem call (tag : Text) (wanted : Wanted) :
    Underway heard w₀ (w.call tag wanted) :=
  (h.withCalls _ _).soon rfl

theorem setCall (id : Nat) (c : Call) :
    Underway heard w₀ (w.setCall id c) :=
  h.withCalls _ w.nextCall

theorem endCall (id : Nat) (c : Call)
    (result : CallResult) : Underway heard w₀ (w.endCall id c result) :=
  (h.withCalls _ w.nextCall).note rfl

theorem memberAnswer (id place : Nat) (outcome : Outcome) :
    Underway heard w₀ (w.memberAnswer id place outcome) := by
  unfold Workspace.memberAnswer
  split
  · split
    · dsimp only
      split
      · exact h.setCall id _
      · exact (h.setCall id _).soon rfl
    · exact (h.setCall id _).soon rfl
    · exact h
  · exact h

theorem memberTurn (id place : Nat) :
    Underway heard w₀ (w.memberTurn id place) := by
  unfold Workspace.memberTurn
  split
  · split
    · dsimp only
      split
      · exact (h.ask _ _ _).memberAnswer id place _
      · exact h.ask _ _ _
    · exact h
  · exact h

theorem startCall (id : Nat) (c : Call) :
    Underway heard w₀ (w.startCall id c) := by
  unfold Workspace.startCall
  split
  · dsimp only
    split
    · exact (h.ask _ _ _).endCall id c _
    · exact (h.ask _ _ _).setCall id _
  · exact h.endCall id c _
  · exact List.foldlRecOn (motive := Underway heard w₀) _ _ (h.setCall id _)
      fun _ h' _ _ => h'.soon rfl

theorem callTurn (id : Nat) :
    Underway heard w₀ (w.callTurn id) := by
  unfold Workspace.callTurn
  split
  · exact h
  · split
    · exact h.endCall id _ _
    · split
      · exact h.startCall id _
      · exact h
      · exact h.endCall id _ _

theorem callAnswer (id : Nat) (outcome : Outcome) :
    Underway heard w₀ (w.callAnswer id outcome) := by
  unfold Workspace.callAnswer
  split
  · split
    · exact h
    · exact h.endCall id _ _
  · exact h

theorem cancel (tag : Text) :
    Underway heard w₀ (w.cancel tag).2 := by
  unfold Workspace.cancel
  split
  · exact h
  · next id c _ =>
    have hset := h.setCall id { c with calledOff := true }
    have hleave : Underway heard w₀ { w.setCall id { c with calledOff := true } with
        desk := (askersOf id c.wanted).foldl Desk.leave w.desk } :=
      List.foldlRecOn (motive := fun d : Desk ℚ Asker => Underway heard w₀
          { w.setCall id { c with calledOff := true } with desk := d })
        (askersOf id c.wanted) Desk.leave hset fun _ h' a _ => h'.leave a
    dsimp only
    split
    · exact h
    · split
      · exact hleave.soon rfl
      · exact hset

/-! Callers -/

theorem stopFetches (kind : Reference.Kind) :
    Underway heard w₀ (w.stopFetches kind) :=
  (h.applyDesk (Desk.seeks_callOffKind w.desk kind)).silence _

theorem enter (caller : Nat) (phase : Phase) :
    Underway heard w₀ (w.enter caller phase).1 := by
  cases phase with
  | callOffTimers debouncer => exact h.withDebouncer debouncer Debouncer.callOffAll
  | forget buffer => exact h.withTexts _ _
  | forgetAll => exact h.withTexts _ _
  | dropAll => exact h.withBoard _
  | callOffSheet sheet => exact h.applyBoard _
  | stopFetches kind => exact h.stopFetches kind
  | present pass => exact h.note rfl
  | drop buffer =>
    simp only [Workspace.enter]
    split
    · exact h.withBoard _
    · exact h
  | idle buffer =>
    simp only [Workspace.enter]
    split <;> exact h
  | _ => exact h

theorem withCallers
    (callers : Register Nat (List Phase)) (nextCaller : Nat) :
    Underway heard w₀ { w with callers, nextCaller } :=
  h.keep rfl rfl rfl fun _ _ => id

theorem proceed (caller fuel : Nat) (plan : List Phase) :
    Underway heard w₀ (proceed caller fuel plan w) :=
  have hplan : ∀ p ∈ plan, (fun _ => True) p := fun _ _ => trivial
  proceed_rec (C := Underway heard w₀) caller (fun w' _ h' _ => h'.withCallers _ w'.nextCaller)
    (fun w' h' => (h'.withCallers (w'.callers.erase caller) w'.nextCaller).note rfl)
    (fun _ phase h' _ => ⟨h'.enter caller phase, fun _ _ => trivial⟩) fuel hplan h

theorem start (plan : List Phase) :
    Underway heard w₀ (w.start plan) :=
  (h.withCallers w.callers (w.nextCaller + 1)).proceed _ _ _

theorem callCallers :
    Underway heard w₀ w.callCallers :=
  callCallers_rec (C := Underway heard w₀) h fun _ _ h' => h'.soon rfl

/-! Jobs -/

theorem slotTurn (id slot : Nat) :
    Underway heard w₀ (w.slotTurn id slot) := by
  have hboard := h.withBoard (w.board.slotTurn id slot).1
  unfold Workspace.slotTurn
  dsimp only
  split
  · split
    · exact (hboard.ask _ _ _).applyBoard _
    · exact hboard.ask _ _ _
  · exact hboard

theorem deliver (asker : Asker) (outcome : Outcome) :
    Underway heard w₀ (w.deliver asker outcome) := by
  cases asker with
  | slot id slot => exact h.applyBoard _
  | call id => exact h.callAnswer id outcome
  | member id place => exact h.memberAnswer id place outcome

theorem perform {job : Job}
    (hj : ∀ r reply, job = .reply r reply → HeardSince heard w₀ w r reply) :
    Underway heard w₀ (w.perform job) := by
  cases job with
  | timer debouncer timer => exact h.withDebouncer debouncer _
  | group id => exact h.applyBoard _
  | slot id slot => exact h.slotTurn id slot
  | fetch r => exact h.applyTurn (Desk.seeks_fetchTurn _ _ _)
  | limiter r => exact h.applyTurn (Desk.seeks_limiterTurn _ _ _)
  | reply r reply => exact h.reply (hj r reply rfl) _
  | forget r => exact h.applyDesk (Desk.seeks_forget _ _)
  | answer asker outcome => exact h.deliver asker outcome
  | call id => exact h.callTurn id
  | member id place => exact h.memberTurn id place
  | caller id =>
    simp only [Workspace.perform]
    split
    · exact h.proceed id _ _
    · exact h

theorem work : Underway heard w₀ w.work := by
  unfold Workspace.work Agenda.nextJob?
  cases hj : w.agenda.jobs with
  | nil => exact h
  | cons job rest =>
    have hrest : Underway heard w₀ (w.withJobs rest) := by
      refine h.keep rfl rfl rfl fun r reply he => he.imp_left fun hm => ?_
      rw [hj]
      exact List.mem_cons_of_mem _ hm
    refine (hrest.perform fun r reply he => ?_).callCallers
    refine h.sourced.replies r reply (.inl ?_)
    rw [hj, he]
    exact List.mem_cons_self

theorem workFor (n : Nat) :
    Underway heard w₀ (workFor n w) := by
  induction n generalizing w with
  | zero => exact h
  | succ n ih =>
    unfold Workspace.workFor
    split
    · exact h
    · exact ih h.work

/-! The clock -/

theorem ring {alarm : Alarm}
    (ha : ∀ r reply, alarm = .reply r reply → HeardSince heard w₀ w r reply) :
    Underway heard w₀ (w.ring alarm) := by
  cases alarm with
  | timer debouncer timer => exact h.withDebouncer debouncer _
  | limiter r => exact h.applyDesk (Desk.seeks_limiterWake _ _)
  | reply r reply =>
    refine h.next rfl rfl List.prefix_rfl h.sourced.proper (fun r' reply' he => ?_)
      fun _ _ => .inl
    rcases he with hm | he
    · rcases List.mem_append.mp hm with hm | hm
      · exact .inl (.inl hm)
      · cases List.mem_singleton.mp hm
        exact .inr (ha r reply rfl)
    · exact .inl (.inr he)

omit h in
theorem fetched_ring (w : Workspace ℚ) (alarm : Alarm) : w.fetched <+: (w.ring alarm).fetched := by
  cases alarm with
  | timer debouncer timer =>
    have hq := quiet_withDebouncer w debouncer (·.wake timer)
    have hsame : (w.ring (.timer debouncer timer)).fetched = w.fetched :=
      congrArg (·.requests) hq.traffic
    exact hsame ▸ List.prefix_rfl
  | limiter r => exact ⟨_, (fetched_applyDesk w _).symm⟩
  | reply r reply => exact List.prefix_rfl

theorem rings {alarms : List Alarm}
    (ha : ∀ r reply, .reply r reply ∈ alarms → HeardSince heard w₀ w r reply) :
    Underway heard w₀ (alarms.foldl Workspace.ring w) := by
  induction alarms generalizing w with
  | nil => exact h
  | cons alarm alarms ih =>
    have hone := h.ring fun r reply he => ha r reply (he ▸ List.mem_cons_self)
    exact ih hone fun r reply hm => (ha r reply (List.mem_cons_of_mem _ hm)).grow (fetched_ring w _)

theorem leap {limit : Option ℚ} (hl : w.leap? limit = some w') : Underway heard w₀ w' := by
  unfold Workspace.leap? at hl
  split at hl
  · next time _ =>
    split at hl
    · cases hl
    · cases hl
      have hpop : Underway heard w₀ { w with agenda := (w.agenda.ringAt time).2 } :=
        h.keep rfl rfl rfl fun r reply he =>
          he.imp_right fun ⟨t, hm⟩ => ⟨t, (List.dropWhile_sublist _).subset hm⟩
      refine (hpop.rings fun r reply hm => ?_).workFor _
      obtain ⟨⟨t, alarm⟩, hm, rfl⟩ := List.mem_map.mp hm
      exact h.sourced.replies r reply (.inr ⟨t, (List.takeWhile_sublist _).subset hm⟩)
  · cases hl

theorem leapWhile (goOn : Workspace ℚ → Bool) (limit : Option ℚ) (n : Nat) :
    Underway heard w₀ (leapWhile goOn limit n w) := by
  induction n generalizing w with
  | zero => exact h
  | succ n ih =>
    unfold Workspace.leapWhile
    split
    · split
      · next hl => exact ih (h.leap hl)
      · exact h
    · exact h

theorem advance (dt : ℚ) : Underway heard w₀ (w.advance dt) :=
  ((h.workFor w.backlog).leapWhile _ _ _).keep rfl rfl rfl fun _ _ => id

/-! Events -/

theorem withCache {entries : Register Reference (Cache.Entry ℚ)}
    (hs : entries ⊆ w.desk.cache.entries) :
    Underway heard w₀ { w with desk := { w.desk with
      cache := { w.desk.cache with entries } } } :=
  h.next rfl rfl List.prefix_rfl h.sourced.proper (fun _ _ => .inl) fun _ _ hm => .inl (hs hm)

theorem sweepCache : Underway heard w₀ w.sweepCache.2 := by
  have hswept : Underway heard w₀ { w with desk := { w.desk with
      cache := (w.desk.cache.sweep w.agenda.now).2 } } :=
    h.withCache (List.filter_sublist).subset
  exact List.foldlRecOn (motive := Underway heard w₀) _ _ hswept fun _ h' _ _ => h'.note rfl

theorem annotate (buffer : Option Text) (text : Text) :
    Underway heard w₀ (w.annotate buffer text) := by
  have hpass := h.runPass (buffer.getD w.freshBuffer) text
  exact (hpass.withCallers _ _).proceed _ _ _

/-- Whatever happens in the course of an event, but that the network changes. -/
theorem event {e : Event ℚ} (he : ∀ url delivery, e ≠ .respond url delivery) :
    Underway heard w₀ (w.step e) := by
  have hdebouncers (debouncerOf : Register Text Nat) :=
    h.withDebouncers debouncerOf w.debouncers w.nextDebouncer
  cases e with
  | runPass buffer text => exact h.runPass buffer text
  | attach buffer path text => exact h.attach buffer path text
  | notify buffer text => exact h.notify buffer text
  | flush buffer => exact h.flush buffer
  | settle buffer => exact h.start _
  | detach buffer => exact (hdebouncers _).start _
  | shutdown => exact (hdebouncers _).start _
  | dispose => exact (hdebouncers _).start _
  | annotate buffer text => exact h.annotate buffer text
  | resolve tag r => exact h.call tag _
  | resolveProfiles tag names => exact h.call tag _
  | cancel tag => exact h.cancel tag
  | respond url delivery => exact absurd rfl (he url delivery)
  | sweep => exact h.sweepCache
  | clear => exact h.withCache (List.nil_subset _)
  | work => exact h.work
  | advance dt => exact h.advance dt

end Underway

/-! Runs -/

/-- In the course of the event a request goes out to the address, where the network has the
reply. -/
def Obtains (w : Workspace ℚ) (e : Event ℚ) (url : Text) (reply : Reply) : Prop :=
  reply = (w.network url).reply ∧
    ∃ time, (url, time) ∈ (w.step e).fetched.drop w.fetched.length

theorem Sourced.step (h : w.Sourced heard) (e : Event ℚ) :
    (w.step e).desk.hosts = w.desk.hosts ∧ (w.step e).Sourced fun r reply =>
      heard r reply ∨ w.Obtains e (r.url w.desk.hosts) reply := by
  by_cases he : ∃ url delivery, e = .respond url delivery
  · obtain ⟨url, delivery, rfl⟩ := he
    have hgrown : w.Sourced fun r reply => heard r reply ∨
        w.Obtains (.respond url delivery) (r.url w.desk.hosts) reply := h.mono fun _ _ => .inl
    exact ⟨rfl, hgrown.proper, hgrown.replies, hgrown.entries⟩
  · have hstep := (underway_start h).event fun url delivery heq => he ⟨url, delivery, heq⟩
    exact ⟨hstep.hosts, hstep.sourced⟩

/-- One of the events obtained the reply from the address of the reference. -/
def HeardIn (p : Plan ℚ) (now : ℚ) (events : List (Event ℚ)) (r : Reference) (reply : Reply) :
    Prop :=
  ∃ before e after, events = before ++ e :: after ∧
    ((new p now).run before).Obtains e (r.url p.hosts) reply

theorem sourced_run (p : Plan ℚ) (now : ℚ) (events : List (Event ℚ)) :
    ((new p now).run events).desk.hosts = p.hosts ∧
      ((new p now).run events).Sourced (HeardIn p now events) := by
  induction events using List.reverseRecOn with
  | nil => exact ⟨rfl, nofun, fun _ _ hr => hr.elim nofun nofun, nofun⟩
  | append_singleton events e ih =>
    obtain ⟨hhosts, hsourced⟩ := ih
    obtain ⟨hhosts', hsourced'⟩ := hsourced.step e
    have hrun : (new p now).run (events ++ [e]) = ((new p now).run events).step e :=
      List.foldl_concat ..
    rw [hrun]
    refine ⟨hhosts'.trans hhosts, hsourced'.mono fun r reply hh => ?_⟩
    rcases hh with ⟨before, e', after, rfl, hh⟩ | hh
    · exact ⟨before, e', after ++ [e], by simp, hh⟩
    · exact ⟨events, e, [], rfl, hhosts ▸ hh⟩

/-- No two references that are looked up have one address, and a profile has a segment of its own
that reads as its name. So each entry of a cache is what was said at the address of its reference
alone, in reply to a request that one of the events sent there. -/
theorem kept_from_own_address :
    (∀ hosts (r s : Reference), r.isValid = true → s.isValid = true → r ≠ s →
      r.url hosts ≠ s.url hosts) ∧
    (∀ hosts name, name ≠ [] → ∃ segment, (⟨.profile, name⟩ : Reference).url hosts =
        trimSlashes hosts.profiles ++ '/' :: segment ++ ['/'] ∧
      segment ≠ [] ∧ (∀ c ∈ segment, Text.IsOfSegment c) ∧ Text.unescape segment = name) ∧
    ∀ (p : Plan ℚ) now events r e,
      (r, e) ∈ ((new p now).run events).desk.cache.entries → r.isValid = true ∧
        ∃ reply, reply.verdict? r = some e.verdict ∧ HeardIn p now events r reply := by
  refine ⟨fun hosts r s hr hs hne he => hne (Reference.eq_of_url_eq hr hs he),
    fun hosts name hn => Reference.exists_segment hosts hn, fun p now events r e hm => ?_⟩
  exact (sourced_run p now events).2.entries r e hm

/-- Profiles are where tickets are. -/
def nestedPlan : Plan ℚ := { emptyPlan with hosts := ⟨['b'], "b/ticket/".toList⟩ }

/-- A ticket, and one whose name reads like the rest of its address. -/
def lookalikes : List (Event ℚ) :=
  [.resolve ['x'] ⟨.ticket, ['1']⟩, .resolve ['y'] ⟨.profile, "1?format=csv".toList⟩, .advance 2]

theorem kept_from_own_address_lookalikes :
    (⟨.ticket, ['1']⟩ : Reference).url nestedPlan.hosts ≠
        (⟨.profile, "1?format=csv".toList⟩ : Reference).url nestedPlan.hosts ∧
      (∃ segment, (⟨.profile, "1?format=csv".toList⟩ : Reference).url nestedPlan.hosts =
          "b/ticket/".toList ++ segment ++ ['/'] ∧
        Text.unescape segment = "1?format=csv".toList) ∧
      ∃ reply, reply.verdict? ⟨.profile, "1?format=csv".toList⟩ = some ⟨false, none⟩ ∧
        HeardIn nestedPlan 0 lookalikes ⟨.profile, "1?format=csv".toList⟩ reply := by
  obtain ⟨hne, hsegment, hkept⟩ := kept_from_own_address
  have hlisted : (⟨.profile, "1?format=csv".toList⟩, ⟨false, none⟩) ∈
      ((new nestedPlan 0).run lookalikes).desk.cache.entries.map
        fun entry => (entry.1, entry.2.verdict) := by decide +kernel
  obtain ⟨⟨r, e⟩, hm, he⟩ := List.mem_map.mp hlisted
  obtain ⟨rfl, hv⟩ := Prod.mk.inj he
  obtain ⟨-, reply, hverdict, hheard⟩ := hkept nestedPlan 0 lookalikes _ e hm
  obtain ⟨segment, hurl, -, -, hread⟩ := hsegment nestedPlan.hosts "1?format=csv".toList nofun
  exact ⟨hne _ _ _ rfl rfl nofun, ⟨segment, hurl, hread⟩, reply, hverdict.trans (by rw [hv]),
    hheard⟩

end CommitMessage.Workspace
