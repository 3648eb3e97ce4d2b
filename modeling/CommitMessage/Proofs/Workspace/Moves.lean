import CommitMessage.Proofs.Workspace.Asides

/-! The moves of a workspace, and what happens in each of them at the desk. -/

namespace CommitMessage

/-- A desk at which no fetch is called off. -/
abbrev Desk.Sane {κ : Type} (d : Desk ℚ κ) : Prop := d.Live (fun _ => True) none

theorem Desk.Live.during {κ : Type} {d : Desk ℚ κ} (h : d.Sane) (e : Desk.Wake) :
    d.Live (fun e' => True ∨ e' = e) none :=
  h.mono fun _ _ => .inl trivial

namespace Workspace

open Desk (Happening)
open Desk.Traffic (Step Steps)

variable {w w' : Workspace ℚ}

/-- Whatever may come next: something is asked of the workspace or it does a job, an alarm rings,
or time passes. Alarms may ring at any time, and so cover whatever the clock does. -/
inductive Move where
  | event (e : Event ℚ)
  | ring
  | wait (time : ℚ)

def move (w : Workspace ℚ) : Move → Workspace ℚ
  | .event e => w.step e
  | .ring =>
    match w.agenda.alarms with
    | [] => w
    | alarm :: alarms => ring { w with agenda := { w.agenda with alarms } } alarm.2
  | .wait time =>
    if w.agenda.now < time then { w with agenda := { w.agenda with now := time } } else w

def runMoves (w : Workspace ℚ) (moves : List Move) : Workspace ℚ := moves.foldl move w

/-- A move that stops no fetch. Time is advanced by alarms that ring and by waiting. -/
def Move.IsFine : Move → Prop
  | .event .dispose | .event (.advance _) => False
  | _ => True

/-! What happens -/

/-- Who asks in the course of a job, in which pass, and for what. -/
def question? (w : Workspace ℚ) : Job → Option (Asker × Option Text × Reference)
  | .slot id slot =>
    match (w.board.slotTurn id slot).2 with
    | [.ask id slot pass r] => some (.slot id slot, some pass, r)
    | _ => none
  | .call id =>
    match w.calls.get? id with
    | some { wanted := .one r, stage := .fresh, calledOff := false, .. } => some (.call id, none, r)
    | _ => none
  | .member id place =>
    match w.calls.get? id with
    | some { wanted := .profiles names, calledOff := false, .. } =>
      names[place]?.map fun entry => (.member id place, none, ⟨.profile, entry.1⟩)
    | _ => none
  | _ => none

/-- The requests that go out, each with its reply if that comes at once. -/
def requesting (w : Workspace ℚ) : Desk.Signal ℚ Asker → List (Happening Asker)
  | .request r url =>
    let delivery := w.network url
    .begun r delivery.reply w.agenda.now ::
      if delivery.delay.isNone then [.received r delivery.reply w.agenda.now] else []
  | _ => []

def doing (w : Workspace ℚ) : Job → List (Happening Asker)
  | .fetch r => (w.desk.fetchTurn w.agenda.now r).2.flatMap w.requesting
  | .limiter r => (w.desk.limiterTurn w.agenda.now r).2.flatMap w.requesting
  | .reply r reply => [.received r reply w.agenda.now]
  | .answer asker outcome => [.told asker outcome]
  | job =>
    match w.question? job with
    | some (asker, pass, r) => [.asked asker r (w.desk.reception w.agenda.now asker pass r)]
    | none => []

def happenings (w : Workspace ℚ) : Move → List (Happening Asker)
  | .event .work => (w.agenda.jobs.head?.map w.doing).getD []
  | .event .sweep | .event .clear => [.thinned]
  | _ => []

/-- What happens in a run of moves, first things first. -/
def history (w : Workspace ℚ) : List Move → List (Happening Asker)
  | [] => []
  | m :: moves => w.happenings m ++ history (w.move m) moves

/-! What the desk asks for -/

def deskRequest? (now : ℚ) : Desk.Signal ℚ Asker → Option (Text × ℚ)
  | .request _ url => some (url, now)
  | _ => none

theorem fetched_deskSignal (w : Workspace ℚ) (s : Desk.Signal ℚ Asker) :
    (w.deskSignal s).agenda.now = w.agenda.now ∧
      (w.deskSignal s).fetched = w.fetched ++ (deskRequest? w.agenda.now s).toList := by
  cases s with
  | request r url =>
    have hnote : (w.note (.fetched url w.agenda.now)).fetched =
        w.fetched ++ [(url, w.agenda.now)] := by
      simp [fetched, Workspace.note, Entry.request?]
    simp only [deskSignal, Workspace.request]
    split
    · exact ⟨rfl, hnote⟩
    · exact ⟨rfl, hnote⟩
  | note e =>
    simp [deskSignal, Workspace.note, fetched, deskRequest?, List.filterMap_cons, Entry.request?]
  | _ => exact ⟨rfl, (List.append_nil _).symm⟩

theorem fetched_applyDesk (w : Workspace ℚ) (change : Desk ℚ Asker × List (Desk.Signal ℚ Asker)) :
    (w.applyDesk change).fetched =
      w.fetched ++ change.2.filterMap (deskRequest? w.agenda.now) := by
  have hsignals (signals : List (Desk.Signal ℚ Asker)) (w : Workspace ℚ) :
      (signals.foldl deskSignal w).fetched =
        w.fetched ++ signals.filterMap (deskRequest? w.agenda.now) := by
    induction signals generalizing w with
    | nil => simp
    | cons s signals ih =>
      obtain ⟨hnow, hone⟩ := fetched_deskSignal w s
      rw [List.foldl_cons, ih, hnow, hone, List.append_assoc]
      cases hr : deskRequest? w.agenda.now s <;> simp [hr]
  exact hsignals change.2 { w with desk := change.1 }

theorem desk_applyDesk (w : Workspace ℚ) (desk : Desk ℚ Asker)
    (signals : List (Desk.Signal ℚ Asker)) (hw : ∀ r, .withdraw r ∉ signals) :
    (w.applyDesk (desk, signals)).desk = desk :=
  (adds_applyDesk (desk, signals) hw w).desk

theorem traffic_applyDesk (w : Workspace ℚ) (desk : Desk ℚ Asker)
    (signals : List (Desk.Signal ℚ Asker)) (hw : ∀ r, .withdraw r ∉ signals) :
    (w.applyDesk (desk, signals)).traffic =
      { now := w.agenda.now
        hosts := desk.hosts
        cache := desk.cache
        interval := desk.limiter.interval
        lastGrant := desk.limiter.lastGrant
        fetches := desk.fetches
        clients := desk.limiter.clients
        turns := w.traffic.turns ++ (signals.filterMap deskJob?).filterMap Job.turn?
        replies := w.replies + ↑((signals.filterMap
          (deskAlarm? w.network w.agenda.now)).filterMap fun e => Alarm.reply? e.2)
        forgets := w.traffic.forgets ++ forgetting (signals.filterMap deskJob?)
        answers := w.traffic.answers ++ (signals.filterMap deskJob?).filterMap Job.answer?
        requests := w.fetched ++ signals.filterMap (deskRequest? w.agenda.now) } := by
  have ha := adds_applyDesk (desk, signals) hw w
  have hreplies : (w.applyDesk (desk, signals)).replies = w.replies + ↑((signals.filterMap
      (deskAlarm? w.network w.agenda.now)).filterMap fun e => Alarm.reply? e.2) := by
    have hnone : (signals.filterMap deskJob?).filterMap Job.reply? = [] := by
      refine List.filterMap_eq_nil_iff.mpr fun job hj => ?_
      obtain ⟨s, -, hs⟩ := List.mem_filterMap.mp hj
      cases s <;> cases hs <;> rfl
    have hp := ha.alarms.filterMap fun e => Alarm.reply? e.2
    rw [replies, replies, ha.jobs, List.filterMap_append, hnone, List.append_nil,
      Multiset.coe_add, Multiset.coe_eq_coe, List.append_assoc]
    rw [List.filterMap_append] at hp
    exact hp.append_left _
  unfold traffic
  rw [hreplies, fetched_applyDesk, ha.jobs, ha.now, ha.desk]
  simp only [forgetting, List.filterMap_append]

theorem filterMap_notes {notes : List (Desk.Signal ℚ Asker)} (hn : ∀ n ∈ notes, ∃ e, n = .note e)
    (network : Text → Delivery ℚ) (now : ℚ) :
    notes.filterMap deskJob? = [] ∧ notes.filterMap (deskAlarm? network now) = [] ∧
      notes.filterMap (deskRequest? now) = [] := by
  refine ⟨?_, ?_, ?_⟩
  all_goals
    refine List.filterMap_eq_nil_iff.mpr fun n hm => ?_
    obtain ⟨e, rfl⟩ := hn n hm
    rfl

theorem not_withdraw_of_notes {notes : List (Desk.Signal ℚ Asker)}
    (hn : ∀ n ∈ notes, ∃ e, n = .note e) : ∀ r, .withdraw r ∉ notes := by
  intro r hr
  obtain ⟨e, he⟩ := hn _ hr
  cases he

/-! Questions -/

theorem step_ask (gone : Asker → Prop) (hd : w.desk.Sane) (asker : Asker) (pass : Option Text)
    (r : Reference) :
    Step gone w.traffic [.asked asker r (w.desk.reception w.agenda.now asker pass r)]
      (w.ask asker pass r).2.traffic := by
  rcases Desk.ask_eq w.desk w.agenda.now asker pass r with ⟨outcome, notes, he, hn, hg⟩ |
    ⟨hv, hc, ⟨f, hf, ho, he⟩ | ⟨hf, he⟩⟩
  · obtain ⟨hjobs, halarms, hrequests⟩ := filterMap_notes hn w.network w.agenda.now
    have ht : (w.ask asker pass r).2.traffic = w.traffic := by
      simp only [Workspace.ask, he]
      rw [traffic_applyDesk w _ _ (not_withdraw_of_notes hn), hjobs, halarms, hrequests]
      simp [traffic, forgetting]
    rw [ht, Desk.reception, he]
    exact .give hg
  · obtain ⟨hm, rfl⟩ := Desk.mem_of_fetch? hf
    obtain ⟨older, newer, hsplit, hset, -⟩ := Desk.exists_split hd.nodup hm
    have hset := hset { f with callers := f.callers ++ [asker] } rfl
    have ht : (w.ask asker pass f.reference).2.traffic =
        { w.traffic with
          fetches := older ++ { f with callers := f.callers ++ [asker] } :: newer } := by
      simp only [Workspace.ask, he]
      rw [traffic_applyDesk w _ _ (by simp), hset]
      simp [traffic, forgetting, Desk.setFetch]
    rw [ht, Desk.reception, he, hf]
    exact .join hsplit ho hc
  · have ht : (w.ask asker pass r).2.traffic =
        { w.traffic with
          fetches := w.desk.fetches ++ [{ reference := r, pass, callers := [asker] }]
          turns := w.traffic.turns ++ [r] } := by
      simp only [Workspace.ask, he]
      rw [traffic_applyDesk w _ _ (by simp)]
      simp [traffic, forgetting, List.filterMap_cons, deskJob?, deskAlarm?, deskRequest?,
        Job.turn?, Job.answer?]
    rw [ht, Desk.reception, he, hf]
    exact .make hv (Desk.fetch?_eq_none hf) hc

theorem sane_ask (hd : w.desk.Sane) (asker : Asker) (pass : Option Text) (r : Reference) :
    (w.ask asker pass r).2.desk.Sane := by
  have hl := hd.ask w.agenda.now asker pass r
  have hw : ∀ r', .withdraw r' ∉ (w.desk.ask w.agenda.now asker pass r).2.2 := by
    intro r' hr
    rcases Desk.ask_signals w.desk w.agenda.now asker pass r _ hr with ⟨e, he⟩ | he <;> cases he
  simp only [Workspace.ask, desk_applyDesk w _ _ hw]
  exact hl.mono fun _ _ => trivial

/-! Replies -/

theorem filterMap_delivers (askers : List Asker) (outcome : Outcome) (network : Text → Delivery ℚ)
    (now : ℚ) :
    let signals : List (Desk.Signal ℚ Asker) := askers.map (.deliver · outcome)
    signals.filterMap deskJob? = askers.map (.answer · outcome) ∧
      signals.filterMap (deskAlarm? network now) = [] ∧
      signals.filterMap (deskRequest? now) = [] := by
  induction askers with
  | nil => exact ⟨rfl, rfl, rfl⟩
  | cons asker askers ih =>
    obtain ⟨hjobs, halarms, hrequests⟩ := ih
    simp only [List.map_cons, List.filterMap_cons, deskJob?, deskAlarm?, deskRequest?, hjobs,
      halarms, hrequests, and_self]

theorem filterMap_answers (askers : List Asker) (outcome : Outcome) :
    let jobs : List Job := askers.map (.answer · outcome)
    jobs.filterMap Job.turn? = [] ∧ forgetting jobs = [] ∧
      jobs.filterMap Job.answer? = askers.map (·, outcome) := by
  induction askers with
  | nil => exact ⟨rfl, rfl, rfl⟩
  | cons asker askers ih =>
    obtain ⟨hturns, hforgets, hanswers⟩ := ih
    simp only [forgetting] at hforgets ⊢
    simp only [List.map_cons, List.filterMap_cons, Job.turn?, Job.answer?, hturns, hforgets,
      hanswers, and_self]

theorem step_reply (gone : Asker → Prop) {r : Reference} (reply : Reply) {f : Desk.Fetch Asker}
    (hd : w.desk.Sane) (hf : f ∈ w.desk.fetches) (hr : f.reference = r) (hs : f.stage = .fetching) :
    Step gone { w.traffic with replies := (r, reply) ::ₘ w.replies }
        [.received r reply w.agenda.now]
        (w.applyDesk (w.desk.reply w.agenda.now r reply)).traffic ∧
      (w.applyDesk (w.desk.reply w.agenda.now r reply)).desk.Sane := by
  subst hr
  obtain ⟨older, newer, hsplit, hset, -⟩ := Desk.exists_split hd.nodup hf
  let learned := w.desk.cache.learn w.agenda.now f.reference (reply.verdict? f.reference)
  have hset : ({ w.desk with cache := learned }.setFetch
      (f.finished (reply.outcome f.reference))).fetches = _ := hset _ rfl
  obtain ⟨notes, hn, he⟩ := Desk.reply_fetching (Desk.fetch?_of_mem hd.nodup hf) hs
    (hd.calledOff f hf) w.agenda.now reply
  obtain ⟨hjobs, halarms, hrequests⟩ := filterMap_notes hn w.network w.agenda.now
  have hl := (hd.during (.reply f.reference)).reply w.agenda.now reply
  rw [he] at hl ⊢
  have hw : ∀ r, .withdraw r ∉ notes ++ Desk.Signal.forget f.reference ::
      f.callers.map (.deliver · (reply.outcome f.reference)) := by
    intro r hr
    rcases List.mem_append.mp hr with hr | hr
    · exact not_withdraw_of_notes hn r hr
    · simp at hr
  refine ⟨?_, ?_⟩
  · obtain ⟨hjobs', halarms', hrequests'⟩ := filterMap_delivers f.callers
      (reply.outcome f.reference) w.network w.agenda.now
    obtain ⟨hturns, hforgets, hanswers⟩ :=
      filterMap_answers f.callers (reply.outcome f.reference)
    rw [traffic_applyDesk w _ _ hw, hset]
    simp only [forgetting] at hforgets
    simp only [List.filterMap_append, List.filterMap_cons, hjobs, halarms, hrequests, hjobs',
      halarms', hrequests', forgetting, deskJob?, deskAlarm?, deskRequest?, Job.turn?, Job.answer?,
      hturns, hforgets, hanswers, List.nil_append, List.append_nil, List.filterMap_nil,
      Multiset.coe_nil, Multiset.add_zero]
    exact .receive (t := { w.traffic with replies := (f.reference, reply) ::ₘ w.replies }) hsplit
      hs rfl
  · rw [desk_applyDesk w _ _ hw]
    exact hl

/-! Turns -/

/-- The traffic if the desk were this one and these were at its limiter. -/
def trafficAt (w : Workspace ℚ) (d : Desk ℚ Asker) (clients : List Reference) :
    Desk.Traffic Asker :=
  { w.traffic with
    hosts := d.hosts
    cache := d.cache
    interval := d.limiter.interval
    lastGrant := d.limiter.lastGrant
    fetches := d.fetches
    clients }

theorem applyDesk_nil (w : Workspace ℚ) (d : Desk ℚ Asker) :
    (w.applyDesk (d, [])).traffic = w.trafficAt d d.limiter.clients := rfl

theorem filterMap_callTurns (line : List (Reference × Limiter.Standing)) (w : Workspace ℚ) :
    let signals : List (Desk.Signal ℚ Asker) := Desk.callTurns line
    (signals.filterMap deskJob?).filterMap Job.turn? = [] ∧
      forgetting (signals.filterMap deskJob?) = [] ∧
      (signals.filterMap deskJob?).filterMap Job.answer? = [] ∧
      signals.filterMap (deskAlarm? w.network w.agenda.now) = [] ∧
      signals.filterMap (deskRequest? w.agenda.now) = [] ∧
      signals.flatMap w.requesting = [] ∧
      ∀ more, w.promptReply? (signals ++ more) = w.promptReply? more := by
  unfold Desk.callTurns
  split
  · exact ⟨rfl, rfl, rfl, rfl, rfl, rfl, fun _ => rfl⟩
  · exact ⟨rfl, rfl, rfl, rfl, rfl, rfl, fun _ => rfl⟩

/-- The request of the first at the limiter goes out. If the reply comes at once, it is left out. -/
theorem step_request (gone : Asker → Prop) {d : Desk ℚ Asker} {f : Desk.Fetch Asker}
    (hnd : (d.fetches.map (·.reference)).Nodup) (hf : f ∈ d.fetches) (hs : f.stage = .inLine)
    (hl : ∀ last, d.limiter.lastGrant = some last → last + d.limiter.interval ≤ w.agenda.now) :
    let granted : Desk ℚ Asker := { d with limiter := d.limiter.granting w.agenda.now }
    let delivery := w.network (f.reference.url d.hosts)
    let after := w.applyDesk (granted.setFetch { f with stage := .fetching },
      Desk.callTurns d.limiter.line ++ [.request f.reference (f.reference.url d.hosts)])
    Step gone (w.trafficAt d (f.reference :: d.limiter.line.map (·.1)))
        [.begun f.reference delivery.reply w.agenda.now]
        { after.traffic with replies := (f.reference, delivery.reply) ::ₘ w.replies } ∧
      after.desk = granted.setFetch { f with stage := .fetching } ∧
      after.agenda.now = w.agenda.now ∧
      after.replies =
        if delivery.delay.isNone then w.replies
        else (f.reference, delivery.reply) ::ₘ w.replies := by
  intro granted delivery after
  obtain ⟨older, newer, hsplit, hset, -⟩ := Desk.exists_split hnd hf
  have hset : (granted.setFetch { f with stage := .fetching }).fetches =
      older ++ { f with stage := .fetching } :: newer := hset _ rfl
  have hclients : (granted.setFetch { f with stage := .fetching }).limiter.clients =
      d.limiter.line.map (·.1) := by
    simp [granted, Desk.setFetch, Limiter.clients, Limiter.granting]
  obtain ⟨hturns, hforgets, hanswers, halarms, hrequests, -, -⟩ :=
    filterMap_callTurns d.limiter.line w
  have hw : ∀ r, .withdraw r ∉ (Desk.callTurns d.limiter.line ++
      [.request f.reference (f.reference.url d.hosts)] : List (Desk.Signal ℚ Asker)) := by
    intro r hr
    rcases List.mem_append.mp hr with hr | hr
    · obtain ⟨r', he⟩ := Desk.mem_callTurns hr
      cases he
    · cases List.mem_singleton.mp hr
  have ht : after.traffic = _ := traffic_applyDesk w _ _ hw
  rw [hset, hclients] at ht
  refine ⟨?_, desk_applyDesk w _ _ hw, (adds_applyDesk (_, _) hw w).now, ?_⟩
  · have hb : Step gone (w.trafficAt d (f.reference :: d.limiter.line.map (·.1)))
        [.begun f.reference delivery.reply w.agenda.now] _ := .begin hsplit hs rfl hl
    rw [ht]
    simp only [forgetting] at hforgets ⊢
    simp only [List.filterMap_append, List.filterMap_cons, deskJob?, deskRequest?, hturns, hforgets,
      hanswers, hrequests, List.filterMap_nil, List.append_nil, List.nil_append]
    exact hb
  · have hr : after.replies = after.traffic.replies := rfl
    rw [hr, ht]
    cases hd : delivery.delay with
    | none => simp [halarms, deskAlarm?, delivery, hd]
    | some delay =>
      have hone : w.replies + {(f.reference, delivery.reply)} =
          (f.reference, delivery.reply) ::ₘ w.replies := by
        rw [Multiset.add_comm, Multiset.singleton_add]
      simpa [halarms, deskAlarm?, delivery, hd, Alarm.reply?] using hone

/-- The first at the limiter sleeps, or its request goes out and may be answered at once. -/
theorem steps_attempt (w : Workspace ℚ) (gone : Asker → Prop) {d : Desk ℚ Asker} {r : Reference}
    (h : d.Taking (fun _ => True) r) :
    Steps gone (w.trafficAt d (r :: d.limiter.line.map (·.1)))
        ((d.attempt w.agenda.now r).2.flatMap w.requesting)
        (w.applyTurn (d.attempt w.agenda.now r)).traffic ∧
      (w.applyTurn (d.attempt w.agenda.now r)).desk.Sane := by
  have hsane : (d.attempt w.agenda.now r).1.Sane := (h.attempt w.agenda.now).mono fun _ _ => trivial
  rcases h.attempt_cases w.agenda.now with ⟨last, delay, -, -, -, he⟩ | ⟨hl, f, hf, rfl, hs, he⟩
  · rw [he] at hsane ⊢
    have ht : (w.applyTurn ({ d with limiter := { d.limiter with holder := some (r, .sleeping) } },
        [.sleep r delay])).traffic = w.trafficAt d (r :: d.limiter.line.map (·.1)) := by
      change (w.applyDesk _).traffic = _
      rw [traffic_applyDesk w _ _ (by simp)]
      simp [trafficAt, traffic, forgetting, deskJob?, deskAlarm?, deskRequest?, Alarm.reply?,
        Limiter.clients]
    rw [ht]
    exact ⟨.refl _, hsane⟩
  · obtain ⟨hbegin, hdesk, hnow, hreplies⟩ := step_request gone h.nodup hf hs hl
    obtain ⟨-, -, -, -, -, hhappen, hprompt⟩ := filterMap_callTurns d.limiter.line w
    rw [he] at hsane ⊢
    rw [applyTurn, hprompt, List.flatMap_append, hhappen]
    generalize w.applyDesk _ = after at *
    have hafter : after.desk.Sane := by
      rw [hdesk]
      exact hsane
    cases hd : (w.network (f.reference.url d.hosts)).delay with
    | some delay =>
      rw [hd] at hreplies
      have hsame : { after.traffic with replies := (f.reference,
          (w.network (f.reference.url d.hosts)).reply) ::ₘ w.replies } = after.traffic := by
        simp only [Option.isNone_some, Bool.false_eq_true, if_false] at hreplies
        rw [← hreplies]
        rfl
      rw [hsame] at hbegin
      simpa [promptReply?, requesting, hd] using ⟨hbegin.steps, hafter⟩
    | none =>
      rw [hd] at hreplies
      have hf' : { f with stage := .fetching } ∈ after.desk.fetches := by
        rw [hdesk]
        exact Desk.mem_setFetch.mpr (.inr ⟨rfl, f, hf, rfl⟩)
      have hreply := step_reply gone (w.network (f.reference.url d.hosts)).reply hafter hf' rfl rfl
      simp only [Option.isNone_none, if_true] at hreplies
      rw [hreplies, hnow] at hreply
      simpa [promptReply?, requesting, hd, hnow] using ⟨hbegin.steps.tail hreply.1, hreply.2⟩

/-- The fetch whose first turn it is gets to the limiter, and may go on from there. -/
theorem steps_fetchTurn (gone : Asker → Prop) {r : Reference} (hd : w.desk.Sane)
    (ht : Desk.Traffic.Sound { w.traffic with turns := r :: w.traffic.turns }) :
    Steps gone { w.traffic with turns := r :: w.traffic.turns }
        ((w.desk.fetchTurn w.agenda.now r).2.flatMap w.requesting)
        (w.applyTurn (w.desk.fetchTurn w.agenda.now r)).traffic ∧
      (w.applyTurn (w.desk.fetchTurn w.agenda.now r)).desk.Sane := by
  have ha : Desk.refsAt Desk.Stage.isAhead w.desk.fetches =
      w.desk.limiter.clients ++ r :: w.traffic.turns := ht.ahead
  have hm : r ∈ Desk.refsAt Desk.Stage.isAhead w.desk.fetches := by
    rw [ha]
    simp
  obtain ⟨f, hf, hs, rfl⟩ := Desk.mem_refsAt.mp hm
  -- one that is in the line already has had its first turn
  have hfresh : f.stage = .fresh := by
    cases hst : f.stage with
    | fresh => rfl
    | inLine =>
      have hc := (hd.attended f hf nofun).inLine hst
      have hn : (w.desk.limiter.clients ++ f.reference :: w.traffic.turns).Nodup :=
        ha ▸ hd.nodup.sublist (List.filter_sublist.map _)
      exact absurd rfl ((List.nodup_append.mp hn).2.2 _ hc _ List.mem_cons_self)
    | fetching => simp [hst, Desk.Stage.isAhead] at hs
    | finished outcome => simp [hst, Desk.Stage.isAhead] at hs
  obtain ⟨older, newer, hsplit, hset, -⟩ := Desk.exists_split hd.nodup hf
  have hset : (w.desk.enter f).fetches = _ := hset { f with stage := .inLine } rfl
  have henter : Step gone { w.traffic with turns := f.reference :: w.traffic.turns } [] _ :=
    .enter hsplit hfresh rfl
  rcases Desk.fetchTurn_fresh (hd.during _) hf hfresh w.agenda.now with ⟨hh, hl, he, htake⟩ |
    ⟨he, hlive⟩
  · obtain ⟨hsteps, hsane⟩ := steps_attempt w gone htake
    have hclients : w.desk.limiter.clients ++ [f.reference] =
        f.reference :: (w.desk.enter f).limiter.line.map (·.1) := by
      simp [Limiter.clients, Desk.enter, Desk.setFetch, hh, hl]
    have hsame : w.trafficAt (w.desk.enter f)
        (f.reference :: (w.desk.enter f).limiter.line.map (·.1)) =
        { w.traffic with
          fetches := older ++ { f with stage := .inLine } :: newer
          clients := w.desk.limiter.clients ++ [f.reference] } := by
      rw [hclients, ← hset]
      rfl
    rw [hsame] at hsteps
    rw [he]
    exact ⟨henter.steps.trans hsteps, hsane⟩
  · have hsame : (w.applyDesk ((w.desk.enter f).withLine
        (w.desk.limiter.line ++ [(f.reference, .waiting)]), [])).traffic =
        { w.traffic with
          fetches := older ++ { f with stage := .inLine } :: newer
          clients := w.desk.limiter.clients ++ [f.reference] } := by
      rw [applyDesk_nil, ← hset]
      simp [trafficAt, Desk.withLine, Limiter.clients, Desk.enter, Desk.setFetch, traffic]
    rw [he]
    exact ⟨hsame ▸ henter.steps, hlive⟩

theorem steps_limiterTurn (gone : Asker → Prop) (hd : w.desk.Sane) (r : Reference) :
    Steps gone w.traffic ((w.desk.limiterTurn w.agenda.now r).2.flatMap w.requesting)
        (w.applyTurn (w.desk.limiterTurn w.agenda.now r)).traffic ∧
      (w.applyTurn (w.desk.limiterTurn w.agenda.now r)).desk.Sane := by
  rcases Desk.limiterTurn_cases (hd.during (.limiter r)) w.agenda.now with ⟨he, hlive⟩ |
    ⟨hh, he, htake⟩ | ⟨line, hh, hl, he, htake⟩
  · rw [he]
    exact ⟨.refl _, hlive⟩
  · have hsteps := steps_attempt w gone htake
    have hclients : w.desk.limiter.clients = r :: w.desk.limiter.line.map (·.1) := by
      simp [Limiter.clients, hh]
    rw [he]
    rwa [← hclients] at hsteps
  · have hsteps := steps_attempt w gone htake
    have hclients : w.desk.limiter.clients =
        r :: (w.desk.withLine line).limiter.line.map (·.1) := by
      simp [Limiter.clients, hh, hl, Desk.withLine]
    rw [he]
    rwa [← hclients] at hsteps

theorem steps_limiterWake (gone : Asker → Prop) (hd : w.desk.Sane) (r : Reference) :
    Steps gone w.traffic [] (w.applyDesk (w.desk.limiterWake r)).traffic ∧
      (w.applyDesk (w.desk.limiterWake r)).desk.Sane := by
  have hsane : (w.desk.limiterWake r).1.Sane := (hd.during _).limiterWake.mono fun _ _ => trivial
  rcases Desk.limiterWake_cases w.desk r with ⟨hh, he⟩ | ⟨-, he⟩
  · rw [he] at hsane ⊢
    have hsame : (w.applyDesk ({ w.desk with limiter := { w.desk.limiter with
        holder := some (r, .awake) } }, [.limiterTurn r])).traffic = w.traffic := by
      rw [traffic_applyDesk w _ _ (by simp)]
      simp [traffic, forgetting, deskJob?, deskAlarm?, deskRequest?, List.filterMap_cons,
        Job.turn?, Job.answer?, Limiter.clients, hh]
    rw [hsame]
    exact ⟨.refl _, hsane⟩
  · rw [he]
    exact ⟨.refl _, hd⟩

/-! Fetches that are over -/

theorem step_forget (gone : Asker → Prop) {r : Reference} (hd : w.desk.Sane)
    (ht : Desk.Traffic.Sound { w.traffic with forgets := r :: w.traffic.forgets }) :
    Step gone { w.traffic with forgets := r :: w.traffic.forgets } []
        (w.applyDesk (w.desk.forget r)).traffic ∧
      (w.applyDesk (w.desk.forget r)).desk.Sane := by
  have hm : r ∈ Desk.refsAt Desk.Stage.isFinished w.desk.fetches :=
    ht.finished.subset List.mem_cons_self
  obtain ⟨f, hf, hs, rfl⟩ := Desk.mem_refsAt.mp hm
  have hover := Desk.isFinished_iff.mp hs
  obtain ⟨older, newer, hsplit, -, hdrop⟩ := Desk.exists_split hd.nodup hf
  have hsane := hd.forget (r := f.reference) fun g hg hr => by
    rwa [List.inj_on_of_nodup_map hd.nodup hg hf hr]
  obtain ⟨he, hn⟩ := Desk.forget_cases w.desk f.reference
  obtain ⟨hjobs, halarms, hrequests⟩ := filterMap_notes hn w.network w.agenda.now
  have hw := not_withdraw_of_notes hn
  have hsame : (w.applyDesk (w.desk.forget f.reference)).traffic =
      { w.traffic with fetches := older ++ newer } := by
    refine (traffic_applyDesk w (w.desk.forget f.reference).1 _ hw).trans ?_
    rw [hjobs, halarms, hrequests, he, hdrop]
    simp [traffic, forgetting]
  refine ⟨?_, ?_⟩
  · rw [hsame]
    exact .forget hsplit hover rfl
  · rw [← desk_applyDesk w (w.desk.forget f.reference).1 _ hw] at hsane
    exact hsane

end Workspace

end CommitMessage
