import CommitMessage.Proofs.Schedule.Jobs

/-! What clients do at a limiter, and what alarms and time do, keeps its state, and so does every
run. -/

namespace CommitMessage.Limiter.Session

variable {ι : Type} [DecidableEq ι] {d : ℚ} {h : List (Happening ι)} {w : List ι}
  {s : Session ℚ ι} {c : ι}

/-! Clients -/

theorem Kept.start (hs : Kept d h s) (hc : c ∉ comers h) :
    Kept d (h ++ [.came c s.agenda.now]) (s.start c) := by
  have harriving : (s.start c).arriving = s.arriving ++ [c] := by
    simp [arriving, Session.start, Agenda.soon, Job.arrival?]
  have hold : c ∉ s.limiter.clients ++ s.arriving := fun hm => hc (hs.known c hm).1
  have hgone : c ∉ s.gone := fun hm => hc (hs.gone c hm)
  have hserved : c ∉ served h := fun hm =>
    hc (hs.scheduled.in_order.subset (List.mem_append_left _ hm))
  have hnote := hs.toSound.note (x := .came c s.agenda.now) rfl fun b a he => by
    cases he
    rfl
  refine ⟨{ hnote with names := ?_, known := ?_, queue := ?_, turns := ?_, pending := ?_ },
    hs.attended, hs.scheduled.snoc hc⟩
  · rw [harriving, ← List.append_assoc]
    exact List.nodup_append.mpr ⟨hs.names, List.nodup_singleton c, fun b hb b' hb' => by
      rw [List.mem_singleton.mp hb']
      exact fun he => hold (he ▸ hb)⟩
  · rw [harriving, ← List.append_assoc]
    intro b hb
    rcases List.mem_append.mp hb with hb | hb
    · exact hnote.known b hb
    · rw [List.mem_singleton.mp hb]
      simpa using hserved
  · have hlast : [c].filter (· ∉ s.gone) = [c] := by simp [hgone]
    rw [harriving, waiting_snoc, waitingAfter, ← hs.queue]
    change s.limiter.contenders ++ (s.arriving ++ [c]).filter (· ∉ s.gone) = _
    rw [List.filter_append, hlast, List.append_assoc]
  · exact fun b hb => List.mem_append_left _ (hs.turns b hb)
  · rw [harriving]
    intro b hb
    rcases List.mem_append.mp hb with hb | hb
    · exact hnote.pending b hb
    · rw [List.mem_singleton.mp hb]
      exact List.mem_append_right _ (List.mem_singleton.mpr rfl)

omit [DecidableEq ι] in
theorem mem_jobs_of_arriving : c ∈ s.arriving ↔ .arrive c ∈ s.agenda.jobs := by
  simp only [arriving, List.mem_filterMap]
  constructor
  · rintro ⟨job, hm, hc⟩
    cases job with
    | arrive b =>
      cases hc
      exact hm
    | turn b => cases hc
  · exact fun hm => ⟨_, hm, rfl⟩

theorem serves_iff {l : Limiter ℚ ι} : l.serves c = true ↔ c ∈ l.clients := by
  rw [mem_clients, serves, Bool.or_eq_true, Option.any_eq_true, List.any_eq_true]
  constructor
  · rintro (⟨held, hh, hc⟩ | ⟨e, he, hc⟩)
    · obtain rfl : held.1 = c := by simpa using hc
      exact .inl ⟨held.2, hh⟩
    · obtain rfl : e.1 = c := by simpa using hc
      exact .inr ⟨e.2, he⟩
  · rintro (⟨holding, hh⟩ | ⟨standing, hm⟩)
    · exact .inl ⟨_, hh, by simp⟩
    · exact .inr ⟨_, hm, by simp⟩

/-- A client gives up before it has asked. -/
theorem Sound.cancelArrival (hs : Sound d h w s) (hc : c ∈ s.arriving) :
    Sound d h (w.filter (· ≠ c)) { s with gone := c :: s.gone } := by
  have hnot : c ∉ s.limiter.contenders := fun hm =>
    (List.nodup_append.mp hs.names).2.2 c ((contenders_sublist _).subset hm) c hc rfl
  refine { hs with gone := fun b hb => ?_, queue := ?_ }
  · rcases List.mem_cons.mp hb with rfl | hb
    · exact (hs.known b (List.mem_append_right _ hc)).1
    · exact hs.gone b hb
  · rw [← hs.queue, List.filter_append, filter_ne_of_not_mem hnot, List.filter_filter]
    congr 1
    refine List.filter_congr fun b _ => ?_
    simp

/-- A client that has asked gives up its place, and has a turn coming to leave. -/
theorem Sound.cancel_eq (hs : Sound d h w s) (hc : c ∉ s.arriving) : ∃ called : List ι,
    s.cancel c = { s with
      limiter := s.limiter.giveUp c
      agenda := { s.agenda with
        alarms := s.agenda.alarms.filter fun alarm => !decide (alarm.2 = c)
        jobs := s.agenda.jobs ++ called.map .turn } } ∧
    ((s.limiter.giveUp c).Stirs c → s.limiter.Stirs c ∨ c ∈ called) := by
  have hno : .arrive c ∉ s.agenda.jobs := fun hm => hc (mem_jobs_of_arriving.mpr hm)
  obtain ⟨called, he, hstirs⟩ := hs.orderly.cancel c
  refine ⟨called, ?_, hstirs⟩
  simp [Session.cancel, hno, he, apply, foldl_signal_turns, Agenda.silence]

theorem Sound.cancelPlace (hs : Sound d h w s) (hc : c ∉ s.arriving) :
    Sound d h (w.filter (· ≠ c)) (s.cancel c) ∧
      (s.cancel c).limiter = s.limiter.giveUp c := by
  obtain ⟨called, he, hcalled⟩ := hs.cancel_eq hc
  have hholder : ∀ b, (s.limiter.giveUp c).holder = some (b, .sleeping) ↔
      s.limiter.holder = some (b, .sleeping) ∧ b ≠ c := by
    intro b
    cases hh : s.limiter.holder with
    | none => simp [giveUp, hh]
    | some held =>
      by_cases hb : held.1 = c
      · simp only [giveUp, hh, Option.map_some, if_pos hb]
        constructor
        · intro hsome
          cases hsome
        · rintro ⟨hsome, hne⟩
          cases hsome
          exact absurd hb hne
      · simp only [giveUp, hh, Option.map_some, if_neg hb]
        refine ⟨fun hsome => ⟨hsome, ?_⟩, And.left⟩
        cases hsome
        exact hb
  have harriving : (s.cancel c).arriving = s.arriving := by
    rw [he, arriving, arriving_turns, arriving]
  rw [he] at harriving ⊢
  refine ⟨{ hs with
    orderly := hs.orderly.giveUp c
    names := ?_
    known := ?_
    queue := ?_
    turns := fun b hb => List.mem_append.mpr ?_
    asleep := fun b hb => ?_
    silent := fun hno => ?_
    pending := ?_
    due := ?_ }, rfl⟩
  · rw [harriving, clients_giveUp]
    exact hs.names
  · rw [harriving, clients_giveUp]
    exact hs.known
  · have hlater : c ∉ s.arriving.filter (· ∉ s.gone) := fun hm => hc (List.mem_filter.mp hm).1
    rw [harriving, contenders_giveUp, ← hs.queue, List.filter_append, filter_ne_of_not_mem hlater]
  · by_cases hbc : b = c
    · subst hbc
      rcases hcalled hb with hb | hb
      · exact .inl (hs.turns b hb)
      · exact .inr (List.mem_map_of_mem hb)
    · exact .inl (hs.turns b (stirs_giveUp hb hbc))
  · obtain ⟨hsleep, hne⟩ := (hholder b).mp hb
    obtain ⟨time, halarms, htime⟩ := hs.asleep b hsleep
    exact ⟨time, by simp [halarms, hne], htime⟩
  · by_cases hsleep : s.limiter.holder = some (c, .sleeping)
    · obtain ⟨time, halarms, -⟩ := hs.asleep c hsleep
      simp [halarms]
    · have hquiet : s.agenda.alarms = [] := hs.silent fun b hb => by
        by_cases hbc : b = c
        · exact hsleep (hbc ▸ hb)
        · exact hno b ((hholder b).mpr ⟨hb, hbc⟩)
      simp [hquiet]
  · rw [harriving]
    exact hs.pending
  · rw [clients_giveUp]
    exact hs.due

theorem Sound.isRunning_of_waiting (hs : Sound d h w s) (hc : c ∈ w) : s.isRunning c = true := by
  rw [isRunning, Bool.or_eq_true, serves_iff]
  rw [← hs.queue] at hc
  rcases List.mem_append.mp hc with hc | hc
  · exact .inr ((contenders_sublist _).subset hc)
  · obtain ⟨hc, hg⟩ := List.mem_filter.mp hc
    have hjob := mem_jobs_of_arriving.mp hc
    exact .inl (by simpa using ⟨hjob, by simpa using hg⟩)

theorem Kept.cancel (hs : Kept d h s) (c : ι) : Kept d (h ++ s.news (.cancel c)) (s.cancel c) := by
  have hout : Sound d h ((waiting h).filter (· ≠ c)) (s.cancel c) ∧
      (s.cancel c).limiter.Attended := by
    by_cases hc : c ∈ s.arriving
    · have hcancel : s.cancel c = { s with gone := c :: s.gone } := by
        rw [Session.cancel, if_pos (by simpa using mem_jobs_of_arriving.mp hc)]
      rw [hcancel]
      exact ⟨hs.toSound.cancelArrival hc, hs.attended⟩
    · obtain ⟨hout, hlimiter⟩ := hs.toSound.cancelPlace hc
      rw [hlimiter]
      exact ⟨hout, hs.attended.giveUp c⟩
  obtain ⟨hsound, hattended⟩ := hout
  by_cases hrunning : s.isRunning c = true
  · have hknown : c ∈ comers h ∧ c ∉ served h := by
      rw [isRunning, Bool.or_eq_true, serves_iff] at hrunning
      refine hs.known c (List.mem_append.mpr (hrunning.symm.imp_right fun hm => ?_))
      simp only [Bool.and_eq_true, List.contains_iff_mem] at hm
      exact mem_jobs_of_arriving.mpr hm.1
    have hw : waiting (h ++ [.gaveUp c]) = (waiting h).filter (· ≠ c) := by
      rw [waiting_snoc, waitingAfter, hs.scheduled.nodup_waiting.erase_eq_filter]
      refine List.filter_congr fun b _ => ?_
      simp [bne, Bool.beq_eq_decide_eq]
    have hnote := hsound.note (x := .gaveUp c) rfl nofun
    rw [news, if_pos hrunning]
    rw [← hw] at hnote
    exact ⟨hnote, hattended, hs.scheduled.snoc hknown⟩
  · have hnone : c ∉ waiting h := fun hm => hrunning (hs.isRunning_of_waiting hm)
    rw [news, if_neg hrunning, List.append_nil]
    rw [filter_ne_of_not_mem hnone] at hsound
    exact ⟨hsound, hattended, hs.scheduled⟩

theorem Kept.tryNow (hd : 0 ≤ d) (hs : Kept d h s) :
    Kept d (h ++ s.news .tryNow) s.tryNow.2 := by
  rcases tryAcquire_cases s.limiter s.agenda.now with ⟨hwait, he⟩ | ⟨hgrant, hlast, he⟩
  · have hsame : s.tryNow.2 = s := by simp only [Session.tryNow, he]
    rw [news, if_pos (by exact hwait), List.append_nil, hsame]
    exact hs
  · have htaken : s.tryNow.2 =
        { s with limiter := { s.limiter with lastGrant := some s.agenda.now } } := by
      simp only [Session.tryNow, he]
    have hzero : ¬0 < s.tryNow.1 := by
      simp only [Session.tryNow, hgrant, lt_irrefl, not_false_eq_true]
    rw [hs.interval, hs.last] at hlast
    have hgranted := hs.toSound.grant hd (x := .taken s.agenda.now) rfl (by simp) hlast
    have hw : waiting (h ++ [.taken s.agenda.now]) = waiting h := waiting_snoc h _
    rw [news, if_neg hzero, htaken]
    rw [← hw] at hgranted
    exact ⟨hgranted, hs.attended, hs.scheduled.snoc hlast⟩

/-! Alarms and time -/

/-- An alarm is the only one, and wakes the one that holds the slot. -/
theorem Sound.of_alarm (hs : Sound d h w s) {time : ℚ} {later : List (ℚ × ι)}
    (ha : s.agenda.alarms = (time, c) :: later) :
    s.limiter.holder = some (c, .sleeping) ∧ later = [] ∧ s.agenda.now ≤ time ∧
      (time = s.agenda.now ∨ ∃ last, lastTime? h = some last ∧ time = last + d) := by
  by_cases hquiet : ∀ b, s.limiter.holder ≠ some (b, .sleeping)
  · rw [hs.silent hquiet] at ha
    cases ha
  · obtain ⟨b, hb⟩ := not_forall_not.mp hquiet
    obtain ⟨time', ha', hle, htime⟩ := hs.asleep b hb
    rw [ha] at ha'
    cases ha'
    exact ⟨hb, rfl, hle, htime⟩

theorem Sound.ringFirst_eq (hs : Sound d h w s) {time : ℚ} {later : List (ℚ × ι)}
    (ha : s.agenda.alarms = (time, c) :: later) (hdue : time ≤ s.agenda.now) :
    s.ringFirst = { s with
      limiter := { s.limiter with holder := some (c, .awake) }
      agenda := { s.agenda with alarms := [], jobs := s.agenda.jobs ++ [c].map .turn } } := by
  obtain ⟨hsleep, rfl, -, -⟩ := hs.of_alarm ha
  unfold Session.ringFirst
  rw [ha]
  simp only [if_neg (not_lt.mpr hdue)]
  simp [Session.ring, wake, hsleep, apply, signal, Agenda.soon]

theorem Kept.ringFirst (hs : Kept d h s) : Kept d h s.ringFirst := by
  cases ha : s.agenda.alarms with
  | nil =>
    have hsame : s.ringFirst = s := by
      unfold Session.ringFirst
      rw [ha]
    rwa [hsame]
  | cons alarm later =>
    obtain ⟨time, c⟩ := alarm
    by_cases hlate : s.agenda.now < time
    · have hsame : s.ringFirst = s := by
        unfold Session.ringFirst
        rw [ha]
        exact if_pos hlate
      rwa [hsame]
    · obtain ⟨hsleep, -, -, -⟩ := hs.of_alarm ha
      have harriving := arriving_turns s.agenda.jobs [c]
      have hclients : ({ s.limiter with holder := some (c, .awake) } : Limiter ℚ ι).clients =
          s.limiter.clients := by simp [clients, hsleep]
      have hcontenders : ({ s.limiter with holder := some (c, .awake) } : Limiter ℚ ι).contenders =
          s.limiter.contenders := by
        simp [contenders, holderContending, hsleep, Holding.contends]
      rw [hs.ringFirst_eq ha (not_lt.mp hlate)]
      refine ⟨{ hs with
        orderly := ⟨?_, fun _ => ?_, hs.orderly.behind⟩
        names := ?_
        known := ?_
        queue := ?_
        turns := fun b hb => ?_
        asleep := by simp
        silent := fun _ => rfl
        pending := ?_
        due := ?_ }, by rintro ⟨⟩, hs.scheduled⟩
      · rw [hclients]
        exact hs.orderly.nodup
      · exact hs.orderly.held (by simp [hsleep])
      · rw [hclients, arriving, harriving]
        exact hs.names
      · rw [hclients, arriving, harriving]
        exact hs.known
      · rw [hcontenders, arriving, harriving]
        exact hs.queue
      · rcases hb with hb | hb | hb
        · cases hb
          exact List.mem_append_right _ (List.mem_singleton.mpr rfl)
        · cases hb
        · exact List.mem_append_left _ (hs.turns b (.inr (.inr hb)))
      · rw [arriving, harriving]
        exact hs.pending
      · rw [hclients]
        exact hs.due

/-- With no job left nobody is about to move: if the slot is asked for, its holder sleeps. -/
theorem Kept.sleeping_of_idle (hs : Kept d h s) (hjobs : s.agenda.jobs = [])
    (hbusy : s.limiter.clients ≠ []) : ∃ c, s.limiter.holder = some (c, .sleeping) := by
  have hcalm : ∀ c, ¬s.limiter.Stirs c := fun c hc => by
    have hturn := hs.turns c hc
    rw [hjobs] at hturn
    cases hturn
  cases hh : s.limiter.holder with
  | none =>
    have hline : s.limiter.line ≠ [] := fun hnil => hbusy (by simp [clients, hh, hnil])
    obtain ⟨first, line, hl⟩ := List.exists_cons_of_ne_nil hline
    have hfirst := hs.attended hh first (by rw [hl]; rfl)
    refine absurd (.inr (.inr ⟨first.2, ?_, hfirst⟩)) (hcalm first.1)
    rw [hl]
    exact List.mem_cons_self
  | some held =>
    obtain ⟨c, holding⟩ := held
    cases holding with
    | sleeping => exact ⟨c, rfl⟩
    | awake => exact absurd (.inl hh) (hcalm c)
    | leaving => exact absurd (.inr (.inl hh)) (hcalm c)

theorem Kept.tick (hs : Kept d h s) (time : ℚ) : Kept d h (s.tick time) := by
  unfold Session.tick
  split
  · next hcan =>
    obtain ⟨hjobs, hle, hbefore⟩ := hcan
    refine ⟨{ hs with
      asleep := fun c hc => ?_
      pending := fun c hc => ?_
      past := fun c a hm => ?_
      pastGrant := fun last hl => ?_
      due := fun hbusy => ?_ }, hs.attended, hs.scheduled⟩
    · obtain ⟨alarm, ha, -, halarm⟩ := hs.asleep c hc
      have hto : time ≤ alarm := hbefore (alarm, c) (by rw [ha]; exact List.mem_singleton.mpr rfl)
      refine ⟨alarm, ha, hto, ?_⟩
      rcases halarm with heq | hnext
      · left
        change alarm = time
        linarith
      · exact .inr hnext
    · change c ∈ s.agenda.jobs.filterMap Job.arrival? at hc
      rw [hjobs] at hc
      cases hc
    · exact (hs.past c a hm).trans hle
    · exact (hs.pastGrant last hl).trans hle
    · obtain ⟨c, hc⟩ := hs.sleeping_of_idle hjobs hbusy
      obtain ⟨alarm, ha, -, halarm⟩ := hs.asleep c hc
      have hto : time ≤ alarm := hbefore (alarm, c) (by rw [ha]; exact List.mem_singleton.mpr rfl)
      rcases halarm with heq | ⟨last, hl, heq⟩
      · obtain ⟨last, hl, hdue⟩ := hs.due hbusy
        exact ⟨last, hl, by change time ≤ _; linarith⟩
      · exact ⟨last, hl, by change time ≤ _; linarith⟩
  · exact hs

theorem Kept.move (hd : 0 ≤ d) (hs : Kept d h s) (m : Move ι)
    (hm : ∀ c ∈ m.starter?, c ∉ comers h) : Kept d (h ++ s.news m) (s.move m) := by
  cases m with
  | start c => exact hs.start (hm c rfl)
  | cancel c => exact hs.cancel c
  | tryNow => exact hs.tryNow hd
  | work => exact hs.work hd
  | ring =>
    rw [news, List.append_nil]
    exact hs.ringFirst
  | tick time =>
    rw [news, List.append_nil]
    exact hs.tick time

/-! Runs -/

omit [DecidableEq ι] in
theorem comers_granted (g : List (ι × ℚ)) :
    comers (g.map fun (c, time) => Happening.granted c time) = [] := by
  refine List.filterMap_eq_nil_iff.mpr fun x hx => ?_
  obtain ⟨e, -, rfl⟩ := List.mem_map.mp hx
  rfl

theorem comers_news (s : Session ℚ ι) (m : Move ι) : comers (s.news m) = m.starter?.toList := by
  cases m with
  | start c => rfl
  | cancel c =>
    by_cases hr : s.isRunning c = true <;> simp [news, hr, comers, Move.starter?]
  | tryNow =>
    by_cases hw : 0 < s.tryNow.1 <;> simp [news, hw, comers, Move.starter?]
  | work => exact comers_granted _
  | ring => rfl
  | tick time => rfl

theorem Kept.run (hd : 0 ≤ d) (hs : Kept d h s) (moves : List (Move ι))
    (hm : (comers h ++ starters moves).Nodup) :
    Kept d (h ++ s.history moves) (s.runMoves moves) := by
  induction moves generalizing h s with
  | nil =>
    rw [history, List.append_nil]
    exact hs
  | cons m moves ih =>
    have hnames : comers h ++ starters (m :: moves) =
        comers (h ++ s.news m) ++ starters moves := by
      rw [comers_append, comers_news, List.append_assoc]
      cases hstart : m.starter? <;> simp [starters, hstart]
    rw [hnames] at hm
    rw [history, ← List.append_assoc]
    refine ih (hs.move hd m fun c hc hin => ?_) hm
    rw [comers_append, comers_news, Option.mem_def.mp hc] at hm
    exact (List.nodup_append.mp (List.nodup_append.mp hm).1).2.2 c hin c (by simp) rfl

end CommitMessage.Limiter.Session
