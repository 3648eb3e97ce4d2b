import CommitMessage.Proofs.Schedule.Conduct

/-! A limiter left to itself. Jobs run out, and each alarm but an overdue one brings a grant, so all
who wait are granted in as many intervals as they are. -/

namespace CommitMessage.Limiter.Session

variable {ι : Type} [DecidableEq ι]

/-- What a session comes to by jobs, alarms and time alone, and what happens meanwhile. -/
def Passes (s : Session ℚ ι) (g : List (Happening ι)) (s' : Session ℚ ι) : Prop :=
  ∃ moves, (∀ m ∈ moves, Move.IsPassive m) ∧ s.runMoves moves = s' ∧ s.history moves = g

variable {d : ℚ} {h g g' : List (Happening ι)} {s s' s'' : Session ℚ ι}

theorem Passes.refl (s : Session ℚ ι) : Passes s [] s := ⟨[], nofun, rfl, rfl⟩

theorem Passes.trans (hp : Passes s g s') (hp' : Passes s' g' s'') : Passes s (g ++ g') s'' := by
  obtain ⟨moves, hm, rfl, rfl⟩ := hp
  obtain ⟨moves', hm', rfl, rfl⟩ := hp'
  refine ⟨moves ++ moves', fun m hin => ?_, runMoves_append s moves moves',
    history_append s moves moves'⟩
  rcases List.mem_append.mp hin with hin | hin
  · exact hm m hin
  · exact hm' m hin

theorem passes_move (s : Session ℚ ι) {m : Move ι} (hm : m.IsPassive) :
    Passes s (s.news m) (s.move m) := by
  refine ⟨[m], fun m' hin => ?_, rfl, List.append_nil _⟩
  rw [List.mem_singleton.mp hin]
  exact hm

theorem granted_of_news {m : Move ι} (hm : m.IsPassive) {x : Happening ι} (hx : x ∈ s.news m) :
    ∃ c t, x = .granted c t := by
  cases m with
  | start c => cases hm
  | cancel c => cases hm
  | tryNow => cases hm
  | work =>
    obtain ⟨⟨c, t⟩, -, rfl⟩ := List.mem_map.mp hx
    exact ⟨c, t, rfl⟩
  | ring => cases hx
  | tick time => cases hx

theorem Passes.granted (hp : Passes s g s') {x : Happening ι} (hx : x ∈ g) :
    ∃ c t, x = .granted c t := by
  obtain ⟨moves, hm, rfl, rfl⟩ := hp
  induction moves generalizing s with
  | nil => cases hx
  | cons m moves ih =>
    rcases List.mem_append.mp hx with hx | hx
    · exact granted_of_news (hm m List.mem_cons_self) hx
    · exact ih (fun m hin => hm m (List.mem_cons_of_mem _ hin)) hx

omit [DecidableEq ι] in
theorem starters_passive {moves : List (Move ι)} (hm : ∀ m ∈ moves, m.IsPassive) :
    starters moves = [] := by
  refine List.filterMap_eq_nil_iff.mpr fun m hin => ?_
  have hpassive := hm m hin
  cases m <;> first | rfl | cases hpassive

theorem Passes.kept (hd : 0 ≤ d) (hs : Kept d h s) (hp : Passes s g s') : Kept d (h ++ g) s' := by
  obtain ⟨moves, hm, rfl, rfl⟩ := hp
  refine hs.run hd moves ?_
  rw [starters_passive hm, List.append_nil]
  exact hs.scheduled.nodup_comers

/-! Jobs run out -/

omit [DecidableEq ι] in
theorem now_apply (s : Session ℚ ι) (change : Limiter ℚ ι × List (Signal ℚ ι)) :
    (s.apply change).agenda.now = s.agenda.now := by
  have hsignals (signals : List (Signal ℚ ι)) (s : Session ℚ ι) :
      (signals.foldl signal s).agenda.now = s.agenda.now := by
    induction signals generalizing s with
    | nil => rfl
    | cons x signals ih =>
      rw [List.foldl_cons, ih]
      cases x <;> rfl
  exact hsignals _ _

theorem now_perform (s : Session ℚ ι) (job : Job ι) :
    (s.perform job).agenda.now = s.agenda.now := by
  cases job with
  | arrive c =>
    rw [perform]
    split
    · rfl
    · exact now_apply _ _
  | turn c => exact now_apply _ _

theorem now_work (s : Session ℚ ι) : s.work.agenda.now = s.agenda.now := by
  unfold Session.work
  cases hj : s.agenda.jobs with
  | nil => simp only [Agenda.nextJob?, hj]
  | cons job rest =>
    simp only [Agenda.nextJob?, hj]
    exact now_perform _ job

structure Drains (s : Session ℚ ι) (g : List (Happening ι)) (s' : Session ℚ ι) : Prop where
  passes : Passes s g s'
  idle : s'.agenda.jobs = []
  now : s'.agenda.now = s.agenda.now
  noneDue : s.NoneDue → s'.NoneDue

theorem Kept.workFor (hd : 0 ≤ d) (hs : Kept d h s) {fuel : Nat} (hf : s.effort ≤ fuel) :
    ∃ g, Drains s g (workFor fuel s) := by
  induction fuel generalizing h s with
  | zero =>
    refine ⟨[], .refl s, ?_, rfl, id⟩
    cases hj : s.agenda.jobs with
    | nil => exact hj
    | cons job rest =>
      have hweight : 0 < job.weight := by cases job <;> simp [Job.weight]
      simp only [effort, hj, List.map_cons, List.sum_cons] at hf
      omega
  | succ fuel ih =>
    unfold Session.workFor
    cases hj : s.agenda.jobs with
    | nil => exact ⟨[], .refl s, hj, rfl, id⟩
    | cons job rest =>
      have hdone : Done d h s s.work := by
        cases job with
        | arrive c => exact hs.arrive hd hj
        | turn c => exact hs.turn hd hj
      have hless := hdone.effort
      obtain ⟨g, hdrains⟩ := ih (hs.work hd) (by omega)
      have hstep : Passes s (s.news .work) s.work := passes_move s (m := .work) trivial
      exact ⟨_, hstep.trans hdrains.passes, hdrains.idle,
        hdrains.now.trans (now_work s), fun hn => hdrains.noneDue (hdone.noneDue hn)⟩

omit [DecidableEq ι] in
theorem effort_le_backlog (s : Session ℚ ι) : s.effort ≤ s.backlog := by
  have hjobs : (s.agenda.jobs.map Job.weight).sum ≤ 2 * s.agenda.jobs.length := by
    induction s.agenda.jobs with
    | nil => exact le_refl _
    | cons job rest ih =>
      have hweight : job.weight ≤ 2 := by cases job <;> simp [Job.weight]
      rw [List.map_cons, List.sum_cons, List.length_cons]
      omega
  have hline : waitingIn s.limiter.line ≤ s.limiter.line.length := List.length_filter_le _ _
  unfold effort backlog
  omega

theorem Kept.drain (hd : 0 ≤ d) (hs : Kept d h s) : ∃ g, Drains s g s.drain :=
  hs.workFor hd (effort_le_backlog s)

/-! Alarms bring grants -/

/-- The alarms that ring too late to bring a grant: at most one, which was overtaken by a try. -/
def overdue (s : Session ℚ ι) : Nat := if s.agenda.alarms.any (·.1 ≤ s.agenda.now) then 1 else 0

omit [DecidableEq ι] in
theorem overdue_of_noneDue (hn : s.NoneDue) : s.overdue = 0 := by
  rw [overdue, if_neg]
  rw [List.any_eq_true]
  rintro ⟨alarm, ha, hle⟩
  exact absurd (hn alarm ha) (not_lt.mpr (by simpa using hle))

theorem Sound.waiting_ne_nil {w : List ι} (hs : Sound d h w s) {c : ι}
    (hc : s.limiter.holder = some (c, .sleeping)) : w ≠ [] := by
  have hm : c ∈ s.limiter.contenders := mem_contenders.mpr (.inl ⟨_, hc, rfl⟩)
  rw [← hs.queue]
  exact List.ne_nil_of_mem (List.mem_append_left _ hm)

/-- When no job is left and somebody waits, the one who holds the slot sleeps until the interval is
over, or its alarm is due. -/
theorem Kept.alarm_of_idle (hs : Kept d h s) (hidle : s.agenda.jobs = []) (hw : waiting h ≠ []) :
    ∃ c time last, s.agenda.alarms = [(time, c)] ∧ s.agenda.now ≤ time ∧
      lastTime? h = some last ∧ (time = s.agenda.now ∨ time = last + d) := by
  have hbusy : s.limiter.clients ≠ [] := by
    intro hnil
    apply hw
    have hsub := contenders_sublist s.limiter
    rw [hnil, List.sublist_nil] at hsub
    rw [← hs.queue, arriving, hidle, hsub]
    rfl
  obtain ⟨c, hc⟩ := hs.sleeping_of_idle hidle hbusy
  obtain ⟨time, halarms, hle, htime⟩ := hs.asleep c hc
  obtain ⟨last, hlast, -⟩ := hs.due hbusy
  refine ⟨c, time, last, halarms, hle, hlast, htime.imp_right ?_⟩
  rintro ⟨last', hlast', heq⟩
  rw [hlast] at hlast'
  cases hlast'
  exact heq

/-- An instant: time moves to an alarm, it rings, and what comes of it is done. -/
def instant (s : Session ℚ ι) (time : ℚ) : Session ℚ ι := ((s.tick time).ringFirst).drain

theorem Kept.tick_eq (hs : Kept d h s) (hidle : s.agenda.jobs = []) {time : ℚ} {c : ι}
    (ha : s.agenda.alarms = [(time, c)]) :
    s.tick time = { s with agenda := { s.agenda with now := time } } := by
  obtain ⟨-, -, hle, -⟩ := hs.of_alarm ha
  rw [Session.tick, if_pos]
  refine ⟨hidle, hle, fun alarm hm => ?_⟩
  rw [ha] at hm
  rw [List.mem_singleton.mp hm]

/-- An alarm for the end of the interval brings a grant: without one a session is not at rest when
it has rung. -/
theorem Kept.not_idle_after (hs : Kept d h s) {time : ℚ} {c : ι}
    (ha : s.agenda.alarms = [(time, c)]) (hover : s.overdue = 0) (hs' : Kept d h s')
    (hidle : s'.agenda.jobs = []) (hnow : s'.agenda.now = time) (hnone : s'.NoneDue) : False := by
  obtain ⟨hc, -, -, htime⟩ := hs.of_alarm ha
  obtain ⟨c', time', last, ha', -, hlast, htime'⟩ := hs'.alarm_of_idle hidle (hs.waiting_ne_nil hc)
  have hlater := hnone (time', c') (by rw [ha']; exact List.mem_singleton.mpr rfl)
  rw [hnow] at hlater htime'
  have hahead : s.agenda.now < time := by
    by_contra hdue
    rw [overdue, ha, if_pos (by simpa using hdue)] at hover
    cases hover
  -- both alarms are for the end of the same interval
  rcases htime with heq | ⟨last', hlast', heq⟩
  · linarith
  · rw [hlast] at hlast'
    cases hlast'
    rcases htime' with heq' | heq'
    · linarith
    · linarith

theorem Kept.instant (hd : 0 ≤ d) (hs : Kept d h s) (hidle : s.agenda.jobs = []) {time : ℚ} {c : ι}
    (ha : s.agenda.alarms = [(time, c)]) :
    ∃ g, Passes s g (s.instant time) ∧ (s.instant time).agenda.jobs = [] ∧
      (s.instant time).agenda.now = time ∧ (s.instant time).NoneDue ∧
      (waiting (h ++ g)).length + (s.instant time).overdue < (waiting h).length + s.overdue := by
  have htick := hs.tick_eq hidle ha
  have hticked : Kept d h (s.tick time) := hs.tick time
  have ha' : (s.tick time).agenda.alarms = [(time, c)] := by rw [htick]; exact ha
  have hle' : time ≤ (s.tick time).agenda.now := by rw [htick]
  have hring := hticked.ringFirst_eq ha' hle'
  have hrung : Kept d h (s.tick time).ringFirst := hticked.ringFirst
  obtain ⟨g, hdrains⟩ := hrung.drain hd
  have hnow : (s.instant time).agenda.now = time := by
    rw [Session.instant, hdrains.now, hring, htick]
  have hnone : (s.instant time).NoneDue := hdrains.noneDue (by rw [hring]; exact nofun)
  have hpasses : Passes s g (s.instant time) :=
    (passes_move s (m := .tick time) trivial).trans
      ((passes_move _ (m := .ring) trivial).trans hdrains.passes)
  have hkept : Kept d (h ++ g) (s.instant time) := hpasses.kept hd hs
  have hfewer := hkept.scheduled.waiting_fewer fun x hx => hpasses.granted hx
  refine ⟨g, hpasses, hdrains.idle, hnow, hnone, ?_⟩
  rw [overdue_of_noneDue hnone]
  by_cases hover : s.overdue = 0
  · have hgrant : g ≠ [] := by
      rintro rfl
      rw [List.append_nil] at hkept
      exact hs.not_idle_after ha hover hkept hdrains.idle hnow hnone
    have hpos := List.length_pos_iff.mpr hgrant
    omega
  · omega

theorem Kept.ringUntil_succ (hs : Kept d h s) (hidle : s.agenda.jobs = []) {time limit : ℚ} {c : ι}
    (ha : s.agenda.alarms = [(time, c)]) (hlimit : time ≤ limit) (fuel : Nat) :
    Session.ringUntil limit (fuel + 1) s = Session.ringUntil limit fuel (s.instant time) := by
  obtain ⟨-, -, hle, -⟩ := hs.of_alarm ha
  have hnow : (if s.agenda.now < time then time else s.agenda.now) = time := by
    split
    · rfl
    · next hge => exact le_antisymm hle (not_lt.mp hge)
  have hring : s.agenda.ringAt time = ([c], { s.agenda with now := time, alarms := [] }) := by
    simp [Agenda.ringAt, hnow, ha]
  have hfirst : (s.tick time).ringFirst =
      Session.ring { s with agenda := { s.agenda with now := time, alarms := [] } } c := by
    rw [hs.tick_eq hidle ha]
    simp [Session.ringFirst, ha]
  rw [Session.ringUntil, Agenda.nextRing?, ha]
  simp only [List.head?_cons, Option.map_some, if_neg (not_lt.mpr hlimit), hring, List.foldl_cons,
    List.foldl_nil, Session.instant, hfirst]

/-- Alarms up to a limit ring, one instant after the other, until the next is after the limit. -/
theorem Kept.ringUntil (hd : 0 ≤ d) (hs : Kept d h s) (hidle : s.agenda.jobs = []) {limit : ℚ}
    (hlimit : s.agenda.now ≤ limit) {fuel : Nat} (hf : (waiting h).length + s.overdue ≤ fuel) :
    ∃ g, Passes s g (ringUntil limit fuel s) ∧ (ringUntil limit fuel s).agenda.jobs = [] ∧
      (ringUntil limit fuel s).agenda.now ≤ limit ∧
      ∀ alarm ∈ (ringUntil limit fuel s).agenda.alarms, limit < alarm.1 := by
  induction fuel generalizing h s with
  | zero =>
    have hw : waiting h = [] := List.length_eq_zero_iff.mp (by omega)
    have hquiet : s.agenda.alarms = [] :=
      hs.silent fun c hc => absurd hw (hs.waiting_ne_nil hc)
    refine ⟨[], .refl s, hidle, hlimit, fun alarm ha => ?_⟩
    change alarm ∈ s.agenda.alarms at ha
    rw [hquiet] at ha
    cases ha
  | succ fuel ih =>
    cases ha : s.agenda.alarms with
    | nil =>
      have hsame : Session.ringUntil limit (fuel + 1) s = s := by
        simp only [Session.ringUntil, Agenda.nextRing?, ha, List.head?_nil, Option.map_none]
      rw [hsame, ha]
      exact ⟨[], .refl s, hidle, hlimit, nofun⟩
    | cons alarm later =>
      obtain ⟨time, c⟩ := alarm
      obtain ⟨-, rfl, hle, -⟩ := hs.of_alarm ha
      by_cases hover : limit < time
      · have hsame : Session.ringUntil limit (fuel + 1) s = s := by
          simp only [Session.ringUntil, Agenda.nextRing?, ha, List.head?_cons, Option.map_some,
            if_pos hover]
        rw [hsame, ha]
        refine ⟨[], .refl s, hidle, hlimit, fun alarm hm => ?_⟩
        rw [List.mem_singleton.mp hm]
        exact hover
      · have hnext := hs.ringUntil_succ hidle ha (not_lt.mp hover) fuel
        obtain ⟨g, hpasses, hidle', hnow, -, hless⟩ := hs.instant hd hidle ha
        obtain ⟨g', hpasses', hrest⟩ := ih (hpasses.kept hd hs) hidle'
          (by rw [hnow]; exact not_lt.mp hover) (by omega)
        rw [hnext]
        exact ⟨g ++ g', hpasses.trans hpasses', hrest⟩

theorem Kept.le_instants (hs : Kept d h s) (hidle : s.agenda.jobs = []) :
    (waiting h).length + s.overdue ≤ s.instants := by
  have hqueue : waiting h = s.limiter.contenders := by
    rw [← hs.queue, arriving, hidle]
    exact List.append_nil _
  have hholder : (holderContending s.limiter.holder).length ≤ 1 := by
    have hlength := List.length_filter_le (fun e : ι × Holding => e.2.contends)
      s.limiter.holder.toList
    rw [holderContending, List.length_map]
    exact hlength.trans Option.length_toList_le
  have hline : (lineContending s.limiter.line).length ≤ s.limiter.line.length := by
    rw [lineContending, List.length_map]
    exact List.length_filter_le _ _
  have hover : s.overdue ≤ 1 := by
    unfold overdue
    split <;> omega
  rw [hqueue, contenders, List.length_append, instants, backlog]
  omega

theorem Kept.advance (hd : 0 ≤ d) (hs : Kept d h s) {dt : ℚ} (hdt : 0 ≤ dt) :
    ∃ g, Passes s g (s.advance dt) ∧ (s.advance dt).agenda.jobs = [] ∧
      (s.advance dt).agenda.now = s.agenda.now + dt ∧ (s.advance dt).NoneDue := by
  obtain ⟨g, hdrains⟩ := hs.drain hd
  have hdrained := hdrains.passes.kept hd hs
  have hlimit : s.drain.agenda.now ≤ s.agenda.now + dt := by
    rw [hdrains.now]
    linarith
  obtain ⟨g', hpasses, hidle, hnow, hnone⟩ := hdrained.ringUntil hd hdrains.idle hlimit
    (hdrained.le_instants hdrains.idle)
  have htick : s.advance dt =
      (Session.ringUntil (s.agenda.now + dt) s.drain.instants s.drain).tick
        (s.agenda.now + dt) := by
    rw [Session.tick, if_pos ⟨hidle, hnow, fun alarm ha => (hnone alarm ha).le⟩, Session.advance,
      hdrains.now]
  have hlast : Passes (Session.ringUntil (s.agenda.now + dt) s.drain.instants s.drain) []
      (s.advance dt) := by
    rw [htick]
    exact passes_move _ (m := .tick _) trivial
  refine ⟨g ++ (g' ++ []), hdrains.passes.trans (hpasses.trans hlast), ?_, ?_, ?_⟩
  · rw [Session.advance, hdrains.now]
    exact hidle
  · rw [Session.advance, hdrains.now]
  · rw [Session.advance, hdrains.now]
    exact hnone

/-- In as many intervals as clients wait all of them are granted. -/
theorem Kept.advance_serves (hd : 0 ≤ d) (hs : Kept d h s) {dt : ℚ}
    (hdt : (waiting h).length * d ≤ dt) :
    ∃ g, Passes s g (s.advance dt) ∧ waiting (h ++ g) = [] := by
  have hpos : 0 ≤ (waiting h).length * d := mul_nonneg (Nat.cast_nonneg _) hd
  obtain ⟨g, hpasses, hidle, hnow, hnone⟩ := hs.advance hd (hpos.trans hdt)
  refine ⟨g, hpasses, ?_⟩
  have hkept := hpasses.kept hd hs
  by_contra hw
  obtain ⟨c, time, last, ha, -, hlast, htime⟩ := hkept.alarm_of_idle hidle hw
  have hlater := hnone (time, c) (by rw [ha]; exact List.mem_singleton.mpr rfl)
  have hload := hkept.scheduled.load hd hs.past hs.pastGrant (fun x hx => hpasses.granted hx) hlast
  have hone : d ≤ (waiting (h ++ g)).length * d := by
    have hcount : (1 : ℚ) ≤ (waiting (h ++ g)).length := by
      exact_mod_cast List.length_pos_iff.mpr hw
    have hmul := mul_le_mul_of_nonneg_right hcount hd
    linarith
  rw [hnow] at hlater htime
  rcases htime with heq | heq
  · linarith
  · linarith

end CommitMessage.Limiter.Session
