import CommitMessage.Proofs.Schedule.Moves

/-! What every run of a limiter keeps. The clients that contend for the slot, those in the line and
then those who have come and not yet asked, are the ones who wait by the history, in its order. One
that holds the slot sleeps until the interval is over; one that can move has a turn coming. -/

namespace CommitMessage.Limiter.Session

variable {ι : Type} [DecidableEq ι]

/-- The state of a session that goes with a history, when so many wait. -/
structure Sound (d : ℚ) (h : List (Happening ι)) (w : List ι) (s : Session ℚ ι) : Prop where
  interval : s.limiter.interval = d
  last : s.limiter.lastGrant = lastTime? h
  orderly : s.limiter.Orderly
  names : (s.limiter.clients ++ s.arriving).Nodup
  known : ∀ c ∈ s.limiter.clients ++ s.arriving, c ∈ comers h ∧ c ∉ served h
  gone : ∀ c ∈ s.gone, c ∈ comers h
  queue : s.limiter.contenders ++ s.arriving.filter (· ∉ s.gone) = w
  turns : ∀ c, s.limiter.Stirs c → .turn c ∈ s.agenda.jobs
  asleep : ∀ c, s.limiter.holder = some (c, .sleeping) → ∃ time,
    s.agenda.alarms = [(time, c)] ∧ s.agenda.now ≤ time ∧
      (time = s.agenda.now ∨ ∃ last, lastTime? h = some last ∧ time = last + d)
  silent : (∀ c, s.limiter.holder ≠ some (c, .sleeping)) → s.agenda.alarms = []
  pending : ∀ c ∈ s.arriving, .came c s.agenda.now ∈ h
  past : ∀ c a, .came c a ∈ h → a ≤ s.agenda.now
  pastGrant : ∀ last, lastTime? h = some last → last ≤ s.agenda.now
  due : s.limiter.clients ≠ [] → ∃ last, lastTime? h = some last ∧ s.agenda.now ≤ last + d

structure Kept (d : ℚ) (h : List (Happening ι)) (s : Session ℚ ι) : Prop
    extends Sound d h (waiting h) s where
  attended : s.limiter.Attended
  scheduled : Scheduled d h

/-- What a job does: it makes grants that are due, leaves less to do, and sets no alarm that is due
at once. -/
structure Done (d : ℚ) (h : List (Happening ι)) (s s' : Session ℚ ι) : Prop where
  kept : ∃ g : List (ι × ℚ), s'.grants = s.grants ++ g ∧
    Kept d (h ++ g.map fun (c, time) => .granted c time) s'
  effort : s'.effort < s.effort
  noneDue : s.NoneDue → s'.NoneDue

variable {d : ℚ} {h : List (Happening ι)} {w : List ι} {s : Session ℚ ι} {c : ι}

theorem filter_ne_of_not_mem {l : List ι} (hl : c ∉ l) : l.filter (· ≠ c) = l := by
  refine List.filter_eq_self.mpr fun b hb => ?_
  have hne : b ≠ c := fun he => hl (he ▸ hb)
  simpa using hne

theorem kept_new (d now : ℚ) : Kept d [] (Session.new d now : Session ℚ ι) := by
  refine ⟨⟨rfl, rfl, ⟨List.nodup_nil, fun hne => absurd rfl hne, nofun⟩, List.nodup_nil, nofun,
    nofun, rfl, ?_, nofun, fun _ => rfl, nofun, nofun, nofun, fun hne => absurd rfl hne⟩, ?_, .nil⟩
  · rintro c (hc | hc | ⟨s, hs, -⟩)
    · cases hc
    · cases hc
    · cases hs
  · intro _ e he
    cases he

/-! Calling the first -/

theorem Sound.call (hs : Sound d h w s) :
    Sound d h w (s.apply s.limiter.callIfFree) ∧
      (s.apply s.limiter.callIfFree).limiter.Attended := by
  obtain ⟨called, hcalled, happly, -⟩ := s.apply_callIfFree
  obtain ⟨hinterval, hlast, hholder, hclients, hcontenders⟩ := callIfFree_frame s.limiter
  obtain ⟨horderly, hattended⟩ := hs.orderly.callIfFree
  have harriving : (s.apply s.limiter.callIfFree).arriving = s.arriving := by
    rw [happly, arriving, arriving_turns, arriving]
  rw [happly] at harriving ⊢
  refine ⟨{ hs with
    interval := hinterval.trans hs.interval
    last := hlast.trans hs.last
    orderly := horderly
    names := ?_
    known := ?_
    queue := ?_
    turns := fun c hc => List.mem_append.mpr ?_
    asleep := ?_
    silent := ?_
    pending := ?_
    due := ?_ }, hattended⟩
  · rw [harriving, hclients]
    exact hs.names
  · rw [harriving, hclients]
    exact hs.known
  · rw [harriving, hcontenders]
    exact hs.queue
  · rcases stirs_callIfFree hc with hc | hc
    · exact .inl (hs.turns c hc)
    · rw [hcalled] at hc
      exact .inr (by simpa using hc)
  · rw [hholder]
    exact hs.asleep
  · rw [hholder]
    exact hs.silent
  · rw [harriving]
    exact hs.pending
  · rw [hclients]
    exact hs.due

/-! What happens -/

/-- What is no grant is no more than a note. -/
theorem Sound.note (hs : Sound d h w s) {x : Happening ι} (hx : x.grantTime? = none)
    (hcame : ∀ c a, x = .came c a → a = s.agenda.now) : Sound d (h ++ [x]) w s := by
  have hlast : lastTime? (h ++ [x]) = lastTime? h := by rw [lastTime?_snoc, hx, Option.none_or]
  have hcomers : ∀ c ∈ comers h, c ∈ comers (h ++ [x]) := fun c hc => by
    rw [comers_snoc]
    exact List.mem_append_left _ hc
  have hserved : served (h ++ [x]) = served h := by
    have hnone : x.served? = none := by cases x <;> first | rfl | cases hx
    rw [served_snoc, hnone, Option.toList_none, List.append_nil]
  refine { hs with
    last := ?_
    known := fun c hc => ?_
    gone := fun c hc => hcomers c (hs.gone c hc)
    asleep := ?_
    pending := fun c hc => List.mem_append_left _ (hs.pending c hc)
    past := fun c a hm => ?_
    pastGrant := ?_
    due := ?_ }
  · rw [hlast]
    exact hs.last
  · rw [hserved]
    exact ⟨hcomers c (hs.known c hc).1, (hs.known c hc).2⟩
  · rw [hlast]
    exact hs.asleep
  · rcases List.mem_append.mp hm with hm | hm
    · exact hs.past c a hm
    · exact (hcame c a (List.mem_singleton.mp hm).symm).le
  · rw [hlast]
    exact hs.pastGrant
  · rw [hlast]
    exact hs.due

/-- A grant that is due, to a try or to a client that has no other place, is no more than noted. -/
theorem Sound.grant (hd : 0 ≤ d) (hs : Sound d h w s) {x : Happening ι}
    (hx : x.grantTime? = some s.agenda.now)
    (hserved : ∀ c ∈ x.served?, c ∉ s.limiter.clients ++ s.arriving)
    (hdue : ∀ last, lastTime? h = some last → last + d ≤ s.agenda.now) :
    Sound d (h ++ [x]) w
      { s with limiter := { s.limiter with lastGrant := some s.agenda.now } } := by
  have hcomer : x.comer? = none := by cases x <;> first | rfl | cases hx
  have hlast : lastTime? (h ++ [x]) = some s.agenda.now := by rw [lastTime?_snoc, hx]; rfl
  have hcomers : comers (h ++ [x]) = comers h := by
    rw [comers_snoc, hcomer, Option.toList_none, List.append_nil]
  obtain ⟨hnodup, hheld, hbehind⟩ := hs.orderly
  refine { hs with
    last := hlast.symm
    orderly := ⟨hnodup, hheld, hbehind⟩
    known := fun c hc => ?_
    gone := ?_
    asleep := fun c hc => ?_
    pending := fun c hc => List.mem_append_left _ (hs.pending c hc)
    past := fun c a hm => ?_
    pastGrant := fun last hl => ?_
    due := fun _ => ⟨_, hlast, by linarith⟩ }
  · rw [hcomers, served_snoc]
    refine ⟨(hs.known c hc).1, fun hm => ?_⟩
    rcases List.mem_append.mp hm with hm | hm
    · exact (hs.known c hc).2 hm
    · exact hserved c (Option.mem_toList.mp hm) hc
  · rw [hcomers]
    exact hs.gone
  · -- the alarm of one who sleeps has been overtaken, unless it is due as well
    obtain ⟨time, halarms, hle, htime⟩ := hs.asleep c hc
    refine ⟨time, halarms, hle, .inl ?_⟩
    rcases htime with htime | ⟨last, hl, htime⟩
    · exact htime
    · have hover := hdue last hl
      linarith
  · rcases List.mem_append.mp hm with hm | hm
    · exact hs.past c a hm
    · rw [← List.mem_singleton.mp hm] at hx
      cases hx
  · rw [hlast] at hl
    cases hl
    exact le_refl _

omit [DecidableEq ι] in
theorem slot_eq {a now : ℚ} (ha : a ≤ now)
    (hready : a = now ∨ ∃ last, lastTime? h = some last ∧ now ≤ last + d)
    (hlast : ∀ last, lastTime? h = some last → last + d ≤ now) : slot d h a = now := by
  cases hl : lastTime? h with
  | none =>
    rcases hready with rfl | ⟨last, hsome, -⟩
    · simp only [slot, hl]
    · rw [hl] at hsome
      cases hsome
  | some last =>
    have hle := hlast last hl
    simp only [slot, hl]
    rcases hready with rfl | ⟨last', hsome, hge⟩
    · exact max_eq_left hle
    · rw [hl] at hsome
      cases hsome
      rw [max_eq_right (by linarith)]
      linarith

theorem Sound.sleep (hs : Sound d h w s) (hfree : s.limiter.holder = none)
    (huncalled : ∀ e ∈ s.limiter.line, e.2.Uncalled) (hnew : c ∉ s.limiter.clients ++ s.arriving)
    (hknown : c ∈ comers h ∧ c ∉ served h) {last delay : ℚ} (hlast : lastTime? h = some last)
    (hdelay : s.agenda.now + delay = last + d) (hlt : s.agenda.now < last + d) :
    Sound d h (c :: w) { s with
      limiter := { s.limiter with holder := some (c, .sleeping) }
      agenda := { s.agenda with alarms := [(s.agenda.now + delay, c)] }
      record := .slept c delay :: s.record } := by
  have hclients : ({ s.limiter with holder := some (c, .sleeping) } : Limiter ℚ ι).clients =
      c :: s.limiter.clients := by simp [clients, hfree]
  have hcontenders : ({ s.limiter with holder := some (c, .sleeping) } : Limiter ℚ ι).contenders =
      c :: s.limiter.contenders := by
    simp [contenders, holderContending, hfree, Holding.contends]
  have hnodup : (c :: (s.limiter.clients ++ s.arriving)).Nodup :=
    List.nodup_cons.mpr ⟨hnew, hs.names⟩
  refine { hs with
    orderly := ⟨?_, fun _ => huncalled, hs.orderly.behind⟩
    names := ?_
    known := ?_
    queue := ?_
    turns := ?_
    asleep := ?_
    silent := fun hno => absurd rfl (hno c)
    due := fun _ => ⟨last, hlast, hlt.le⟩ }
  · rw [hclients]
    exact (List.nodup_append.mp hnodup).1
  · rw [hclients]
    exact hnodup
  · rw [hclients]
    intro b hb
    rcases List.mem_cons.mp hb with rfl | hb
    · exact hknown
    · exact hs.known b hb
  · rw [hcontenders, ← hs.queue]
    rfl
  · rintro b (hb | hb | hb)
    · cases hb
    · cases hb
    · exact hs.turns b (.inr (.inr hb))
  · intro b hb
    cases hb
    exact ⟨_, rfl, by linarith, .inr ⟨last, hlast, hdelay⟩⟩

/-- An attempt of the one who has waited longest, with the slot free: it is granted on time, or
sleeps until it is time. -/
theorem Sound.take (hd : 0 ≤ d) (hs : Sound d h w s) (hsched : Scheduled d h)
    (hw : waiting h = c :: w) (hfree : s.limiter.holder = none)
    (huncalled : ∀ e ∈ s.limiter.line, e.2.Uncalled) (hnew : c ∉ s.limiter.clients ++ s.arriving)
    (hknown : c ∈ comers h ∧ c ∉ served h)
    (hready : ∃ a, .came c a ∈ h ∧
      (a = s.agenda.now ∨ ∃ last, lastTime? h = some last ∧ s.agenda.now ≤ last + d)) :
    ∃ g : List (ι × ℚ),
      (s.apply (s.limiter.attempt s.agenda.now c)).grants = s.grants ++ g ∧
      Kept d (h ++ g.map fun (c, time) => .granted c time)
        (s.apply (s.limiter.attempt s.agenda.now c)) ∧
      (s.apply (s.limiter.attempt s.agenda.now c)).effort ≤ s.effort ∧
      (s.apply (s.limiter.attempt s.agenda.now c)).NoneDue := by
  have hquiet : s.agenda.alarms = [] := hs.silent fun b hb => by
    rw [hfree] at hb
    cases hb
  rcases attempt_cases s.limiter s.agenda.now c with
    ⟨last, delay, hlast, hdelay, hlt, he⟩ | ⟨hlast, he⟩
  · have happly : s.apply (s.limiter.attempt s.agenda.now c) = { s with
        limiter := { s.limiter with holder := some (c, .sleeping) }
        agenda := { s.agenda with alarms := [(s.agenda.now + delay, c)] }
        record := .slept c delay :: s.record } := by
      rw [he]
      simp [apply, signal, Agenda.later, hquiet, Agenda.insertAlarm]
    rw [hs.last] at hlast
    rw [hs.interval] at hdelay hlt
    have hsleep := hs.sleep hfree huncalled hnew hknown hlast hdelay hlt
    rw [← hw] at hsleep
    rw [happly]
    refine ⟨[], by simp [grants, Entry.grant?], ?_, le_refl _, fun alarm ha => ?_⟩
    · rw [List.map_nil, List.append_nil]
      exact ⟨hsleep, by rintro ⟨⟩, hsched⟩
    · rw [List.mem_singleton.mp ha]
      change s.agenda.now < s.agenda.now + delay
      linarith
  · rw [hs.interval, hs.last] at hlast
    have hcall : (s.limiter.granting s.agenda.now, callSignals s.limiter.line) =
        ({ s.limiter with lastGrant := some s.agenda.now } : Limiter ℚ ι).callIfFree := by
      rw [callIfFree, if_pos (by simp [hfree]), callNext_eq, granting, hfree]
    have hdue : Due d h (.granted c s.agenda.now) := by
      obtain ⟨a, ha, hready⟩ := hready
      exact ⟨by rw [hw]; rfl, a, ha, (slot_eq (hs.past c a ha) hready hlast).symm⟩
    have hwaiting : waiting (h ++ [.granted c s.agenda.now]) = w := by
      rw [waiting_snoc, waitingAfter, hw, List.erase_cons_head]
    have hgrant := hs.grant hd (x := .granted c s.agenda.now) rfl (fun b hb => by
      cases hb
      exact hnew) hlast
    rw [← hwaiting] at hgrant
    obtain ⟨hcalled, hattended⟩ := hgrant.call
    obtain ⟨called, -, happly, heffort⟩ := apply_callIfFree
      { s with limiter := { s.limiter with lastGrant := some s.agenda.now } }
    have hgranted : s.apply (s.limiter.attempt s.agenda.now c) = signal
        (apply { s with limiter := { s.limiter with lastGrant := some s.agenda.now } }
          ({ s.limiter with lastGrant := some s.agenda.now } : Limiter ℚ ι).callIfFree)
        (.granted c) := by
      rw [he, apply_append, hcall]
      rfl
    rw [hgranted]
    refine ⟨[(c, s.agenda.now)], ?_, ⟨{ hcalled with }, hattended, hsched.snoc hdue⟩, heffort.le,
      fun alarm ha => ?_⟩
    · rw [happly]
      simp [signal, grants, Entry.grant?]
    · rw [happly] at ha
      change alarm ∈ s.agenda.alarms at ha
      rw [hquiet] at ha
      cases ha

end CommitMessage.Limiter.Session
