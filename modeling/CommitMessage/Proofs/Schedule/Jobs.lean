import CommitMessage.Proofs.Schedule.Upkeep

/-! The jobs of a limiter. A client that asks takes the slot, or stands in the line, or has given
up; one that has its turn takes the slot, or leaves, or has no use for it. -/

namespace CommitMessage.Limiter.Session

variable {ι : Type} [DecidableEq ι] {d : ℚ} {h : List (Happening ι)} {w : List ι}
  {s : Session ℚ ι} {c : ι} {rest : List (Job ι)}

/-! Turns -/

omit [DecidableEq ι] in
theorem arriving_of_turn (hj : s.agenda.jobs = .turn c :: rest) :
    s.arriving = rest.filterMap Job.arrival? := by
  rw [arriving, hj, List.filterMap_cons_none rfl]

theorem Sound.pass (hs : Sound d h w s) (hj : s.agenda.jobs = .turn c :: rest)
    (hc : ¬s.limiter.Stirs c) :
    Sound d h w { s with agenda := { s.agenda with jobs := rest } } := by
  have harriving := arriving_of_turn hj
  refine { hs with
    names := ?_
    known := ?_
    queue := ?_
    turns := fun b hb => ?_
    pending := ?_ }
  · rw [arriving, ← harriving]
    exact hs.names
  · rw [arriving, ← harriving]
    exact hs.known
  · rw [arriving, ← harriving]
    exact hs.queue
  · have hturn := hs.turns b hb
    rw [hj] at hturn
    refine (List.mem_cons.mp hturn).resolve_left fun he => hc ?_
    cases he
    exact hb
  · rw [arriving, ← harriving]
    exact hs.pending

/-- A client that has its turn is taken out of its place. -/
theorem Sound.dismiss (hs : Sound d h w s) (hj : s.agenda.jobs = .turn c :: rest)
    (hc : c ∈ s.limiter.clients) (hawake : s.limiter.holder ≠ some (c, .sleeping)) :
    Sound d h (w.filter (· ≠ c)) { s with
      limiter := s.limiter.without c, agenda := { s.agenda with jobs := rest } } := by
  have harriving := arriving_of_turn hj
  have hsub : (s.limiter.without c).clients.Sublist s.limiter.clients := by
    rw [clients_without]
    exact List.filter_sublist
  have hnot : c ∉ s.arriving := fun hm => (List.nodup_append.mp hs.names).2.2 c hc c hm rfl
  have hholder : ∀ b, (s.limiter.without c).holder = some (b, .sleeping) ↔
      s.limiter.holder = some (b, .sleeping) := by
    intro b
    rw [Limiter.without, Option.filter_eq_some_iff]
    refine ⟨And.left, fun hb => ⟨hb, ?_⟩⟩
    have hne : b ≠ c := fun he => hawake (he ▸ hb)
    simpa using hne
  refine { hs with
    orderly := hs.orderly.without c
    names := ?_
    known := fun b hb => ?_
    queue := ?_
    turns := fun b hb => ?_
    asleep := fun b hb => hs.asleep b ((hholder b).mp hb)
    silent := fun hno => hs.silent fun b hb => hno b ((hholder b).mpr hb)
    pending := ?_
    due := fun hne => hs.due fun hn => hne ?_ }
  · rw [arriving, ← harriving]
    exact hs.names.sublist (hsub.append (List.Sublist.refl _))
  · rw [arriving, ← harriving] at hb
    exact hs.known b ((hsub.append (List.Sublist.refl _)).subset hb)
  · rw [arriving, ← harriving, contenders_without, ← hs.queue, List.filter_append]
    rw [filter_ne_of_not_mem fun hm => hnot (List.mem_filter.mp hm).1]
  · obtain ⟨hb, hne⟩ := stirs_without hb
    have hturn := hs.turns b hb
    rw [hj] at hturn
    refine (List.mem_cons.mp hturn).resolve_left fun he => hne ?_
    cases he
    rfl
  · rw [arriving, ← harriving]
    exact hs.pending
  · rw [hn] at hsub
    exact List.sublist_nil.mp hsub

theorem cons_filter_of_head? {l : List ι} (hnodup : l.Nodup) (hl : l.head? = some c) :
    l = c :: l.filter (· ≠ c) := by
  obtain ⟨rest, rfl⟩ := List.head?_eq_some_iff.mp hl
  rw [List.filter_cons_of_neg (by simp), filter_ne_of_not_mem (List.nodup_cons.mp hnodup).1]

omit [DecidableEq ι] in
theorem effort_of_turn (hj : s.agenda.jobs = .turn c :: rest) :
    s.effort = ({ s with agenda := { s.agenda with jobs := rest } } : Session ℚ ι).effort + 1 := by
  simp only [effort, hj, List.map_cons, List.sum_cons, Job.weight]
  omega

theorem effort_dismiss (hj : s.agenda.jobs = .turn c :: rest) :
    ({ s with
      limiter := s.limiter.without c
      agenda := { s.agenda with jobs := rest } } : Session ℚ ι).effort < s.effort := by
  have hfewer := waitingIn_without s.limiter c
  rw [effort_of_turn hj]
  simp only [effort]
  omega

theorem Kept.turn_takes (hd : 0 ≤ d) (hs : Kept d h s) (hj : s.agenda.jobs = .turn c :: rest)
    (ht : s.limiter.Takes c) :
    Done d h s (apply { s with agenda := { s.agenda with jobs := rest } }
      ((s.limiter.without c).attempt s.agenda.now c)) := by
  have hfirst : (waiting h).head? = some c := by
    rw [← hs.queue, List.head?_append, ht.first]
    rfl
  have hc : c ∈ s.limiter.clients :=
    (contenders_sublist _).subset (List.mem_of_mem_head? ht.first)
  have hknown := hs.known c (List.mem_append_left _ hc)
  obtain ⟨a, ha⟩ := mem_comers.mp hknown.1
  have hnew : c ∉ (s.limiter.without c).clients ++ rest.filterMap Job.arrival? := by
    have hnot : c ∉ s.arriving := fun hm => (List.nodup_append.mp hs.names).2.2 c hc c hm rfl
    rw [clients_without, ← arriving_of_turn hj]
    simpa using hnot
  obtain ⟨g, hg, hkept, heffort, hnone⟩ := (hs.toSound.dismiss hj hc ht.awake).take hd hs.scheduled
    (cons_filter_of_head? hs.scheduled.nodup_waiting hfirst) ht.free ht.uncalled hnew hknown
    ⟨a, ha, .inr (hs.due (List.ne_nil_of_mem hc))⟩
  exact ⟨⟨g, hg, hkept⟩, heffort.trans_lt (effort_dismiss hj), fun _ => hnone⟩

theorem Kept.turn_leaves (hs : Kept d h s) (hj : s.agenda.jobs = .turn c :: rest)
    (hc : c ∈ s.limiter.clients) (hcont : c ∉ s.limiter.contenders)
    (hawake : s.limiter.holder ≠ some (c, .sleeping)) :
    Done d h s (apply { s with agenda := { s.agenda with jobs := rest } }
      (s.limiter.leave c)) := by
  have hnot : c ∉ waiting h := by
    rw [← hs.queue]
    intro hm
    rcases List.mem_append.mp hm with hm | hm
    · exact hcont hm
    · exact (List.nodup_append.mp hs.names).2.2 c hc c (List.mem_filter.mp hm).1 rfl
  have hout := hs.toSound.dismiss hj hc hawake
  rw [filter_ne_of_not_mem hnot] at hout
  obtain ⟨hcalled, hattended⟩ := hout.call
  obtain ⟨called, -, happly, heffort⟩ := apply_callIfFree { s with
    limiter := s.limiter.without c
    agenda := { s.agenda with jobs := rest } }
  have hleft : apply { s with agenda := { s.agenda with jobs := rest } } (s.limiter.leave c) =
      apply { s with
        limiter := s.limiter.without c
        agenda := { s.agenda with jobs := rest } } (s.limiter.without c).callIfFree := by
    rw [leave, apply_append]
    rfl
  rw [hleft]
  refine ⟨⟨[], ?_, ?_⟩, heffort.trans_lt (effort_dismiss hj), fun hnone => ?_⟩
  · rw [happly]
    simp [grants]
  · rw [List.map_nil, List.append_nil]
    exact ⟨hcalled, hattended, hs.scheduled⟩
  · rw [happly]
    exact hnone

theorem Kept.turn (hd : 0 ≤ d) (hs : Kept d h s) (hj : s.agenda.jobs = .turn c :: rest) :
    Done d h s s.work := by
  have hwork : s.work = ({ s with agenda := { s.agenda with jobs := rest } } : Session ℚ ι).apply
      (s.limiter.turn s.agenda.now c) := by
    rw [work, Agenda.nextJob?, hj]
    rfl
  rw [hwork]
  cases hs.orderly.turn s.agenda.now c with
  | takes ht he =>
    rw [he]
    exact hs.turn_takes hd hj ht
  | leaves hc hcont hawake he =>
    rw [he]
    exact hs.turn_leaves hj hc hcont hawake
  | passes hcalm he =>
    rw [he]
    refine ⟨⟨[], by simp [apply, grants], ?_⟩, ?_, id⟩
    · rw [List.map_nil, List.append_nil]
      exact ⟨hs.toSound.pass hj hcalm, hs.attended, hs.scheduled⟩
    · rw [effort_of_turn hj]
      exact Nat.lt_succ_self _

/-! Arrivals -/

omit [DecidableEq ι] in
theorem arriving_of_arrive (hj : s.agenda.jobs = .arrive c :: rest) :
    s.arriving = c :: rest.filterMap Job.arrival? := by
  rw [arriving, hj, List.filterMap_cons_some (f := Job.arrival?) rfl]

/-- A client that asks is no longer among those who come. -/
theorem Sound.receive (hs : Sound d h w s) (hj : s.agenda.jobs = .arrive c :: rest) :
    Sound d h (w.filter (· ≠ c)) { s with agenda := { s.agenda with jobs := rest } } ∧
      c ∉ s.limiter.clients ++ rest.filterMap Job.arrival? := by
  have harriving := arriving_of_arrive hj
  have hnames := hs.names
  rw [harriving, List.nodup_middle] at hnames
  obtain ⟨hnot, hnames⟩ := List.nodup_cons.mp hnames
  have hknown : ∀ b ∈ s.limiter.clients ++ rest.filterMap Job.arrival?, b ≠ c ∧
      b ∈ s.limiter.clients ++ s.arriving := by
    intro b hb
    refine ⟨fun he => hnot (he ▸ hb), ?_⟩
    rw [harriving]
    rcases List.mem_append.mp hb with hb | hb
    · exact List.mem_append_left _ hb
    · exact List.mem_append_right _ (List.mem_cons_of_mem _ hb)
  refine ⟨{ hs with
    names := hnames
    known := fun b hb => hs.known b (hknown b hb).2
    queue := ?_
    turns := fun b hb => ?_
    pending := fun b hb => hs.pending b ?_ }, hnot⟩
  · have hcont : c ∉ s.limiter.contenders := fun hm =>
      hnot (List.mem_append_left _ ((contenders_sublist _).subset hm))
    have hlater : c ∉ (rest.filterMap Job.arrival?).filter (· ∉ s.gone) := fun hm =>
      hnot (List.mem_append_right _ (List.mem_filter.mp hm).1)
    rw [← hs.queue, harriving, List.filter_append, filter_ne_of_not_mem hcont]
    congr 1
    by_cases hg : c ∈ s.gone
    · rw [List.filter_cons_of_neg (by simpa using hg), filter_ne_of_not_mem hlater]
      rfl
    · rw [List.filter_cons_of_pos (by simpa using hg), List.filter_cons_of_neg (by simp),
        filter_ne_of_not_mem hlater]
      rfl
  · have hturn := hs.turns b hb
    rw [hj] at hturn
    exact (List.mem_cons.mp hturn).resolve_left nofun
  · rw [harriving]
    exact List.mem_cons_of_mem _ hb

/-- A client that asks while others are before it goes to the end of the line. -/
theorem Sound.enqueue (hs : Sound d h w s) (hj : s.agenda.jobs = .arrive c :: rest)
    (hc : c ∉ s.gone) (hbusy : s.limiter.clients ≠ []) :
    Sound d h w { s with
      limiter := { s.limiter with line := s.limiter.line ++ [(c, .waiting)] }
      agenda := { s.agenda with jobs := rest } } := by
  have harriving := arriving_of_arrive hj
  obtain ⟨hreceived, hnot⟩ := hs.receive hj
  obtain ⟨hnodup, hheld, hbehind⟩ := hs.orderly
  have hclients : ({ s.limiter with line := s.limiter.line ++ [(c, .waiting)] } :
      Limiter ℚ ι).clients = s.limiter.clients ++ [c] := by simp [clients]
  have hcontenders : ({ s.limiter with line := s.limiter.line ++ [(c, .waiting)] } :
      Limiter ℚ ι).contenders = s.limiter.contenders ++ [c] := by
    simp [contenders, lineContending, Standing.contends]
  have hnames := hs.names
  rw [harriving, List.append_cons] at hnames
  refine { hs with
    orderly := ⟨?_, fun hne e he => ?_, fun e he => ?_⟩
    names := ?_
    known := ?_
    queue := ?_
    turns := ?_
    pending := hreceived.pending
    due := fun _ => hs.due hbusy }
  · rw [hclients]
    exact (List.nodup_append.mp hnames).1
  · rcases List.mem_append.mp he with he | he
    · exact hheld hne e he
    · rw [List.mem_singleton.mp he]
      exact .inl rfl
  · have he : e ∈ s.limiter.line.tail ++ [(c, .waiting)] := by
      cases hl : s.limiter.line with
      | nil =>
        simp only [hl] at he
        cases he
      | cons first line => simpa only [hl, List.cons_append, List.tail_cons] using he
    rcases List.mem_append.mp he with he | he
    · exact hbehind e he
    · rw [List.mem_singleton.mp he]
      exact .inl rfl
  · rw [hclients]
    exact hnames
  · rw [hclients]
    intro b hb
    refine hs.known b ?_
    rw [harriving, List.append_cons]
    exact hb
  · rw [hcontenders, ← hs.queue, harriving, List.filter_cons_of_pos (by simpa using hc),
      ← List.append_cons]
    rfl
  · rintro b (hb | hb | ⟨standing, hb, hne⟩)
    · exact hreceived.turns b (.inl hb)
    · exact hreceived.turns b (.inr (.inl hb))
    · rcases List.mem_append.mp hb with hb | hb
      · exact hreceived.turns b (.inr (.inr ⟨standing, hb, hne⟩))
      · cases List.mem_singleton.mp hb
        exact absurd rfl hne

omit [DecidableEq ι] in
theorem effort_of_arrive (hj : s.agenda.jobs = .arrive c :: rest) :
    s.effort = ({ s with agenda := { s.agenda with jobs := rest } } : Session ℚ ι).effort + 2 := by
  simp only [effort, hj, List.map_cons, List.sum_cons, Job.weight]
  omega

/-- A client that gave up before it asked. -/
theorem Kept.arrive_gone (hs : Kept d h s) (hj : s.agenda.jobs = .arrive c :: rest)
    (hg : c ∈ s.gone) :
    Done d h s { s with agenda := { s.agenda with jobs := rest }, gone := s.gone.erase c } := by
  obtain ⟨hreceived, hnot⟩ := hs.toSound.receive hj
  have hnone : c ∉ waiting h := by
    rw [← hs.queue, List.mem_append]
    rintro (hm | hm)
    · exact hnot (List.mem_append_left _ ((contenders_sublist _).subset hm))
    · simp [hg] at hm
  rw [filter_ne_of_not_mem hnone] at hreceived
  refine ⟨⟨[], by simp [grants], ?_⟩, ?_, id⟩
  · rw [List.map_nil, List.append_nil]
    refine ⟨{ hreceived with
      gone := fun b hb => hs.gone b (List.mem_of_mem_erase hb)
      queue := ?_ }, hs.attended, hs.scheduled⟩
    rw [← hreceived.queue]
    congr 1
    refine List.filter_congr fun b hb => ?_
    have hne : b ≠ c := fun he => hnot (he ▸ List.mem_append_right _ hb)
    simp [List.mem_erase_of_ne hne]
  · rw [effort_of_arrive hj]
    exact Nat.lt_add_of_pos_right Nat.two_pos

theorem Kept.arrive_takes (hd : 0 ≤ d) (hs : Kept d h s) (hj : s.agenda.jobs = .arrive c :: rest)
    (hc : c ∉ s.gone) (hfree : s.limiter.holder = none)
    (hleaving : ∀ e ∈ s.limiter.line, e.2 = .leaving) :
    Done d h s (apply { s with agenda := { s.agenda with jobs := rest } }
      (s.limiter.attempt s.agenda.now c)) := by
  obtain ⟨hreceived, hnot⟩ := hs.toSound.receive hj
  have harriving := arriving_of_arrive hj
  have hcame : c ∈ s.arriving := by
    rw [harriving]
    exact List.mem_cons_self
  have hcontenders : s.limiter.contenders = [] := by
    refine List.eq_nil_iff_forall_not_mem.mpr fun b hb => ?_
    rcases mem_contenders.mp hb with ⟨holding, hh, -⟩ | ⟨standing, hm, hcont⟩
    · rw [hfree] at hh
      cases hh
    · cases hleaving _ hm
      cases hcont
  have hw : waiting h = c :: (waiting h).filter (· ≠ c) := by
    refine cons_filter_of_head? hs.scheduled.nodup_waiting ?_
    rw [← hs.queue, hcontenders, harriving, List.filter_cons_of_pos (by simpa using hc)]
    rfl
  obtain ⟨g, hg, hkept, heffort, hnone⟩ := hreceived.take hd hs.scheduled hw hfree
    (fun e hm => .inr (hleaving e hm)) hnot (hs.known c (List.mem_append_right _ hcame))
    ⟨_, hs.pending c hcame, .inl rfl⟩
  refine ⟨⟨g, hg, hkept⟩, heffort.trans_lt ?_, fun _ => hnone⟩
  rw [effort_of_arrive hj]
  exact Nat.lt_add_of_pos_right Nat.two_pos

theorem Kept.arrive_waits (hs : Kept d h s) (hj : s.agenda.jobs = .arrive c :: rest)
    (hc : c ∉ s.gone) (hbusy : s.limiter.clients ≠ []) :
    Done d h s (apply { s with agenda := { s.agenda with jobs := rest } }
      ({ s.limiter with line := s.limiter.line ++ [(c, .waiting)] }, [])) := by
  refine ⟨⟨[], by simp [apply, grants], ?_⟩, ?_, id⟩
  · rw [List.map_nil, List.append_nil]
    refine ⟨hs.toSound.enqueue hj hc hbusy, fun hfree e hm => ?_, hs.scheduled⟩
    have hfree : s.limiter.holder = none := hfree
    have hline : s.limiter.line ≠ [] := fun hnil => hbusy (by simp [clients, hfree, hnil])
    have hm : e ∈ (s.limiter.line ++ [(c, Standing.waiting)]).head? := hm
    rw [List.head?_append_of_ne_nil _ hline] at hm
    exact hs.attended hfree e hm
  · rw [effort_of_arrive hj]
    simp [effort, apply, waitingIn]
    omega

theorem Kept.arrive (hd : 0 ≤ d) (hs : Kept d h s) (hj : s.agenda.jobs = .arrive c :: rest) :
    Done d h s s.work := by
  have hwork : s.work =
      ({ s with agenda := { s.agenda with jobs := rest } } : Session ℚ ι).perform (.arrive c) := by
    rw [work, Agenda.nextJob?, hj]
  rw [hwork, perform]
  by_cases hg : c ∈ s.gone
  · rw [if_pos (by simpa using hg)]
    exact hs.arrive_gone hj hg
  · rw [if_neg (by simpa using hg)]
    rcases request_attempts_or_waits s.limiter s.agenda.now c with
      ⟨hfree, hleaving, he⟩ | ⟨hbusy, he⟩
    · rw [he]
      exact hs.arrive_takes hd hj hg hfree hleaving
    · rw [he]
      exact hs.arrive_waits hj hg hbusy

theorem Kept.work (hd : 0 ≤ d) (hs : Kept d h s) : Kept d (h ++ s.news .work) s.work := by
  have hnews (g : List (ι × ℚ)) (hg : s.work.grants = s.grants ++ g) :
      s.news .work = g.map fun e => .granted e.1 e.2 := by
    rw [news, hg, List.drop_left]
  cases hj : s.agenda.jobs with
  | nil =>
    have hwork : s.work = s := by rw [Session.work, Agenda.nextJob?, hj]
    rw [hnews [] (by rw [hwork, List.append_nil]), hwork, List.map_nil, List.append_nil]
    exact hs
  | cons job rest =>
    cases job with
    | arrive c =>
      obtain ⟨g, hg, hkept⟩ := (hs.arrive hd hj).kept
      rwa [hnews g hg]
    | turn c =>
      obtain ⟨g, hg, hkept⟩ := (hs.turn hd hj).kept
      rwa [hnews g hg]

end CommitMessage.Limiter.Session
