import CommitMessage.Proofs.Workspace.Jobs

/-! A workspace comes to rest at every instant, and after so many instants it is done: at each one
an alarm rings, and lookups set no more than two for every fetch. -/

namespace CommitMessage.Workspace

variable {p : Plan ℚ} {buffer : Text} {mentions : List Mention} {ringing : List (ℚ × Alarm)}
  {forDesk : Desk.Wake → Prop} {forBoard : Board.Wake → Prop} {w w' : Workspace ℚ}

/-! The bounds that the workspace keeps to -/

theorem cost_le_groups (w : Workspace ℚ) {c : Nat} (hc : c ≤ 4) :
    w.board.cost c ≤ (w.board.groups.map fun g => 8 * (g.slots.length + 1)).sum := by
  rw [Board.cost]
  refine List.sum_le_sum fun g _ => ?_
  have hslots : (g.slots.map (·.2.cost c)).sum ≤ g.slots.length * 4 := by
    refine (List.sum_le_card_nsmul _ 4 fun n hn => ?_).trans_eq (by simp)
    obtain ⟨entry, -, rfl⟩ := List.mem_map.mp hn
    cases entry.2 <;> simp [hc]
  rw [Board.Group.cost]
  cases g.stage <;> dsimp only <;> omega

theorem line_le_fetches {due : Desk.Wake → Prop} {d : Desk ℚ Asker} (h : d.Live due none) :
    d.limiter.line.length ≤ d.fetches.length := by
  have hsub : d.limiter.clients ⊆ d.fetches.map (·.reference) := fun c hc => by
    obtain ⟨f, hf, rfl, -⟩ := h.client c hc
    exact List.mem_map.mpr ⟨f, hf, rfl⟩
  have hlen := (List.subperm_of_subset h.fair.nodup hsub).length_le
  simp only [Limiter.clients, List.length_append, List.length_map] at hlen
  omega

theorem load_le_fetches {due : Desk.Wake → Prop} {d : Desk ℚ Asker} (h : d.Live due none) :
    d.load ≤ (d.fetches.map fun f => 8 * (f.callers.length + 1)).sum ∧
      d.rings ≤ (d.fetches.map fun f => 8 * (f.callers.length + 1)).sum := by
  have hline := line_le_fetches h
  have huncalled : Desk.uncalled d.limiter.line ≤ d.limiter.line.length := List.countP_le_length
  have hsum {f g : Desk.Fetch Asker → Nat} (hfg : ∀ x, f x + 1 ≤ g x)
      (l : List (Desk.Fetch Asker)) : (l.map f).sum + l.length ≤ (l.map g).sum := by
    induction l with
    | nil => exact le_refl _
    | cons x l ih =>
      have := hfg x
      simp only [List.map_cons, List.sum_cons, List.length_cons]
      omega
  have hload := hsum (f := Desk.Fetch.load) (g := fun f => 8 * (f.callers.length + 1))
    (fun f => by unfold Desk.Fetch.load; cases f.stage <;> dsimp only <;> omega) d.fetches
  have hrings := hsum (f := Desk.Fetch.rings) (g := fun f => 8 * (f.callers.length + 1))
    (fun f => by unfold Desk.Fetch.rings; cases f.stage <;> dsimp only <;> omega) d.fetches
  rw [Desk.load, Desk.rings]
  exact ⟨by omega, by omega⟩

theorem Going.left_le (h : Going p buffer mentions [] (fun _ => False) (fun _ => False) w) :
    w.toDo + w.toCall ≤ w.backlog ∧ w.toRing [] ≤ w.instants := by
  obtain ⟨hload, hrings⟩ := load_le_fetches h.live
  have hcost := cost_le_groups w (le_refl 4)
  have hcost' := cost_le_groups w (c := 2) (by omega)
  have hcall : w.toCall ≤ 1 := by
    unfold toCall
    split <;> omega
  rw [instants, toDo, toRing, backlog, List.nil_append]
  exact ⟨by omega, by omega⟩

/-! One instant -/

/-- All that can be done at one instant is done. -/
theorem Going.workFor {n : Nat}
    (h : Going p buffer mentions [] (fun _ => False) (fun _ => False) w) (hc : w.Called)
    (hn : w.toDo + w.toCall ≤ n) :
    Going p buffer mentions [] (fun _ => False) (fun _ => False) (workFor n w) ∧
      (Workspace.workFor n w).agenda.jobs = [] ∧
      (Workspace.workFor n w).toRing [] ≤ w.toRing [] ∧ (Workspace.workFor n w).Called := by
  -- every unit of work lowers what is to do, so the fuel lasts
  induction n generalizing w with
  | zero =>
    have hlen : w.agenda.jobs.length = 0 := by
      rw [toDo] at hn
      omega
    exact ⟨h, List.length_eq_zero_iff.mp hlen, le_refl _, hc⟩
  | succ n ih =>
    rw [Workspace.workFor]
    by_cases hj : w.agenda.jobs = []
    · rw [if_pos (by simp [hj])]
      exact ⟨h, hj, le_refl _, hc⟩
    · rw [if_neg (by simpa using hj)]
      obtain ⟨hgo, hless, hring, hcalled⟩ := h.work hj
      obtain ⟨hgo', hjobs, hring', hcalled'⟩ := ih hgo hcalled (by omega)
      exact ⟨hgo', hjobs, hring'.trans hring, hcalled'⟩

theorem Going.drain (h : Going p buffer mentions [] (fun _ => False) (fun _ => False) w)
    (hc : w.Called) :
    Going p buffer mentions [] (fun _ => False) (fun _ => False) w.drain ∧
      w.drain.agenda.jobs = [] ∧ w.drain.toRing [] ≤ w.toRing [] ∧ w.drain.Called :=
  h.workFor hc h.left_le.1

/-- The alarm of a sleeper is the only one of its kind. -/
theorem Going.sleeper {time : ℚ} {r : Reference}
    (h : Going p buffer mentions ((time, .limiter r) :: ringing) forDesk forBoard w) :
    w.desk.limiter.sleeps = [(time, r)] ∧ sleepers (ringing ++ w.agenda.alarms) = [] := by
  have hs : ((time, r) :: sleepers (ringing ++ w.agenda.alarms)).Perm w.desk.limiter.sleeps :=
    h.sleeps
  have hone : w.desk.limiter.sleeps.length ≤ 1 := by
    unfold Limiter.sleeps
    split <;> simp
  have hlen := hs.length_eq
  rw [List.length_cons] at hlen
  have hnil : sleepers (ringing ++ w.agenda.alarms) = [] :=
    List.length_eq_zero_iff.mp (by omega)
  rw [hnil] at hs
  exact ⟨List.singleton_perm.mp hs |>.symm, hnil⟩

/-- What an alarm brings to the desk. -/
def Alarm.deskWake? : Alarm → Option Desk.Wake
  | .limiter r => some (.sleep r)
  | .reply r _ => some (.reply r)
  | .timer _ _ => none

theorem deskDue_cons {entry : ℚ × Alarm} {e : Desk.Wake} (he : deskDue (entry :: ringing) w e) :
    deskDue ringing w e ∨ entry.2.deskWake? = some e := by
  cases e with
  | fetch r => exact .inl he
  | limiter r => exact .inl he
  | sleep r =>
    obtain ⟨time, hm⟩ := he
    rcases List.mem_cons.mp hm with rfl | hm
    · exact .inr rfl
    · exact .inl ⟨time, hm⟩
  | reply r =>
    obtain ⟨reply, hm | ⟨time, hm⟩⟩ := he
    · exact .inl ⟨reply, .inl hm⟩
    · rcases List.mem_cons.mp hm with rfl | hm
      · exact .inr rfl
      · exact .inl ⟨reply, .inr ⟨time, hm⟩⟩

theorem Going.ring {entry : ℚ × Alarm}
    (h : Going p buffer mentions (entry :: ringing) (fun _ => False) (fun _ => False) w) :
    Going p buffer mentions ringing (fun _ => False) (fun _ => False) (w.ring entry.2) ∧
      (w.ring entry.2).toRing ringing < w.toRing (entry :: ringing) ∧
      (w.Called → (w.ring entry.2).Called) := by
  have hfine := h.alarms entry List.mem_cons_self
  have hpast := h.past entry List.mem_cons_self
  obtain ⟨time, alarm⟩ := entry
  cases alarm with
  | timer debouncer timer => exact hfine.elim
  | limiter r =>
    obtain ⟨hs, hnone⟩ := h.sleeper
    obtain ⟨hsig, hload, hrings, hsleeps, hprompt⟩ := Desk.limiterWake_of_sleeps hs hpast
    have ht := Desk.turned_limiterWake w.desk r
    have hh := ht.honest h.truthful
    have ha := adds_applyDesk _ hh.withdrawn w
    have hlive : w.desk.Live (fun e => deskDue ringing w e ∨ e = .sleep r) none :=
      h.live.mono fun e he =>
        (deskDue_cons (he.resolve_right id)).imp_right fun he => (Option.some.inj he).symm
    refine ⟨(h.changeDesk (fun e => List.mem_cons_of_mem _) hlive.limiterWake hh ?_ hprompt
      fun r' hr => ht.like.isOver (h.finished r' hr)).settle ?_ fun _ => .inr, ?_,
      fun hc hn hg => ?_⟩
    · rw [hnone, hsig, hsleeps]
      exact .refl _
    · rintro e ⟨r', url, hm, -⟩
      rw [hsig] at hm
      cases List.mem_singleton.mp hm
    · have hlen : (w.applyDesk (w.desk.limiterWake r)).agenda.alarms.length =
          w.agenda.alarms.length := by
        rw [ha.alarms.length_eq, hsig]
        simp [deskAlarm?]
      have hd : (w.applyDesk (w.desk.limiterWake r)).desk = (w.desk.limiterWake r).1 := ha.desk
      have hb : (w.applyDesk (w.desk.limiterWake r)).board = w.board := ha.board
      simp only [Workspace.ring, toRing, List.length_append, List.length_cons, hlen, hd, hb, hrings]
      omega
    · rw [Workspace.ring, ha.callers] at hn
      rw [Workspace.ring, ha.board] at hg
      rw [Workspace.ring, ha.jobs]
      exact List.mem_append_left _ (hc hn hg)
  | reply r reply =>
    have hpop : Going p buffer mentions ringing (fun e => e = .reply r) (fun _ => False) w := by
      refine { h with
        live := h.live.mono fun e he => ?_
        alarms := fun e he => h.alarms e (List.mem_cons_of_mem _ he)
        past := fun e he => h.past e (List.mem_cons_of_mem _ he) }
      exact (deskDue_cons (he.resolve_right id)).imp_right fun he => (Option.some.inj he).symm
    refine ⟨(hpop.soon (.reply r reply) hfine (by simp) (by simp)).settle ?_ fun _ => .inr, ?_,
      fun hc hn hg => ?_⟩
    · rintro e rfl
      exact .inl ⟨reply, .inl (List.mem_append_right _ List.mem_cons_self)⟩
    · change (ringing ++ w.agenda.alarms).length + w.board.cost 2 + w.desk.rings <
        ((time, Alarm.reply r reply) :: ringing ++ w.agenda.alarms).length + w.board.cost 2 +
          w.desk.rings
      simp only [List.length_append, List.length_cons]
      omega
    · exact List.mem_append_left _ (hc hn hg)

theorem Going.rings
    (h : Going p buffer mentions ringing (fun _ => False) (fun _ => False) w) (hc : w.Called) :
    let rung := (ringing.map (·.2)).foldl Workspace.ring w
    Going p buffer mentions [] (fun _ => False) (fun _ => False) rung ∧
      rung.toRing [] + ringing.length ≤ w.toRing ringing ∧ rung.Called := by
  induction ringing generalizing w with
  | nil => exact ⟨h, le_refl _, hc⟩
  | cons entry ringing ih =>
    obtain ⟨hgo, hless, hcalled⟩ := h.ring
    obtain ⟨hgo', hle, hcalled'⟩ := ih hgo (hcalled hc)
    refine ⟨hgo', ?_, hcalled'⟩
    rw [List.length_cons]
    exact (Nat.add_le_add_right hle 1).trans hless

theorem Going.ringAt (h : Going p buffer mentions [] (fun _ => False) (fun _ => False) w)
    (time : ℚ) :
    ∃ ringing, (w.agenda.ringAt time).1 = ringing.map (·.2) ∧
      (∀ first rest, w.agenda.alarms = first :: rest → first.1 ≤ time → ringing ≠ []) ∧
      Going p buffer mentions ringing (fun _ => False) (fun _ => False)
        { w with agenda := (w.agenda.ringAt time).2 } ∧
      toRing ringing { w with agenda := (w.agenda.ringAt time).2 } = w.toRing [] := by
  let now := if w.agenda.now < time then time else w.agenda.now
  let rings (entry : ℚ × Alarm) : Bool := !decide (now < entry.1)
  have hnow : w.agenda.now ≤ now := by
    dsimp only [now]
    split <;> linarith
  have htime : time ≤ now := by
    dsimp only [now]
    split <;> linarith
  have hsplit : w.agenda.alarms.takeWhile rings ++ w.agenda.alarms.dropWhile rings =
      w.agenda.alarms := List.takeWhile_append_dropWhile
  have hin : ∀ e ∈ [] ++ w.agenda.alarms,
      e ∈ w.agenda.alarms.takeWhile rings ++ w.agenda.alarms.dropWhile rings :=
    fun e he => hsplit.symm ▸ he
  refine ⟨w.agenda.alarms.takeWhile rings, rfl, fun first rest hl hle hn => ?_, ?_, ?_⟩
  · rw [hl, List.takeWhile_cons_of_pos] at hn
    · cases hn
    · simp only [rings, Bool.not_eq_true', decide_eq_false_iff_not]
      linarith
  · refine ⟨h.network, h.hosts, h.tracks, h.same, h.attended, h.live.mono fun e he => ?_,
      h.truthful, h.jobs, fun e he => h.alarms e (hsplit ▸ he), h.once, h.finished, ?_,
      fun c hc last hl => (h.prompt c hc last hl).trans hnow, fun e he => ?_, h.callers, h.called⟩
    · refine he.imp_left fun he => deskDue_mono ?_ hin he
      exact fun _ hm => hm
    · have hs := h.sleeps
      rw [List.nil_append, ← hsplit] at hs
      exact hs
    · have hr := List.all_eq_true.mp List.all_takeWhile e he
      simp only [rings, Bool.not_eq_true', decide_eq_false_iff_not] at hr
      exact not_lt.mp hr
  · simp only [toRing, List.nil_append]
    change (w.agenda.alarms.takeWhile rings ++ w.agenda.alarms.dropWhile rings).length + _ + _ = _
    rw [hsplit]

/-! One instant after the other -/

theorem Going.leap (h : Going p buffer mentions [] (fun _ => False) (fun _ => False) w)
    (hc : w.Called) :
    (w.leap? none = none ∧ w.agenda.alarms = []) ∨
    ∃ w', w.leap? none = some w' ∧ Going p buffer mentions [] (fun _ => False) (fun _ => False) w' ∧
      w'.agenda.jobs = [] ∧ w'.toRing [] < w.toRing [] ∧ w'.Called := by
  cases hl : w.agenda.alarms with
  | nil => exact .inl ⟨by simp [leap?, Agenda.nextRing?, hl], rfl⟩
  | cons first rest =>
    obtain ⟨ringing, hr, hne, hgo, hring⟩ := h.ringAt first.1
    obtain ⟨hgo', hle, hcalled⟩ := hgo.rings hc
    obtain ⟨hgo'', hjobs, hring', hcalled'⟩ := hgo'.drain hcalled
    have hpos := List.length_pos_of_ne_nil (hne first rest hl (le_refl _))
    refine .inr ⟨_, ?_, hgo'', hjobs, by omega, hcalled'⟩
    rw [← hr]
    simp [leap?, Agenda.nextRing?, hl]

/-- In the end no caller waits, or no alarm is left. -/
theorem Going.leapWhile {n : Nat}
    (h : Going p buffer mentions [] (fun _ => False) (fun _ => False) w) (hj : w.agenda.jobs = [])
    (hc : w.Called) (hn : w.toRing [] ≤ n) :
    let last := Workspace.leapWhile (fun w => !w.callers.isEmpty) none n w
    Going p buffer mentions [] (fun _ => False) (fun _ => False) last ∧ last.agenda.jobs = [] ∧
      last.Called ∧ (last.callers = [] ∨ last.agenda.alarms = []) := by
  -- jobs may set new alarms, but `toRing` counts those as well and falls with every instant
  induction n generalizing w with
  | zero =>
    refine ⟨h, hj, hc, .inr (List.length_eq_zero_iff.mp ?_)⟩
    rw [toRing, List.nil_append] at hn
    change w.agenda.alarms.length = 0
    omega
  | succ n ih =>
    unfold Workspace.leapWhile
    by_cases hgo : w.callers = []
    · rw [if_neg (by simp [hgo])]
      exact ⟨h, hj, hc, .inl hgo⟩
    · rw [if_pos (by simpa using hgo)]
      rcases h.leap hc with ⟨he, hl⟩ | ⟨w', he, hgo', hj', hless, hc'⟩
      · rw [he]
        exact ⟨h, hj, hc, .inr hl⟩
      · rw [he]
        exact ih hgo' hj' hc' (by omega)

/-- A workspace with nothing to come has answered its callers. -/
theorem Going.at_rest (h : Going p buffer mentions [] (fun _ => False) (fun _ => False) w)
    (hj : w.agenda.jobs = []) (hc : w.Called) (hl : w.callers = [] ∨ w.agenda.alarms = []) :
    w.board.groups = [] ∧ w.callers = [] := by
  -- without jobs and alarms nothing is to come, and a group or a fetch would need something
  have hgroups : w.board.groups = [] := by
    rcases hl with hl | hl
    · rcases h.callers with ⟨-, hn⟩ | hn
      · exact hn
      · rw [hl] at hn
        cases hn
    · have hdesk : w.desk.Live (fun _ => False) none := h.live.mono fun e he => by
        have he := he.resolve_right id
        cases e with
        | fetch r => simp [deskDue, hj] at he
        | limiter r => simp [deskDue, hj] at he
        | sleep r => simp [deskDue, hl] at he
        | reply r => simp [deskDue, hj, hl] at he
      refine Board.Attended.groups_eq_nil h.tracks.steady (h.attended.mono fun e he => ?_)
      have he := he.resolve_right id
      cases e with
      | group id => simp [boardDue, hj] at he
      | slot group slot => simp [boardDue, hj] at he
      | answer group slot =>
        rcases he with ⟨f, hf, hm⟩ | ⟨outcome, hm⟩
        · rw [hdesk.callers_eq_nil f hf] at hm
          cases hm
        · rw [hj] at hm
          cases hm
  refine ⟨hgroups, by_contra fun hn => ?_⟩
  have hm := hc hn hgroups
  rw [hj] at hm
  cases hm

theorem Going.settled (h : Going p buffer mentions [] (fun _ => False) (fun _ => False) w)
    (hc : w.Called) :
    Going p buffer mentions [] (fun _ => False) (fun _ => False) w.settle ∧
      w.settle.board.groups = [] ∧ w.settle.callers = [] := by
  obtain ⟨hgo, hj, -, hcalled⟩ := h.drain hc
  obtain ⟨hgo', hj', hcalled', hl⟩ := hgo.leapWhile hj hcalled hgo.left_le.2
  exact ⟨hgo', hgo'.at_rest hj' hcalled' hl⟩

end CommitMessage.Workspace
