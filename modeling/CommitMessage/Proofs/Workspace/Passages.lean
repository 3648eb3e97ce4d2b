import CommitMessage.Proofs.Workspace.Members

/-! Calls in the course of time. Every move is a passage: it asks for no name twice, and ends no
call but one that is called off, that has all its answers, or one of whose names could not be
looked up. -/

namespace CommitMessage.Workspace

open Desk (Happening outcomesOf asksOf)

variable {w w' : Workspace ℚ} {p : Plan ℚ} {history hs : List (Happening Asker)}
  {id place : Nat} {c : Call} {outcome : Outcome} {tag : Text} {rest : List Job} {job : Job}

/-! Turns -/

theorem memberTurns_pop (hj : w.agenda.jobs = job :: rest) :
    w.memberTurns = job.member?.toList ++ (w.withJobs rest).memberTurns := by
  rw [memberTurns, hj, List.filterMap_cons]
  cases job.member? <;> rfl

theorem asksOf_asked {a b : Asker} {r : Reference} {how : Desk.Reception} :
    asksOf a [.asked b r how] = if b = a then 1 else 0 := by
  rw [asksOf, List.countP_singleton]
  exact if_congr decide_eq_true_iff rfl rfl

theorem reception_given {r : Reference} {pass : Option Text} {a : Asker} :
    (w.ask a pass r).1 = some outcome →
      w.desk.reception w.agenda.now a pass r = .given outcome := by
  intro h
  have hask : (w.desk.ask w.agenda.now a pass r).1 = some outcome := h
  rw [Desk.reception, hask]

theorem reception_open {r : Reference} {pass : Option Text} {a : Asker}
    (h : (w.ask a pass r).1 = none) :
    w.desk.reception w.agenda.now a pass r = .joined ∨
      w.desk.reception w.agenda.now a pass r = .made := by
  have hask : (w.desk.ask w.agenda.now a pass r).1 = none := h
  rw [Desk.reception, hask]
  dsimp only
  split
  · exact .inl rfl
  · exact .inr rfl

/-- The turn of a name is used for the one question. -/
theorem Ledger.reports_asked (h : Ledger history w)
    (hj : w.agenda.jobs = .member id place :: rest) {stage : CallStage}
    {names : List (Text × Option Resolution)} {e : Text × Option Resolution}
    (hget : w.calls.get? id = some { tag, wanted := .profiles names, stage })
    (he : names[place]? = some e) (how : Desk.Reception) :
    Reports history w id place (.asked (.member id place) ⟨.profile, e.1⟩ how)
      (w.withJobs rest) := by
  have hturns : w.memberTurns = (id, place) :: (w.withJobs rest).memberTurns :=
    memberTurns_pop hj
  refine ⟨rfl, rfl, fun i p => ?_, fun c names' hget' hw => ?_, fun i => ?_, fun i hi y hy => ?_⟩
  · rw [Workspace.due, Workspace.due, hturns, Desk.asksOf_append, asksOf_asked, List.count_cons]
    by_cases hp : (id, place) = (i, p)
    · cases hp
      simp only [if_pos, beq_self_eq_true]
      omega
    · have hne : Asker.member id place ≠ .member i p := fun he => hp (by cases he; rfl)
      rw [if_neg hne]
      omega
  · obtain rfl := Option.some.inj (hget.symm.trans hget')
    obtain rfl := Wanted.profiles.inj hw
    refine ⟨.inr ⟨e, how, he, rfl⟩, fun hs => ?_⟩
    -- a call whose turn is still to come has given no turns to its names
    have hzero := h.tally.fresh id _ hget hs place
    rw [Workspace.due, hturns, List.count_cons_self] at hzero
    omega
  · rw [asksOf_asked, if_neg fun he => by cases he]
  · rw [List.mem_singleton.mp hy]
    exact fun hc => hi hc.symm

theorem Ledger.passage_memberTurn (h : Ledger history w)
    (hj : w.agenda.jobs = .member id place :: rest)
    (hstop : ∀ pass r outcome, (w.ask (.member id place) pass r).1 = some outcome →
      outcome ≠ .stopped) :
    Passage history w (w.doing (.member id place)) ((w.withJobs rest).memberTurn id place) := by
  have hidle : Passage history w [] (w.withJobs rest) := by
    have hdue (i p : Nat) : due (history ++ []) (w.withJobs rest) i p ≤ due history w i p := by
      rw [List.append_nil, Workspace.due, Workspace.due, memberTurns_pop hj, List.count_append]
      omega
    refine passage_same rfl (h.tally.grow rfl (fun i c' hc' => ⟨c', hc', fun hs => hs⟩) hdue
      fun _ _ => rfl) rfl fun i c names hget hw => ?_
    rw [List.append_nil]
    exact h.known i c names hget hw
  unfold Workspace.memberTurn
  split
  · next tag names stage hget =>
    have hget : w.calls.get? id = some { tag, wanted := .profiles names, stage } := hget
    split
    · next name answer hplace =>
      have hdoing : w.doing (.member id place) =
          [.asked (.member id place) ⟨.profile, name⟩ (w.desk.reception w.agenda.now
            (.member id place) none ⟨.profile, name⟩)] := by
        simp [doing, question?, hget, hplace]
      have hreports := (h.reports_asked hj hget hplace (w.desk.reception w.agenda.now
        (.member id place) none ⟨.profile, name⟩)).spared
          (spares_ask (w.withJobs rest) (.member id place) none ⟨.profile, name⟩)
      rw [hdoing]
      dsimp only
      split
      · next o ho =>
        refine hreports.memberAnswer h ?_ (hstop none ⟨.profile, name⟩ o ho)
        rw [reception_given (w := w) ho]
        exact if_pos rfl
      · next hnone =>
        refine hreports.same h fun c names' hget' hw => ?_
        refine (h.known id c names' hget' hw).open (hreports.report c names' hget' hw).1 ?_
        rcases reception_open (w := w) hnone with he | he <;> rw [he] <;> rfl
    · next hplace =>
      have hdoing : w.doing (.member id place) = [] := by simp [doing, question?, hget, hplace]
      rw [hdoing]
      exact hidle
  · next hno =>
    have hdoing : (w.withJobs rest).doing (.member id place) = [] := by
      simp only [doing, question?]
    rw [← doing_withJobs w rest, hdoing]
    exact hidle

/-- A call gives each of its names one turn. -/
theorem Ledger.passage_startProfiles (h : Ledger history w)
    (hget : w.calls.get? id = some c) (hs : c.stage = .fresh) (places : Nat)
    (hc : w'.calls = w.calls.set id { c with stage := .waiting }) (hn : w'.nextCall = w.nextCall)
    (hj : w'.agenda.jobs = w.agenda.jobs ++ (List.range places).map (Job.member id)) :
    Passage history w [] w' := by
  have hset (i : Nat) : w'.calls.get? i =
      if i = id then some { c with stage := .waiting } else w.calls.get? i := by
    rw [hc, Register.get?_set]
  have hturns : w'.memberTurns = w.memberTurns ++ (List.range places).map (id, ·) := by
    rw [memberTurns, hj, List.filterMap_append, List.filterMap_map, memberTurns]
    exact congrArg _ (congrFun List.filterMap_eq_map _)
  have hdue (i p : Nat) : due (history ++ []) w' i p =
      due history w i p + ((List.range places).map (id, ·)).count (i, p) := by
    rw [List.append_nil, due, due, hturns, List.count_append, Nat.add_assoc]
  have hother (i p : Nat) (hi : i ≠ id) :
      ((List.range places).map (id, ·)).count (i, p) = 0 := by
    refine List.count_eq_zero.mpr fun hm => ?_
    obtain ⟨place, -, he⟩ := List.mem_map.mp hm
    exact hi (congrArg Prod.fst he).symm
  have hbound := h.tally.bounded id c hget
  have ht : Tally (history ++ []) w' := by
    refine ⟨fun i c' hc' => ?_, fun i hi => ?_, fun i c' hc' hs' p => ?_, fun i p => ?_⟩
    · rw [hset] at hc'
      rw [hn]
      split at hc'
      · next hi => exact hi ▸ hbound
      · exact h.tally.bounded i c' hc'
    · rw [hn] at hi
      obtain ⟨hcall, hzero⟩ := h.tally.unborn i hi
      refine ⟨by rwa [List.append_nil], fun p => ?_⟩
      rw [hdue, hzero, hother i p (hbound.trans_le hi).ne']
    · rw [hset] at hc'
      split at hc'
      · cases hc'
        cases hs'
      · next hi => rw [hdue, h.tally.fresh i c' hc' hs', hother i p hi]
    · rw [hdue]
      by_cases hi : i = id
      · subst hi
        rw [h.tally.fresh i c hget hs, Nat.zero_add]
        exact List.nodup_iff_count_le_one.mp
          (List.nodup_range.map fun a b he => congrArg Prod.snd he) _
      · rw [hother i p hi]
        exact h.tally.once i p
  refine h.passage_set hget hc ht hn rfl (fun names hw => ⟨names, hw, rfl⟩) 
    (fun _ _ _ hx => absurd hx List.not_mem_nil) fun names' hw' => ?_
  have hknown := h.known id c names' hget hw'
  rw [hs] at hknown
  rw [List.append_nil]
  exact hknown.wait

/-- A call for one reference asks, and is answered at once or waits. -/
theorem Ledger.passage_startOne (h : Ledger history w) {r : Reference}
    (hget : w.calls.get? id = some c) (hw : c.wanted = .one r) (how : Desk.Reception)
    (hspares : SparesCalls w w') :
    Passage history w [.asked (.call id) r how] (w'.setCall id { c with stage := .waiting }) ∧
      ∀ result, Passage history w [.asked (.call id) r how] (w'.endCall id c result) := by
  have hno : ∀ i, i ≠ id → ∀ x ∈ [Happening.asked (.call id) r how], ¬ concerns i x := by
    intro i hi x hx
    rw [List.mem_singleton.mp hx]
    exact fun he => hi he.symm
  have htally {w₁ : Workspace ℚ} (hn : w₁.nextCall = w'.nextCall)
      (ht : w₁.memberTurns = w'.memberTurns) (hcalls : ∀ i c', w₁.calls.get? i = some c' →
        ∃ c, w.calls.get? i = some c ∧ (c'.stage = .fresh → c.stage = .fresh)) :
      Tally (history ++ [.asked (.call id) r how]) w₁ := by
    refine h.tally.grow (hn.trans hspares.nextCall) hcalls (fun i p => ?_) fun i hi => ?_
    · rw [due, due, ht, hspares.turns, Desk.asksOf_append, asksOf_asked,
        if_neg (fun he => by cases he), Nat.add_zero]
    · rw [asksOf_asked, if_neg]
      intro he
      cases he
      exact absurd (h.tally.bounded id c hget) (not_lt.mpr hi)
  have hcalls : (w'.setCall id { c with stage := .waiting }).calls =
      w.calls.set id { c with stage := .waiting } :=
    congrArg (·.set id { c with stage := .waiting }) hspares.calls
  have hnot {P : Prop} (names : List (Text × Option Resolution))
      (hw' : c.wanted = .profiles names) : P := by
    cases hw.symm.trans hw'
  refine ⟨?_, fun result => ?_⟩
  · exact h.passage_set hget hcalls
      (htally rfl rfl (calls_of_set hget hcalls fun hs => by cases hs)) hspares.nextCall rfl
      (fun names hw' => hnot names hw') hno fun names hw' => hnot names hw'
  · exact h.passage_end hget hspares.calls hspares.nextCall (htally rfl rfl fun i c' hc' =>
      ⟨c', hspares.calls ▸ hc', fun hs => hs⟩) hno fun names hw' => hnot names hw'

theorem Ledger.passage_callTurn (h : Ledger history w) (id : Nat) :
    Passage history w (w.doing (.call id)) (w.callTurn id) := by
  have hquiet (hq : w.question? (.call id) = none) (hp : Passage history w [] (w.callTurn id)) :
      Passage history w (w.doing (.call id)) (w.callTurn id) := by
    have hdoing : w.doing (.call id) = [] := by simp [doing, hq]
    rwa [hdoing]
  have hnone (id : Nat) : ∀ x ∈ ([] : List (Happening Asker)), ¬ concerns id x :=
    fun _ hx => absurd hx List.not_mem_nil
  have hsame : Passage history w [] w := h.passage_spared (.refl w) hnone
  have htally : Tally (history ++ []) w := by
    rw [List.append_nil]
    exact h.tally
  cases hc : w.calls.get? id with
  | none => exact hquiet (by simp [question?, hc]) (by simpa [callTurn, hc] using hsame)
  | some c =>
    obtain ⟨tag, wanted, stage, calledOff⟩ := c
    cases calledOff with
    | true =>
      refine hquiet (by simp [question?, hc]) ?_
      rw [callTurn, hc]
      exact h.passage_end hc rfl rfl htally (fun i _ => hnone i)
        fun _ _ => ⟨rfl, fun hf => by cases hf⟩
    | false =>
      cases stage with
      | waiting => exact hquiet (by simp [question?, hc]) (by simpa [callTurn, hc] using hsame)
      | ready outcome =>
        refine hquiet (by simp [question?, hc]) ?_
        rw [callTurn, hc]
        exact h.passage_end hc rfl rfl htally (fun i _ => hnone i)
          fun _ _ => ⟨rfl, fun _ => .inl ⟨outcome, rfl, rfl⟩⟩
      | fresh =>
        cases wanted with
        | profiles names =>
          refine hquiet (by simp [question?, hc]) ?_
          rw [callTurn, hc]
          cases names with
          | nil =>
            exact h.passage_end hc rfl rfl htally (fun i _ => hnone i)
              fun _ _ => ⟨rfl, fun _ => .inr ⟨rfl, rfl⟩⟩
          | cons e names =>
            refine h.passage_startProfiles hc rfl (e :: names).length ?_ ?_ ?_
            all_goals
              simp only [startCall, Bool.false_eq_true, if_false, foldl_soon (Job.member id)]
              rfl
        | one r =>
          have hdoing : w.doing (.call id) =
              [.asked (.call id) r (w.desk.reception w.agenda.now (.call id) none r)] := by
            simp [doing, question?, hc]
          obtain ⟨hwait, hend⟩ := h.passage_startOne hc rfl
            (w.desk.reception w.agenda.now (.call id) none r) (spares_ask w (.call id) none r)
          rw [hdoing, callTurn, hc]
          simp only [startCall, Bool.false_eq_true, if_false]
          split
          · exact hend _
          · exact hwait

/-! Answers and events -/

/-- Nobody is told in the name of a call for profiles. -/
theorem Ledger.passage_callAnswer (h : Ledger history w) (outcome : Outcome)
    (hasked : 0 < asksOf (.call id) history) :
    Passage history w [.told (.call id) outcome] (w.callAnswer id outcome) := by
  have hno : ∀ i, i ≠ id → ∀ x ∈ [Happening.told (.call id) outcome], ¬ concerns i x := by
    intro i hi x hx
    rw [List.mem_singleton.mp hx]
    exact fun he => hi he.symm
  have hnot {P : Prop} (c : Call) (names : List (Text × Option Resolution))
      (hget : w.calls.get? id = some c) (hw : c.wanted = .profiles names) : P := by
    have hsingle := (h.known id c names hget hw).single
    exact absurd hsingle hasked.ne'
  have ht : Tally (history ++ [.told (.call id) outcome]) w := by
    refine h.tally.grow rfl (fun i c' hc' => ⟨c', hc', fun hs => hs⟩) (fun i p => ?_) fun _ _ => rfl
    rw [due, due, Desk.asksOf_append]
    exact le_rfl
  have hsame : Passage history w [.told (.call id) outcome] w := by
    refine passage_same rfl ht rfl fun i c names hget hw => ?_
    by_cases hi : i = id
    · exact hnot c names (hi ▸ hget) hw
    · exact (h.known i c names hget hw).grow (hno i hi)
  unfold callAnswer
  split
  · next c hget =>
    split
    · exact hsame
    · exact h.passage_end hget rfl rfl ht hno fun names hw => hnot c names hget hw
  · exact hsame

/-- A new call. Nobody has been told who has not asked. -/
theorem Ledger.passage_call (h : Ledger history w)
    (htold : ∀ a, (outcomesOf a history).length ≤ asksOf a history) (tag : Text) {wanted : Wanted}
    (hw : ∀ names, wanted = .profiles names → ∀ e ∈ names, e.2 = none) :
    Passage history w [] (w.call tag wanted) := by
  have hset (i : Nat) : (w.call tag wanted).calls.get? i =
      if i = w.nextCall then some { tag, wanted } else w.calls.get? i := Register.get?_set ..
  have hdue (i p : Nat) : due (history ++ []) (w.call tag wanted) i p = due history w i p := by
    have hnone : (Job.call w.nextCall).member? = none := rfl
    rw [List.append_nil, due, due, call, memberTurns_soon, hnone, Option.toList_none,
      List.append_nil]
    rfl
  have hnew := h.tally.unborn w.nextCall le_rfl
  have hne {i : Nat} {c : Call} (hget : w.calls.get? i = some c) : i ≠ w.nextCall :=
    (h.tally.bounded i c hget).ne
  refine ⟨⟨⟨fun i c hget => ?_, fun i hi => ?_, fun i c hget hs p => ?_, fun i p => ?_⟩,
    fun i c names hget hwanted => ?_⟩, Nat.le_succ _, fun i hi hnone => ?_,
    fun i c names hget hwanted => ?_⟩
  · rw [hset] at hget
    split at hget
    · next hi => exact hi ▸ Nat.lt_succ_self _
    · exact Nat.lt_succ_of_lt (h.tally.bounded i c hget)
  · obtain ⟨hcall, hzero⟩ := h.tally.unborn i ((Nat.le_succ _).trans hi)
    exact ⟨by rwa [List.append_nil], fun p => (hdue i p).trans (hzero p)⟩
  · rw [hset] at hget
    rw [hdue]
    split at hget
    · next hi => exact hi ▸ hnew.2 p
    · exact h.tally.fresh i c hget hs p
  · exact (hdue i p).trans_le (h.tally.once i p)
  · rw [List.append_nil]
    rw [hset] at hget
    split at hget
    · next hi =>
      cases hget
      subst hi
      have hasks (p : Nat) : asksOf (.member w.nextCall p) history = 0 :=
        Nat.eq_zero_of_add_eq_zero_right (hnew.2 p)
      refine .new hnew.1 hasks (fun p => ?_) (hw names hwanted)
      exact List.length_eq_zero_iff.mp (Nat.eq_zero_of_le_zero (hasks p ▸ htold _))
    · exact h.known i c names hget hwanted
  · rw [hset, if_neg hi.ne, hnone]
  · exact .goesOn ((hset i).trans ((if_neg (hne hget)).trans hget)) rfl hwanted rfl

theorem Ledger.passage_cancel (h : Ledger history w) (hnd : w.calls.keys.Nodup) (tag : Text) :
    Passage history w [] (w.cancel tag).2 := by
  unfold cancel
  split
  · exact h.passage_spared (.refl w) fun _ => nofun
  · next id c hfind =>
    have hget : w.calls.get? id = some c :=
      Register.get?_of_mem hnd (List.mem_of_find?_eq_some hfind)
    have hset : Passage history w [] (w.setCall id { c with calledOff := true }) := by
      refine h.passage_set hget rfl (h.tally.grow rfl (calls_of_set hget rfl fun hs => hs)
        (fun i p => ?_) fun _ _ => rfl) rfl rfl (fun names hw => ⟨names, hw, rfl⟩)
        (fun _ _ => nofun) fun names hw => ?_
      · rw [List.append_nil]
        exact le_rfl
      · rw [List.append_nil]
        exact h.known id c names hget hw
    dsimp only
    split
    · exact h.passage_spared (.refl w) fun _ => nofun
    · split
      · have hdesk (desk : Desk ℚ Asker) : SparesCalls (w.setCall id { c with calledOff := true })
            { w.setCall id { c with calledOff := true } with desk } := ⟨rfl, rfl, rfl⟩
        exact hset.after ((hdesk _).trans (spares_soon _ rfl)) rfl
      · exact hset

/-! Moves -/

/-- What happens in other jobs is of no concern to calls. -/
theorem doing_aside (hj : ¬ job.IsOfCalls) (id : Nat) : ∀ x ∈ w.doing job, ¬ concerns id x := by
  have hrequesting (signals : List (Desk.Signal ℚ Asker)) :
      ∀ x ∈ signals.flatMap w.requesting, ¬ concerns id x := by
    intro x hx
    obtain ⟨s, -, hs⟩ := List.mem_flatMap.mp hx
    cases s with
    | request r url =>
      simp only [requesting, List.mem_cons] at hs
      rcases hs with rfl | hs
      · exact not_false
      · split at hs
        · rw [List.mem_singleton.mp hs]
          exact not_false
        · cases hs
    | _ => cases hs
  intro x hx
  cases job with
  | fetch r => exact hrequesting _ x hx
  | limiter r => exact hrequesting _ x hx
  | reply r reply =>
    rw [List.mem_singleton.mp hx]
    exact not_false
  | answer a outcome =>
    rw [List.mem_singleton.mp hx]
    exact fun hc => hj ⟨id, hc⟩
  | slot group slot =>
    simp only [doing, question?] at hx
    split at hx
    · next asker pass r hq =>
      split at hq
      · cases hq
        rw [List.mem_singleton.mp hx]
        exact not_false
      · cases hq
    · cases hx
  | call i => exact absurd ⟨i, rfl⟩ hj
  | member i place => exact absurd ⟨i, rfl⟩ hj
  | _ => cases hx

theorem Faithful.asked (hf : Faithful p history w) {a : Asker}
    (hj : .answer a outcome ∈ w.agenda.jobs) : 0 < asksOf a history := by
  have hm : (a, outcome) ∈ w.traffic.answers := List.mem_filterMap.mpr ⟨_, hj, rfl⟩
  obtain ⟨r, how, reply, time, before, between, after, he, -⟩ := hf.accounts.answers a outcome hm
  have hasked : .asked a r how ∈ history := by
    rw [he]
    exact List.mem_append_left _ (List.mem_append_right _ List.mem_cons_self)
  exact Desk.asksOf_pos hasked

theorem Ledger.passage_perform (h : Ledger history w) (hf : Faithful p history w)
    (hj : w.agenda.jobs = job :: rest) :
    Passage history w (w.doing job) ((w.withJobs rest).perform job) := by
  have hpop (hm : job.member? = none) : SparesCalls w (w.withJobs rest) := by
    have hturns := memberTurns_pop hj
    rw [hm] at hturns
    exact ⟨rfl, rfl, hturns.symm⟩
  by_cases hc : job.IsOfCalls
  · cases job with
    | call id =>
      have hturn := (h.spared (hpop rfl)).passage_callTurn id
      rw [doing_withJobs] at hturn
      exact hturn.before (hpop rfl) rfl
    | member id place =>
      exact h.passage_memberTurn hj fun pass r o ho => hf.ask_not_stopped ho
    | answer a outcome =>
      have hasked := hf.asked (a := a) (hj ▸ List.mem_cons_self)
      cases a with
      | slot group slot =>
        obtain ⟨_, hi⟩ := hc
        exact False.elim hi
      | call id =>
        exact ((h.spared (hpop rfl)).passage_callAnswer outcome hasked).before (hpop rfl) rfl
      | member id place =>
        have hreports : Reports history w id place (.told (.member id place) outcome)
            (w.withJobs rest) := by
          refine ⟨rfl, rfl, fun i p => ?_,
            fun c names hget _ => ⟨.inl ⟨outcome, rfl⟩, fun hs => ?_⟩, fun _ => rfl,
            fun i hi x hx => ?_⟩
          · rw [due, due, (hpop rfl).turns, Desk.asksOf_append]
            exact le_rfl
          · have hzero := h.tally.fresh id c hget hs place
            rw [due] at hzero
            omega
          · rw [List.mem_singleton.mp hx]
            exact fun he => hi he.symm
        have hm : (Asker.member id place, outcome) ∈ w.traffic.answers :=
          List.mem_filterMap.mpr ⟨_, hj ▸ List.mem_cons_self, rfl⟩
        exact hreports.memberAnswer h (if_pos rfl) (hf.not_stopped hm)
    | _ =>
      obtain ⟨_, hi⟩ := hc
      exact False.elim hi
  · have hm : job.member? = none := by
      cases job with
      | member id place => exact absurd ⟨id, rfl⟩ hc
      | _ => rfl
    exact h.passage_spared ((hpop hm).trans (spares_perform _ hc)) fun id => doing_aside hc id

theorem Ledger.passage_work (h : Ledger history w) (hf : Faithful p history w) :
    Passage history w (w.happenings (.event .work)) w.work := by
  unfold work Agenda.nextJob? happenings
  cases hj : w.agenda.jobs with
  | nil => exact h.passage_spared (.refl w) fun _ => nofun
  | cons job rest =>
    have hrecord (w : Workspace ℚ) : w.callCallers.record = w.record :=
      callCallers_rec (C := fun w' => w'.record = w.record) rfl fun _ _ hr => hr
    exact (h.passage_perform hf hj).after (spares_callCallers _) (hrecord _)

theorem Ledger.passage_move (h : Ledger history w) (hf : Faithful p history w)
    (hnd : w.calls.keys.Nodup) (htold : ∀ a, (outcomesOf a history).length ≤ asksOf a history)
    {m : Move} (hm : m.IsFine) : Passage history w (w.happenings m) (w.move m) := by
  have hquiet (hc : SparesCalls w (w.move m)) (hno : w.happenings m = [] ∨
      w.happenings m = [.thinned]) : Passage history w (w.happenings m) (w.move m) := by
    refine h.passage_spared hc fun id x hx => ?_
    rcases hno with he | he
    · rw [he] at hx
      cases hx
    · rw [he] at hx
      rw [List.mem_singleton.mp hx]
      exact not_false
  cases m with
  | ring =>
    refine hquiet ?_ (.inl rfl)
    unfold move
    dsimp only
    split
    · exact .refl w
    · next alarm alarms _ =>
      have hpop : SparesCalls w { w with agenda := { w.agenda with alarms } } := ⟨rfl, rfl, rfl⟩
      exact hpop.trans (spares_ring _ alarm.2)
  | wait time =>
    refine hquiet ?_ (.inl rfl)
    unfold move
    dsimp only
    split
    · exact ⟨rfl, rfl, rfl⟩
    · exact .refl w
  | event e =>
    cases e with
    | work => exact h.passage_work hf
    | resolve tag r => exact h.passage_call htold tag fun _ hw => nomatch hw
    | resolveProfiles tag names =>
      refine h.passage_call htold tag fun names' hw e he => ?_
      obtain rfl := Wanted.profiles.inj hw
      obtain ⟨name, -, rfl⟩ := List.mem_map.mp he
      rfl
    | cancel tag => exact h.passage_cancel hnd tag
    | dispose => exact hm.elim
    | advance dt => exact hm.elim
    | sweep => exact hquiet (spares_step w (e := .sweep) trivial) (.inr rfl)
    | clear => exact hquiet (spares_step w (e := .clear) trivial) (.inr rfl)
    | runPass buffer text => exact hquiet (spares_runPass w buffer text) (.inl rfl)
    | attach buffer path text => exact hquiet (spares_attach w buffer path text) (.inl rfl)
    | notify buffer text => exact hquiet (spares_notify w buffer text) (.inl rfl)
    | flush buffer => exact hquiet (spares_flush w buffer) (.inl rfl)
    | settle buffer => exact hquiet (spares_start w _) (.inl rfl)
    | detach buffer => exact hquiet (spares_step w (e := .detach buffer) trivial) (.inl rfl)
    | shutdown => exact hquiet (spares_step w (e := .shutdown) trivial) (.inl rfl)
    | annotate buffer text =>
      exact hquiet (spares_step w (e := .annotate buffer text) trivial) (.inl rfl)
    | respond url delivery =>
      exact hquiet (spares_step w (e := .respond url delivery) trivial) (.inl rfl)

end CommitMessage.Workspace
