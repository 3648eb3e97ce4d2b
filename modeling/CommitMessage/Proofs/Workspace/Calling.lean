import CommitMessage.Proofs.Workspace.Keeping

/-! Calls in a tended workspace. A call that goes on is told what it waits for, one answer after the
other, and one that is called off or has all its answers ends at its next turn. -/

namespace CommitMessage.Workspace

variable {w w' : Workspace ℚ} {jobs jobs' spent : List Job} {debts : Phase → Prop} {id place : Nat}
  {c : Call}

/-- A job of a call, or one that brings an answer for it. -/
def Job.IsOf (id : Nat) : Job → Prop
  | .call id' | .member id' _ => id' = id
  | .answer a _ => a.IsOf id
  | _ => False

/-- One call has changed, and jobs of that call have come or been spent. -/
theorem Tended.recall (h : w.Tended jobs debts) (id : Nat) (hd : w'.desk = w.desk)
    (hb : w'.board = w.board) (hdistinct : w'.calls.keys.Nodup)
    (hothers : ∀ i, i ≠ id → w'.calls.get? i = w.calls.get? i)
    (hjobs : ∀ job ∈ jobs, job ∈ jobs' ∨ job.IsOf id)
    (hforgets : forgetting jobs' = forgetting jobs)
    (hown : ∀ c, w'.calls.get? id = some c → c.Attended jobs' (w'.WillHear jobs') id) :
    w'.Tended jobs' debts := by
  have hkept {job : Job} (hj : ¬ job.IsOf id) (hm : job ∈ jobs) : job ∈ jobs' :=
    (hjobs job hm).resolve_right hj
  refine ⟨?_, ?_, hb ▸ h.housed, hdistinct, fun i c hc => ?_⟩
  · rw [hd, hforgets]
    exact h.desk.mono fun t => hkept (by cases t <;> exact not_false)
  · rw [hb]
    exact h.board.mono fun i => hkept (show ¬ Job.IsOf id (.group i) from not_false)
  · by_cases hi : i = id
    · subst hi
      exact hown c hc
    · rw [hothers i hi] at hc
      have hother {job : Job} (hj : job.IsOf i) (hm : job ∈ jobs) : job ∈ jobs' := by
        refine hkept (fun hid => hi ?_) hm
        cases job with
        | call n => exact hj.symm.trans hid
        | member n m => exact hj.symm.trans hid
        | answer a o => cases a <;> first | exact hj.elim | exact hj.symm.trans hid
        | _ => exact hj.elim
      refine (h.calls i c hc).mono (hother rfl) (fun place hm => .inl (hother rfl hm))
        fun a ha hw => ?_
      exact hw.mono (fun o => hother (show Job.IsOf i (.answer a o) from ha)) fun hw =>
        .inl (by rwa [hd])

theorem forgetting_of_call {more : List Job} (hm : ∀ job ∈ more, job.IsOf id) :
    forgetting more = [] :=
  List.eq_nil_iff_forall_not_mem.mpr fun _ hr => hm _ (mem_forgetting.mp hr)

/-- One call has changed, and jobs of that call have come and been spent. -/
theorem keeps_recall {more : List Job} (hd : w'.desk = w.desk) (hb : w'.board = w.board)
    (hdistinct : w.calls.keys.Nodup → w'.calls.keys.Nodup)
    (hothers : ∀ i, i ≠ id → w'.calls.get? i = w.calls.get? i)
    (hj : w'.agenda.jobs = w.agenda.jobs ++ more) (hmore : ∀ job ∈ more, job.IsOf id)
    (hspent : ∀ job ∈ spent, job.IsOf id)
    (hown : ∀ {jobs : List Job} {debts : Phase → Prop}, w.Tended (spent ++ jobs) debts →
      ∀ c, w'.calls.get? id = some c → c.Attended (jobs ++ more) (w'.WillHear (jobs ++ more)) id) :
    Keeps spent w w' := by
  refine ⟨more, hj, fun ht => ht.recall id hd hb (hdistinct ht.distinct) hothers
    (fun job hm => ?_) ?_ (hown ht)⟩
  · exact (List.mem_append.mp hm).symm.imp (List.mem_append_left _) (hspent job)
  · rw [forgetting_append, forgetting_append, forgetting_of_call hmore, forgetting_of_call hspent,
      List.append_nil, List.nil_append]

theorem Keeps.before {w₁ : Workspace ℚ} (h : Keeps [] w w₁) (h' : Keeps spent w₁ w') :
    Keeps spent w w' := by
  obtain ⟨more, hjobs, hkeeps⟩ := h
  obtain ⟨more', hjobs', hkeeps'⟩ := h'
  refine ⟨more ++ more', by rw [hjobs', hjobs, List.append_assoc], fun ht => ?_⟩
  rw [← List.append_assoc]
  exact hkeeps' (List.append_assoc _ _ _ ▸ hkeeps ht)

/-- A job that nothing needs. -/
theorem keeps_spent (hspent : ∀ job ∈ spent, job.IsOf id)
    (hown : ∀ {jobs : List Job} {debts : Phase → Prop}, w.Tended (spent ++ jobs) debts →
      ∀ c, w.calls.get? id = some c → c.Attended jobs (w.WillHear jobs) id) : Keeps spent w w :=
  keeps_recall rfl rfl (fun hnd => hnd) (fun _ _ => rfl) (List.append_nil _).symm nofun hspent
    fun ht c hc => by rw [List.append_nil]; exact hown ht c hc

theorem keeps_endCall (w : Workspace ℚ) (id : Nat) (c : Call) (result : CallResult)
    (hspent : ∀ job ∈ spent, job.IsOf id) : Keeps spent w (w.endCall id c result) := by
  refine keeps_recall rfl rfl (fun hnd => Register.nodup_keys_filter hnd _) (fun i hi => ?_)
    (List.append_nil _).symm nofun hspent fun _ c' hc' => ?_
  · exact (Register.get?_erase _ _ _).trans (if_neg hi)
  · have hnone : (w.endCall id c result).calls.get? id = none :=
      (Register.get?_erase _ _ _).trans (if_pos rfl)
    rw [hnone] at hc'
    cases hc'

/-- A call is replaced by one that is attended to. -/
theorem keeps_setCall {more : List Job} {c : Call} (hd : w'.desk = w.desk)
    (hb : w'.board = w.board) (hc : w'.calls = w.calls.set id c)
    (hj : w'.agenda.jobs = w.agenda.jobs ++ more) (hmore : ∀ job ∈ more, job.IsOf id)
    (hspent : ∀ job ∈ spent, job.IsOf id)
    (hown : ∀ {jobs : List Job} {debts : Phase → Prop}, w.Tended (spent ++ jobs) debts →
      c.Attended (jobs ++ more) (w.WillHear (jobs ++ more)) id) : Keeps spent w w' := by
  refine keeps_recall hd hb (fun hnd => hc ▸ Register.nodup_keys_set hnd) (fun i hi => ?_) hj hmore
    hspent fun ht c' hc' => ?_
  · rw [hc, Register.get?_set, if_neg hi]
  · rw [hc, Register.get?_set, if_pos rfl] at hc'
    cases hc'
    refine (hown ht).mono (fun hm => hm) (fun _ hm => .inl hm) fun a _ hw => ?_
    exact hw.mono (fun _ hm => hm) fun hw => .inl (by rwa [hd])

/-! Turns and answers -/

theorem attended_ready {outcome : Outcome} (hs : c.stage = .ready outcome) {more : List Job}
    {awaits : Asker → Prop} (hm : .call id ∈ more) : c.Attended more awaits id := by
  refine ⟨fun he => ?_, fun _ => hm, fun _ he => ?_, fun _ he => ?_⟩
  all_goals
    rw [hs] at he
    cases he

/-- The outcome for one of the names of a call. -/
theorem keeps_memberAnswer (w : Workspace ℚ) (id place : Nat) (outcome : Outcome)
    (hspent : ∀ job ∈ spent, job = .member id place ∨ ∃ o, job = .answer (.member id place) o) :
    Keeps spent w (w.memberAnswer id place outcome) := by
  have hof : ∀ job ∈ spent, job.IsOf id := fun job hm => by
    rcases hspent job hm with rfl | ⟨o, rfl⟩ <;> rfl
  have hcall {jobs : List Job} (hm : .call id ∈ spent ++ jobs) : .call id ∈ jobs := by
    refine (List.mem_append.mp hm).resolve_left fun hm => ?_
    rcases hspent _ hm with he | ⟨o, he⟩ <;> cases he
  have hawaits {jobs : List Job} {a : Asker} (ha : a ≠ .member id place)
      (hw : w.WillHear (spent ++ jobs) a) : w.WillHear jobs a := by
    refine hw.mono (fun o hm => (List.mem_append.mp hm).resolve_left fun hm => ?_) .inl
    rcases hspent _ hm with he | ⟨o', he⟩ <;> cases he
    exact ha rfl
  have hready {c : Call} (hs : c.stage = .ready outcome) :
      Keeps spent w ((w.setCall id c).soon (.call id)) := by
    have hjobs : ((w.setCall id c).soon (.call id)).agenda.jobs = w.agenda.jobs ++ [.call id] := rfl
    exact keeps_setCall rfl rfl rfl hjobs (fun job hm => List.mem_singleton.mp hm ▸ rfl) hof
      fun _ => attended_ready hs (List.mem_append_right _ (List.mem_singleton_self _))
  unfold memberAnswer
  split
  · next c hget =>
    split
    · next names r hwanted hstage =>
      dsimp only
      split
      · next hopen =>
        refine keeps_setCall rfl rfl rfl (List.append_nil _).symm nofun hof
          fun {jobs debts} ht => ?_
        have hc := ht.calls id c hget
        rw [List.append_nil]
        refine ⟨fun hs => by simp [hstage] at hs, fun hs => hcall (hc.turn hs), nofun,
          fun hoff hs names' hn => ?_⟩
        cases hn
        refine ⟨hopen, fun place' e he hnone => ?_⟩
        have hne : place' ≠ place := by
          rintro rfl
          rw [List.getElem?_modify] at he
          obtain ⟨e', -, rfl⟩ := Option.map_eq_some_iff.mp he
          simp at hnone
        have hold : names[place']? = some e := by
          simpa [List.getElem?_modify, Ne.symm hne] using he
        refine ((hc.profiles hoff hs names hwanted).2 place' e hold hnone).imp (fun hm => ?_)
          (hawaits (by simpa using hne))
        refine (List.mem_append.mp hm).resolve_left fun hm => ?_
        rcases hspent _ hm with he | ⟨o, he⟩ <;> cases he
        exact hne rfl
      · exact hready rfl
    · exact hready rfl
    · next hnot _ =>
      refine keeps_spent hof fun {jobs debts} ht c' hc' => ?_
      rw [hget] at hc'
      cases hc'
      have hc := ht.calls id c hget
      refine ⟨hc.fresh, fun hs => hcall (hc.turn hs), fun hoff hs r hr =>
        hawaits nofun (hc.one hoff hs r hr), fun hoff hs names hn => ?_⟩
      exact (hnot names hn hs).elim
  · next hnone =>
    refine keeps_spent hof fun _ c hc => ?_
    rw [hnone] at hc
    cases hc

/-- One of the names of a call has been asked for, and its answer is awaited. -/
theorem keeps_memberAsk (w : Workspace ℚ) (id place : Nat) (pass : Option Text) (r : Reference)
    (hnone : (w.ask (.member id place) pass r).1 = none) :
    Keeps [.member id place] w (w.ask (.member id place) pass r).2 := by
  obtain ⟨⟨more, hjobs, hkeeps⟩, hwaits⟩ := keeps_ask w (.member id place) pass r
  refine ⟨more, hjobs, fun {jobs debts} ht => ?_⟩
  have hasked := hwaits ht hnone
  have htended := hkeeps ht
  have hkept {job : Job} (hne : job ≠ .member id place)
      (hm : job ∈ [.member id place] ++ jobs ++ more) : job ∈ jobs ++ more := by
    rw [List.append_assoc] at hm
    exact (List.mem_append.mp hm).resolve_left fun he => hne (List.mem_singleton.mp he)
  refine htended.recall id rfl rfl htended.distinct (fun _ _ => rfl) (fun job hm => ?_) rfl
    fun c hc => ?_
  · by_cases hj : job = .member id place
    · exact .inr (hj ▸ rfl)
    · exact .inl (hkept hj hm)
  · refine (htended.calls id c hc).mono (hkept nofun) (fun place' hm => ?_) fun a _ hw =>
      hw.mono (fun _ => hkept nofun) .inl
    by_cases hp : place' = place
    · exact .inr (.inl (hp ▸ hasked))
    · exact .inl (hkept (by simpa using hp) hm)

theorem keeps_memberTurn (w : Workspace ℚ) (id place : Nat) :
    Keeps [.member id place] w (w.memberTurn id place) := by
  have hspent : ∀ job ∈ [Job.member id place],
      job = .member id place ∨ ∃ o, job = .answer (.member id place) o :=
    fun job hm => .inl (List.mem_singleton.mp hm)
  have hof : ∀ job ∈ [Job.member id place], job.IsOf id := fun job hm =>
    List.mem_singleton.mp hm ▸ rfl
  -- The turn is not needed if there is no place to be filled.
  have hidle (hno : ∀ c names e, w.calls.get? id = some c → c.calledOff = false →
      c.wanted = .profiles names → names[place]? ≠ some e) : Keeps [.member id place] w w := by
    refine keeps_spent hof fun {jobs debts} ht c hc => ?_
    have hcalls := ht.calls id c hc
    have hkept {job : Job} (hne : job ≠ .member id place) (hm : job ∈ [.member id place] ++ jobs) :
        job ∈ jobs := (List.mem_append.mp hm).resolve_left fun he => hne (List.mem_singleton.mp he)
    have hawaits {a : Asker} (hw : w.WillHear ([.member id place] ++ jobs) a) : w.WillHear jobs a :=
      hw.mono (fun o => hkept (show Job.answer a o ≠ .member id place from nofun)) .inl
    refine ⟨hcalls.fresh, fun hs => hkept nofun (hcalls.turn hs),
      fun hoff hs r hr => hawaits (hcalls.one hoff hs r hr), fun hoff hs names hn => ?_⟩
    obtain ⟨hopen, hplaces⟩ := hcalls.profiles hoff hs names hn
    refine ⟨hopen, fun place' e he hnone => (hplaces place' e he hnone).imp (fun hm => ?_) hawaits⟩
    by_cases hp : place' = place
    · exact absurd (hp ▸ he) (hno c names e hc hoff hn)
    · exact hkept (by simpa using hp) hm
  unfold memberTurn
  split
  · next tag names stage hget =>
    split
    · next name answer hplace =>
      dsimp only
      split
      · exact (keeps_ask w (.member id place) none ⟨.profile, name⟩).1.before
          (keeps_memberAnswer _ id place _ hspent)
      · next hnone => exact keeps_memberAsk w id place none _ hnone
    · next hnone =>
      refine hidle fun c names' e hc _ hn he => ?_
      rw [hget] at hc
      cases hc
      cases hn
      rw [hnone] at he
      cases he
  · next hnot =>
    refine hidle fun c names e hc hoff hn _ => ?_
    obtain ⟨tag, wanted, stage, calledOff⟩ := c
    cases hoff
    cases hn
    exact hnot tag names stage hc

theorem foldl_soon {α : Type} (f : α → Job) (l : List α) (w : Workspace ℚ) :
    l.foldl (fun w a => w.soon (f a)) w = w.withJobs (w.agenda.jobs ++ l.map f) := by
  induction l generalizing w with
  | nil => simp [withJobs]
  | cons a l ih =>
    rw [List.foldl_cons, ih]
    simp [Workspace.soon, Agenda.soon, withJobs]

theorem isOpen_of_none {names : List (Text × Option Resolution)} (hne : names ≠ [])
    (hnone : ∀ e ∈ names, e.2 = none) : isOpen names = true := by
  obtain ⟨e, rest, rfl⟩ := List.exists_cons_of_ne_nil hne
  exact List.any_eq_true.mpr ⟨e, List.mem_cons_self, by rw [hnone e List.mem_cons_self]; rfl⟩

theorem keeps_startCall (w : Workspace ℚ) {id : Nat} {c : Call}
    (hget : w.calls.get? id = some c) (hs : c.stage = .fresh) (hoff : c.calledOff = false) :
    Keeps [.call id] w (w.startCall id c) := by
  have hof : ∀ job ∈ [Job.call id], job.IsOf id := fun job hm => List.mem_singleton.mp hm ▸ rfl
  have hturn {P : Prop} (h : c.calledOff = true ∨ CallStage.waiting ≠ .waiting) : P := by
    simp [hoff] at h
  unfold startCall
  split
  · next r hwanted =>
    obtain ⟨hask, hwaits⟩ := keeps_ask w (.call id) none r
    dsimp only
    split
    · exact hask.before (keeps_endCall _ id c _ hof)
    · next hnone =>
      obtain ⟨more, hjobs, hkeeps⟩ := hask
      refine ⟨more, hjobs, fun {jobs debts} ht => ?_⟩
      have htended := hkeeps ht
      refine htended.recall id rfl rfl (Register.nodup_keys_set htended.distinct) (fun i hi => ?_)
        (fun job hm => ?_) rfl fun c' hc' => ?_
      · exact (Register.get?_set _ _ _ _).trans (if_neg hi)
      · have hm : job ∈ [.call id] ++ (jobs ++ more) := hm
        exact (List.mem_append.mp hm).symm.imp_right (hof job)
      · have hset := (Register.get?_set (w.ask (.call id) none r).2.calls id id
          { c with stage := .waiting }).trans (if_pos rfl)
        obtain rfl := Option.some.inj (hset.symm.trans hc')
        exact ⟨nofun, hturn, fun _ _ _ _ => .inl (hwaits ht hnone),
          fun _ _ names hn => by simp [hwanted] at hn⟩
  · exact keeps_endCall w id c _ hof
  · next names hne hwanted =>
    rw [foldl_soon]
    refine keeps_setCall rfl rfl rfl rfl (fun job hm => ?_) hof fun {jobs debts} ht => ?_
    · obtain ⟨place, -, rfl⟩ := List.mem_map.mp hm
      rfl
    · have hfresh := (ht.calls id c hget).fresh hs names hwanted
      refine ⟨nofun, hturn, fun _ _ r hr => by simp [hwanted] at hr, fun _ _ names' hn => ?_⟩
      obtain rfl : names = names' := Wanted.profiles.inj (hwanted.symm.trans hn)
      refine ⟨isOpen_of_none hne hfresh,
        fun place e he _ => .inl (List.mem_append_right _ ?_)⟩
      obtain ⟨hlt, -⟩ := List.getElem?_eq_some_iff.mp he
      exact List.mem_map_of_mem (List.mem_range.mpr hlt)

theorem keeps_callTurn (w : Workspace ℚ) (id : Nat) : Keeps [.call id] w (w.callTurn id) := by
  have hof : ∀ job ∈ [Job.call id], job.IsOf id := fun job hm => List.mem_singleton.mp hm ▸ rfl
  unfold callTurn
  split
  · next hnone =>
    refine keeps_spent hof fun _ c hc => ?_
    rw [hnone] at hc
    cases hc
  · next c hget =>
    split
    · exact keeps_endCall w id c _ hof
    · next hoff =>
      have hoff : c.calledOff = false := by simpa using hoff
      split
      · next hs => exact keeps_startCall w hget hs hoff
      · next hs =>
        refine keeps_spent hof fun {jobs debts} ht c' hc' => ?_
        rw [hget] at hc'
        cases hc'
        have hcalls := ht.calls id c hget
        have hkept {job : Job} (hne : job ≠ .call id) (hm : job ∈ [.call id] ++ jobs) :
            job ∈ jobs := (List.mem_append.mp hm).resolve_left fun he =>
          hne (List.mem_singleton.mp he)
        have hawaits {a : Asker} (hw : w.WillHear ([.call id] ++ jobs) a) : w.WillHear jobs a :=
          hw.mono (fun o => hkept (show Job.answer a o ≠ .call id from nofun)) .inl
        refine ⟨hcalls.fresh, fun h => by simp [hoff, hs] at h,
          fun hoff hs r hr => hawaits (hcalls.one hoff hs r hr), fun hoff hs names hn => ?_⟩
        obtain ⟨hopen, hplaces⟩ := hcalls.profiles hoff hs names hn
        exact ⟨hopen, fun place e he hnone => (hplaces place e he hnone).imp (hkept nofun) hawaits⟩
      · exact keeps_endCall w id c _ hof

theorem keeps_callAnswer (w : Workspace ℚ) (id : Nat) (outcome : Outcome) :
    Keeps [.answer (.call id) outcome] w (w.callAnswer id outcome) := by
  have hof : ∀ job ∈ [Job.answer (.call id) outcome], job.IsOf id := fun job hm =>
    List.mem_singleton.mp hm ▸ rfl
  unfold callAnswer
  split
  · next c hget =>
    split
    · next hoff =>
      refine keeps_spent hof fun {jobs debts} ht c' hc' => ?_
      rw [hget] at hc'
      cases hc'
      have hcalls := ht.calls id c hget
      have hno {P : Prop} (h : c.calledOff = false) : P := by simp [hoff] at h
      refine ⟨hcalls.fresh, fun hs => ?_, hno, hno⟩
      exact (List.mem_append.mp (hcalls.turn hs)).resolve_left fun hm => by simp at hm
    · exact keeps_endCall w id c _ hof
  · next hnone =>
    refine keeps_spent hof fun _ c hc => ?_
    rw [hnone] at hc
    cases hc

/-- A new call. -/
theorem keeps_call (w : Workspace ℚ) (tag : Text) {wanted : Wanted}
    (hw : ∀ names, wanted = .profiles names → ∀ e ∈ names, e.2 = none) :
    Keeps [] w (w.call tag wanted) := by
  have hjobs : (w.call tag wanted).agenda.jobs = w.agenda.jobs ++ [.call w.nextCall] := rfl
  refine keeps_setCall rfl rfl rfl hjobs (fun job hm => List.mem_singleton.mp hm ▸ rfl) nofun
    fun _ => ⟨fun _ => hw, fun _ => List.mem_append_right _ (List.mem_singleton_self _), nofun,
      nofun⟩

theorem isOf_of_mem {a : Asker} {wanted : Wanted} (ha : a ∈ askersOf id wanted) : a.IsOf id := by
  cases wanted with
  | one r => exact List.mem_singleton.mp ha ▸ rfl
  | profiles names =>
    obtain ⟨place, -, rfl⟩ := List.mem_map.mp ha
    rfl

theorem isOf_unique {a : Asker} {i : Nat} (h : a.IsOf i) (h' : a.IsOf id) : i = id := by
  cases a with
  | slot group slot => exact h.elim
  | _ => exact h.symm.trans h'

theorem keeps_cancel (w : Workspace ℚ) (tag : Text) : Keeps [] w (w.cancel tag).2 := by
  unfold cancel
  split
  · exact .refl w
  · next id c hfind =>
    have hm : (id, c) ∈ w.calls := List.mem_of_find?_eq_some hfind
    dsimp only
    split
    · exact .refl w
    · split
      · next hs =>
        have hjobs {jobs : List Job} {job : Job} (hj : job ∈ jobs) : job ∈ jobs ++ [.call id] :=
          List.mem_append_left _ hj
        refine ⟨[.call id], rfl, fun {jobs debts} ht => ⟨?_, ht.board.mono fun _ => hjobs,
          ht.housed, Register.nodup_keys_set ht.distinct, fun i c' hc' => ?_⟩⟩
        · rw [forgetting_append]
          exact (List.append_nil (forgetting jobs)).symm ▸
            (ht.desk.mono fun _ => hjobs).leaveAll (askersOf id c.wanted)
        · have hset := Register.get?_set w.calls id i { c with calledOff := true }
          replace hc' := hset.symm.trans hc'
          split at hc'
          · next hi =>
            cases hc'
            subst hi
            exact ⟨fun he => by simp [hs] at he, fun _ => List.mem_append_right _ (by simp), by simp,
              by simp⟩
          · next hi =>
            refine (ht.calls i c' hc').mono hjobs (fun place hj => .inl (hjobs hj)) fun a ha hw =>
              hw.mono (fun _ => hjobs) fun hw => .inl (hw.leaveAll fun hask => hi ?_)
            exact isOf_unique ha (isOf_of_mem hask)
      · next hs =>
        refine keeps_setCall rfl rfl rfl (List.append_nil _).symm (by simp) (by simp)
          fun {jobs debts} ht => ?_
        have hcalls := ht.calls id c (Register.get?_of_mem ht.distinct hm)
        rw [List.append_nil]
        exact ⟨hcalls.fresh, fun _ => hcalls.turn (.inr hs), by simp, by simp⟩

end CommitMessage.Workspace
