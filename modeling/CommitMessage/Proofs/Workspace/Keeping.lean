import CommitMessage.Proofs.Workspace.Tended
import CommitMessage.Proofs.Workspace.SingleFlight

/-! Boards and calls in a tended workspace. Groups and calls that are called off end at their next
turns, and the others are told what they wait for. -/

namespace CommitMessage.Workspace

variable {w w' : Workspace ℚ} {jobs spent : List Job} {debts debts' : Phase → Prop} {b b' : Board}
  {buffer : Text}

/-! Groups on their sheets -/

theorem Housed.mono (h : Housed debts b)
    (hd : ∀ sheet, debts (.callOffSheet sheet) → debts' (.callOffSheet sheet)) :
    Housed debts' b := by
  intro g hg
  exact (h g hg).imp_right fun hh => hh.imp_right (hd g.sheet)

theorem Housed.follows (h : Housed debts b) (hf : Board.Follows b b') : Housed debts b' := by
  intro g' hg'
  obtain ⟨g, hg, -, hs, hc⟩ := hf.groups g' hg'
  rw [hs]
  rcases h g hg with hoff | ⟨buffer, s, hsheet, he⟩ | hd
  · exact .inl (hc hoff)
  · obtain ⟨s', hs', he'⟩ := hf.serial hsheet
    exact .inr (.inl ⟨buffer, s', hs', he'.trans he⟩)
  · exact .inr (.inr hd)

theorem Housed.startPass (h : Housed debts b) (buffer : Text) (mentions : List Mention) :
    Housed debts (b.startPass buffer mentions).2.1 := by
  rw [Board.startPass_eq]
  have hnew : (b.sheets.set buffer (b.sheetAfter buffer mentions)).get? buffer =
      some (b.sheetAfter buffer mentions) := by simp
  intro g hg
  rcases List.mem_append.mp hg with hg | hg
  · refine (h g hg).imp_right (Or.imp_left ?_)
    rintro ⟨other, s, hs, he⟩
    by_cases hb : other = buffer
    · subst hb
      refine ⟨other, _, hnew, Eq.trans ?_ he⟩
      simp [Board.sheetAfter, Board.sheetFor, hs]
    · exact ⟨other, s, by simp [hb, hs], he⟩
  · exact .inr (.inl ⟨buffer, _, hnew, (Board.isNew_of_mem hg).sheet.symm⟩)

/-- The groups of a sheet that is dropped are to be called off. -/
theorem Housed.drop (h : Housed debts b) {s : Board.Sheet} (hs : b.sheets.get? buffer = some s) :
    Housed (fun p => p = .callOffSheet s.serial ∨ debts p) (b.drop buffer) := by
  intro g hg
  refine (h g hg).imp_right ?_
  rintro (⟨other, s', hs', he⟩ | hd)
  · by_cases hb : other = buffer
    · subst hb
      rw [hs] at hs'
      cases hs'
      exact .inr (.inl (by rw [he]))
    · exact .inl ⟨other, s', by simp [Board.drop, hb, hs'], he⟩
  · exact .inr (.inr hd)

theorem Housed.dropAll (h : Housed debts b) :
    Housed (fun p => p ∈ b.sheets.map (fun entry => .callOffSheet entry.2.serial) ∨ debts p)
      { b with sheets := [] } := by
  intro g hg
  refine (h g hg).imp_right ?_
  rintro (⟨buffer, s, hs, he⟩ | hd)
  · exact .inr (.inl (List.mem_map.mpr ⟨_, Register.mem_of_get? hs, by rw [he]⟩))
  · exact .inr (.inr hd)

theorem Housed.callOffSheet {sheet : Nat} {due : Nat → Prop} (hb : b.Ending due)
    (h : Housed (fun p => p = .callOffSheet sheet ∨ debts p) b) :
    Housed debts (b.callOffSheet sheet).1 := by
  obtain ⟨-, hfollows, hoff⟩ := hb.callOffSheet sheet
  intro g hg
  by_cases hs : g.sheet = sheet
  · exact .inl (hoff g hg hs)
  · refine (h.follows hfollows g hg).imp_right (Or.imp_right ?_)
    rintro (he | hd)
    · cases he
      exact absurd rfl hs
    · exact hd

/-! What a board asks for -/

/-- What the signals of a board do to all else: slots that give up leave the desk. -/
theorem applyBoard_frame (w : Workspace ℚ) (change : Board × List Board.Signal) :
    ∃ (askers : List Asker) (agenda : Agenda ℚ Alarm Job) (record : List (Entry ℚ)),
      (∀ a ∈ askers, ∃ id slot, a = Asker.slot id slot) ∧ w.applyBoard change = { w with
        board := change.1, desk := askers.foldl Desk.leave w.desk, agenda, record } ∧
      agenda.now = w.agenda.now ∧
      agenda.jobs = w.agenda.jobs ++ change.2.filterMap boardJob? ∧ w.record <:+ record := by
  obtain ⟨b, signals⟩ := change
  have hhand (w : Workspace ℚ) (pass : Option Text) (c : Board.Commit) :
      ∃ record, w.handOver pass c = { w with record } ∧ w.record <:+ record := by
    unfold handOver
    split
    · exact ⟨w.record, rfl, List.suffix_refl _⟩
    · dsimp only
      split
      · exact ⟨_, rfl, (List.suffix_cons _ _).trans (List.suffix_cons _ _)⟩
      · exact ⟨_, rfl, List.suffix_cons _ _⟩
  have hone (x : Board.Signal) (w : Workspace ℚ) :
      ∃ (askers : List Asker) (agenda : Agenda ℚ Alarm Job) (record : List (Entry ℚ)),
      (∀ a ∈ askers, ∃ id slot, a = Asker.slot id slot) ∧ w.boardSignal x =
        { w with desk := askers.foldl Desk.leave w.desk, agenda, record } ∧
      agenda.now = w.agenda.now ∧ agenda.jobs = w.agenda.jobs ++ (boardJob? x).toList ∧
      w.record <:+ record := by
    have hsame := List.suffix_refl w.record
    cases x with
    | groupTurn id => exact ⟨[], _, _, nofun, rfl, rfl, rfl, hsame⟩
    | slotTurn id slot => exact ⟨[], _, _, nofun, rfl, rfl, rfl, hsame⟩
    | ask id slot pass r => exact ⟨[], _, _, nofun, rfl, rfl, (List.append_nil _).symm, hsame⟩
    | withdraw id slot =>
      exact ⟨[.slot id slot], _, _, fun a ha => ⟨id, slot, List.mem_singleton.mp ha⟩, rfl, rfl,
        (List.append_nil _).symm, hsame⟩
    | commit pass c =>
      obtain ⟨record, he, hrecord⟩ := hhand w pass c
      exact ⟨[], _, record, nofun, he, rfl, (List.append_nil _).symm, hrecord⟩
    | note e =>
      exact ⟨[], _, _, nofun, rfl, rfl, (List.append_nil _).symm, List.suffix_cons _ _⟩
    | ended id => exact ⟨[], _, _, nofun, rfl, rfl, (List.append_nil _).symm, hsame⟩
  have hall (w : Workspace ℚ) :
      ∃ (askers : List Asker) (agenda : Agenda ℚ Alarm Job) (record : List (Entry ℚ)),
      (∀ a ∈ askers, ∃ id slot, a = Asker.slot id slot) ∧ signals.foldl boardSignal w =
        { w with desk := askers.foldl Desk.leave w.desk, agenda, record } ∧
      agenda.now = w.agenda.now ∧
      agenda.jobs = w.agenda.jobs ++ signals.filterMap boardJob? ∧ w.record <:+ record := by
    induction signals generalizing w with
    | nil => exact ⟨[], _, _, nofun, rfl, rfl, (List.append_nil _).symm, List.suffix_refl _⟩
    | cons x signals ih =>
      obtain ⟨askers, agenda, record, hslots, he, hnow, hjobs, hrecord⟩ := hone x w
      obtain ⟨askers', agenda', record', hslots', he', hnow', hjobs', hrecord'⟩ :=
        ih (w.boardSignal x)
      refine ⟨askers ++ askers', agenda', record', fun a ha => ?_, ?_, ?_, ?_, ?_⟩
      · exact (List.mem_append.mp ha).elim (hslots a) (hslots' a)
      · rw [List.foldl_cons, he', he, List.foldl_append]
      · rw [hnow', he, hnow]
      · rw [hjobs', he, hjobs, List.append_assoc]
        cases hx : boardJob? x <;> simp [hx]
      · rw [he] at hrecord'
        exact hrecord.trans hrecord'
  exact hall { w with board := b }

theorem keeps_applyBoard {change : Board × List Board.Signal}
    (hspent : ∀ job ∈ spent, ∃ id, job = .group id)
    (hend : ∀ {due : Nat → Prop}, (w.board.Ending fun i => due i ∨ .group i ∈ spent) →
      change.1.Ending fun i => due i ∨ .groupTurn i ∈ change.2)
    (hhoused : ∀ {debts : Phase → Prop}, Housed debts w.board → Housed debts change.1) :
    Keeps spent w (w.applyBoard change) := by
  obtain ⟨askers, agenda, record, hslots, he, -, hjobs, -⟩ := applyBoard_frame w change
  rw [he]
  refine ⟨_, hjobs, fun {jobs debts} ht => ?_⟩
  have hkept {job : Job} (hj : ∀ id, job ≠ .group id) (hm : job ∈ spent ++ jobs) :
      job ∈ jobs ++ change.2.filterMap boardJob? := by
    rcases List.mem_append.mp hm with hm | hm
    · obtain ⟨id, rfl⟩ := hspent job hm
      exact absurd rfl (hj id)
    · exact List.mem_append_left _ hm
  have hforgets : forgetting (jobs ++ change.2.filterMap boardJob?) =
      forgetting (spent ++ jobs) := by
    have hnone : forgetting spent = [] := List.eq_nil_iff_forall_not_mem.mpr fun r hr => by
      obtain ⟨id, he⟩ := hspent _ (mem_forgetting.mp hr)
      cases he
    rw [forgetting_append, forgetting_append, forgetting_boardJobs, hnone, List.append_nil,
      List.nil_append]
  refine ⟨?_, ?_, hhoused ht.housed, ht.distinct, fun id c hc => ?_⟩
  · rw [hforgets]
    exact (ht.desk.mono fun t => hkept (by cases t <;> simp [turnJob])).leaveAll askers
  · have hboard : w.board.Ending fun i => .group i ∈ jobs ∨ .group i ∈ spent :=
      ht.board.mono fun i hm => (List.mem_append.mp hm).symm
    refine (hend hboard).mono fun i hd => List.mem_append.mpr (hd.imp_right fun hm => ?_)
    exact List.mem_filterMap.mpr ⟨_, hm, rfl⟩
  · refine (ht.calls id c hc).mono (hkept nofun) (fun place hm => .inl (hkept nofun hm))
      fun a ha hw => hw.mono (fun outcome => hkept nofun) fun hw => .inl ?_
    refine hw.leaveAll fun hm => ?_
    obtain ⟨i, slot, rfl⟩ := hslots a hm
    exact ha

theorem keeps_groupTurn (w : Workspace ℚ) (id : Nat) :
    Keeps [.group id] w (w.applyBoard (w.board.groupTurn id)) := by
  obtain ⟨hfollows, hend⟩ := Board.ending_groupTurn w.board id
  refine keeps_applyBoard (fun job hm => ⟨id, List.mem_singleton.mp hm⟩) (fun hb => ?_)
    fun h => h.follows hfollows
  have hturn := hend (hb.mono fun i hd => hd.imp_right fun hm => by simpa using hm)
  exact hturn.mono fun i => .inl

theorem keeps_boardAnswer (w : Workspace ℚ) (id slot : Nat) (outcome : Outcome) :
    Keeps [] w (w.applyBoard (w.board.answer id slot outcome)) := by
  obtain ⟨hfollows, hend⟩ := Board.ending_answer w.board id slot outcome
  exact keeps_applyBoard (fun _ hm => nomatch hm)
    (fun hb => hend (hb.mono fun i hd => hd.resolve_right List.not_mem_nil))
    fun h => h.follows hfollows

/-- The turn of a slot that asks. -/
theorem keeps_slotTurn (w : Workspace ℚ) (id slot : Nat) : Keeps [] w (w.slotTurn id slot) := by
  obtain ⟨hfollows, hend⟩ := Board.ending_slotTurn w.board id slot
  have hboard : Keeps [] w { w with board := (w.board.slotTurn id slot).1 } :=
    ⟨[], (List.append_nil _).symm, fun {jobs debts} ht => by
      rw [List.append_nil]
      exact ⟨ht.desk, hend ht.board, ht.housed.follows hfollows, ht.distinct, ht.calls⟩⟩
  unfold Workspace.slotTurn
  dsimp only
  split
  · next group i pass r _ =>
    have hask := hboard.trans (keeps_ask _ (.slot group i) (some pass) r).1
    split
    · exact hask.trans (keeps_boardAnswer _ _ _ _)
    · exact hask
  · exact hboard

theorem keeps_runPass (w : Workspace ℚ) (buffer text : Text) :
    Keeps [] w (w.runPass buffer text).2 := by
  let noted : Workspace ℚ := { w with texts := w.texts.set buffer text }
  have hnoted : Keeps [] w noted := keeps_same rfl rfl rfl rfl
  let change := (w.board.startPass buffer
    ((Occurrence.ofLines text.messageLines).map Occurrence.mention)).2
  have hpass : Keeps [] noted (noted.applyBoard change) :=
    keeps_applyBoard (fun _ hm => nomatch hm)
      (fun hb => (hb.mono fun i hd => hd.resolve_right List.not_mem_nil).startPass buffer _)
      fun h => h.startPass buffer _
  have hboard := hnoted.trans hpass
  obtain ⟨w', h, he⟩ := runPass_rec (C := Keeps [] w) w buffer text hboard
    (fun w' _ h => h.trans (keeps_same rfl rfl rfl rfl))
    fun w' _ h => h.trans (keeps_same rfl rfl rfl rfl)
  rw [he]
  exact h.trans (keeps_same rfl rfl rfl rfl)

theorem keeps_runLatest (w : Workspace ℚ) (buffer : Text) : Keeps [] w (w.runLatest buffer) := by
  unfold runLatest
  split
  · exact keeps_runPass w buffer _
  · exact .refl w

theorem keeps_withDebouncer (w : Workspace ℚ) (id : Nat)
    (change : Debouncer ℚ → Debouncer ℚ × List (Debouncer.Signal ℚ)) :
    Keeps [] w (w.withDebouncer id change) := by
  have hone (buffer : Text) (w : Workspace ℚ) (s : Debouncer.Signal ℚ) :
      Keeps [] w (debouncerSignal id buffer w s) := by
    cases s with
    | turn timer => exact keeps_soon w nofun
    | sleep timer delay => exact keeps_same rfl rfl rfl rfl
    | run timer =>
      have hrun := keeps_runLatest w buffer
      simp only [debouncerSignal]
      split
      · exact hrun.trans (keeps_same rfl rfl rfl rfl)
      · exact hrun
    | ended timer => exact .refl w
  unfold withDebouncer
  split
  · next buffer d _ =>
    have hset : Keeps [] w { w with debouncers := w.debouncers.set id (buffer, (change d).1) } :=
      keeps_same rfl rfl rfl rfl
    exact hset.trans (keeps_foldl _ (hone buffer) _ _)
  · exact .refl w

end CommitMessage.Workspace
