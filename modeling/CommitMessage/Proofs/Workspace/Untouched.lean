import CommitMessage.Proofs.Board.Untouched
import CommitMessage.Proofs.Workspace.Elsewhere
import CommitMessage.Proofs.Workspace.Leaving
import CommitMessage.Proofs.Workspace.Tending

/-! What leaves a buffer of a workspace alone: passes and changes of other buffers, lookups, and
callers who wait for something else. -/

namespace CommitMessage.Workspace

variable {w w' w'' : Workspace ℚ} {buffer other : Text} {key id : Nat} {d : Debouncer ℚ}

def Alarm.isFor (key : Nat) : Alarm → Bool
  | .timer key' _ => key' == key
  | _ => false

/-- A buffer has its pass, its lines, its groups and its timers as before, and nothing has been
published or committed for it. -/
structure Untouched (buffer : Text) (w w' : Workspace ℚ) : Prop where
  sheet : w'.board.sheets.get? buffer = w.board.sheets.get? buffer
  groups : w'.board.groupsFor buffer = w.board.groupsFor buffer
  text : w'.texts.get? buffer = w.texts.get? buffer
  latest : w'.latest.get? buffer = w.latest.get? buffer
  debouncer : w'.debouncerOf.get? buffer = w.debouncerOf.get? buffer
  debouncers : ∀ key d, w'.debouncers.get? key = some (buffer, d) ↔
    w.debouncers.get? key = some (buffer, d)
  alarms : ∀ key d, w.debouncers.get? key = some (buffer, d) →
    w'.agenda.alarms.filter (·.2.isFor key) = w.agenda.alarms.filter (·.2.isFor key)
  record : w'.record.filter (Entry.isAbout buffer) = w.record.filter (Entry.isAbout buffer)

theorem Untouched.refl (buffer : Text) (w : Workspace ℚ) : Untouched buffer w w :=
  ⟨rfl, rfl, rfl, rfl, rfl, fun _ _ => Iff.rfl, fun _ _ _ => rfl, rfl⟩

theorem Untouched.trans (h : Untouched buffer w w') (h' : Untouched buffer w' w'') :
    Untouched buffer w w'' :=
  ⟨h'.sheet.trans h.sheet, h'.groups.trans h.groups, h'.text.trans h.text,
    h'.latest.trans h.latest, h'.debouncer.trans h.debouncer,
    fun key d => (h'.debouncers key d).trans (h.debouncers key d),
    fun key d hget => (h'.alarms key d ((h.debouncers key d).mpr hget)).trans (h.alarms key d hget),
    h'.record.trans h.record⟩

/-- The debouncer was not made for the buffer. -/
def IsOthersTimer (w : Workspace ℚ) (buffer : Text) (key : Nat) : Prop :=
  ∀ d, w.debouncers.get? key ≠ some (buffer, d)

theorem Untouched.isOthersTimer (h : Untouched buffer w w') (hk : w.IsOthersTimer buffer key) :
    w'.IsOthersTimer buffer key := fun d hget => hk d ((h.debouncers key d).mp hget)

theorem Untouched.isOthers (h : Untouched buffer w w') (ho : w.board.IsOthers buffer id) :
    w'.board.IsOthers buffer id :=
  ho.of_groupsFor h.groups

theorem Elsewhere.untouched (h : Elsewhere w w') (buffer : Text) : Untouched buffer w w' := by
  refine ⟨by rw [h.board], by rw [h.board], by rw [h.texts], by rw [h.latest],
    by rw [h.debouncerOf], fun key d => by rw [h.debouncers], fun key d _ => ?_, h.record buffer⟩
  have htimers (alarms : List (ℚ × Alarm)) :
      alarms.filter (·.2.isFor key) = (alarms.filter (·.2.isTimer)).filter (·.2.isFor key) := by
    rw [List.filter_filter]
    refine List.filter_congr fun entry _ => ?_
    obtain ⟨time, alarm⟩ := entry
    cases alarm <;> simp [Alarm.isFor, Alarm.isTimer]
  rw [htimers, h.alarms, ← htimers]

theorem untouched_note (w : Workspace ℚ) {e : Entry ℚ} (he : e.isAbout buffer = false) :
    Untouched buffer w (w.note e) :=
  ⟨rfl, rfl, rfl, rfl, rfl, fun _ _ => Iff.rfl, fun _ _ _ => rfl,
    List.filter_cons_of_neg (by simp [he])⟩

/-! Boards -/

theorem untouched_handOver (w : Workspace ℚ) (pass : Option Text) {c : Board.Commit}
    (hc : c.buffer ≠ buffer) : Untouched buffer w (w.handOver pass c) := by
  have hnote : Untouched buffer w (w.note (.committed c)) :=
    untouched_note w (by simpa [Entry.isAbout] using hc)
  unfold handOver
  split
  · exact .refl buffer w
  · dsimp only
    split
    · exact hnote.trans (untouched_note _ rfl)
    · exact hnote

theorem untouched_applyBoard {change : Board × List Board.Signal}
    (h : Board.Untouched buffer w.board change) : Untouched buffer w (w.applyBoard change) := by
  have hboard : Untouched buffer w { w with board := change.1 } :=
    ⟨h.sheet, h.groups, rfl, rfl, rfl, fun _ _ => Iff.rfl, fun _ _ _ => rfl, rfl⟩
  refine List.foldlRecOn (motive := Untouched buffer w) change.2 boardSignal hboard
    fun w' h' x hx => h'.trans ?_
  cases x with
  | groupTurn id => exact (elsewhere_soon w' _).untouched buffer
  | slotTurn id slot => exact (elsewhere_soon w' _).untouched buffer
  | ask id slot pass r => exact .refl buffer w'
  | withdraw id slot => exact (elsewhere_desk w' _).untouched buffer
  | commit pass c => exact untouched_handOver w' pass (h.commits pass c hx)
  | note e => exact untouched_note w' rfl
  | ended id => exact .refl buffer w'

/-! Nothing is asked of the buffer -/

/-- A turn of a timer or a group of others. -/
def Job.IsOthersTurn (buffer : Text) (w : Workspace ℚ) : Job → Prop
  | .timer key _ => w.IsOthersTimer buffer key
  | .group id => w.board.IsOthers buffer id
  | _ => False

/-- A buffer has been left alone, and is not to have a turn because of it. -/
structure Aside (buffer : Text) (w w' : Workspace ℚ) : Prop extends Untouched buffer w w' where
  nextGroup_le : w.board.nextGroup ≤ w'.board.nextGroup
  jobs : ∃ more, w'.agenda.jobs = w.agenda.jobs ++ more ∧
    ∀ job ∈ more, job.IsOthersTurn buffer w'

theorem Untouched.isOthersTurn (h : Untouched buffer w w') {job : Job}
    (hj : job.IsOthersTurn buffer w) : job.IsOthersTurn buffer w' := by
  cases job with
  | timer key timer => exact h.isOthersTimer hj
  | group id => exact h.isOthers hj
  | _ => exact hj.elim

theorem Untouched.aside (h : Untouched buffer w w') (hn : w'.board.nextGroup = w.board.nextGroup)
    (hj : w'.agenda.jobs = w.agenda.jobs) : Aside buffer w w' :=
  ⟨h, hn.ge, [], by rw [hj, List.append_nil], nofun⟩

theorem Aside.refl (buffer : Text) (w : Workspace ℚ) : Aside buffer w w :=
  (Untouched.refl buffer w).aside rfl rfl

theorem Aside.trans (h : Aside buffer w w') (h' : Aside buffer w' w'') : Aside buffer w w'' := by
  obtain ⟨more, hjobs, hothers⟩ := h.jobs
  obtain ⟨more', hjobs', hothers'⟩ := h'.jobs
  refine ⟨h.toUntouched.trans h'.toUntouched, h.nextGroup_le.trans h'.nextGroup_le, more ++ more',
    by rw [hjobs', hjobs, List.append_assoc], fun job hm => ?_⟩
  exact (List.mem_append.mp hm).elim (fun hm => h'.isOthersTurn (hothers job hm)) (hothers' job)

/-- The groups of the buffer have numbers that will not be given again. -/
def IsCounted (w : Workspace ℚ) (buffer : Text) : Prop :=
  ∀ g ∈ w.board.groupsFor buffer, g.id < w.board.nextGroup

theorem Aside.isCounted (h : Aside buffer w w') (hw : w.IsCounted buffer) : w'.IsCounted buffer :=
  fun g hg => (hw g (h.groups ▸ hg)).trans_le h.nextGroup_le

theorem aside_note (w : Workspace ℚ) {e : Entry ℚ} (he : e.isAbout buffer = false) :
    Aside buffer w (w.note e) :=
  (untouched_note w he).aside rfl rfl

theorem aside_applyBoard {change : Board × List Board.Signal}
    (h : Board.Untouched buffer w.board change) (hn : w.board.nextGroup ≤ change.1.nextGroup)
    (ht : ∀ id, .groupTurn id ∈ change.2 → w.board.IsOthers buffer id)
    (hs : ∀ id slot, .slotTurn id slot ∉ change.2) : Aside buffer w (w.applyBoard change) := by
  have huntouched := untouched_applyBoard h
  obtain ⟨_, agenda, record, -, he, -, hjobs, -⟩ := applyBoard_frame w change
  have hboard : (w.applyBoard change).board = change.1 := congrArg Workspace.board he
  refine ⟨huntouched, hboard ▸ hn, _, (congrArg (·.agenda.jobs) he).trans hjobs, fun job hm => ?_⟩
  obtain ⟨x, hx, hjob⟩ := List.mem_filterMap.mp hm
  cases x with
  | groupTurn id =>
    cases hjob
    exact huntouched.isOthers (ht id hx)
  | slotTurn id slot => exact absurd hx (hs id slot)
  | _ => cases hjob

/-! Passes over other buffers -/

theorem aside_setText (w : Workspace ℚ) (ho : other ≠ buffer) (text : Text) :
    Aside buffer w { w with texts := w.texts.set other text } :=
  Untouched.aside ⟨rfl, rfl, (Register.get?_set _ _ _ _).trans (if_neg ho.symm), rfl, rfl,
    fun _ _ => Iff.rfl, fun _ _ _ => rfl, rfl⟩ rfl rfl

theorem aside_runPass (hw : w.IsCounted buffer) (ho : other ≠ buffer) (text : Text) :
    Aside buffer w (w.runPass other text).2 := by
  let mentions := (Occurrence.ofLines text.messageLines).map Occurrence.mention
  have hnext : w.board.nextGroup ≤ (w.board.startPass other mentions).2.1.nextGroup := by
    rw [Board.startPass_eq]
    exact Nat.le_add_right _ _
  have hboard : Aside buffer w ({ w with texts := w.texts.set other text }.applyBoard
      (w.board.startPass other mentions).2) := by
    refine (aside_setText w ho text).trans (aside_applyBoard (Board.untouched_startPass ho _) hnext
      (fun id hx g hg hid hb => ?_) fun id slot => Board.not_slotTurn_startPass _ _ _)
    have hlt := hw g (List.mem_filter.mpr ⟨hg, by simpa using hb⟩)
    exact (hid ▸ hlt).not_ge (Board.le_of_groupTurn_startPass hx)
  obtain ⟨w', h', he⟩ := runPass_rec (C := Aside buffer w) w other text hboard
    (fun _ _ h => h.trans (aside_note _ (by simpa [Entry.isAbout] using ho)))
    fun _ _ h => h.trans (aside_note _ rfl)
  rw [he]
  have hlatest (pass : Pass) :
      (w'.latest.set other pass).get? buffer = w'.latest.get? buffer := by
    rw [Register.get?_set, if_neg ho.symm]
  exact h'.trans (Untouched.aside ⟨rfl, rfl, rfl, hlatest _, rfl, fun _ _ => Iff.rfl,
    fun _ _ _ => rfl, rfl⟩ rfl rfl)

theorem aside_runLatest (hw : w.IsCounted buffer) (ho : other ≠ buffer) :
    Aside buffer w (w.runLatest other) := by
  unfold runLatest
  split
  · exact aside_runPass hw ho _
  · exact .refl buffer w

/-! Debouncers of other buffers -/

theorem aside_setDebouncer (hk : w.IsOthersTimer buffer key) (ho : other ≠ buffer)
    (d : Debouncer ℚ) : Aside buffer w { w with debouncers := w.debouncers.set key (other, d) } := by
  refine Untouched.aside ⟨rfl, rfl, rfl, rfl, rfl, fun key' d' => ?_, fun _ _ _ => rfl, rfl⟩
    rfl rfl
  dsimp only
  rw [Register.get?_set]
  split
  · next he =>
    subst he
    exact ⟨fun h => absurd (congrArg Prod.fst (Option.some.inj h)) ho, fun h => absurd h (hk d')⟩
  · exact Iff.rfl

theorem aside_debouncerSignal (hw : w.IsCounted buffer) (hk : w.IsOthersTimer buffer key)
    (ho : other ≠ buffer) (s : Debouncer.Signal ℚ) :
    Aside buffer w (debouncerSignal key other w s) := by
  cases s with
  | turn timer =>
    exact ⟨(elsewhere_soon w _).untouched buffer, le_refl _, [.timer key timer], rfl,
      fun job hm => List.mem_singleton.mp hm ▸ hk⟩
  | sleep timer delay =>
    refine Untouched.aside ⟨rfl, rfl, rfl, rfl, rfl, fun _ _ => Iff.rfl, fun key' d' hget => ?_,
      rfl⟩ rfl rfl
    refine filter_insertAlarm _ _ _ _ (beq_eq_false_iff_ne.mpr ?_)
    rintro rfl
    exact hk d' hget
  | run timer =>
    have hrun := aside_runLatest hw ho
    simp only [debouncerSignal]
    split
    · exact hrun.trans (aside_setDebouncer (hrun.isOthersTimer hk) ho _)
    · exact hrun
  | ended timer => exact .refl buffer w

theorem aside_withDebouncer (hw : w.IsCounted buffer) (hk : w.IsOthersTimer buffer key)
    (change : Debouncer ℚ → Debouncer ℚ × List (Debouncer.Signal ℚ)) :
    Aside buffer w (w.withDebouncer key change) := by
  unfold withDebouncer
  split
  · next other d hget =>
    have ho : other ≠ buffer := by
      rintro rfl
      exact hk d hget
    exact List.foldlRecOn (motive := Aside buffer w) (change d).2 (debouncerSignal key other)
      (aside_setDebouncer hk ho _) fun w' h s _ =>
        h.trans (aside_debouncerSignal (h.isCounted hw) (h.isOthersTimer hk) ho s)
  · exact .refl buffer w

/-! Callers who wait for something else -/

/-- A phase that has to do with a buffer. -/
def Phase.Concerns (buffer : Text) (w : Workspace ℚ) : Phase → Prop
  | .callOffTimers key => ∃ d, w.debouncers.get? key = some (buffer, d)
  | .forget other | .drop other => other = buffer
  | .forgetAll | .dropAll => True
  | .callOffSheet sheet => ∃ g ∈ w.board.groupsFor buffer, g.sheet = sheet ∧ g.calledOff = false
  | _ => False

/-- Sheets and timers of others have been dropped and called off. Of those who wait at the desk, none
has left but slots of others. -/
structure Closes (buffer : Text) (w w' : Workspace ℚ) : Prop extends Aside buffer w w' where
  sheets : Board.Fewer w'.board.sheets w.board.sheets
  ids : w'.board.groups.map (·.id) = w.board.groups.map (·.id)
  old : ∀ g' ∈ w'.board.groups, ∃ g ∈ w.board.groups, g.id = g'.id ∧ g.buffer = g'.buffer
  desk : ∃ askers : List Asker, w'.desk = askers.foldl Desk.leave w.desk ∧
    ∀ a ∈ askers, ∃ g ∈ w.board.groups, g.buffer ≠ buffer ∧ ∃ slot, a = .slot g.id slot
  replies : w'.agenda.alarms.filter (!·.2.isTimer) = w.agenda.alarms.filter (!·.2.isTimer)

theorem fewer_refl (sheets : Register Text Board.Sheet) : Board.Fewer sheets sheets :=
  ⟨fun _ _ h => h, fun _ h => h⟩

theorem Closes.refl (buffer : Text) (w : Workspace ℚ) : Closes buffer w w :=
  ⟨.refl buffer w, fewer_refl _, rfl, fun g hg => ⟨g, hg, rfl, rfl⟩, ⟨[], rfl, nofun⟩, rfl⟩

theorem Closes.trans (h : Closes buffer w w') (h' : Closes buffer w' w'') :
    Closes buffer w w'' := by
  obtain ⟨askers, hdesk, hothers⟩ := h.desk
  obtain ⟨askers', hdesk', hothers'⟩ := h'.desk
  refine ⟨h.toAside.trans h'.toAside,
    ⟨fun x s hx => h.sheets.get? x s (h'.sheets.get? x s hx),
      fun _ hm => h.sheets.subset (h'.sheets.subset hm)⟩, h'.ids.trans h.ids, fun g'' hg'' => ?_,
    ⟨askers ++ askers', by rw [hdesk', hdesk, List.foldl_append], fun a ha => ?_⟩,
    h'.replies.trans h.replies⟩
  · obtain ⟨g', hg', hid', hbuf'⟩ := h'.old g'' hg''
    obtain ⟨g, hg, hid, hbuf⟩ := h.old g' hg'
    exact ⟨g, hg, hid.trans hid', hbuf.trans hbuf'⟩
  · rcases List.mem_append.mp ha with ha | ha
    · exact hothers a ha
    · obtain ⟨g', hg', hne, slot, rfl⟩ := hothers' a ha
      obtain ⟨g, hg, hid, hbuf⟩ := h.old g' hg'
      exact ⟨g, hg, hbuf ▸ hne, slot, by rw [hid]⟩

/-- Nothing has changed for the groups, the desk and the agenda. -/
theorem Untouched.closes (h : Untouched buffer w w')
    (hs : Board.Fewer w'.board.sheets w.board.sheets) (hg : w'.board.groups = w.board.groups)
    (hn : w'.board.nextGroup = w.board.nextGroup) (hd : w'.desk = w.desk)
    (ha : w'.agenda = w.agenda) : Closes buffer w w' :=
  ⟨h.aside hn (by rw [ha]), hs, by rw [hg], fun g hm => ⟨g, hg ▸ hm, rfl, rfl⟩, ⟨[], hd, nofun⟩,
    by rw [ha]⟩

theorem Closes.concerns (h : Closes buffer w w') (p : Phase) :
    p.Concerns buffer w' ↔ p.Concerns buffer w := by
  cases p with
  | callOffTimers key => exact exists_congr fun d => h.debouncers key d
  | callOffSheet sheet =>
    simp only [Phase.Concerns, h.groups]
  | _ => exact Iff.rfl

/-- Groups of the buffer that go on are on its sheet, or on none that anyone has. -/
def IsHome (w : Workspace ℚ) (buffer : Text) : Prop :=
  ∀ g ∈ w.board.groupsFor buffer, g.calledOff = false → ∀ x s,
    w.board.sheets.get? x = some s → s.serial = g.sheet → x = buffer

theorem Closes.isHome (h : Closes buffer w w') (hw : w.IsHome buffer) : w'.IsHome buffer :=
  fun g hg hc x s hx => hw g (h.groups ▸ hg) hc x s (h.sheets.get? x s hx)

theorem closes_callOffTimers (hw : w.IsCounted buffer) (hk : w.IsOthersTimer buffer key) :
    Closes buffer w (w.withDebouncer key Debouncer.callOffAll) := by
  have haside := aside_withDebouncer hw hk Debouncer.callOffAll
  have hkeeps : (w.withDebouncer key Debouncer.callOffAll).board = w.board ∧
      (w.withDebouncer key Debouncer.callOffAll).desk = w.desk ∧
      (w.withDebouncer key Debouncer.callOffAll).agenda.alarms = w.agenda.alarms := by
    unfold withDebouncer
    split
    · next other d _ =>
      let set : Workspace ℚ := { w with debouncers := w.debouncers.set key (other, d.callOffAll.1) }
      exact List.foldlRecOn (motive := fun w' : Workspace ℚ => w'.board = w.board ∧
        w'.desk = w.desk ∧ w'.agenda.alarms = w.agenda.alarms)
        d.callOffAll.2 (debouncerSignal key other) (b := set) ⟨rfl, rfl, rfl⟩
        fun w' h s hs => by
          obtain ⟨timer, -, rfl⟩ := List.mem_map.mp hs
          exact h
    · exact ⟨rfl, rfl, rfl⟩
  obtain ⟨hboard, hdesk, halarms⟩ := hkeeps
  refine ⟨haside, ?_, ?_, ?_, ⟨[], hdesk, nofun⟩, by rw [halarms]⟩
  · rw [hboard]
    exact fewer_refl _
  · rw [hboard]
  · rw [hboard]
    exact fun g hg => ⟨g, hg, rfl, rfl⟩

/-- Slots that give up leave the desk. -/
theorem leaves_applyBoard (w : Workspace ℚ) (change : Board × List Board.Signal) :
    (∃ askers : List Asker, (w.applyBoard change).desk = askers.foldl Desk.leave w.desk ∧
      ∀ a ∈ askers, ∃ id slot, a = .slot id slot ∧ .withdraw id slot ∈ change.2) ∧
    (w.applyBoard change).agenda.alarms = w.agenda.alarms := by
  refine List.foldlRecOn (motive := fun w' : Workspace ℚ =>
    (∃ askers : List Asker, w'.desk = askers.foldl Desk.leave w.desk ∧
      ∀ a ∈ askers, ∃ id slot, a = .slot id slot ∧ .withdraw id slot ∈ change.2) ∧
    w'.agenda.alarms = w.agenda.alarms) change.2 boardSignal (b := { w with board := change.1 })
    ⟨⟨[], rfl, nofun⟩, rfl⟩ fun w' h x hx => ?_
  have hhand (pass : Option Text) (c : Board.Commit) : (w'.handOver pass c).desk = w'.desk ∧
      (w'.handOver pass c).agenda = w'.agenda := by
    unfold handOver
    split
    · exact ⟨rfl, rfl⟩
    · dsimp only
      split <;> exact ⟨rfl, rfl⟩
  obtain ⟨⟨askers, hdesk, hslots⟩, halarms⟩ := h
  cases x with
  | withdraw id slot =>
    refine ⟨⟨askers ++ [.slot id slot], ?_, fun a ha => ?_⟩, halarms⟩
    · rw [List.foldl_append, ← hdesk]
      rfl
    · rcases List.mem_append.mp ha with ha | ha
      · exact hslots a ha
      · exact ⟨id, slot, List.mem_singleton.mp ha, hx⟩
  | commit pass c =>
    obtain ⟨hsame, hagenda⟩ := hhand pass c
    simp only [boardSignal]
    rw [hsame, hagenda]
    exact ⟨⟨askers, hdesk, hslots⟩, halarms⟩
  | _ => exact ⟨⟨askers, hdesk, hslots⟩, halarms⟩

theorem closes_callOffSheet {sheet : Nat} (hb : (w.board.groups.map (·.id)).Nodup)
    (hs : ∀ g ∈ w.board.groups, g.sheet = sheet → g.calledOff = false → g.buffer ≠ buffer) :
    Closes buffer w (w.applyBoard (w.board.callOffSheet sheet)) := by
  have hothers {g : Board.Group} (hg : g ∈ w.board.groups) (hsheet : g.sheet = sheet)
      (hc : g.calledOff = false) : w.board.IsOthers buffer g.id := by
    intro g' hg' hid
    rw [List.inj_on_of_nodup_map hb hg' hg hid]
    exact hs g hg hsheet hc
  have haside : Aside buffer w (w.applyBoard (w.board.callOffSheet sheet)) := by
    refine aside_applyBoard (Board.untouched_callOffSheet hb hs)
      (Board.callOffSheet_nextGroup _ _).ge (fun id hx => ?_) fun id slot hx => ?_
    · obtain ⟨g, hg, hsheet, hc, he | ⟨_, he⟩⟩ := Board.mem_callOffSheet hx <;> cases he
      exact hothers hg hsheet hc
    · obtain ⟨g, -, -, -, he | ⟨_, he⟩⟩ := Board.mem_callOffSheet hx <;> cases he
  obtain ⟨_, agenda, record, -, he, -⟩ := applyBoard_frame w (w.board.callOffSheet sheet)
  have hboard :
      (w.applyBoard (w.board.callOffSheet sheet)).board = (w.board.callOffSheet sheet).1 :=
    congrArg Workspace.board he
  obtain ⟨hids, hold⟩ := Board.callOffSheet_groups w.board sheet
  obtain ⟨⟨askers, hdesk, hslots⟩, halarms⟩ :=
    leaves_applyBoard w (w.board.callOffSheet sheet)
  refine ⟨haside, ?_, hboard ▸ hids, hboard ▸ hold, ⟨askers, hdesk, fun a ha => ?_⟩,
    by rw [halarms]⟩
  · rw [hboard, Board.callOffSheet_sheets]
    exact fewer_refl _
  · obtain ⟨id, slot, rfl, hx⟩ := hslots a ha
    obtain ⟨g, hg, hsheet, hc, he | ⟨_, he⟩⟩ := Board.mem_callOffSheet hx <;> cases he
    exact ⟨g, hg, hs g hg hsheet hc, slot, rfl⟩

/-- What is known of a workspace whenever a caller goes on. -/
structure Settled (buffer : Text) (w : Workspace ℚ) : Prop where
  nodup : (w.board.groups.map (·.id)).Nodup
  home : w.IsHome buffer
  counted : w.IsCounted buffer

theorem Settled.of_board (h : w.Settled buffer) (hb : w'.board = w.board) : w'.Settled buffer := by
  obtain ⟨hnodup, hhome, hcounted⟩ := h
  unfold IsHome at hhome
  unfold IsCounted at hcounted
  rw [← hb] at hnodup hhome hcounted
  exact ⟨hnodup, hhome, hcounted⟩

theorem Closes.settled (h : Closes buffer w w') (hw : w.Settled buffer) : w'.Settled buffer :=
  ⟨h.ids ▸ hw.nodup, h.isHome hw.home, h.isCounted hw.counted⟩

theorem closes_enter (hw : w.Settled buffer) (caller : Nat) {phase : Phase} (hp : phase.IsPlain)
    (hc : ¬ phase.Concerns buffer w) : Closes buffer w (w.enter caller phase).1 ∧
      ∀ p ∈ (w.enter caller phase).2, p.IsPlain ∧ ¬ p.Concerns buffer w := by
  have hwaits {w' : Workspace ℚ} {p : Phase} (h : Closes buffer w w') (hp : p.IsPlain)
      (hc : ¬ p.Concerns buffer w) :
      Closes buffer w w' ∧ ∀ p' ∈ [p], p'.IsPlain ∧ ¬ p'.Concerns buffer w :=
    ⟨h, fun p' hm => List.mem_singleton.mp hm ▸ ⟨hp, hc⟩⟩
  have hends {w' : Workspace ℚ} (h : Closes buffer w w') :
      Closes buffer w w' ∧ ∀ p ∈ ([] : List Phase), p.IsPlain ∧ ¬ p.Concerns buffer w :=
    ⟨h, List.forall_mem_nil _⟩
  have hsame : Closes buffer w w := .refl buffer w
  cases phase with
  | callOffTimers key =>
    exact hwaits (closes_callOffTimers hw.counted fun d hget => hc ⟨d, hget⟩) trivial id
  | forget other =>
    have ho : other ≠ buffer := hc
    have hforgets : Untouched buffer w
        { w with texts := w.texts.erase other, latest := w.latest.erase other } :=
      ⟨rfl, rfl, (Register.get?_erase _ _ _).trans (if_neg ho.symm),
        (Register.get?_erase _ _ _).trans (if_neg ho.symm), rfl, fun _ _ => Iff.rfl,
        fun _ _ _ => rfl, rfl⟩
    exact hends (hforgets.closes (fewer_refl _) rfl rfl rfl rfl)
  | drop other =>
    have ho : other ≠ buffer := hc
    simp only [enter]
    split
    · next s hs =>
      have hdrops : Untouched buffer w { w with board := w.board.drop other } :=
        ⟨(Register.get?_erase _ _ _).trans (if_neg ho.symm), rfl, rfl, rfl, rfl,
          fun _ _ => Iff.rfl, fun _ _ _ => rfl, rfl⟩
      refine hwaits (hdrops.closes (Board.fewer_erase _ _) rfl rfl rfl rfl) trivial ?_
      rintro ⟨g, hg, hsheet, hoff⟩
      exact ho (hw.home g hg hoff other s hs hsheet.symm)
    · exact hends hsame
  | callOffSheet sheet =>
    refine hwaits (closes_callOffSheet hw.nodup fun g hg hsheet hoff hbuf => hc ?_) trivial id
    exact ⟨g, List.mem_filter.mpr ⟨hg, by simpa using hbuf⟩, hsheet, hoff⟩
  | idle other =>
    simp only [enter]
    split
    · exact hwaits hsame trivial id
    · exact hends hsame
  | present pass => exact hends ((untouched_note w rfl).closes (fewer_refl _) rfl rfl rfl rfl)
  | forgetAll => exact absurd trivial hc
  | dropAll => exact absurd trivial hc
  | stopFetches kind => exact hp.elim
  | _ => exact hends hsame

theorem closes_proceed (hw : w.Settled buffer) (caller fuel : Nat) {plan : List Phase}
    (hp : ∀ p ∈ plan, p.IsPlain ∧ ¬ p.Concerns buffer w) :
    Closes buffer w (proceed caller fuel plan w) := by
  refine proceed_rec (C := Closes buffer w) caller (fun w' plan h _ => h.trans ?_)
    (fun w' h => h.trans ?_) (fun w' phase h hphase => ?_) fuel hp (.refl buffer w)
  · exact Untouched.closes ⟨rfl, rfl, rfl, rfl, rfl, fun _ _ => Iff.rfl, fun _ _ _ => rfl, rfl⟩
      (fewer_refl _) rfl rfl rfl rfl
  · have hreturns : Untouched buffer w' ({ w' with callers := w'.callers.erase caller }.note
        (.returned caller)) :=
      ⟨rfl, rfl, rfl, rfl, rfl, fun _ _ => Iff.rfl, fun _ _ _ => rfl,
        List.filter_cons_of_neg (by simp [Entry.isAbout])⟩
    exact hreturns.closes (fewer_refl _) rfl rfl rfl rfl
  · obtain ⟨henters, hphases⟩ := closes_enter (h.settled hw) caller hphase.1
      fun hc => hphase.2 ((h.concerns phase).mp hc)
    exact ⟨h.trans henters, fun p hm =>
      ⟨(hphases p hm).1, fun hc => (hphases p hm).2 ((h.concerns p).mpr hc)⟩⟩

end CommitMessage.Workspace
