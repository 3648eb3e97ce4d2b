import CommitMessage.Proofs.Board.Ledger

/-! What the turns of a session come to: the signals of the board become jobs and lookups, and
nothing else that a later turn could see. Sheets stay with their buffers. -/

namespace CommitMessage.Board

def Signal.job? : Signal → Option Job
  | .groupTurn id => some (.group id)
  | .slotTurn group slot => some (.slot group slot)
  | _ => none

/-- Neither a lookup nor the end of one. -/
def Signal.IsQuiet : Signal → Prop
  | .ask .. | .withdraw .. => False
  | _ => True

variable {b b' b'' : Board} {g g' : Group} {id slot : Nat}

theorem isQuiet_commitGroup (b : Board) (g : Group) : ∀ x ∈ (b.commitGroup g).2, x.IsQuiet := by
  intro x hx
  rcases commitGroup_cases b g with ⟨s, -, -, hc⟩ | ⟨-, hc⟩
  · rw [hc] at hx
    rw [List.mem_singleton.mp hx]
    trivial
  · rw [hc] at hx
    rw [List.mem_singleton.mp hx]
    trivial

theorem isQuiet_groupTurn (b : Board) (id : Nat) : ∀ x ∈ (b.groupTurn id).2, x.IsQuiet := by
  intro x hx
  unfold groupTurn at hx
  split at hx
  · cases hx
  · rename_i g hg
    split at hx
    · split at hx
      · rw [List.mem_singleton.mp hx]
        trivial
      · obtain ⟨i, -, rfl⟩ := List.mem_map.mp hx
        trivial
    · cases hx
    · rcases List.mem_append.mp hx with hx | hx
      · split at hx
        · cases hx
        · exact isQuiet_commitGroup b g x hx
      · rw [List.mem_singleton.mp hx]
        trivial

theorem isQuiet_fillSlot (b : Board) (g : Group) (slot : Nat) (answer : Option Resolution) :
    ∀ x ∈ (b.fillSlot g slot answer).2, x.IsQuiet := by
  intro x hx
  unfold fillSlot at hx
  dsimp only at hx
  split at hx
  · rw [List.mem_singleton.mp hx]
    trivial
  · cases hx

theorem isQuiet_answer (b : Board) (id slot : Nat) (outcome : Outcome) :
    ∀ x ∈ (b.answer id slot outcome).2, x.IsQuiet := by
  intro x hx
  unfold answer at hx
  split at hx
  · cases hx
  · split at hx
    · exact isQuiet_fillSlot b _ slot _ x hx
    · rcases List.mem_cons.mp hx with rfl | hx
      · trivial
      · exact isQuiet_fillSlot b _ slot _ x hx
    · rw [List.mem_singleton.mp hx]
      trivial
    · cases hx

theorem isQuiet_startPass (b : Board) (buffer : Text) (mentions : List Mention) :
    ∀ x ∈ (b.startPass buffer mentions).2.2, x.IsQuiet := by
  rw [startPass_eq]
  intro x hx
  simp only [List.mem_append, List.mem_map, List.mem_singleton] at hx
  rcases hx with (⟨line, -, rfl⟩ | ⟨g, -, rfl⟩) | rfl
  · trivial
  · trivial
  · trivial

/-! The groups before and after -/

/-- Groups from before are still themselves, and a slot that asks goes on asking, but for those
that are gone. -/
structure Moves (gone : Nat → Nat → Prop) (b b' : Board) : Prop where
  nextGroup_le : b.nextGroup ≤ b'.nextGroup
  old : ∀ g' ∈ b'.groups, g'.id < b.nextGroup → ∃ g ∈ b.groups, g.Same g'
  asking : ∀ g ∈ b.groups, ∀ i m, g.slots[i]? = some (m, .asking) →
    gone g.id i ∨ ∃ g' ∈ b'.groups, g.Same g' ∧ g'.slots[i]? = some (m, .asking)

theorem Group.Same.refl (g : Group) : g.Same g := ⟨rfl, rfl, rfl, rfl⟩

theorem Group.Same.trans {g'' : Group} (h : g.Same g') (h' : g'.Same g'') : g.Same g'' :=
  ⟨h'.id.trans h.id, h'.sheet.trans h.sheet, h'.query.trans h.query, h'.mentions.trans h.mentions⟩

theorem Group.Same.query_eq (h : g.Same g') (i : Nat) : g'.query i = g.query i := by
  rw [Group.query, h.buffer_eq, h.generation_eq, h.line_eq, Group.query]

theorem Moves.refl (gone : Nat → Nat → Prop) (b : Board) : b.Moves gone b :=
  ⟨le_refl _, fun g hg _ => ⟨g, hg, .refl g⟩, fun g hg _ _ hi => .inr ⟨g, hg, .refl g, hi⟩⟩

theorem Moves.setGroup {gone : Nat → Nat → Prop} (hb : b.Steady) (hg : g ∈ b.groups)
    (hs : g.Same g') (ha : ∀ (i : Nat) (m : Mention), g.slots[i]? = some (m, .asking) →
      gone g.id i ∨ g'.slots[i]? = some (m, .asking)) :
    b.Moves gone (b.setGroup g') := by
  refine ⟨le_refl _, fun h hh _ => ?_, fun h hh i m hi => ?_⟩
  · rcases mem_setGroup.mp hh with ⟨hh, -⟩ | ⟨rfl, -⟩
    · exact ⟨h, hh, .refl h⟩
    · exact ⟨g, hg, hs⟩
  · by_cases hid : h.id = g.id
    · obtain rfl := List.inj_on_of_nodup_map hb.nodup hh hg hid
      refine (ha i m hi).imp id fun hi' => ⟨g', mem_setGroup.mpr (.inr ⟨rfl, h, hh, ?_⟩), hs, hi'⟩
      exact hs.id.symm
    · exact .inr ⟨h, mem_setGroup.mpr (.inl ⟨hh, hs.id ▸ hid⟩), .refl h, hi⟩

theorem moves_slotTurn (hb : b.Steady) (id slot : Nat) :
    b.Moves (fun _ _ => False) (b.slotTurn id slot).1 := by
  rcases slotTurn_cases hb id slot with ⟨he, -⟩ | ⟨g, m, hg, hs, he⟩
  · rw [he]
    exact .refl _ b
  · rw [he]
    refine .setGroup hb (mem_of_group? hg).1 (.setSlot g slot .asking) fun i m' hi => .inr ?_
    rw [getElem?_setSlot]
    by_cases hslot : i = slot
    · simp [hslot, hs] at hi
    · rwa [if_neg hslot]

theorem moves_answer (hb : b.Steady) (id slot : Nat) {outcome : Outcome}
    (ho : outcome ≠ .stopped) :
    b.Moves (fun id' slot' => id' = id ∧ slot' = slot) (b.answer id slot outcome).1 := by
  rcases answer_cases hb id slot ho with ⟨he, -⟩ | ⟨g, m, notes, hg, hs, -, he⟩
  · rw [he]
    exact .refl _ b
  · rw [he]
    obtain ⟨hm, rfl⟩ := mem_of_group? hg
    refine .setGroup hb hm (.filled g slot _) fun i m' hi => ?_
    by_cases hslot : i = slot
    · exact .inl ⟨rfl, hslot⟩
    · rw [filled_slots, getElem?_setSlot, if_neg hslot]
      exact .inr hi

theorem moves_groupTurn (hb : b.Steady) (id : Nat) :
    b.Moves (fun _ _ => False) (b.groupTurn id).1 := by
  rcases groupTurn_cases hb id with ⟨he, -⟩ | ⟨g, hg, -, he⟩ | ⟨g, hg, hs, he⟩
  · rw [he]
    exact .refl _ b
  · rw [he]
    exact .setGroup hb (mem_of_group? hg).1 ⟨rfl, rfl, rfl, rfl⟩ fun _ _ => .inr
  · rw [he]
    obtain ⟨hm, rfl⟩ := mem_of_group? hg
    obtain ⟨hgroups, hnext⟩ := commitGroup_groups b g
    refine ⟨hnext.ge, fun g' hg' _ => ?_, fun g' hg' _ _ hi => .inr ⟨g', ?_, .refl g', hi⟩⟩
    · rw [mem_dropGroup, hgroups] at hg'
      exact ⟨g', hg'.1, .refl g'⟩
    · rw [mem_dropGroup, hgroups]
      refine ⟨hg', fun hid => ?_⟩
      obtain rfl := List.inj_on_of_nodup_map hb.nodup hg' hm hid
      exact (hb.staged g' hg').stage_ne_ready hi rfl hs

theorem moves_startPass (b : Board) (buffer : Text) (mentions : List Mention) :
    b.Moves (fun _ _ => False) (b.startPass buffer mentions).2.1 := by
  rw [startPass_eq]
  refine ⟨Nat.le_add_right _ _, fun g' hg' hlt => ?_,
    fun g hg _ _ hi => .inr ⟨g, List.mem_append_left _ hg, .refl g, hi⟩⟩
  rcases List.mem_append.mp hg' with hg' | hg'
  · exact ⟨g', hg', .refl g'⟩
  · exact absurd hlt (isNew_of_mem hg').first_le.not_gt

theorem Moves.trans {gone gone' : Nat → Nat → Prop} (h : b.Moves gone b')
    (h' : b'.Moves gone' b'') : b.Moves (fun id slot => gone id slot ∨ gone' id slot) b'' := by
  refine ⟨h.nextGroup_le.trans h'.nextGroup_le, fun g'' hg'' hlt => ?_, fun g hg i m hi => ?_⟩
  · obtain ⟨g', hg', hs'⟩ := h'.old g'' hg'' (hlt.trans_le h.nextGroup_le)
    obtain ⟨g, hg, hs⟩ := h.old g' hg' (hs'.id ▸ hlt)
    exact ⟨g, hg, hs.trans hs'⟩
  · rcases h.asking g hg i m hi with hgone | ⟨g', hg', hs, hi'⟩
    · exact .inl (.inl hgone)
    · rcases h'.asking g' hg' i m hi' with hgone | ⟨g'', hg'', hs', hi''⟩
      · exact .inl (.inr (hs.id ▸ hgone))
      · exact .inr ⟨g'', hg'', hs.trans hs', hi''⟩

theorem nextGroup_slotTurn (hb : b.Steady) (id slot : Nat) :
    (b.slotTurn id slot).1.nextGroup = b.nextGroup := by
  rcases slotTurn_cases hb id slot with ⟨he, -⟩ | ⟨g, m, -, -, he⟩
  · rw [he]
  · rw [he]
    rfl

theorem nextGroup_answer (hb : b.Steady) (id slot : Nat) {outcome : Outcome}
    (ho : outcome ≠ .stopped) : (b.answer id slot outcome).1.nextGroup = b.nextGroup := by
  rcases answer_cases hb id slot ho with ⟨he, -⟩ | ⟨g, m, notes, -, -, -, he⟩
  · rw [he]
  · rw [he]
    rfl

theorem nextGroup_groupTurn (hb : b.Steady) (id : Nat) :
    (b.groupTurn id).1.nextGroup = b.nextGroup := by
  rcases groupTurn_cases hb id with ⟨he, -⟩ | ⟨g, -, -, he⟩ | ⟨g, -, -, he⟩
  · rw [he]
  · rw [he]
    rfl
  · rw [he]
    exact (commitGroup_groups b g).2

/-- Without new groups, all groups are from before. -/
theorem Moves.same {gone : Nat → Nat → Prop} (h : b.Moves gone b') (hb : b'.Steady)
    (hn : b'.nextGroup = b.nextGroup) : ∀ g' ∈ b'.groups, ∃ g ∈ b.groups, g.Same g' :=
  fun g' hg' => h.old g' hg' (hn ▸ hb.id_lt g' hg')

namespace Session

variable {s : Session}

theorem handOver_eq (s : Session) (pass : Option Text) (c : Commit) :
    ∃ record, s.handOver pass c = { s with record } := by
  unfold handOver
  split
  · exact ⟨s.record, rfl⟩
  · split <;> exact ⟨_, rfl⟩

theorem foldl_signal_quiet (signals : List Signal) (hq : ∀ x ∈ signals, x.IsQuiet) (s : Session) :
    ∃ record, signals.foldl signal s =
      { s with jobs := s.jobs ++ signals.filterMap Signal.job?, record } := by
  induction signals generalizing s with
  | nil => exact ⟨s.record, by simp⟩
  | cons x signals ih =>
    have hstep : ∃ record, s.signal x =
        { s with jobs := s.jobs ++ x.job?.toList, record } := by
      cases x with
      | commit pass c =>
        obtain ⟨record, he⟩ := handOver_eq s pass c
        exact ⟨record, by simp [signal, he, Signal.job?]⟩
      | ask group slot pass r => exact (hq _ List.mem_cons_self).elim
      | withdraw group slot => exact (hq _ List.mem_cons_self).elim
      | groupTurn id => exact ⟨s.record, rfl⟩
      | slotTurn group slot => exact ⟨s.record, rfl⟩
      | note e => exact ⟨_ :: s.record, by simp [signal, Session.note, Signal.job?]; rfl⟩
      | ended id => exact ⟨s.record, by simp [signal, Signal.job?]⟩
    obtain ⟨record, he⟩ := hstep
    obtain ⟨record', hr⟩ := ih (fun y hy => hq y (List.mem_cons_of_mem _ hy)) (s.signal x)
    refine ⟨record', ?_⟩
    rw [List.foldl_cons, hr, he]
    cases hj : x.job? with
    | none => simp [hj]
    | some job => simp [hj]

theorem apply_eq (s : Session) (change : Board × List Signal)
    (hq : ∀ x ∈ change.2, x.IsQuiet) :
    ∃ record, s.apply change =
      { s with board := change.1, jobs := s.jobs ++ change.2.filterMap Signal.job?, record } :=
  foldl_signal_quiet change.2 hq { s with board := change.1 }

theorem callCallers_of_nil (h : s.callers = []) : s.callCallers = s := by
  simp [callCallers, h]

/-! What is to come for the board -/

def due (s : Session) : Wake → Prop
  | .group id => .group id ∈ s.jobs
  | .slot group slot => .slot group slot ∈ s.jobs
  | .answer group slot => (∃ r, (group, slot, r) ∈ s.lookups) ∨ ∃ o, .answer group slot o ∈ s.jobs

theorem due_of_wakes {signals : List Signal} (hq : ∀ x ∈ signals, x.IsQuiet)
    {jobs : List Job} (hj : ∀ job ∈ signals.filterMap Signal.job?, job ∈ jobs) {w : Wake}
    (hw : w ∈ wakes signals) : due { s with jobs } w := by
  obtain ⟨x, hx, he⟩ := List.mem_filterMap.mp hw
  cases x with
  | groupTurn id =>
    cases he
    exact hj _ (List.mem_filterMap.mpr ⟨_, hx, rfl⟩)
  | slotTurn group slot =>
    cases he
    exact hj _ (List.mem_filterMap.mpr ⟨_, hx, rfl⟩)
  | ask group slot pass r => exact (hq _ hx).elim
  | withdraw group slot => cases he
  | commit pass c => cases he
  | note e => cases he
  | ended id => cases he

end Session

end CommitMessage.Board

/-! Sheets: a buffer keeps its sheet through passes and turns, and its groups belong to that sheet.
When they have ended, the sheet can be dropped, and nothing of the buffer is left. -/

namespace CommitMessage.Board

variable {b b' : Board} {g : Group} {buffer : Text} {id slot : Nat} {s : Sheet}
  {passOf : Text → Option (Nat × List Mention)} {answered : Query → Option Resolution → Prop}

/-- Every group was made for the sheet that its buffer has. -/
def Filed (b : Board) : Prop :=
  ∀ g ∈ b.groups, ∃ s, b.sheets.get? g.buffer = some s ∧ s.serial = g.sheet

/-- No sheet is dropped or replaced by another. -/
def KeepsSheets (b b' : Board) : Prop :=
  ∀ buffer s, b.sheets.get? buffer = some s →
    ∃ s', b'.sheets.get? buffer = some s' ∧ s'.serial = s.serial

theorem KeepsSheets.of_eq (h : b'.sheets = b.sheets) : KeepsSheets b b' :=
  fun _ s hs => ⟨s, h ▸ hs, rfl⟩

theorem keepsSheets_set {s' : Sheet} (hb : b'.sheets = b.sheets.set buffer s')
    (hs : ∀ s, b.sheets.get? buffer = some s → s'.serial = s.serial) : KeepsSheets b b' := by
  intro other s hother
  rw [hb, Register.get?_set]
  by_cases he : other = buffer
  · rw [if_pos he]
    exact ⟨s', rfl, hs s (he ▸ hother)⟩
  · rw [if_neg he]
    exact ⟨s, hother, rfl⟩

theorem Filed.of_same (h : b.Filed) (hk : KeepsSheets b b')
    (hs : ∀ g' ∈ b'.groups, ∃ g ∈ b.groups, g.Same g') : b'.Filed := by
  intro g' hg'
  obtain ⟨g, hg, hsame⟩ := hs g' hg'
  obtain ⟨s, hget, hserial⟩ := h g hg
  obtain ⟨s', hget', hserial'⟩ := hk g.buffer s hget
  exact ⟨s', hsame.buffer_eq ▸ hget', by rw [hserial', hserial, hsame.sheet]⟩

/-! Turns and answers -/

theorem keepsSheets_slotTurn (hb : b.Steady) (id slot : Nat) :
    KeepsSheets b (b.slotTurn id slot).1 := by
  rcases slotTurn_cases hb id slot with ⟨he, -⟩ | ⟨g, m, -, -, he⟩ <;> rw [he]
  · exact .of_eq rfl
  · exact .of_eq rfl

theorem keepsSheets_answer (hb : b.Steady) (id slot : Nat) {outcome : Outcome}
    (ho : outcome ≠ .stopped) : KeepsSheets b (b.answer id slot outcome).1 := by
  rcases answer_cases hb id slot ho with ⟨he, -⟩ | ⟨g, m, notes, -, -, -, he⟩ <;> rw [he]
  · exact .of_eq rfl
  · exact .of_eq rfl

theorem keepsSheets_groupTurn (hb : b.Steady) (id : Nat) :
    KeepsSheets b (b.groupTurn id).1 := by
  rcases groupTurn_cases hb id with ⟨he, -⟩ | ⟨g, -, -, he⟩ | ⟨g, -, -, he⟩ <;> rw [he]
  · exact .of_eq rfl
  · exact .of_eq rfl
  · rcases commitGroup_cases b g with ⟨s, hs, -, hc⟩ | ⟨-, hc⟩ <;> rw [hc]
    · refine keepsSheets_set rfl fun s' hs' => ?_
      obtain rfl := Option.some.inj (hs.symm.trans hs')
      rfl
    · exact .of_eq rfl

theorem Filed.slotTurn (h : b.Filed) (hb : b.Steady) (id slot : Nat) :
    (b.slotTurn id slot).1.Filed :=
  h.of_same (keepsSheets_slotTurn hb id slot)
    ((moves_slotTurn hb id slot).same (hb.slotTurn id slot) (nextGroup_slotTurn hb id slot))

theorem Filed.answer (h : b.Filed) (hb : b.Steady) (id slot : Nat) {outcome : Outcome}
    (ho : outcome ≠ .stopped) : (b.answer id slot outcome).1.Filed :=
  h.of_same (keepsSheets_answer hb id slot ho)
    ((moves_answer hb id slot ho).same (hb.answer id slot ho) (nextGroup_answer hb id slot ho))

theorem Filed.groupTurn (h : b.Filed) (hb : b.Steady) (id : Nat) : (b.groupTurn id).1.Filed :=
  h.of_same (keepsSheets_groupTurn hb id)
    ((moves_groupTurn hb id).same (hb.groupTurn id) (nextGroup_groupTurn hb id))

/-! Passes -/

theorem keepsSheets_startPass (b : Board) (buffer : Text) (mentions : List Mention) :
    KeepsSheets b (b.startPass buffer mentions).2.1 := by
  rw [startPass_eq]
  refine keepsSheets_set rfl fun s hs => ?_
  simp [sheetAfter, sheetFor, hs]

theorem get?_startPass (b : Board) (buffer : Text) (mentions : List Mention) :
    (b.startPass buffer mentions).2.1.sheets.get? buffer =
      some (b.sheetAfter buffer mentions) := by
  rw [startPass_eq, Register.get?_set, if_pos rfl]

theorem Filed.startPass (h : b.Filed) (buffer : Text) (mentions : List Mention) :
    (b.startPass buffer mentions).2.1.Filed := by
  have hk := keepsSheets_startPass b buffer mentions
  have hget := get?_startPass b buffer mentions
  intro g hg
  rw [startPass_eq] at hg
  rcases List.mem_append.mp hg with hg | hg
  · obtain ⟨s, hs, hserial⟩ := h g hg
    obtain ⟨s', hs', hsame⟩ := hk g.buffer s hs
    exact ⟨s', hs', hsame.trans hserial⟩
  · have hnew := isNew_of_mem hg
    refine ⟨b.sheetAfter buffer mentions, ?_, hnew.sheet.symm⟩
    rw [hnew.buffer]
    exact hget

/-! Sheets without groups -/

theorem Filed.buffer_ne (h : b.Filed) (hs : b.sheets.get? buffer = some s)
    (hn : b.groupsOf s.serial = []) : ∀ g ∈ b.groups, g.buffer ≠ buffer := by
  rintro g hg rfl
  obtain ⟨s', hs', hserial⟩ := h g hg
  obtain rfl := Option.some.inj (hs.symm.trans hs')
  have hm : g ∈ b.groupsOf s.serial := List.mem_filter.mpr ⟨hg, by simp [hserial]⟩
  rw [hn] at hm
  cases hm

theorem Filed.drop (h : b.Filed) (hn : ∀ g ∈ b.groups, g.buffer ≠ buffer) :
    (b.drop buffer).Filed := by
  intro g hg
  obtain ⟨s, hs, hserial⟩ := h g hg
  refine ⟨s, ?_, hserial⟩
  rw [Board.drop, Register.get?_erase, if_neg (hn g hg)]
  exact hs

theorem Tracks.drop (h : b.Tracks passOf answered) (hn : ∀ g ∈ b.groups, g.buffer ≠ buffer) :
    (b.drop buffer).Tracks (fun x => if x = buffer then none else passOf x) answered := by
  have hst := h.steady
  refine ⟨⟨hst.nodup, hst.id_lt, hst.calledOff, hst.slots_ne, hst.staged⟩, h.distinct,
    fun g hg => ?_, fun x hx => ?_, fun x s hx => ?_⟩
  · obtain ⟨hdone, generation, mentions, hp, hrest⟩ := h.group g hg
    exact ⟨hdone, generation, mentions, (if_neg (hn g hg)).trans hp, hrest⟩
  · rw [Board.drop, Register.get?_erase] at hx
    by_cases he : x = buffer
    · exact if_pos he
    · rw [if_neg he] at hx ⊢
      exact h.unseen x hx
  · rw [Board.drop, Register.get?_erase] at hx
    by_cases he : x = buffer
    · simp [he] at hx
    · rw [if_neg he] at hx ⊢
      exact h.sheet x s hx

theorem callOffSheet_idle {sheet : Nat} (hn : b.groupsOf sheet = []) :
    b.callOffSheet sheet = (b, []) := by
  simp [callOffSheet, hn]

end CommitMessage.Board
