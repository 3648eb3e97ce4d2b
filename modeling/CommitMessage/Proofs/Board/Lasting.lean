import CommitMessage.Proofs.Board.Heeded

/-! Properties of a board that last: of the groups that go on, none of what may happen to a board
takes them away. Lines that wait, wait for a group that goes on. -/

namespace CommitMessage.Board

variable {b b' b'' : Board} {g g' : Group} {id slot : Nat} {due : Wake → Prop} {buffer : Text}
  {outcome : Outcome} {fits : Reference → Outcome → Prop} {P Q : Board → Prop}
  {sheets : Register Text Sheet} {sheet : Nat}

/-- No buffer has one of these sheets any more, nor will one have it again. -/
def Dropped (former : Nat → Prop) (b : Board) : Prop :=
  ∀ sheet, former sheet → sheet < b.nextSheet ∧
    ∀ x s, b.sheets.get? x = some s → s.serial ≠ sheet

/-- An outcome that a slot may be given. -/
def Fits (fits : Reference → Outcome → Prop) (b : Board) (id slot : Nat) (outcome : Outcome) :
    Prop :=
  ∀ g ∈ b.groups, g.id = id → ∀ m state, g.slots[slot]? = some (m, state) →
    fits m.reference outcome

/-- A property that lasts as long as slots are given outcomes that fit. -/
structure Lasting (fits : Reference → Outcome → Prop) (P : Board → Prop) : Prop where
  groupTurn : ∀ {b : Board} (id : Nat), b.Steady → b.Placed → P b → P (b.groupTurn id).1
  slotTurn : ∀ {b : Board} (id slot : Nat), b.Steady → P b → P (b.slotTurn id slot).1
  answer : ∀ {b : Board} (id slot : Nat) {outcome : Outcome}, b.Steady → outcome ≠ .stopped →
    b.Fits fits id slot outcome → P b → P (b.answer id slot outcome).1
  startPass : ∀ {b : Board} (buffer : Text) (mentions : List Mention), b.Placed → P b →
    P (b.startPass buffer mentions).2.1
  only : ∀ {b : Board} {sheet : Nat}, b.Dropped (· = sheet) → P b →
    P (b.only fun g => decide (g.sheet ≠ sheet))
  sheets : ∀ {b : Board} {sheets : Register Text Sheet}, b.Placed → Fewer sheets b.sheets → P b →
    P { b with sheets := sheets }

theorem Lasting.and (hP : Lasting fits P) (hQ : Lasting fits Q) :
    Lasting fits fun b => P b ∧ Q b where
  groupTurn id hs hp h := ⟨hP.groupTurn id hs hp h.1, hQ.groupTurn id hs hp h.2⟩
  slotTurn id slot hs h := ⟨hP.slotTurn id slot hs h.1, hQ.slotTurn id slot hs h.2⟩
  answer id slot _ hs ho hf h := ⟨hP.answer id slot hs ho hf h.1, hQ.answer id slot hs ho hf h.2⟩
  startPass buffer mentions hp h :=
    ⟨hP.startPass buffer mentions hp h.1, hQ.startPass buffer mentions hp h.2⟩
  only hd h := ⟨hP.only hd h.1, hQ.only hd h.2⟩
  sheets hp hs h := ⟨hP.sheets hp hs h.1, hQ.sheets hp hs h.2⟩

/-! What happens to a board that is heeded -/

theorem Heeded.groupTurn_lasting (h : b.Heeded due) (hP : Lasting fits P) (hb : P b.kept)
    (id : Nat) : P (b.groupTurn id).1.kept :=
  (within_groupTurn h.ending id).1 ▸ hP.groupTurn id h.steady h.placed hb

theorem Heeded.slotTurn_lasting (h : b.Heeded due) (hP : Lasting fits P) (hb : P b.kept)
    (id slot : Nat) : P (b.slotTurn id slot).1.kept :=
  (within_slotTurn h.ending id slot).1 ▸ hP.slotTurn id slot h.steady hb

theorem Heeded.answer_lasting (h : b.Heeded due) (hP : Lasting fits P) (hb : P b.kept)
    (ho : outcome ≠ .stopped) (hf : b.kept.Fits fits id slot outcome) :
    P (b.answer id slot outcome).1.kept :=
  (within_answer h.ending id slot ho).1 ▸ hP.answer id slot h.steady ho hf hb

theorem Heeded.startPass_lasting (h : b.Heeded due) (hP : Lasting fits P) (hb : P b.kept)
    (buffer : Text) (mentions : List Mention) : P (b.startPass buffer mentions).2.1.kept :=
  (kept_startPass b buffer mentions).1 ▸ hP.startPass buffer mentions h.placed hb

theorem Heeded.callOffSheet_lasting (h : b.Heeded due) (hP : Lasting fits P) (hb : P b.kept)
    (hd : b.Dropped (· = sheet)) : P (b.callOffSheet sheet).1.kept :=
  kept_callOffSheet h.ending sheet ▸ hP.only (b := b.kept) hd hb

theorem Heeded.sheets_lasting (h : b.Heeded due) (hP : Lasting fits P) (hb : P b.kept)
    (hs : Fewer sheets b.sheets) : P ({ b with sheets } : Board).kept :=
  hP.sheets (b := b.kept) h.placed hs hb

/-! Turns and answers leave the sheets as they are, but for what lines show and wait for. -/

structure SameMarks (b b' : Board) : Prop where
  nextSheet : b'.nextSheet = b.nextSheet
  sheets : ∀ x, (b'.sheets.get? x).map Sheet.mark = (b.sheets.get? x).map Sheet.mark

theorem SameMarks.get? (h : SameMarks b b') {x : Text} {s' : Sheet}
    (hs : b'.sheets.get? x = some s') : ∃ s, b.sheets.get? x = some s ∧ s'.serial = s.serial ∧
      s'.generation = s.generation := by
  have hmark := h.sheets x
  rw [hs] at hmark
  obtain ⟨s, hs, he⟩ := Option.map_eq_some_iff.mp hmark.symm
  exact ⟨s, hs, (congrArg Prod.fst he).symm, (congrArg Prod.snd he).symm⟩

theorem sameMarks_groupTurn (hb : b.Steady) (id : Nat) : SameMarks b (b.groupTurn id).1 := by
  refine ⟨?_, (ending_groupTurn b id).1.sheets⟩
  rcases groupTurn_cases hb id with ⟨he, -⟩ | ⟨g, -, -, he⟩ | ⟨g, -, -, he⟩
  · rw [he]
  · rw [he]
    rfl
  · rw [he]
    rcases commitGroup_cases b g with ⟨s, -, -, hc⟩ | ⟨-, hc⟩ <;> rw [hc] <;> rfl

theorem sameMarks_slotTurn (hb : b.Steady) (id slot : Nat) :
    SameMarks b (b.slotTurn id slot).1 := by
  refine ⟨?_, (ending_slotTurn b id slot).1.sheets⟩
  rcases slotTurn_cases hb id slot with ⟨he, -⟩ | ⟨g, m, -, -, he⟩
  · rw [he]
  · rw [he]
    rfl

theorem sameMarks_answer (hb : b.Steady) (id slot : Nat) (ho : outcome ≠ .stopped) :
    SameMarks b (b.answer id slot outcome).1 := by
  refine ⟨?_, (ending_answer b id slot outcome).1.sheets⟩
  rcases answer_cases hb id slot ho with ⟨he, -⟩ | ⟨g, m, notes, -, -, -, he⟩
  · rw [he]
  · rw [he]
    rfl

/-! Sheets that are dropped -/

theorem Dropped.of_sameMarks {former : Nat → Prop} (h : b.Dropped former)
    (hs : SameMarks b b') : b'.Dropped former := by
  intro sheet hf
  obtain ⟨hlt, hne⟩ := h sheet hf
  refine ⟨hs.nextSheet ▸ hlt, fun x s' hx => ?_⟩
  obtain ⟨s, hx, hserial, -⟩ := hs.get? hx
  exact hserial ▸ hne x s hx

theorem Dropped.of_sheets {former : Nat → Prop} (h : b.Dropped former)
    (hs : Fewer sheets b.sheets) : ({ b with sheets } : Board).Dropped former :=
  fun sheet hf => ⟨(h sheet hf).1, fun x s hx => (h sheet hf).2 x s (hs.get? x s hx)⟩

theorem nextSheet_startPass (b : Board) (buffer : Text) (mentions : List Mention) :
    b.nextSheet ≤ (b.startPass buffer mentions).2.1.nextSheet := by
  rw [startPass_eq]
  exact le_nextSheet_sheetFor b buffer

/-- The sheet of the buffer is the one it had, in a new generation, or one with a new number. -/
theorem sheetAfter_mark (b : Board) (buffer : Text) (mentions : List Mention) :
    (∃ s, b.sheets.get? buffer = some s ∧ (b.sheetAfter buffer mentions).serial = s.serial ∧
      (b.sheetAfter buffer mentions).generation = s.generation + 1) ∨
    b.sheets.get? buffer = none ∧ (b.sheetAfter buffer mentions).serial = b.nextSheet := by
  rcases sheetFor_cases b buffer with ⟨s, hs, he⟩ | ⟨hs, he⟩
  · exact .inl ⟨s, hs, by simp [sheetAfter, he], by simp [sheetAfter, he]⟩
  · exact .inr ⟨hs, by simp [sheetAfter, he]⟩

theorem Dropped.startPass {former : Nat → Prop} (h : b.Dropped former) (buffer : Text)
    (mentions : List Mention) : (b.startPass buffer mentions).2.1.Dropped former := by
  intro sheet hf
  obtain ⟨hlt, hne⟩ := h sheet hf
  refine ⟨hlt.trans_le (nextSheet_startPass b buffer mentions), fun x s hx => ?_⟩
  rw [startPass_eq, Register.get?_set] at hx
  split at hx
  · cases hx
    rcases sheetAfter_mark b buffer mentions with ⟨s, hs, hserial, -⟩ | ⟨-, hserial⟩
    · exact hserial ▸ hne buffer s hs
    · exact hserial ▸ hlt.ne'
  · exact hne x s hx

/-- A sheet that is dropped stays dropped. -/
theorem lasting_dropped (former : Nat → Prop) : Lasting fits (Dropped former) where
  groupTurn id hs _ h := h.of_sameMarks (sameMarks_groupTurn hs id)
  slotTurn id slot hs h := h.of_sameMarks (sameMarks_slotTurn hs id slot)
  answer id slot _ hs ho _ h := h.of_sameMarks (sameMarks_answer hs id slot ho)
  startPass buffer mentions _ h := h.startPass buffer mentions
  only _ h := h
  sheets _ hs h := h.of_sheets hs

/-! Groups that go on -/

/-- Groups are still those of the one board, or are new. -/
structure Inherits (b b' : Board) : Prop where
  nextGroup_le : b.nextGroup ≤ b'.nextGroup
  old : ∀ g' ∈ b'.groups, g'.id < b.nextGroup → ∃ g ∈ b.groups, g.Same g'

theorem Inherits.refl (b : Board) : Inherits b b := ⟨le_refl _, fun g hg _ => ⟨g, hg, .refl g⟩⟩

theorem Inherits.trans (h : Inherits b b') (h' : Inherits b' b'') : Inherits b b'' := by
  refine ⟨h.nextGroup_le.trans h'.nextGroup_le, fun g'' hg'' hlt => ?_⟩
  obtain ⟨g', hg', hs'⟩ := h'.old g'' hg'' (hlt.trans_le h.nextGroup_le)
  obtain ⟨g, hg, hs⟩ := h.old g' hg' (hs'.id ▸ hlt)
  exact ⟨g, hg, hs.trans hs'⟩

theorem Moves.inherits {gone : Nat → Nat → Prop} (h : b.Moves gone b') : Inherits b b' :=
  ⟨h.nextGroup_le, h.old⟩

theorem lasting_inherits (b : Board) : Lasting fits (Inherits b) where
  groupTurn id hs _ h := h.trans (moves_groupTurn hs id).inherits
  slotTurn id slot hs h := h.trans (moves_slotTurn hs id slot).inherits
  answer id slot _ hs ho _ h := h.trans (moves_answer hs id slot ho).inherits
  startPass buffer mentions _ h := h.trans (moves_startPass _ buffer mentions).inherits
  only _ h := h.trans ⟨le_refl _, fun g hg _ => ⟨g, (mem_only.mp hg).1, .refl g⟩⟩
  sheets _ _ h := h.trans ⟨le_refl _, fun g hg _ => ⟨g, hg, .refl g⟩⟩

/-! Lines that wait -/

variable {line : Int} {s : Sheet}

/-- The group is the one that a line of the sheet waits for. -/
structure Group.Serves (g : Group) (buffer : Text) (s : Sheet) (line : Int) (id : Nat) : Prop where
  id : g.id = id
  buffer : g.buffer = buffer
  sheet : g.sheet = s.serial
  generation : g.generation = s.generation
  line : g.line = line

def Awaited (b : Board) : Prop :=
  ∀ buffer s, b.sheets.get? buffer = some s → ∀ line id, s.pending.get? line = some id →
    ∃ g ∈ b.groups, g.Serves buffer s line id

theorem awaited_empty : Awaited {} := by simp [Awaited]

theorem Group.Serves.same (h : g.Serves buffer s line id) (hs : g.Same g') :
    g'.Serves buffer s line id :=
  ⟨hs.id.trans h.id, hs.buffer_eq.trans h.buffer, hs.sheet.trans h.sheet,
    hs.generation_eq.trans h.generation, hs.line_eq.trans h.line⟩

theorem Awaited.setGroup (h : b.Awaited) (hb : b.Steady) (hg : g ∈ b.groups) (hs : g.Same g') :
    (b.setGroup g').Awaited := by
  intro x s hx line id hp
  obtain ⟨g₀, hg₀, hserves⟩ := h x s hx line id hp
  by_cases hid : g₀.id = g.id
  · obtain rfl := List.inj_on_of_nodup_map hb.nodup hg₀ hg hid
    exact ⟨g', mem_setGroup.mpr (.inr ⟨rfl, g₀, hg₀, hs.id.symm⟩), hserves.same hs⟩
  · exact ⟨g₀, mem_setGroup.mpr (.inl ⟨hg₀, hs.id ▸ hid⟩), hserves⟩

/-- A group commits and is gone, and its line waits for it no more. -/
theorem Awaited.commitGroup (h : b.Awaited) (hb : b.Steady) (hg : g ∈ b.groups) :
    ((b.commitGroup g).1.dropGroup g.id).Awaited := by
  have hother {g₀ : Group} (hg₀ : g₀ ∈ b.groups) (hne : g₀ ≠ g) : g₀.id ≠ g.id :=
    fun hid => hne (List.inj_on_of_nodup_map hb.nodup hg₀ hg hid)
  rcases commitGroup_cases b g with ⟨s, hs, -, he⟩ | ⟨hstale, he⟩
  · rw [he]
    intro x s' hx line id hp
    replace hx : (b.sheets.set g.buffer (s.committing g)).get? x = some s' := hx
    rw [Register.get?_set] at hx
    split at hx
    · next hbuf =>
      cases hx
      have hp' : s.pending.get? line = some id ∧
          (line = g.line → s.pending.get? g.line ≠ some g.id) := by
        unfold Sheet.committing at hp
        dsimp only at hp
        split at hp
        · rw [Register.get?_erase] at hp
          split at hp
          · cases hp
          · next hl => exact ⟨hp, fun he => absurd he hl⟩
        · next hclear => exact ⟨hp, fun _ => hclear⟩
      obtain ⟨g₀, hg₀, hserves⟩ := h x s (hbuf ▸ hs) line id hp'.1
      refine ⟨g₀, mem_dropGroup.mpr ⟨hg₀, hother hg₀ ?_⟩, ⟨hserves.id, hserves.buffer,
        hserves.sheet, hserves.generation, hserves.line⟩⟩
      rintro rfl
      refine hp'.2 hserves.line.symm ?_
      rw [hserves.line, hp'.1, hserves.id]
    · next hbuf =>
      obtain ⟨g₀, hg₀, hserves⟩ := h x s' hx line id hp
      refine ⟨g₀, mem_dropGroup.mpr ⟨hg₀, hother hg₀ ?_⟩, hserves⟩
      rintro rfl
      exact hbuf hserves.buffer.symm
  · rw [he]
    intro x s hx line id hp
    obtain ⟨g₀, hg₀, hserves⟩ := h x s hx line id hp
    refine ⟨g₀, mem_dropGroup.mpr ⟨hg₀, hother hg₀ ?_⟩, hserves⟩
    rintro rfl
    exact hstale s (hserves.buffer ▸ hx) hserves.generation.symm

theorem Awaited.startPass (h : b.Awaited) (buffer : Text) (mentions : List Mention) :
    (b.startPass buffer mentions).2.1.Awaited := by
  rw [startPass_eq]
  intro x s hx line id hp
  rw [Register.get?_set] at hx
  split at hx
  · next hbuf =>
    cases hx
    obtain ⟨g, hg, hid, hline⟩ := exists_opened_of_pending hp
    have hnew := isNew_of_mem hg
    exact ⟨g, List.mem_append_right _ hg,
      ⟨hid, hnew.buffer.trans hbuf.symm, hnew.sheet, hnew.generation, hline⟩⟩
  · obtain ⟨g, hg, hserves⟩ := h x s hx line id hp
    exact ⟨g, List.mem_append_left _ hg, hserves⟩

theorem lasting_awaited (fits : Reference → Outcome → Prop) : Lasting fits Awaited where
  groupTurn := by
    intro b id hb hp h
    rcases groupTurn_cases hb id with ⟨he, -⟩ | ⟨g, hg, -, he⟩ | ⟨g, hg, -, he⟩
    · rwa [he]
    · rw [he]
      exact h.setGroup hb (mem_of_group? hg).1 ⟨rfl, rfl, rfl, rfl⟩
    · obtain ⟨hm, rfl⟩ := mem_of_group? hg
      rw [he]
      exact h.commitGroup hb hm
  slotTurn := by
    intro b id slot hb h
    rcases slotTurn_cases hb id slot with ⟨he, -⟩ | ⟨g, m, hg, -, he⟩
    · rwa [he]
    · rw [he]
      exact h.setGroup hb (mem_of_group? hg).1 (.setSlot g slot _)
  answer := by
    intro b id slot outcome hb ho _ h
    rcases answer_cases hb id slot ho with ⟨he, -⟩ | ⟨g, m, notes, hg, -, -, he⟩
    · rwa [he]
    · rw [he]
      exact h.setGroup hb (mem_of_group? hg).1 (.filled g slot _)
  startPass buffer mentions _ h := h.startPass buffer mentions
  only := by
    intro b sheet hd h x s hx line id hp
    obtain ⟨g, hg, hserves⟩ := h x s hx line id hp
    refine ⟨g, mem_only.mpr ⟨hg, decide_eq_true ?_⟩, hserves⟩
    rw [hserves.sheet]
    exact (hd sheet rfl).2 x s hx
  sheets := by
    intro b sheets _ hs h x s hx
    exact h x s (hs.get? x s hx)

/-- Where no group goes on, no line waits. -/
theorem Awaited.lineState_ne (h : b.kept.Awaited) (hn : b.kept.groups = []) (buffer : Text)
    (line : Int) : b.lineState buffer line ≠ .pending := by
  unfold lineState
  split
  · next s hs =>
    have hnone : s.pending.has line = false := by
      rw [Register.has_eq_isSome]
      cases hp : s.pending.get? line with
      | none => rfl
      | some id =>
        obtain ⟨g, hg, -⟩ := h buffer s hs line id hp
        rw [hn] at hg
        cases hg
    rw [hnone, if_neg Bool.false_ne_true]
    split <;> exact nofun
  · exact nofun

end CommitMessage.Board
