import CommitMessage.Proofs.Board.Heeded

/-! What leaves a buffer alone. Its sheet and its groups stay as they are and none of its lines is
committed, whatever happens to the groups and the sheets of others. -/

namespace CommitMessage.Board

variable {b b' : Board} {g : Group} {id slot sheet : Nat} {buffer : Text}

/-- The groups of a buffer, oldest first. -/
def groupsFor (b : Board) (buffer : Text) : List Group := b.groups.filter (·.buffer == buffer)

/-- A change that leaves a buffer alone. -/
structure Untouched (buffer : Text) (b : Board) (change : Board × List Signal) : Prop where
  sheet : change.1.sheets.get? buffer = b.sheets.get? buffer
  groups : change.1.groupsFor buffer = b.groupsFor buffer
  commits : ∀ pass c, .commit pass c ∈ change.2 → c.buffer ≠ buffer

/-- No group of the buffer has this number. -/
def IsOthers (b : Board) (buffer : Text) (id : Nat) : Prop :=
  ∀ g ∈ b.groups, g.id = id → g.buffer ≠ buffer

theorem IsOthers.of_group? (h : b.IsOthers buffer id) (hg : b.group? id = some g) :
    g.buffer ≠ buffer ∧ g.id = id :=
  have hm := mem_of_group? hg
  ⟨h g hm.1 hm.2, hm.2⟩

theorem IsOthers.of_groupsFor (h : b.IsOthers buffer id)
    (hg : b'.groupsFor buffer = b.groupsFor buffer) : b'.IsOthers buffer id := by
  intro g hm hid hb
  have hm' : g ∈ b'.groupsFor buffer := List.mem_filter.mpr ⟨hm, by simpa using hb⟩
  rw [hg] at hm'
  exact h g (List.mem_of_mem_filter hm') hid hb

/-- What belongs to others goes on to belong to others. -/
theorem Untouched.isOthers {change : Board × List Signal} (h : Untouched buffer b change)
    (ho : b.IsOthers buffer id) : change.1.IsOthers buffer id := ho.of_groupsFor h.groups

theorem groupsFor_setGroup (h : b.IsOthers buffer g.id) (hg : g.buffer ≠ buffer) :
    (b.setGroup g).groupsFor buffer = b.groupsFor buffer := by
  have hsame : ∀ g' ∈ b.groups, (if g'.id = g.id then g else g').buffer == buffer →
      (if g'.id = g.id then g else g') = g' := by
    intro g' hm hb
    by_cases hid : g'.id = g.id
    · rw [if_pos hid] at hb
      exact absurd (by simpa using hb) hg
    · exact if_neg hid
  have hfilter : b.groups.filter ((·.buffer == buffer) ∘ fun g' => if g'.id = g.id then g else g') =
      b.groups.filter (·.buffer == buffer) := by
    refine List.filter_congr fun g' hm => ?_
    by_cases hid : g'.id = g.id
    · simp [hid, hg, h g' hm hid]
    · simp [hid]
  simp only [groupsFor, Board.setGroup, List.filter_map]
  rw [hfilter]
  conv_rhs => rw [← List.map_id (b.groups.filter _)]
  refine List.map_congr_left fun g' hm => ?_
  rw [← hfilter] at hm
  obtain ⟨hm, hb⟩ := List.mem_filter.mp hm
  exact hsame g' hm hb

theorem groupsFor_dropGroup (h : b.IsOthers buffer id) :
    (b.dropGroup id).groupsFor buffer = b.groupsFor buffer := by
  simp only [groupsFor, dropGroup, List.filter_filter]
  refine List.filter_congr fun g hm => ?_
  by_cases hid : g.id = id
  · simp [h g hm hid]
  · simp [hid]

theorem untouched_refl (buffer : Text) (b : Board) : Untouched buffer b (b, []) :=
  ⟨rfl, rfl, nofun⟩

/-- Another group changes, and no line is committed. -/
theorem untouched_setGroup {signals : List Signal} (hc : ∀ pass c, .commit pass c ∉ signals)
    (h : b.IsOthers buffer g.id) (hg : g.buffer ≠ buffer) :
    Untouched buffer b (b.setGroup g, signals) :=
  ⟨rfl, groupsFor_setGroup h hg, fun pass c hm => absurd hm (hc pass c)⟩

/-! Turns and answers -/

theorem untouched_commitGroup (hg : g.buffer ≠ buffer) : Untouched buffer b (b.commitGroup g) := by
  rcases commitGroup_cases b g with ⟨s, -, -, he⟩ | ⟨-, he⟩
  · rw [he]
    refine ⟨?_, rfl, fun pass c hm => ?_⟩
    · exact (Register.get?_set _ _ _ _).trans (if_neg hg.symm)
    · cases List.mem_singleton.mp hm
      exact hg
  · rw [he]
    exact ⟨rfl, rfl, fun pass c hm => by cases List.mem_singleton.mp hm⟩

theorem untouched_groupTurn (h : b.IsOthers buffer id) : Untouched buffer b (b.groupTurn id) := by
  unfold groupTurn
  split
  · exact untouched_refl buffer b
  · next g hg =>
    obtain ⟨hbuf, rfl⟩ := h.of_group? hg
    have hended {b' : Board} {signals : List Signal} (ht : Untouched buffer b (b', signals)) :
        Untouched buffer b (b'.dropGroup g.id, signals ++ [.ended g.id]) := by
      refine ⟨ht.sheet, (groupsFor_dropGroup (ht.isOthers h)).trans ht.groups, fun pass c hm => ?_⟩
      rcases List.mem_append.mp hm with hm | hm
      · exact ht.commits pass c hm
      · cases List.mem_singleton.mp hm
    split
    · split
      · exact hended (untouched_refl buffer b)
      · refine untouched_setGroup (fun pass c => by simp) ?_ ?_
        exacts [h, hbuf]
    · exact untouched_refl buffer b
    · dsimp only
      split
      · exact hended (untouched_refl buffer b)
      · exact hended (untouched_commitGroup hbuf)

theorem untouched_slotTurn (h : b.IsOthers buffer id) (slot : Nat) :
    Untouched buffer b (b.slotTurn id slot) := by
  unfold slotTurn
  split
  · exact untouched_refl buffer b
  · next g hg =>
    obtain ⟨hbuf, rfl⟩ := h.of_group? hg
    split
    · refine untouched_setGroup (fun pass c => by simp) ?_ ?_
      exacts [h, hbuf]
    · exact untouched_refl buffer b

theorem untouched_fillSlot (h : b.IsOthers buffer g.id) (hg : g.buffer ≠ buffer) (slot : Nat)
    (answer : Option Resolution) : Untouched buffer b (b.fillSlot g slot answer) := by
  unfold fillSlot
  dsimp only
  split
  · refine untouched_setGroup (fun pass c => by simp) ?_ ?_
    exacts [h, hg]
  · refine untouched_setGroup (fun pass c => List.not_mem_nil) ?_ ?_
    exacts [h, hg]

theorem untouched_answer (h : b.IsOthers buffer id) (slot : Nat) (outcome : Outcome) :
    Untouched buffer b (b.answer id slot outcome) := by
  unfold answer
  split
  · exact untouched_refl buffer b
  · next g hg =>
    obtain ⟨hbuf, rfl⟩ := h.of_group? hg
    split
    · exact untouched_fillSlot h hbuf slot _
    · have hfill := untouched_fillSlot h hbuf slot none
      refine ⟨hfill.sheet, hfill.groups, fun pass c hm => hfill.commits pass c ?_⟩
      exact (List.mem_cons.mp hm).resolve_left nofun
    · refine untouched_setGroup (fun pass c => by simp) ?_ ?_
      exacts [h, hbuf]
    · exact untouched_refl buffer b

/-! Passes -/

theorem untouched_startPass {other : Text} (ho : other ≠ buffer) (mentions : List Mention) :
    Untouched buffer b (b.startPass other mentions).2 := by
  rw [startPass_eq]
  refine ⟨(Register.get?_set _ _ _ _).trans (if_neg ho.symm), ?_, fun pass c hm => ?_⟩
  · have hnone : (b.opened other mentions).filter (·.buffer == buffer) = [] := by
      refine List.filter_eq_nil_iff.mpr fun g hg => ?_
      rw [(isNew_of_mem hg).buffer]
      simpa using ho
    simp only [groupsFor, List.filter_append, hnone, List.append_nil]
  · simp only [List.mem_append, List.mem_map, List.mem_singleton, reduceCtorEq, and_false,
      exists_false, or_false] at hm
    obtain ⟨line, -, he⟩ := hm
    cases he
    exact ho

/-- Only groups that are new get a turn. -/
theorem le_of_groupTurn_startPass {mentions : List Mention}
    (hx : .groupTurn id ∈ (b.startPass buffer mentions).2.2) : b.nextGroup ≤ id := by
  rw [startPass_eq] at hx
  simp only [List.mem_append, List.mem_map, List.mem_singleton, reduceCtorEq, and_false,
    exists_false, false_or, or_false] at hx
  obtain ⟨g, hg, he⟩ := hx
  cases he
  exact (isNew_of_mem hg).first_le

theorem not_slotTurn_startPass (b : Board) (buffer : Text) (mentions : List Mention) :
    .slotTurn id slot ∉ (b.startPass buffer mentions).2.2 := by
  rw [startPass_eq]
  simp

/-! Groups that are called off -/

theorem untouched_callOff (h : b.IsOthers buffer g.id) (hg : g.buffer ≠ buffer) :
    Untouched buffer b (b.callOff g) := by
  unfold callOff
  split
  · exact untouched_refl buffer b
  · split
    all_goals
      refine untouched_setGroup (fun pass c => by simp) ?_ ?_
      exacts [h, hg]

theorem callOff_of_calledOff (b : Board) (hc : g.calledOff = true) : b.callOff g = (b, []) := by
  rw [callOff, if_pos hc]

/-- Groups that are called off already do not matter. -/
theorem untouched_callOffSheet (hb : (b.groups.map (·.id)).Nodup)
    (hs : ∀ g ∈ b.groups, g.sheet = sheet → g.calledOff = false → g.buffer ≠ buffer) :
    Untouched buffer b (b.callOffSheet sheet) := by
  refine List.foldlRecOn (motive := Untouched buffer b) (b.groupsOf sheet) _
    (untouched_refl buffer b) fun change h g hg => ?_
  obtain ⟨hm, hsheet⟩ := List.mem_filter.mp hg
  cases hc : g.calledOff with
  | true =>
    simp only [callOff_of_calledOff change.1 hc, List.append_nil]
    exact h
  | false =>
    have hbuf := hs g hm (by simpa using hsheet) hc
    have hothers : b.IsOthers buffer g.id := by
      intro g' hm' hid
      rwa [List.inj_on_of_nodup_map hb hm' hm hid]
    have hone := untouched_callOff (h.isOthers hothers) hbuf
    exact ⟨hone.sheet.trans h.sheet, hone.groups.trans h.groups, fun pass c hm =>
      (List.mem_append.mp hm).elim (h.commits pass c) (hone.commits pass c)⟩

/-- No group is new or gone. -/
theorem callOffSheet_groups (b : Board) (sheet : Nat) :
    (b.callOffSheet sheet).1.groups.map (·.id) = b.groups.map (·.id) ∧
      ∀ g' ∈ (b.callOffSheet sheet).1.groups, ∃ g ∈ b.groups,
        g.id = g'.id ∧ g.buffer = g'.buffer := by
  refine List.foldlRecOn (motive := fun change : Board × List Signal =>
    change.1.groups.map (·.id) = b.groups.map (·.id) ∧ ∀ g' ∈ change.1.groups, ∃ g ∈ b.groups,
      g.id = g'.id ∧ g.buffer = g'.buffer)
    (b.groupsOf sheet) _ ⟨rfl, fun g hg => ⟨g, hg, rfl, rfl⟩⟩ fun change h g hg => ?_
  have hset {g₁ : Group} (hid : g₁.id = g.id) (hbuf : g₁.buffer = g.buffer) :
      ∀ g' ∈ (change.1.setGroup g₁).groups, ∃ g ∈ b.groups,
        g.id = g'.id ∧ g.buffer = g'.buffer := by
    intro g' hg'
    rcases mem_setGroup.mp hg' with ⟨hg', -⟩ | ⟨rfl, -⟩
    · exact h.2 g' hg'
    · exact ⟨g, List.mem_of_mem_filter hg, hid.symm, hbuf.symm⟩
  have hone : (change.1.callOff g).1.groups.map (·.id) = b.groups.map (·.id) ∧
      ∀ g' ∈ (change.1.callOff g).1.groups, ∃ g ∈ b.groups,
        g.id = g'.id ∧ g.buffer = g'.buffer := by
    unfold callOff
    split
    · exact h
    · split <;> exact ⟨setGroup_ids.trans h.1, hset rfl rfl⟩
  exact hone

theorem callOffSheet_nextGroup (b : Board) (sheet : Nat) :
    (b.callOffSheet sheet).1.nextGroup = b.nextGroup := by
  have hone (b : Board) (g : Group) : (b.callOff g).1.nextGroup = b.nextGroup := by
    unfold callOff
    split
    · rfl
    · split <;> rfl
  exact List.foldlRecOn (motive := fun change : Board × List Signal =>
    change.1.nextGroup = b.nextGroup) _ _ rfl fun change hn g _ => (hone change.1 g).trans hn

/-- Groups of the sheet get their turns, and their slots are withdrawn. -/
theorem mem_callOffSheet {x : Signal} (hx : x ∈ (b.callOffSheet sheet).2) :
    ∃ g ∈ b.groups, g.sheet = sheet ∧ g.calledOff = false ∧
      (x = .groupTurn g.id ∨ ∃ slot, x = .withdraw g.id slot) := by
  refine List.foldlRecOn (motive := fun change : Board × List Signal =>
    x ∈ change.2 → ∃ g ∈ b.groups, g.sheet = sheet ∧ g.calledOff = false ∧
      (x = .groupTurn g.id ∨ ∃ slot, x = .withdraw g.id slot)) (b.groupsOf sheet) _
    (fun hm => absurd hm List.not_mem_nil) (fun change h g hg hx => ?_) hx
  obtain ⟨hm, hsheet⟩ := List.mem_filter.mp hg
  have hone (hx : x ∈ (change.1.callOff g).2) :
      g.calledOff = false ∧ (x = .groupTurn g.id ∨ ∃ slot, x = .withdraw g.id slot) := by
    unfold callOff at hx
    split at hx
    · cases hx
    · next hc =>
      refine ⟨by simpa using hc, ?_⟩
      split at hx
      · rcases List.mem_append.mp hx with hx | hx
        · obtain ⟨slot, -, rfl⟩ := List.mem_map.mp hx
          exact .inr ⟨slot, rfl⟩
        · exact .inl (List.mem_singleton.mp hx)
      · cases hx
  rcases List.mem_append.mp hx with hx | hx
  · exact h hx
  · exact ⟨g, hm, by simpa using hsheet, hone hx⟩

end CommitMessage.Board
