import CommitMessage.Proofs.Board.NewPass

/-! Groups that may be called off at any time. A group has a turn coming or waits for answers, and
one that is called off waits for nothing but its turn. -/

namespace CommitMessage.Board

variable {b b' b'' : Board} {g : Group} {id slot : Nat} {due due' : Nat → Prop}

structure Group.Ends (due : Nat → Prop) (g : Group) : Prop where
  turn : g.stage ≠ .waiting → due g.id
  waits : g.stage = .waiting → g.calledOff = false

structure Ending (due : Nat → Prop) (b : Board) : Prop where
  nodup : (b.groups.map (·.id)).Nodup
  id_lt : ∀ g ∈ b.groups, g.id < b.nextGroup
  ends : ∀ g ∈ b.groups, g.Ends due

def Sheet.mark (s : Sheet) : Nat × Nat := (s.serial, s.generation)

/-- No sheet is new, dropped, or in another generation, and no group is new. -/
structure Follows (b b' : Board) : Prop where
  sheets : ∀ buffer, (b'.sheets.get? buffer).map Sheet.mark = (b.sheets.get? buffer).map Sheet.mark
  groups : ∀ g' ∈ b'.groups, ∃ g ∈ b.groups, g'.id = g.id ∧ g'.sheet = g.sheet ∧
    (g.calledOff = true → g'.calledOff = true)

theorem Group.Ends.mono (h : g.Ends due) (hd : due g.id → due' g.id) : g.Ends due' :=
  ⟨fun hs => hd (h.turn hs), h.waits⟩

theorem Ending.mono (h : b.Ending due) (hd : ∀ id, due id → due' id) : b.Ending due' :=
  ⟨h.nodup, h.id_lt, fun g hg => (h.ends g hg).mono (hd g.id)⟩

theorem ending_empty : Ending due {} :=
  ⟨List.nodup_nil, List.forall_mem_nil _, List.forall_mem_nil _⟩

theorem Ending.eq_of_id (h : b.Ending due) {g' : Group} (hg : g ∈ b.groups) (hg' : g' ∈ b.groups)
    (he : g.id = g'.id) : g = g' :=
  List.inj_on_of_nodup_map h.nodup hg hg' he

theorem Follows.refl (b : Board) : Follows b b :=
  ⟨fun _ => rfl, fun g hg => ⟨g, hg, rfl, rfl, fun hc => hc⟩⟩

theorem Follows.trans (h : Follows b b') (h' : Follows b' b'') : Follows b b'' := by
  refine ⟨fun x => (h'.sheets x).trans (h.sheets x), fun g'' hg'' => ?_⟩
  obtain ⟨g', hg', hid', hs', hc'⟩ := h'.groups g'' hg''
  obtain ⟨g, hg, hid, hs, hc⟩ := h.groups g' hg'
  exact ⟨g, hg, hid'.trans hid, hs'.trans hs, fun h => hc' (hc h)⟩

theorem Follows.generation_eq (h : Follows b b') (buffer : Text) :
    b'.generation buffer = b.generation buffer := by
  have hmark := congrArg (Option.map Prod.snd) (h.sheets buffer)
  simp only [Option.map_map] at hmark
  exact congrArg (·.getD 0) hmark

theorem Follows.serial (h : Follows b b') {buffer : Text} {s : Sheet}
    (hs : b.sheets.get? buffer = some s) :
    ∃ s', b'.sheets.get? buffer = some s' ∧ s'.serial = s.serial := by
  have hmark := h.sheets buffer
  rw [hs] at hmark
  obtain ⟨s', hs', he⟩ := Option.map_eq_some_iff.mp hmark
  exact ⟨s', hs', congrArg Prod.fst he⟩

theorem Follows.sheets_eq_nil (h : Follows b b') (hs : b.sheets = []) : b'.sheets = [] := by
  refine List.eq_nil_iff_forall_not_mem.mpr fun entry hm => ?_
  have hmark := h.sheets entry.1
  rw [hs, Register.get?_nil, Option.map_none, Option.map_eq_none_iff,
    Register.get?_eq_none_iff] at hmark
  exact hmark (List.mem_map_of_mem hm)

/-! Changes of one group -/

/-- One who had a turn may be replaced, if the other has one coming too or needs none. -/
theorem Ending.setGroup (h : b.Ending due) {g₀ : Group} (hg₀ : g₀ ∈ b.groups) (hid : g.id = g₀.id)
    (hd : ∀ i, i ≠ g.id → due i → due' i) (hg : g.Ends due') : (b.setGroup g).Ending due' := by
  refine ⟨setGroup_ids.symm ▸ h.nodup, fun g' hg' => ?_, fun g' hg' => ?_⟩
  · rcases mem_setGroup.mp hg' with ⟨hg', -⟩ | ⟨rfl, -⟩
    · exact h.id_lt g' hg'
    · exact hid ▸ h.id_lt g₀ hg₀
  · rcases mem_setGroup.mp hg' with ⟨hg', hne⟩ | ⟨rfl, -⟩
    · exact (h.ends g' hg').mono (hd _ hne)
    · exact hg

theorem follows_setGroup {g₀ : Group} (hg₀ : g₀ ∈ b.groups) (hid : g.id = g₀.id)
    (hs : g.sheet = g₀.sheet) (hc : g₀.calledOff = true → g.calledOff = true) :
    Follows b (b.setGroup g) := by
  refine ⟨fun _ => rfl, fun g' hg' => ?_⟩
  rcases mem_setGroup.mp hg' with ⟨hg', -⟩ | ⟨rfl, -⟩
  · exact ⟨g', hg', rfl, rfl, fun h => h⟩
  · exact ⟨g₀, hg₀, hid, hs, hc⟩

theorem Ending.dropGroup (h : b.Ending due) (hd : ∀ i, i ≠ id → due i → due' i) :
    (b.dropGroup id).Ending due' := by
  refine ⟨h.nodup.sublist (List.filter_sublist.map _), fun g hg => ?_, fun g hg => ?_⟩
  · exact h.id_lt g (mem_dropGroup.mp hg).1
  · obtain ⟨hg, hne⟩ := mem_dropGroup.mp hg
    exact (h.ends g hg).mono (hd _ hne)

theorem follows_dropGroup (b : Board) (id : Nat) : Follows b (b.dropGroup id) :=
  ⟨fun _ => rfl, fun g' hg' => ⟨g', (mem_dropGroup.mp hg').1, rfl, rfl, fun h => h⟩⟩

/-! Turns and answers -/

theorem ending_commitGroup (h : b.Ending due) (g : Group) : (b.commitGroup g).1.Ending due := by
  obtain ⟨hgroups, hnext⟩ := commitGroup_groups b g
  exact ⟨hgroups ▸ h.nodup, hgroups ▸ hnext ▸ h.id_lt, hgroups ▸ h.ends⟩

theorem follows_commitGroup (b : Board) (g : Group) : Follows b (b.commitGroup g).1 := by
  rcases commitGroup_cases b g with ⟨s, hs, hgen, he⟩ | ⟨-, he⟩
  · rw [he]
    refine ⟨fun x => ?_, fun g' hg' => ⟨g', hg', rfl, rfl, fun h => h⟩⟩
    by_cases hx : x = g.buffer
    · simp [hx, hs, Sheet.mark, Sheet.committing]
    · simp [hx]
  · rw [he]
    exact .refl b

theorem ending_groupTurn (b : Board) (id : Nat) : Follows b (b.groupTurn id).1 ∧
    ∀ {due : Nat → Prop}, (b.Ending fun i => due i ∨ i = id) → (b.groupTurn id).1.Ending due := by
  have hother {due : Nat → Prop} : ∀ i, i ≠ id → (due i ∨ i = id) → due i :=
    fun _ hne hd => hd.resolve_right hne
  unfold Board.groupTurn
  split
  · next hg =>
    refine ⟨.refl b, fun h => ⟨h.nodup, h.id_lt, fun g hm => (h.ends g hm).mono (hother _ ?_)⟩⟩
    simpa using List.find?_eq_none.mp hg g hm
  · next g hg =>
    obtain ⟨hm, rfl⟩ := mem_of_group? hg
    split
    · split
      · exact ⟨follows_dropGroup b g.id, fun h => h.dropGroup hother⟩
      · next hc =>
        exact ⟨follows_setGroup hm rfl rfl fun hoff => hoff, fun h => h.setGroup hm rfl hother
          ⟨fun hne => absurd rfl hne, fun _ => by simpa using hc⟩⟩
    · next hs =>
      refine ⟨.refl b, fun h =>
        ⟨h.nodup, h.id_lt, fun g' hm' => ⟨fun hne => ?_, (h.ends g' hm').waits⟩⟩⟩
      refine hother _ (fun he => ?_) ((h.ends g' hm').turn hne)
      obtain rfl := h.eq_of_id hm' hm he
      exact hne hs
    · cases hc : g.calledOff with
      | true => exact ⟨follows_dropGroup b g.id, fun h => h.dropGroup hother⟩
      | false =>
        exact ⟨(follows_commitGroup b g).trans (follows_dropGroup _ g.id),
          fun h => (ending_commitGroup h g).dropGroup hother⟩

theorem setSlot_ends {state : Slot} (h : g.Ends due) : (g.setSlot slot state).Ends due :=
  ⟨h.turn, h.waits⟩

theorem ending_slotTurn (b : Board) (id slot : Nat) : Follows b (b.slotTurn id slot).1 ∧
    ∀ {due : Nat → Prop}, b.Ending due → (b.slotTurn id slot).1.Ending due := by
  unfold Board.slotTurn
  split
  · exact ⟨.refl b, fun h => h⟩
  · next g hg =>
    have hm := (mem_of_group? hg).1
    split
    · exact ⟨follows_setGroup hm rfl rfl fun hoff => hoff,
        fun h => h.setGroup hm rfl (fun _ _ hd => hd) (setSlot_ends (h.ends g hm))⟩
    · exact ⟨.refl b, fun h => h⟩

theorem ending_fillSlot (hm : g ∈ b.groups) (slot : Nat) (answer : Option Resolution) :
    Follows b (b.fillSlot g slot answer).1 ∧ ∀ {due : Nat → Prop}, b.Ending due →
      (b.fillSlot g slot answer).1.Ending
        fun i => due i ∨ .groupTurn i ∈ (b.fillSlot g slot answer).2 := by
  unfold Board.fillSlot
  dsimp only
  split
  · exact ⟨follows_setGroup hm rfl rfl fun hoff => hoff, fun h => h.setGroup hm rfl
      (fun _ _ => .inl) ⟨fun _ => .inr (List.mem_singleton_self _), nofun⟩⟩
  · exact ⟨follows_setGroup hm rfl rfl fun hoff => hoff, fun h => h.setGroup hm rfl
      (fun _ _ => .inl) (setSlot_ends ((h.ends g hm).mono .inl))⟩

theorem ending_answer (b : Board) (id slot : Nat) (outcome : Outcome) :
    Follows b (b.answer id slot outcome).1 ∧ ∀ {due : Nat → Prop}, b.Ending due →
      (b.answer id slot outcome).1.Ending
        fun i => due i ∨ .groupTurn i ∈ (b.answer id slot outcome).2 := by
  have hsame : Follows b b ∧ ∀ {due : Nat → Prop}, b.Ending due →
      b.Ending fun i => due i ∨ .groupTurn i ∈ ([] : List Signal) :=
    ⟨.refl b, fun h => h.mono fun _ => .inl⟩
  unfold Board.answer
  split
  · exact hsame
  · next g hg =>
    obtain ⟨hm, rfl⟩ := mem_of_group? hg
    split
    · exact ending_fillSlot hm slot _
    · obtain ⟨hfollows, hfill⟩ := ending_fillSlot hm slot none
      exact ⟨hfollows, fun h => (hfill h).mono fun i => Or.imp_right (List.mem_cons_of_mem _)⟩
    · exact ⟨follows_setGroup hm rfl rfl fun _ => rfl, fun h => h.setGroup hm rfl
        (fun _ _ => .inl) ⟨fun _ => .inr (List.mem_singleton_self _), nofun⟩⟩
    · exact hsame

/-! Calling off -/

theorem Ending.callOff (h : b.Ending due) (hm : g ∈ b.groups) :
    (b.callOff g).1.Ending (fun i => due i ∨ .groupTurn i ∈ (b.callOff g).2) ∧
      Follows b (b.callOff g).1 ∧
      (∀ h ∈ (b.callOff g).1.groups, h.id = g.id → h.calledOff = true) ∧
      ∀ h ∈ b.groups, h.id ≠ g.id → h ∈ (b.callOff g).1.groups := by
  have hset {g' : Group} (hid : g'.id = g.id) (hc : g'.calledOff = true) :
      (∀ h ∈ (b.setGroup g').groups, h.id = g.id → h.calledOff = true) ∧
        ∀ h ∈ b.groups, h.id ≠ g.id → h ∈ (b.setGroup g').groups := by
    refine ⟨fun h hh he => ?_, fun h hh hne => mem_setGroup.mpr (.inl ⟨hh, hid ▸ hne⟩)⟩
    rcases mem_setGroup.mp hh with ⟨-, hne⟩ | ⟨rfl, -⟩
    · exact absurd (he.trans hid.symm) hne
    · exact hc
  unfold Board.callOff
  cases hc : g.calledOff with
  | true =>
    refine ⟨h.mono fun _ => .inl, .refl b, fun h' hh he => ?_, fun h hh _ => hh⟩
    obtain rfl := h.eq_of_id hh hm he
    exact hc
  | false =>
    have hends := h.ends g hm
    cases hs : g.stage with
    | waiting =>
      refine ⟨h.setGroup hm rfl (fun _ _ => .inl) ⟨fun _ => .inr ?_, nofun⟩,
        follows_setGroup hm rfl rfl fun _ => rfl, hset rfl rfl⟩
      exact List.mem_append_right _ (List.mem_singleton_self _)
    | fresh =>
      exact ⟨h.setGroup hm rfl (fun _ _ => .inl)
          ⟨fun _ => .inl (hends.turn (by simp [hs])), nofun⟩,
        follows_setGroup hm rfl rfl fun _ => rfl, hset rfl rfl⟩
    | ready =>
      exact ⟨h.setGroup hm rfl (fun _ _ => .inl)
          ⟨fun _ => .inl (hends.turn (by simp [hs])), nofun⟩,
        follows_setGroup hm rfl rfl fun _ => rfl, hset rfl rfl⟩

/-- Groups that are called off one after the other. -/
theorem ending_foldl_callOff (gs : List Group) (change : Board × List Signal)
    (hnd : (gs.map (·.id)).Nodup) (hgs : ∀ g ∈ gs, g ∈ change.1.groups)
    (h : change.1.Ending fun i => due i ∨ .groupTurn i ∈ change.2) :
    let after := gs.foldl (fun change g =>
      let (b, signals) := change.1.callOff g
      (b, change.2 ++ signals)) change
    (after.1.Ending fun i => due i ∨ .groupTurn i ∈ after.2) ∧ Follows change.1 after.1 ∧
      ∀ h ∈ after.1.groups, h.id ∈ gs.map (·.id) → h.calledOff = true := by
  induction gs generalizing change with
  | nil => exact ⟨h, .refl _, fun h _ hid => absurd hid List.not_mem_nil⟩
  | cons g gs ih =>
    obtain ⟨hfirst, hnd⟩ := List.nodup_cons.mp hnd
    obtain ⟨hoff, hfollows, hcalled, hkept⟩ := h.callOff (hgs g List.mem_cons_self)
    have hne : ∀ g' ∈ gs, g'.id ≠ g.id := fun g' hg' he =>
      hfirst (List.mem_map.mpr ⟨g', hg', he⟩)
    obtain ⟨hend, hfollows', hcalled'⟩ := ih
      ((change.1.callOff g).1, change.2 ++ (change.1.callOff g).2) hnd
      (fun g' hg' => hkept g' (hgs g' (List.mem_cons_of_mem _ hg')) (hne g' hg'))
      (hoff.mono fun i hd => by simpa [or_assoc] using hd)
    refine ⟨hend, hfollows.trans hfollows', fun g' hg' hid => ?_⟩
    rcases List.mem_cons.mp hid with hid | hid
    · obtain ⟨g'', hg'', hid'', -, hc⟩ := hfollows'.groups g' hg'
      exact hc (hcalled g'' hg'' (hid''.symm.trans hid))
    · exact hcalled' g' hg' hid

theorem callOffSheet_sheets (b : Board) (sheet : Nat) :
    (b.callOffSheet sheet).1.sheets = b.sheets := by
  have hone (b : Board) (g : Group) : (b.callOff g).1.sheets = b.sheets := by
    unfold callOff
    split
    · rfl
    · split <;> rfl
  exact List.foldlRecOn (motive := fun change : Board × List Signal => change.1.sheets = b.sheets)
    _ _ rfl fun change hs g _ => (hone change.1 g).trans hs

theorem Ending.callOffSheet (h : b.Ending due) (sheet : Nat) :
    (b.callOffSheet sheet).1.Ending
        (fun i => due i ∨ .groupTurn i ∈ (b.callOffSheet sheet).2) ∧
      Follows b (b.callOffSheet sheet).1 ∧
      ∀ g ∈ (b.callOffSheet sheet).1.groups, g.sheet = sheet → g.calledOff = true := by
  have hstart : b.Ending fun i => due i ∨ .groupTurn i ∈ ([] : List Signal) := h.mono fun _ => .inl
  obtain ⟨hend, hfollows, hcalled⟩ := ending_foldl_callOff (b.groupsOf sheet) (b, [])
    (h.nodup.sublist (List.filter_sublist.map _)) (fun g hg => List.mem_of_mem_filter hg) hstart
  refine ⟨hend, hfollows, fun g hg hs => hcalled g hg ?_⟩
  obtain ⟨g₀, hg₀, hid, hsheet, -⟩ := hfollows.groups g hg
  refine hid ▸ List.mem_map_of_mem (List.mem_filter.mpr ⟨hg₀, ?_⟩)
  simp [← hsheet, hs]

/-! Passes -/

theorem Ending.startPass (h : b.Ending due) (buffer : Text) (mentions : List Mention) :
    (b.startPass buffer mentions).2.1.Ending
      fun i => due i ∨ .groupTurn i ∈ (b.startPass buffer mentions).2.2 := by
  rw [startPass_eq]
  have hnew {g : Group} (hg : g ∈ b.opened buffer mentions) := isNew_of_mem hg
  refine ⟨?_, fun g hg => ?_, fun g hg => ?_⟩
  · rw [List.map_append, List.nodup_append]
    refine ⟨h.nodup, ?_, fun i hi j hj => ?_⟩
    · rw [opened, newGroups_ids]
      exact List.nodup_range'
    · obtain ⟨g, hg, rfl⟩ := List.mem_map.mp hi
      obtain ⟨g', hg', rfl⟩ := List.mem_map.mp hj
      exact ((h.id_lt g hg).trans_le (hnew hg').first_le).ne
  · rcases List.mem_append.mp hg with hg | hg
    · exact (h.id_lt g hg).trans_le (Nat.le_add_right _ _)
    · exact (hnew hg).id_lt
  · rcases List.mem_append.mp hg with hg | hg
    · exact (h.ends g hg).mono .inl
    · refine ⟨fun _ => .inr ?_, fun hw => ?_⟩
      · exact List.mem_append_left _ (List.mem_append_right _ (List.mem_map_of_mem hg))
      · rw [(hnew hg).stage] at hw
        cases hw

end CommitMessage.Board
