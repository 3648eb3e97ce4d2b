import CommitMessage.Proofs.Board.Turns

/-! A pass that has just begun. Its groups open their slots one after the other, and then the slots
ask one after the other, in the order of the mentions. -/

namespace CommitMessage.Board

variable {b b' : Board} {g g' : Group} {groups : List Group} {id slot : Nat}

/-! Turns to come -/

/-- The turn of a slot that has yet to ask. -/
structure Turn where
  group : Nat
  slot : Nat
  mention : Mention

def Group.turns (g : Group) : List Turn :=
  g.slots.mapIdx fun slot entry => { group := g.id, slot, mention := entry.1 }

theorem Group.mem_turns {t : Turn} :
    t ∈ g.turns ↔ t.group = g.id ∧ ∃ state, g.slots[t.slot]? = some (t.mention, state) := by
  rw [Group.turns, List.mem_mapIdx]
  constructor
  · rintro ⟨slot, hlt, rfl⟩
    exact ⟨rfl, g.slots[slot].2, List.getElem?_eq_getElem hlt⟩
  · rintro ⟨hid, state, hs⟩
    obtain ⟨hlt, he⟩ := List.getElem?_eq_some_iff.mp hs
    obtain ⟨group, slot, mention⟩ := t
    obtain rfl : group = g.id := hid
    exact ⟨slot, hlt, by simp [he]⟩

theorem Group.turns_mentions (g : Group) : g.turns.map (·.mention) = g.slots.map (·.1) := by
  refine List.ext_getElem? fun i => ?_
  simp [Group.turns, List.getElem?_mapIdx, Function.comp_def]

theorem Group.nodup_turns (g : Group) : (g.turns.map fun t => (t.group, t.slot)).Nodup := by
  have he : g.turns.map (fun t => (t.group, t.slot)) =
      (List.range g.slots.length).map fun slot => (g.id, slot) := by
    refine List.ext_getElem (by simp [Group.turns]) fun i hi hi' => ?_
    simp [Group.turns]
  rw [he]
  exact List.nodup_range.map fun _ _ h => (Prod.mk.inj h).2

/-- These groups have yet to open their slots, and then these slots have yet to ask. -/
structure Opening (groups : List Group) (turns : List Turn) (b : Board) : Prop where
  fresh : ∀ g ∈ b.groups, g.stage = .fresh → g ∈ groups
  closed : ∀ g ∈ groups, g ∈ b.groups ∧ g.stage = .fresh ∧ ∀ entry ∈ g.slots, entry.2 = .fresh
  nodup : groups.Nodup
  opened : ∀ t ∈ turns, ∃ g ∈ b.groups, g.id = t.group ∧ g.stage ≠ .fresh ∧
    g.slots[t.slot]? = some (t.mention, .fresh)
  once : (turns.map fun t => (t.group, t.slot)).Nodup

def IsAsking (b : Board) (id slot : Nat) : Prop :=
  ∃ g ∈ b.groups, g.id = id ∧ ∃ m, g.slots[slot]? = some (m, .asking)

theorem Moves.isAsking {gone : Nat → Nat → Prop} (h : b.Moves gone b') (ha : b.IsAsking id slot)
    (hg : ¬ gone id slot) : b'.IsAsking id slot := by
  obtain ⟨g, hm, rfl, m, hs⟩ := ha
  rcases h.asking g hm slot m hs with hgone | ⟨g', hm', hsame, hs'⟩
  · exact absurd hgone hg
  · exact ⟨g', hm', hsame.id, m, hs'⟩

theorem opening_startPass (hb : b.groups = []) (buffer : Text) (mentions : List Mention) :
    Opening (b.opened buffer mentions) [] (b.startPass buffer mentions).2.1 := by
  have hgroups : (b.startPass buffer mentions).2.1.groups = b.opened buffer mentions := by
    rw [startPass_eq, hb]
    rfl
  refine ⟨fun g hg _ => hgroups ▸ hg, fun g hg => ?_, ?_, nofun, List.nodup_nil⟩
  · have hnew := isNew_of_mem hg
    obtain ⟨ms, -, hs⟩ := hnew.slots
    refine ⟨hgroups ▸ hg, hnew.stage, fun entry he => ?_⟩
    rw [hs] at he
    obtain ⟨m, -, rfl⟩ := List.mem_map.mp he
    rfl
  · refine List.Nodup.of_map (·.id) ?_
    rw [opened, newGroups_ids]
    exact List.nodup_range'

theorem turns_opened (b : Board) (buffer : Text) (mentions : List Mention) :
    (b.opened buffer mentions).flatMap (fun g => g.turns.map (·.mention)) =
      (byLine mentions).flatMap (·.2) := by
  have hall (first serial generation : Nat) (lines : List (Int × List Mention)) :
      (newGroups first serial generation buffer lines).flatMap
        (fun g => g.turns.map (·.mention)) = lines.flatMap (·.2) := by
    induction lines generalizing first with
    | nil => rfl
    | cons entry lines ih =>
      rw [newGroups, List.flatMap_cons, List.flatMap_cons, ih, Group.turns_mentions]
      simp [Function.comp_def]
  exact hall _ _ _ _

/-- A group that has opened its slots changes, but none of its slots that have yet to ask. -/
theorem Opening.setGroup {turns : List Turn} (hb : b.Steady) (h : Opening groups turns b)
    (hg : g ∈ b.groups) (hid : g'.id = g.id) (hs : g.stage ≠ .fresh) (hs' : g'.stage ≠ .fresh)
    (hslots : ∀ t ∈ turns, t.group = g.id → g'.slots[t.slot]? = g.slots[t.slot]?) :
    Opening groups turns (b.setGroup g') := by
  have hother {f : Group} (hf : f ∈ b.groups) (hne : f.id ≠ g.id) : f ∈ (b.setGroup g').groups :=
    mem_setGroup.mpr (.inl ⟨hf, hid ▸ hne⟩)
  refine ⟨fun f hf hfresh => ?_, fun f hf => ?_, h.nodup, fun t ht => ?_, h.once⟩
  · rcases mem_setGroup.mp hf with ⟨hf, -⟩ | ⟨rfl, -⟩
    · exact h.fresh f hf hfresh
    · exact absurd hfresh hs'
  · obtain ⟨hm, hfresh, hall⟩ := h.closed f hf
    refine ⟨hother hm fun he => ?_, hfresh, hall⟩
    obtain rfl := List.inj_on_of_nodup_map hb.nodup hm hg he
    exact hs hfresh
  · obtain ⟨f, hf, hfid, hfs, hget⟩ := h.opened t ht
    by_cases he : f.id = g.id
    · obtain rfl := List.inj_on_of_nodup_map hb.nodup hf hg he
      refine ⟨g', mem_setGroup.mpr (.inr ⟨rfl, f, hf, hid.symm⟩), hid.trans hfid, hs', ?_⟩
      rw [hslots t ht hfid.symm, hget]
    · exact ⟨f, hother hf he, hfid, hfs, hget⟩

theorem Opening.groupTurn {turns : List Turn} (hb : b.Steady) (h : Opening (g :: groups) turns b) :
    (b.groupTurn g.id).2 = g.turns.map (fun t => .slotTurn t.group t.slot) ∧
      Opening groups (turns ++ g.turns) (b.groupTurn g.id).1 := by
  obtain ⟨hm, hfresh, hall⟩ := h.closed g List.mem_cons_self
  obtain ⟨hnot, hnodup⟩ := List.nodup_cons.mp h.nodup
  have hget := hb.group?_of_mem hm
  have hturn : b.groupTurn g.id = (b.setGroup { g with stage := .waiting },
      (List.range g.slots.length).map (Signal.slotTurn g.id)) := by
    simp [Board.groupTurn, hget, hfresh, hb.calledOff g hm]
  have hkeep {f : Group} (hf : f ∈ b.groups) (hne : f ≠ g) :
      f ∈ (b.setGroup { g with stage := .waiting }).groups :=
    mem_setGroup.mpr (.inl ⟨hf, fun he => hne (List.inj_on_of_nodup_map hb.nodup hf hm he)⟩)
  rw [hturn]
  refine ⟨?_, fun f hf hff => ?_, fun f hf => ?_, hnodup, fun t ht => ?_, ?_⟩
  · refine List.ext_getElem (by simp [Group.turns]) fun i hi hi' => ?_
    simp [Group.turns]
  · rcases mem_setGroup.mp hf with ⟨hf, hne⟩ | ⟨rfl, -⟩
    · rcases List.mem_cons.mp (h.fresh f hf hff) with rfl | hf
      · exact absurd rfl hne
      · exact hf
    · cases hff
  · obtain ⟨hf', hff, hslots⟩ := h.closed f (List.mem_cons_of_mem _ hf)
    refine ⟨hkeep hf' ?_, hff, hslots⟩
    rintro rfl
    exact hnot hf
  · rcases List.mem_append.mp ht with ht | ht
    · obtain ⟨f, hf, hid, hff, hs⟩ := h.opened t ht
      refine ⟨f, hkeep hf ?_, hid, hff, hs⟩
      rintro rfl
      exact hff hfresh
    · obtain ⟨hid, state, hs⟩ := Group.mem_turns.mp ht
      refine ⟨{ g with stage := .waiting }, mem_setGroup.mpr (.inr ⟨rfl, g, hm, rfl⟩), hid.symm,
        by simp, ?_⟩
      obtain rfl : state = .fresh := hall _ (List.mem_of_getElem? hs)
      exact hs
  · rw [List.map_append]
    refine h.once.append g.nodup_turns fun key hk hk' => ?_
    obtain ⟨t, ht, rfl⟩ := List.mem_map.mp hk
    obtain ⟨t', ht', he⟩ := List.mem_map.mp hk'
    obtain ⟨f, hf, hid, hff, -⟩ := h.opened t ht
    have hgroup : f.id = g.id :=
      hid.trans ((Prod.mk.inj he).1.symm.trans (Group.mem_turns.mp ht').1)
    obtain rfl := List.inj_on_of_nodup_map hb.nodup hf hm hgroup
    exact hff hfresh

theorem Opening.slotTurn {t : Turn} {turns : List Turn} (hb : b.Steady)
    (h : Opening groups (t :: turns) b) :
    (∃ pass, (b.slotTurn t.group t.slot).2 = [.ask t.group t.slot pass t.mention.reference]) ∧
      ¬ b.IsAsking t.group t.slot ∧ (b.slotTurn t.group t.slot).1.IsAsking t.group t.slot ∧
      Opening groups turns (b.slotTurn t.group t.slot).1 := by
  obtain ⟨g, hm, hid, hstage, hs⟩ := h.opened t List.mem_cons_self
  obtain ⟨hnot, honce⟩ := List.nodup_cons.mp h.once
  have hget : b.group? t.group = some g := hid ▸ hb.group?_of_mem hm
  have hturn : b.slotTurn t.group t.slot = (b.setGroup (g.setSlot t.slot .asking),
      [.ask t.group t.slot g.pass t.mention.reference]) := by
    simp [Board.slotTurn, hget, hb.calledOff g hm, hs]
  have hrest : Opening groups turns b :=
    ⟨h.fresh, h.closed, h.nodup, fun t' ht => h.opened t' (List.mem_cons_of_mem _ ht), honce⟩
  rw [hturn]
  refine ⟨⟨g.pass, rfl⟩, ?_, ⟨g.setSlot t.slot .asking, mem_setGroup.mpr (.inr ⟨rfl, g, hm, rfl⟩),
    hid, t.mention, by simp [getElem?_setSlot, hs]⟩, hrest.setGroup hb hm rfl hstage hstage ?_⟩
  · rintro ⟨f, hf, hfid, m, hfs⟩
    obtain rfl := List.inj_on_of_nodup_map hb.nodup hf hm (hfid.trans hid.symm)
    simp [hs] at hfs
  · intro t' ht hgroup
    rw [getElem?_setSlot, if_neg]
    intro hslot
    exact hnot (List.mem_map.mpr ⟨t', ht, Prod.ext (hgroup.trans hid) hslot⟩)

theorem Opening.answer {turns : List Turn} (hb : b.Steady) (h : Opening groups turns b)
    (id slot : Nat) {outcome : Outcome} (ho : outcome ≠ .stopped) :
    Opening groups turns (b.answer id slot outcome).1 := by
  rcases answer_cases hb id slot ho with ⟨he, -⟩ | ⟨g, m, notes, hg, hs, -, he⟩
  · rw [he]
    exact h
  · obtain ⟨hm, -⟩ := mem_of_group? hg
    have hstage : g.stage ≠ .fresh := by
      intro hf
      have hfresh := (h.closed g (h.fresh g hm hf)).2.2 _ (List.mem_of_getElem? hs)
      cases hfresh
    rw [he]
    refine h.setGroup hb hm rfl hstage ?_ fun t ht hgroup => ?_
    · unfold Group.filled
      dsimp only
      split
      · nofun
      · exact hstage
    · rw [filled_slots, getElem?_setSlot, if_neg]
      rintro rfl
      obtain ⟨f, hf, hid, -, hget⟩ := h.opened t ht
      obtain rfl := List.inj_on_of_nodup_map hb.nodup hf hm (hid.trans hgroup)
      simp [hs] at hget

/-- When all groups have opened their slots, a group does nothing but end. -/
theorem Opening.groupTurn_open {turns : List Turn} (hb : b.Steady) (h : Opening [] turns b)
    (id : Nat) : (∀ group slot, .slotTurn group slot ∉ (b.groupTurn id).2) ∧
      Opening [] turns (b.groupTurn id).1 := by
  rcases groupTurn_cases hb id with ⟨he, -⟩ | ⟨g, hg, hs, -⟩ | ⟨g, hg, hs, he⟩
  · rw [he]
    exact ⟨nofun, h⟩
  · exact absurd (h.fresh g (mem_of_group? hg).1 hs) List.not_mem_nil
  · obtain ⟨hm, rfl⟩ := mem_of_group? hg
    have hmem {f : Group} : f ∈ ((b.commitGroup g).1.dropGroup g.id).groups ↔
        f ∈ b.groups ∧ f.id ≠ g.id := by
      rw [mem_dropGroup, (commitGroup_groups b g).1]
    rw [he]
    refine ⟨fun group slot hx => ?_, fun f hf hff => h.fresh f (hmem.mp hf).1 hff, nofun,
      List.nodup_nil, fun t ht => ?_, h.once⟩
    · rcases List.mem_append.mp hx with hx | hx
      · rcases commitGroup_cases b g with ⟨s, -, -, hc⟩ | ⟨-, hc⟩ <;> simp [hc] at hx
      · simp at hx
    · obtain ⟨f, hf, hid, hff, hget⟩ := h.opened t ht
      refine ⟨f, hmem.mpr ⟨hf, fun he => ?_⟩, hid, hff, hget⟩
      obtain rfl := List.inj_on_of_nodup_map hb.nodup hf hm he
      exact (hb.staged f hf).stage_ne_ready hget rfl hs

end CommitMessage.Board
