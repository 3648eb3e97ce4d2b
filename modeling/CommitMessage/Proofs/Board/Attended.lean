import CommitMessage.Proofs.Board.NewPass

/-! No group of a board is forgotten: each has a turn or an answer coming. A board with nothing to
come has no groups, and every turn takes it closer to that. -/

namespace CommitMessage.Board

variable {b : Board} {g : Group} {id slot : Nat}

/-- What can come to a board. -/
inductive Wake where
  | group (id : Nat)
  | slot (group slot : Nat)
  | answer (group slot : Nat)

def Signal.wake? : Signal → Option Wake
  | .groupTurn id => some (.group id)
  | .slotTurn group slot => some (.slot group slot)
  | .ask group slot _ _ => some (.answer group slot)
  | _ => none

def wakes (signals : List Signal) : List Wake := signals.filterMap Signal.wake?

structure Group.Attended (due : Wake → Prop) (g : Group) : Prop where
  turn : g.stage ≠ .waiting → due (.group g.id)
  slot : ∀ i m, g.slots[i]? = some (m, .fresh) → g.stage ≠ .fresh → due (.slot g.id i)
  answer : ∀ i m, g.slots[i]? = some (m, .asking) → due (.answer g.id i)

def Attended (due : Wake → Prop) (b : Board) : Prop := ∀ g ∈ b.groups, g.Attended due

theorem Group.Attended.mono {due due' : Wake → Prop} (h : g.Attended due)
    (hd : ∀ w, due w → due' w) : g.Attended due' :=
  ⟨fun hs => hd _ (h.turn hs), fun i m hi hs => hd _ (h.slot i m hi hs),
    fun i m hi => hd _ (h.answer i m hi)⟩

theorem Attended.mono {due due' : Wake → Prop} (h : b.Attended due)
    (hd : ∀ w, due w → due' w) : b.Attended due' := fun g hg => (h g hg).mono hd

theorem Attended.groups_eq_nil (hb : b.Steady) (h : b.Attended fun _ => False) :
    b.groups = [] := by
  refine List.eq_nil_iff_forall_not_mem.mpr fun g hg => ?_
  have ha := h g hg
  have hw : g.stage = .waiting := by_contra ha.turn
  have hn : ¬ ∀ entry ∈ g.slots, entry.2.isDone = true := fun hd => by
    have hr := (hb.staged g hg).mpr hd
    rw [hw] at hr
    cases hr
  apply hn
  intro entry he
  obtain ⟨i, hi⟩ := List.getElem?_of_mem he
  obtain ⟨m, state⟩ := entry
  cases state with
  | fresh => exact (ha.slot i m hi (by simp [hw])).elim
  | asking => exact (ha.answer i m hi).elim
  | done a => rfl

/-! What comes of turns and answers -/

theorem Attended.groupTurn {due : Wake → Prop} (hb : b.Steady)
    (h : b.Attended fun w => due w ∨ w = .group id) :
    (b.groupTurn id).1.Attended fun w => due w ∨ w ∈ wakes (b.groupTurn id).2 := by
  have hother {g : Group} (hg : g ∈ b.groups) (hid : g.id ≠ id) :
      g.Attended due := by
    have ha := h g hg
    refine ⟨fun hs => ?_, fun i m hi hs => ?_, fun i m hi => ?_⟩
    · exact (ha.turn hs).resolve_right (by simpa using hid)
    · exact (ha.slot i m hi hs).resolve_right nofun
    · exact (ha.answer i m hi).resolve_right nofun
  rcases groupTurn_cases hb id with ⟨he, hw⟩ | ⟨g, hg, hs, he⟩ | ⟨g, hg, hs, he⟩
  · rw [he]
    intro g hg
    by_cases hid : g.id = id
    · have hst := hw g (hid ▸ hb.group?_of_mem hg)
      have ha := h g hg
      exact ⟨fun hn => absurd hst hn,
        fun i m hi hs => .inl ((ha.slot i m hi hs).resolve_right nofun),
        fun i m hi => .inl ((ha.answer i m hi).resolve_right nofun)⟩
    · exact (hother hg hid).mono fun _ => .inl
  · obtain ⟨hm, rfl⟩ := mem_of_group? hg
    rw [he]
    intro g' hg'
    rcases mem_setGroup.mp hg' with ⟨hg', hid⟩ | ⟨rfl, -⟩
    · exact (hother hg' hid).mono fun _ => .inl
    · refine ⟨fun hn => absurd rfl hn, fun i m hi _ => .inr ?_, fun i m hi => .inl ?_⟩
      · obtain ⟨hlt, -⟩ := List.getElem?_eq_some_iff.mp hi
        exact List.mem_filterMap.mpr ⟨_, List.mem_map.mpr ⟨i, List.mem_range.mpr hlt, rfl⟩, rfl⟩
      · exact ((h g hm).answer i m hi).resolve_right nofun
  · obtain ⟨hm, rfl⟩ := mem_of_group? hg
    rw [he]
    intro g' hg'
    obtain ⟨hg', hid⟩ := mem_dropGroup.mp hg'
    rw [(commitGroup_groups b g).1] at hg'
    exact (hother hg' hid).mono fun _ => .inl

theorem Attended.slotTurn {due : Wake → Prop} (hb : b.Steady)
    (h : b.Attended fun w => due w ∨ w = .slot id slot) :
    (b.slotTurn id slot).1.Attended fun w => due w ∨ w ∈ wakes (b.slotTurn id slot).2 := by
  have hother {g : Group} (hg : g ∈ b.groups)
      (hid : g.id = id → ∀ m, g.slots[slot]? ≠ some (m, .fresh)) : g.Attended due := by
    have ha := h g hg
    refine ⟨fun hs => (ha.turn hs).resolve_right nofun, fun i m hi hs => ?_,
      fun i m hi => (ha.answer i m hi).resolve_right nofun⟩
    refine (ha.slot i m hi hs).resolve_right fun he => ?_
    cases he
    exact hid rfl m hi
  rcases slotTurn_cases hb id slot with ⟨he, hn⟩ | ⟨g, m, hg, hs, he⟩
  · rw [he]
    exact fun g hg => (hother hg fun hid m => hn g m (hid ▸ hb.group?_of_mem hg)).mono fun _ => .inl
  · obtain ⟨hm, rfl⟩ := mem_of_group? hg
    rw [he]
    intro g' hg'
    rcases mem_setGroup.mp hg' with ⟨hg', hid⟩ | ⟨rfl, -⟩
    · exact (hother hg' fun hh => absurd hh hid).mono fun _ => .inl
    · have ha := h g hm
      refine ⟨fun hst => .inl ((ha.turn hst).resolve_right nofun), fun i m' hi hst => ?_,
        fun i m' hi => ?_⟩
      · rw [getElem?_setSlot] at hi
        by_cases hslot : i = slot
        · simp [hslot, hs] at hi
        · rw [if_neg hslot] at hi
          exact .inl ((ha.slot i m' hi hst).resolve_right fun hh => by cases hh; exact hslot rfl)
      · rw [getElem?_setSlot] at hi
        by_cases hslot : i = slot
        · subst hslot
          exact .inr (List.mem_singleton_self _)
        · rw [if_neg hslot] at hi
          exact .inl ((ha.answer i m' hi).resolve_right nofun)

theorem Attended.answer {due : Wake → Prop} {outcome : Outcome} (hb : b.Steady)
    (ho : outcome ≠ .stopped) (h : b.Attended fun w => due w ∨ w = .answer id slot) :
    (b.answer id slot outcome).1.Attended
      fun w => due w ∨ w ∈ wakes (b.answer id slot outcome).2 := by
  have hother {g : Group} (hg : g ∈ b.groups)
      (hid : g.id = id → ∀ m, g.slots[slot]? ≠ some (m, .asking)) : g.Attended due := by
    have ha := h g hg
    refine ⟨fun hs => (ha.turn hs).resolve_right (by simp),
      fun i m hi hs => (ha.slot i m hi hs).resolve_right (by simp), fun i m hi => ?_⟩
    refine (ha.answer i m hi).resolve_right fun he => ?_
    cases he
    exact hid rfl m hi
  rcases answer_cases hb id slot ho with ⟨he, hn⟩ | ⟨g, m, notes, hg, hs, -, he⟩
  · rw [he]
    exact fun g hg => (hother hg fun hid m => hn g m (hid ▸ hb.group?_of_mem hg)).mono fun _ => .inl
  · obtain ⟨hm, rfl⟩ := mem_of_group? hg
    rw [he]
    intro g' hg'
    have ha := h g hm
    rcases mem_setGroup.mp hg' with ⟨hg', hne⟩ | ⟨rfl, -⟩
    · exact (hother hg' fun hh => absurd hh hne).mono fun _ => .inl
    · have hkept {i : Nat} {m' : Mention} {state : Slot} (hd : state.isDone = false)
          (hi : (g.filled slot outcome.resolution?).slots[i]? = some (m', state)) :
          g.slots[i]? = some (m', state) ∧ i ≠ slot := by
        simp only [Group.filled, getElem?_setSlot] at hi
        by_cases hslot : i = slot
        · simp only [hslot, hs, if_true, Option.map_some, Option.some.injEq, Prod.mk.injEq] at hi
          rw [← hi.2] at hd
          cases hd
        · exact ⟨by simpa [hslot] using hi, hslot⟩
      by_cases hall : (g.filled slot outcome.resolution?).slots.all (·.2.isDone) = true
      · have hdone := List.all_eq_true.mp hall
        refine ⟨fun _ => .inr ?_, fun i m' hi _ => ?_, fun i m' hi => ?_⟩
        · rw [if_pos hall]
          exact List.mem_filterMap.mpr ⟨.groupTurn g.id, by simp, rfl⟩
        · cases hdone _ (List.mem_of_getElem? hi)
        · cases hdone _ (List.mem_of_getElem? hi)
      · have hst : (g.filled slot outcome.resolution?).stage = g.stage := if_neg hall
        refine ⟨fun hn => ?_, fun i m' hi hn => ?_, fun i m' hi => ?_⟩
        · rw [hst] at hn
          exact .inl ((ha.turn hn).resolve_right (by simp))
        · rw [hst] at hn
          exact .inl ((ha.slot i m' (hkept rfl hi).1 hn).resolve_right (by simp))
        · obtain ⟨hi, hne⟩ := hkept rfl hi
          exact .inl ((ha.answer i m' hi).resolve_right fun hh => by cases hh; exact hne rfl)

theorem Attended.startPass {due : Wake → Prop} (h : b.Attended due) (buffer : Text)
    (mentions : List Mention) :
    (b.startPass buffer mentions).2.1.Attended
      fun w => due w ∨ w ∈ wakes (b.startPass buffer mentions).2.2 := by
  rw [startPass_eq]
  intro g hg
  rcases List.mem_append.mp hg with hg | hg
  · exact (h g hg).mono fun _ => .inl
  · have hn := isNew_of_mem hg
    refine ⟨fun _ => .inr ?_, fun i m hi hs => absurd hn.stage hs, fun i m hi => ?_⟩
    · refine List.mem_filterMap.mpr ⟨.groupTurn g.id, ?_, rfl⟩
      simp only [List.mem_append, List.mem_map]
      exact .inl (.inr ⟨g, hg, rfl⟩)
    · obtain ⟨ms, -, hs⟩ := hn.slots
      rw [hs, List.getElem?_map] at hi
      obtain ⟨_, _, he⟩ := Option.map_eq_some_iff.mp hi
      cases he

/-! The turns that a board may still have, when a slot may cost as many as `c` elsewhere -/

def Slot.cost (c : Nat) : Slot → Nat
  | fresh => c
  | _ => 0

@[simp] theorem Slot.cost_fresh (c : Nat) : Slot.cost c .fresh = c := rfl

@[simp] theorem Slot.cost_asking (c : Nat) : Slot.cost c .asking = 0 := rfl

@[simp] theorem Slot.cost_done (c : Nat) (a : Option Resolution) : Slot.cost c (.done a) = 0 := rfl

def Group.cost (c : Nat) (g : Group) : Nat :=
  (match g.stage with
    | .fresh => g.slots.length + 1
    | .waiting => 1
    | .ready => 0) + (g.slots.map (·.2.cost c)).sum

def cost (c : Nat) (b : Board) : Nat := (b.groups.map (·.cost c)).sum

def isTurn : Signal → Bool
  | .groupTurn _ | .slotTurn _ _ => true
  | _ => false

theorem cost_setGroup (hb : b.Steady) (hg : g ∈ b.groups) (g' : Group) (hid : g'.id = g.id)
    (c : Nat) : (b.setGroup g').cost c + g.cost c = b.cost c + g'.cost c :=
  Keyed.sum_replace (Group.cost c) hb.nodup hg hid

theorem cost_dropGroup (hb : b.Steady) (hg : g ∈ b.groups) (c : Nat) :
    (b.dropGroup g.id).cost c + g.cost c = b.cost c :=
  Keyed.sum_drop (Group.cost c) hb.nodup hg

theorem sum_cost_setSlot {m : Mention} {old : Slot} (state : Slot) (c : Nat)
    (hs : g.slots[slot]? = some (m, old)) :
    ((g.setSlot slot state).slots.map (·.2.cost c)).sum + old.cost c =
      (g.slots.map (·.2.cost c)).sum + state.cost c := by
  obtain ⟨hlt, hget⟩ := List.getElem?_eq_some_iff.mp hs
  have hsplit := List.take_append_drop slot g.slots
  rw [List.drop_eq_getElem_cons hlt, hget] at hsplit
  have hset : (g.setSlot slot state).slots =
      g.slots.take slot ++ (m, state) :: g.slots.drop (slot + 1) := by
    rw [Group.setSlot, List.modify_eq_take_cons_drop hlt, hget]
  rw [hset, ← hsplit]
  simp only [List.map_append, List.map_cons, List.sum_append, List.sum_cons]
  rw [hsplit]
  omega

theorem cost_commitGroup (b : Board) (g : Group) (c : Nat) :
    (b.commitGroup g).1.cost c = b.cost c := by
  rw [cost, (commitGroup_groups b g).1, cost]

theorem countP_commitGroup (b : Board) (g : Group) : (b.commitGroup g).2.countP isTurn = 0 := by
  rcases commitGroup_cases b g with ⟨s, -, -, he⟩ | ⟨-, he⟩
  · rw [he]
    rfl
  · rw [he]
    rfl

theorem cost_groupTurn (hb : b.Steady) (id c : Nat) :
    (b.groupTurn id).2.countP isTurn + (b.groupTurn id).1.cost c ≤ b.cost c := by
  rcases groupTurn_cases hb id with ⟨he, -⟩ | ⟨g, hg, hs, he⟩ | ⟨g, hg, hs, he⟩
  · simp [he]
  · obtain ⟨hm, rfl⟩ := mem_of_group? hg
    have hc := cost_setGroup hb hm { g with stage := .waiting } rfl c
    have hcount : ((List.range g.slots.length).map (Signal.slotTurn g.id)).countP isTurn =
        g.slots.length := by
      rw [List.countP_map, List.countP_eq_length.mpr (by simp [isTurn]), List.length_range]
    simp only [Group.cost, hs] at hc
    rw [he]
    dsimp only
    omega
  · obtain ⟨hm, rfl⟩ := mem_of_group? hg
    have hc := cost_dropGroup (hb.commitGroup g)
      (by rw [(commitGroup_groups b g).1]; exact hm) c
    rw [cost_commitGroup] at hc
    rw [he]
    simp only [List.countP_append, countP_commitGroup, isTurn, List.countP_singleton]
    simp
    omega

theorem cost_slotTurn (hb : b.Steady) (id slot c : Nat) :
    b.slotTurn id slot = (b, []) ∨
      ∃ pass r, (b.slotTurn id slot).2 = [.ask id slot pass r] ∧
        (b.slotTurn id slot).1.cost c + c = b.cost c := by
  rcases slotTurn_cases hb id slot with ⟨he, -⟩ | ⟨g, m, hg, hs, he⟩
  · exact .inl he
  · obtain ⟨hm, rfl⟩ := mem_of_group? hg
    have hc := cost_setGroup hb hm (g.setSlot slot .asking) rfl c
    have hsum := sum_cost_setSlot .asking c hs
    have hlen : (g.setSlot slot .asking).slots.length = g.slots.length := by
      simp [Group.setSlot]
    have hst : (g.setSlot slot .asking).stage = g.stage := rfl
    simp only [Group.cost, hlen, hst] at hc
    refine .inr ⟨g.pass, m.reference, by rw [he], ?_⟩
    rw [he]
    simp only [Slot.cost_fresh, Slot.cost_asking] at hsum
    dsimp only
    omega

theorem cost_answer (hb : b.Steady) (id slot c : Nat) {outcome : Outcome}
    (ho : outcome ≠ .stopped) :
    (b.answer id slot outcome).2.countP isTurn + (b.answer id slot outcome).1.cost c ≤
      b.cost c := by
  rcases answer_cases hb id slot ho with ⟨he, -⟩ | ⟨g, m, notes, hg, hs, hn, he⟩
  · simp [he]
  · obtain ⟨hm, rfl⟩ := mem_of_group? hg
    have hc := cost_setGroup hb hm (g.filled slot outcome.resolution?) rfl c
    have hsum := sum_cost_setSlot (.done outcome.resolution?) c hs
    have hlen : (g.setSlot slot (.done outcome.resolution?)).slots.length = g.slots.length := by
      simp [Group.setSlot]
    have hnotes : notes.countP isTurn = 0 := by
      refine List.countP_eq_zero.mpr fun n hm => ?_
      obtain ⟨e, rfl⟩ := hn n hm
      simp [isTurn]
    have hne := (hb.staged g hm).stage_ne_ready hs rfl
    simp only [Slot.cost_asking, Slot.cost_done] at hsum
    rw [he]
    simp only [List.countP_append, hnotes]
    by_cases hall : (g.filled slot outcome.resolution?).slots.all (·.2.isDone) = true
    · have hst : (g.filled slot outcome.resolution?).stage = .ready := if_pos hall
      simp only [Group.cost, filled_slots, hst] at hc
      rw [if_pos hall]
      cases hg : g.stage with
      | ready => exact absurd hg hne
      | fresh => simp only [hg, isTurn, List.countP_singleton, if_true] at hc ⊢; omega
      | waiting => simp only [hg, isTurn, List.countP_singleton, if_true] at hc ⊢; omega
    · have hst : (g.filled slot outcome.resolution?).stage = g.stage := if_neg hall
      simp only [Group.cost, filled_slots, hst, hlen] at hc
      rw [if_neg hall]
      simp only [List.countP_nil]
      omega

end CommitMessage.Board
