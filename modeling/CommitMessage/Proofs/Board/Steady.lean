import CommitMessage.Board.Basic
import CommitMessage.Proofs.Register
import Mathlib

/-! A board that is given the lines of a pass, and on which no group is called off. -/

/-! The lines of a pass stand in increasing order, each with its mentions, and so do the annotations
of one line. -/

namespace CommitMessage

theorem Text.precedes_iff_le {t u : Text} : t.precedes u = true ↔ t ≤ u := by
  induction t generalizing u with
  | nil =>
    rw [le_iff_lt_or_eq]
    cases u <;> simp [Text.precedes]
  | cons c t ih =>
    rw [le_iff_lt_or_eq]
    cases u with
    | nil => simp [Text.precedes]
    | cons d u =>
      simp only [Text.precedes, Bool.or_eq_true, Bool.and_eq_true, decide_eq_true_eq, beq_iff_eq,
        ih, List.cons_lt_cons_iff, List.cons.injEq, le_iff_lt_or_eq (a := t)]
      tauto

namespace Board

/-- Earlier positions first; at one position the identifiers decide. -/
def InOrder (a b : Annotation) : Prop :=
  a.position < b.position ∨
    a.position = b.position ∧ a.reference.identifier ≤ b.reference.identifier

theorem precedes_iff {a b : Annotation} : precedes a b = true ↔ InOrder a b := by
  simp [precedes, InOrder, Text.precedes_iff_le]

theorem precedes_trans (a b c : Annotation) (hab : precedes a b = true)
    (hbc : precedes b c = true) : precedes a c = true := by
  rw [precedes_iff] at *
  rcases hab with hab | ⟨hab, hle⟩ <;> rcases hbc with hbc | ⟨hbc, hle'⟩
  · exact .inl (hab.trans hbc)
  · exact .inl (hbc ▸ hab)
  · exact .inl (hab ▸ hbc)
  · exact .inr ⟨hab.trans hbc, le_trans hle hle'⟩

theorem precedes_total (a b : Annotation) : (precedes a b || precedes b a) = true := by
  rw [Bool.or_eq_true, precedes_iff, precedes_iff]
  rcases lt_trichotomy a.position b.position with h | h | h
  · exact .inl (.inl h)
  · rcases le_total a.reference.identifier b.reference.identifier with hle | hle
    · exact .inl (.inr ⟨h, hle⟩)
    · exact .inr (.inr ⟨h.symm, hle⟩)
  · exact .inr (.inl h)

theorem pairwise_inOrder_mergeSort (l : List Annotation) :
    (l.mergeSort precedes).Pairwise InOrder :=
  (List.pairwise_mergeSort precedes_trans precedes_total l).imp precedes_iff.mp

theorem nodup_eraseDups {α : Type} [BEq α] [LawfulBEq α] (l : List α) : l.eraseDups.Nodup := by
  induction hn : l.length using Nat.strongRecOn generalizing l with
  | ind n ih =>
    cases l with
    | nil => simp
    | cons a rest =>
      rw [List.eraseDups_cons, List.nodup_cons]
      have hlt : (rest.filter fun b => !b == a).length < n := by
        have := List.length_filter_le (fun b => !b == a) rest
        simp only [List.length_cons] at hn
        omega
      exact ⟨by simp, ih _ hlt _ rfl⟩

theorem pairwise_sortedLines (lines : List Int) : (sortedLines lines).Pairwise (· < ·) := by
  have hle : (sortedLines lines).Pairwise (· ≤ ·) := by
    have h := @List.pairwise_mergeSort Int (fun a b => decide (a ≤ b))
      (by simpa using fun a b c => Int.le_trans) (by simpa using fun a b => Int.le_total a b)
      lines.eraseDups
    simpa [sortedLines] using h
  have hnd : (sortedLines lines).Nodup :=
    (List.mergeSort_perm _ _).nodup_iff.mpr (nodup_eraseDups lines)
  exact (hle.and hnd).imp fun h => lt_of_le_of_ne h.1 h.2

theorem mem_sortedLines {lines : List Int} {line : Int} :
    line ∈ sortedLines lines ↔ line ∈ lines := by
  simp [sortedLines]

/-- The mentions of one line, in the order of the pass. -/
def onLine (mentions : List Mention) (line : Int) : List Mention :=
  mentions.filter (·.line == line)

theorem mem_byLine {mentions : List Mention} {line : Int} {ms : List Mention} :
    (line, ms) ∈ byLine mentions ↔ ms = onLine mentions line ∧ ms ≠ [] := by
  simp only [byLine, List.mem_map, mem_sortedLines, Prod.mk.injEq, onLine]
  constructor
  · rintro ⟨_, ⟨m, hm, rfl⟩, rfl, rfl⟩
    exact ⟨rfl, List.ne_nil_of_mem (List.mem_filter.mpr ⟨hm, by simp⟩)⟩
  · rintro ⟨rfl, hne⟩
    obtain ⟨m, hm⟩ := List.exists_mem_of_ne_nil _ hne
    obtain ⟨hm, hl⟩ := List.mem_filter.mp hm
    exact ⟨line, ⟨m, hm, by simpa using hl⟩, rfl, rfl⟩

theorem pairwise_byLine (mentions : List Mention) :
    (byLine mentions).Pairwise (fun a b => a.1 < b.1) := by
  rw [byLine, List.pairwise_map]
  exact pairwise_sortedLines _

/-- Two lists with increasing lines are equal when they have the same entries. -/
theorem eq_of_lines_increasing {α : Type} {l l' : List (Int × α)}
    (h : l.Pairwise (fun a b => a.1 < b.1)) (h' : l'.Pairwise (fun a b => a.1 < b.1))
    (hm : ∀ entry, entry ∈ l ↔ entry ∈ l') : l = l' := by
  have hnd : l.Nodup := h.imp fun hab he => by simp [he] at hab
  have hnd' : l'.Nodup := h'.imp fun hab he => by simp [he] at hab
  refine List.Perm.eq_of_pairwise (fun a b _ _ hab hba => ?_) h h'
    ((List.perm_ext_iff_of_nodup hnd hnd').mpr hm)
  omega

/-! The order of the mentions -/

/-- One mention stands before another. -/
def StandsBefore (m n : Mention) : Prop :=
  m.line < n.line ∨ m.line = n.line ∧ m.position < n.position

/-- Mentions that are in order already are not reordered line by line. -/
theorem flatMap_byLine {mentions : List Mention} (h : mentions.Pairwise StandsBefore) :
    (byLine mentions).flatMap (·.2) = mentions := by
  have hirrefl (m n : Mention) (hmn : StandsBefore m n) : m ≠ n := by
    rintro rfl
    rcases hmn with hlt | ⟨-, hlt⟩ <;> exact lt_irrefl _ hlt
  have hsorted : ((byLine mentions).flatMap (·.2)).Pairwise StandsBefore := by
    refine List.pairwise_flatMap.mpr ⟨fun entry he => ?_, ?_⟩
    · obtain ⟨line, ms⟩ := entry
      rw [(mem_byLine.mp he).1]
      exact h.filter _
    · refine (pairwise_byLine mentions).imp_of_mem fun {e e'} he he' hlt m hm n hn => .inl ?_
      obtain ⟨line, ms⟩ := e
      obtain ⟨line', ms'⟩ := e'
      rw [(mem_byLine.mp he).1] at hm
      rw [(mem_byLine.mp he').1] at hn
      have hml : m.line = line := by simpa using (List.mem_filter.mp hm).2
      have hnl : n.line = line' := by simpa using (List.mem_filter.mp hn).2
      rw [hml, hnl]
      exact hlt
  have hmem (m : Mention) : m ∈ (byLine mentions).flatMap (·.2) ↔ m ∈ mentions := by
    rw [List.mem_flatMap]
    constructor
    · rintro ⟨⟨line, ms⟩, he, hm⟩
      rw [(mem_byLine.mp he).1] at hm
      exact List.mem_of_mem_filter hm
    · intro hm
      have hline : m ∈ onLine mentions m.line := List.mem_filter.mpr ⟨hm, by simp⟩
      exact ⟨_, mem_byLine.mpr ⟨rfl, List.ne_nil_of_mem hline⟩, hline⟩
  refine List.Perm.eq_of_pairwise (fun m n _ _ hmn hnm => ?_) hsorted h
    ((List.perm_ext_iff_of_nodup (hsorted.imp fun {m n} => hirrefl m n)
      (h.imp fun {m n} => hirrefl m n)).mpr hmem)
  unfold StandsBefore at hmn hnm
  omega

end Board

end CommitMessage

/-! The groups have distinct numbers, and the stage of a group says how far its slots are. Every
turn, every answer and every new pass keeps this. -/

namespace CommitMessage

/-- What the one who asked learns; nothing if the lookup failed. -/
def Outcome.resolution? : Outcome → Option Resolution
  | resolved r => some r
  | _ => none

namespace Board

variable {b : Board} {g h : Group} {id slot : Nat}

/-- A group is ready when its slots are done, and not before. -/
def Group.Staged (g : Group) : Prop :=
  g.stage = .ready ↔ ∀ entry ∈ g.slots, entry.2.isDone = true

structure Steady (b : Board) : Prop where
  nodup : (b.groups.map (·.id)).Nodup
  id_lt : ∀ g ∈ b.groups, g.id < b.nextGroup
  calledOff : ∀ g ∈ b.groups, g.calledOff = false
  slots_ne : ∀ g ∈ b.groups, g.slots ≠ []
  staged : ∀ g ∈ b.groups, g.Staged

theorem steady_empty : Steady {} := by
  constructor <;> simp

theorem mem_of_group? (hg : b.group? id = some g) : g ∈ b.groups ∧ g.id = id := by
  have hid : g.id = id := by simpa using List.find?_some hg
  exact ⟨List.mem_of_find?_eq_some hg, hid⟩

theorem Steady.group?_of_mem (hb : b.Steady) (hg : g ∈ b.groups) : b.group? g.id = some g :=
  Keyed.find?_of_mem hb.nodup hg (by simp)

theorem mem_setGroup :
    h ∈ (b.setGroup g).groups ↔
      h ∈ b.groups ∧ h.id ≠ g.id ∨ h = g ∧ ∃ g₀ ∈ b.groups, g₀.id = g.id :=
  Keyed.mem_replace

theorem mem_dropGroup : h ∈ (b.dropGroup id).groups ↔ h ∈ b.groups ∧ h.id ≠ id := by
  simp [dropGroup]

theorem setGroup_ids : (b.setGroup g).groups.map (·.id) = b.groups.map (·.id) :=
  Keyed.keys_replace Group.id b.groups g

@[simp] theorem setGroup_sheets : (b.setGroup g).sheets = b.sheets := rfl

@[simp] theorem dropGroup_sheets : (b.dropGroup id).sheets = b.sheets := rfl

theorem Steady.setGroup (hb : b.Steady) (hc : g.calledOff = false) (hs : g.slots ≠ [])
    (hst : g.Staged) : (b.setGroup g).Steady := by
  have hnd : ((b.setGroup g).groups.map (·.id)).Nodup := by
    rw [setGroup_ids]
    exact hb.nodup
  have hall {P : Group → Prop} (hP : ∀ h ∈ b.groups, P h) (hg : P g) :
      ∀ h ∈ (b.setGroup g).groups, P h := by
    intro h hm
    rcases mem_setGroup.mp hm with ⟨hm, _⟩ | ⟨rfl, _⟩
    · exact hP h hm
    · exact hg
  refine ⟨hnd, fun h hm => ?_, hall hb.calledOff hc, hall hb.slots_ne hs,
    hall hb.staged hst⟩
  rcases mem_setGroup.mp hm with ⟨hm, _⟩ | ⟨rfl, g₀, hm, hid⟩
  · exact hb.id_lt h hm
  · exact hid ▸ hb.id_lt g₀ hm

theorem Steady.dropGroup (hb : b.Steady) (id : Nat) : (b.dropGroup id).Steady := by
  have hsub : ∀ h ∈ (b.dropGroup id).groups, h ∈ b.groups := fun h hm => (mem_dropGroup.mp hm).1
  exact ⟨hb.nodup.sublist (List.filter_sublist.map _), fun h hm => hb.id_lt h (hsub h hm),
    fun h hm => hb.calledOff h (hsub h hm), fun h hm => hb.slots_ne h (hsub h hm),
    fun h hm => hb.staged h (hsub h hm)⟩

/-! Slots -/

theorem getElem?_setSlot (g : Group) (slot i : Nat) (state : Slot) :
    (g.setSlot slot state).slots[i]? =
      if i = slot then g.slots[i]?.map fun entry => (entry.1, state) else g.slots[i]? := by
  simp only [Group.setSlot, List.getElem?_modify]
  by_cases h : i = slot
  · simp [h]
  · simp [h, Ne.symm h]

@[simp] theorem setSlot_mentions (g : Group) (slot : Nat) (state : Slot) :
    (g.setSlot slot state).slots.map (·.1) = g.slots.map (·.1) := by
  apply List.ext_getElem?
  intro i
  simp only [List.getElem?_map, getElem?_setSlot]
  by_cases h : i = slot
  · simp [h, Function.comp_def]
  · simp [h]

theorem setSlot_slots_ne {state : Slot} (h : g.slots ≠ []) : (g.setSlot slot state).slots ≠ [] := by
  intro he
  have hm := setSlot_mentions g slot state
  rw [he] at hm
  exact h (List.map_eq_nil_iff.mp hm.symm)

/-- A group after an answer: ready when no slot is left. -/
def Group.filled (g : Group) (slot : Nat) (answer : Option Resolution) : Group :=
  { g with
    slots := (g.setSlot slot (.done answer)).slots
    stage := if (g.setSlot slot (.done answer)).slots.all (·.2.isDone) then .ready else g.stage }

theorem filled_slots (g : Group) (slot : Nat) (answer : Option Resolution) :
    (g.filled slot answer).slots = (g.setSlot slot (.done answer)).slots := rfl

theorem fillSlot_eq (b : Board) (g : Group) (slot : Nat) (answer : Option Resolution) :
    b.fillSlot g slot answer = (b.setGroup (g.filled slot answer),
      if (g.filled slot answer).slots.all (·.2.isDone) then [.groupTurn g.id] else []) := by
  unfold fillSlot Group.filled
  by_cases h : (g.setSlot slot (.done answer)).slots.all (·.2.isDone) = true
  · simp only [h, if_true]
    rfl
  · simp only [h]
    rfl

theorem Group.Staged.stage_ne_ready {m : Mention} {state : Slot} (hst : g.Staged)
    (hs : g.slots[slot]? = some (m, state)) (hd : state.isDone = false) : g.stage ≠ .ready := by
  intro hr
  have hdone := hst.mp hr _ (List.mem_of_getElem? hs)
  rw [hd] at hdone
  cases hdone

theorem Group.Staged.setSlot {m : Mention} {old state : Slot} (hst : g.Staged)
    (hs : g.slots[slot]? = some (m, old)) (ho : old.isDone = false) (hn : state.isDone = false) :
    (g.setSlot slot state).Staged := by
  refine ⟨fun hr => absurd hr (hst.stage_ne_ready hs ho), fun hall => ?_⟩
  have hget : (g.setSlot slot state).slots[slot]? = some (m, state) := by
    simp [getElem?_setSlot, hs]
  have hdone := hall _ (List.mem_of_getElem? hget)
  rw [hn] at hdone
  cases hdone

theorem Group.Staged.filled {m : Mention} (hst : g.Staged)
    (hs : g.slots[slot]? = some (m, .asking)) (answer : Option Resolution) :
    (g.filled slot answer).Staged := by
  by_cases h : (g.setSlot slot (.done answer)).slots.all (·.2.isDone) = true
  · exact ⟨fun _ => List.all_eq_true.mp h, fun _ => if_pos h⟩
  · refine ⟨fun hr => ?_, fun hall => absurd (List.all_eq_true.mpr hall) h⟩
    rw [Group.filled, if_neg h] at hr
    exact absurd hr (hst.stage_ne_ready hs rfl)

/-! What a turn and an answer can do -/

/-- A sheet with the line of a group committed. -/
def Sheet.committing (s : Sheet) (g : Group) : Sheet :=
  { s with
    pending := if s.pending.get? g.line = some g.id then s.pending.erase g.line else s.pending
    committed := s.committed.set g.line g.annotations }

theorem commitGroup_cases (b : Board) (g : Group) :
    (∃ s, b.sheets.get? g.buffer = some s ∧ s.generation = g.generation ∧
      b.commitGroup g = ({ b with sheets := b.sheets.set g.buffer (s.committing g) },
        [.commit (some g.pass) ⟨g.buffer, g.line, g.annotations⟩])) ∨
    (∀ s, b.sheets.get? g.buffer = some s → s.generation ≠ g.generation) ∧
      b.commitGroup g = (b, [.note ⟨some g.pass, .staleGroup g.buffer g.line⟩]) := by
  cases hs : b.sheets.get? g.buffer with
  | none => exact .inr ⟨by simp, by simp [commitGroup, hs]⟩
  | some s =>
    by_cases h : s.generation = g.generation
    · exact .inl ⟨s, rfl, h, by simp [commitGroup, hs, h, Sheet.committing]⟩
    · exact .inr ⟨by simpa using h, by simp [commitGroup, hs, h]⟩

theorem groupTurn_cases (hb : b.Steady) (id : Nat) :
    (b.groupTurn id = (b, []) ∧ ∀ g, b.group? id = some g → g.stage = .waiting) ∨
    (∃ g, b.group? id = some g ∧ g.stage = .fresh ∧
      b.groupTurn id = (b.setGroup { g with stage := .waiting },
        (List.range g.slots.length).map (Signal.slotTurn id))) ∨
    (∃ g, b.group? id = some g ∧ g.stage = .ready ∧
      b.groupTurn id = ((b.commitGroup g).1.dropGroup id,
        (b.commitGroup g).2 ++ [.ended id])) := by
  cases hg : b.group? id with
  | none => exact .inl ⟨by simp [groupTurn, hg], by simp⟩
  | some g =>
    have hc := hb.calledOff g (mem_of_group? hg).1
    cases hs : g.stage with
    | fresh => exact .inr (.inl ⟨g, rfl, hs, by simp [groupTurn, hg, hs, hc]⟩)
    | waiting => exact .inl ⟨by simp [groupTurn, hg, hs], by simp [hs]⟩
    | ready => exact .inr (.inr ⟨g, rfl, hs, by simp [groupTurn, hg, hs, hc]⟩)

theorem slotTurn_cases (hb : b.Steady) (id slot : Nat) :
    (b.slotTurn id slot = (b, []) ∧
      ∀ g m, b.group? id = some g → g.slots[slot]? ≠ some (m, .fresh)) ∨
    (∃ g m, b.group? id = some g ∧ g.slots[slot]? = some (m, .fresh) ∧
      b.slotTurn id slot = (b.setGroup (g.setSlot slot .asking),
        [.ask id slot g.pass m.reference])) := by
  cases hg : b.group? id with
  | none => exact .inl ⟨by simp [slotTurn, hg], by simp⟩
  | some g =>
    have hc := hb.calledOff g (mem_of_group? hg).1
    cases hs : g.slots[slot]? with
    | none => exact .inl ⟨by simp [slotTurn, hg, hs], by rintro _ _ ⟨rfl⟩; simp [hs]⟩
    | some entry =>
      obtain ⟨m, state⟩ := entry
      cases state with
      | fresh => exact .inr ⟨g, m, rfl, hs, by simp [slotTurn, hg, hs, hc]⟩
      | asking => exact .inl ⟨by simp [slotTurn, hg, hs], by rintro _ _ ⟨rfl⟩; simp [hs]⟩
      | done a => exact .inl ⟨by simp [slotTurn, hg, hs], by rintro _ _ ⟨rfl⟩; simp [hs]⟩

theorem answer_cases (hb : b.Steady) (id slot : Nat) {outcome : Outcome}
    (ho : outcome ≠ .stopped) :
    (b.answer id slot outcome = (b, []) ∧
      ∀ g m, b.group? id = some g → g.slots[slot]? ≠ some (m, .asking)) ∨
    (∃ g m notes, b.group? id = some g ∧ g.slots[slot]? = some (m, .asking) ∧
      (∀ n ∈ notes, ∃ e, n = Signal.note e) ∧
      b.answer id slot outcome = (b.setGroup (g.filled slot outcome.resolution?),
        notes ++ if (g.filled slot outcome.resolution?).slots.all (·.2.isDone) then
          [.groupTurn g.id] else [])) := by
  cases hg : b.group? id with
  | none => exact .inl ⟨by simp [answer, hg], by simp⟩
  | some g =>
    have hc := hb.calledOff g (mem_of_group? hg).1
    cases hs : g.slots[slot]? with
    | none => exact .inl ⟨by simp [answer, hg, hs], by rintro _ _ ⟨rfl⟩; simp [hs]⟩
    | some entry =>
      obtain ⟨m, state⟩ := entry
      cases state with
      | fresh => exact .inl ⟨by simp [answer, hg, hs], by rintro _ _ ⟨rfl⟩; simp [hs]⟩
      | done a => exact .inl ⟨by simp [answer, hg, hs], by rintro _ _ ⟨rfl⟩; simp [hs]⟩
      | asking =>
        cases outcome with
        | stopped => exact absurd rfl ho
        | resolved r =>
          refine .inr ⟨g, m, [], rfl, hs, by simp, ?_⟩
          simp only [answer, hg, hs, hc, fillSlot_eq]
          rfl
        | failed f =>
          refine .inr ⟨g, m, [.note ⟨some g.pass, .resolutionFailed m.reference f⟩], rfl, hs,
            by simp, ?_⟩
          simp only [answer, hg, hs, hc, fillSlot_eq]
          rfl

end Board

end CommitMessage
