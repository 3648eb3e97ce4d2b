import CommitMessage.Proofs.Board.Steady

/-! What a new pass does to a board: the groups that it opens, one for each line with mentions,
and the lines that it clears. -/

namespace CommitMessage.Board

variable {b : Board} {g : Group}

/-- The groups for the lines of a pass, with numbers from `first` on. -/
def newGroups (first serial generation : Nat) (buffer : Text) :
    List (Int × List Mention) → List Group
  | [] => []
  | (line, mentions) :: rest =>
    { id := first, sheet := serial, buffer, generation, line,
      slots := mentions.map fun m => (m, .fresh) } ::
      newGroups (first + 1) serial generation buffer rest

theorem foldl_openGroup (buffer : Text) (lines : List (Int × List Mention)) (b : Board)
    (s : Sheet) (signals : List Signal) :
    let news := newGroups b.nextGroup s.serial s.generation buffer lines
    lines.foldl (openGroup buffer) (b, s, signals) =
      ({ b with groups := b.groups ++ news, nextGroup := b.nextGroup + lines.length },
        { s with pending := news.foldl (fun p g => Register.set g.line g.id p) s.pending },
        signals ++ news.map (Signal.groupTurn ·.id)) := by
  induction lines generalizing b s signals with
  | nil => simp [newGroups]
  | cons entry lines ih =>
    obtain ⟨line, mentions⟩ := entry
    simp only [List.foldl_cons, openGroup, ih, newGroups, List.append_assoc, List.map_cons,
      List.length_cons, List.singleton_append, Nat.add_assoc, Nat.add_comm 1]

theorem foldl_clearLine (buffer : Text) (lines : List Int) (s : Sheet) (signals : List Signal) :
    lines.foldl (clearLine buffer) (s, signals) =
      ({ s with committed := lines.foldl (fun c line => Register.set line [] c) s.committed },
        signals ++ lines.map fun line => .commit none ⟨buffer, line, []⟩) := by
  induction lines generalizing s signals with
  | nil => simp
  | cons line lines ih => simp [clearLine, ih]

def Sheet.lost (s : Sheet) (mentions : List Mention) : List Int :=
  (sortedLines s.shownLines).filter fun line => !(byLine mentions).any (·.1 == line)

def opened (b : Board) (buffer : Text) (mentions : List Mention) : List Group :=
  newGroups b.nextGroup (b.sheetFor buffer).2.serial ((b.sheetFor buffer).2.generation + 1) buffer
    (byLine mentions)

/-- The sheet of a buffer when a pass has started. -/
def sheetAfter (b : Board) (buffer : Text) (mentions : List Mention) : Sheet :=
  let s := (b.sheetFor buffer).2
  { serial := s.serial
    generation := s.generation + 1
    committed := (s.lost mentions).foldl (fun c line => Register.set line [] c) s.committed
    pending := (b.opened buffer mentions).foldl (fun p g => Register.set g.line g.id p) [] }

theorem sheetFor_eq (b : Board) (buffer : Text) :
    (b.sheetFor buffer).1 = { b with nextSheet := (b.sheetFor buffer).1.nextSheet } := by
  unfold sheetFor
  cases b.sheets.get? buffer <;> rfl

theorem startPass_eq (b : Board) (buffer : Text) (mentions : List Mention) :
    b.startPass buffer mentions =
      ((b.sheetFor buffer).2.generation + 1,
        { sheets := b.sheets.set buffer (b.sheetAfter buffer mentions)
          groups := b.groups ++ b.opened buffer mentions
          nextGroup := b.nextGroup + (byLine mentions).length
          nextSheet := (b.sheetFor buffer).1.nextSheet },
        ((b.sheetFor buffer).2.lost mentions).map (fun line => .commit none ⟨buffer, line, []⟩) ++
          (b.opened buffer mentions).map (Signal.groupTurn ·.id) ++
          [.note ⟨none, .groupsDispatched buffer ((b.sheetFor buffer).2.generation + 1)
            (byLine mentions).length⟩]) := by
  have hb := sheetFor_eq b buffer
  simp only [startPass, foldl_clearLine, foldl_openGroup]
  rw [hb]
  simp [sheetAfter, opened, Sheet.lost, Sheet.shownLines]

/-! The new groups -/

section

variable {first serial generation : Nat} {buffer : Text} {lines : List (Int × List Mention)}

/-- A group that has just been opened. -/
structure IsNew (first serial generation : Nat) (buffer : Text)
    (lines : List (Int × List Mention)) (g : Group) : Prop where
  sheet : g.sheet = serial
  generation : g.generation = generation
  buffer : g.buffer = buffer
  stage : g.stage = .fresh
  calledOff : g.calledOff = false
  first_le : first ≤ g.id
  id_lt : g.id < first + lines.length
  slots : ∃ ms, (g.line, ms) ∈ lines ∧ g.slots = ms.map fun m => (m, .fresh)

theorem isNew_of_mem (hg : g ∈ newGroups first serial generation buffer lines) :
    IsNew first serial generation buffer lines g := by
  induction lines generalizing first with
  | nil => simp [newGroups] at hg
  | cons entry lines ih =>
    obtain ⟨line, ms⟩ := entry
    rcases List.mem_cons.mp hg with rfl | hg
    · exact ⟨rfl, rfl, rfl, rfl, rfl, le_refl _, by simp, ms, by simp, rfl⟩
    · have hh := ih hg
      obtain ⟨ms', hm, hs⟩ := hh.slots
      have hle := hh.first_le
      have hlt := hh.id_lt
      exact ⟨hh.sheet, hh.generation, hh.buffer, hh.stage, hh.calledOff, by omega,
        by simp only [List.length_cons]; omega, ms', List.mem_cons_of_mem _ hm, hs⟩

theorem exists_newGroup (first serial generation : Nat) (buffer : Text) {line : Int}
    {ms : List Mention} (h : (line, ms) ∈ lines) :
    ∃ g ∈ newGroups first serial generation buffer lines, g.line = line := by
  induction lines generalizing first with
  | nil => simp at h
  | cons entry lines ih =>
    rcases List.mem_cons.mp h with rfl | h
    · exact ⟨_, List.mem_cons_self, rfl⟩
    · obtain ⟨g, hg, hl⟩ := ih (first + 1) h
      exact ⟨g, List.mem_cons_of_mem _ hg, hl⟩

theorem newGroups_ids :
    (newGroups first serial generation buffer lines).map (·.id) =
      List.range' first lines.length := by
  induction lines generalizing first with
  | nil => rfl
  | cons entry lines ih => simp [newGroups, ih, List.range'_succ]

theorem newGroups_lines :
    (newGroups first serial generation buffer lines).map (·.line) = lines.map (·.1) := by
  induction lines generalizing first with
  | nil => rfl
  | cons entry lines ih => simp [newGroups, ih]

end

theorem get?_foldl_set_lines {groups : List Group} {p : Register Int Nat} {line : Int}
    (hn : line ∉ groups.map (·.line)) :
    (groups.foldl (fun p g => Register.set g.line g.id p) p).get? line = p.get? line := by
  induction groups generalizing p with
  | nil => rfl
  | cons g groups ih =>
    simp only [List.map_cons, List.mem_cons, not_or] at hn
    rw [List.foldl_cons, ih hn.2, Register.get?_set, if_neg hn.1]

theorem get?_foldl_set_of_mem {groups : List Group} {p : Register Int Nat}
    (hnd : (groups.map (·.line)).Nodup) (hg : g ∈ groups) :
    (groups.foldl (fun p g => Register.set g.line g.id p) p).get? g.line = some g.id := by
  induction groups generalizing p with
  | nil => simp at hg
  | cons h groups ih =>
    have hn := List.nodup_cons.mp hnd
    rcases List.mem_cons.mp hg with rfl | hg
    · rw [List.foldl_cons, get?_foldl_set_lines hn.1, Register.get?_set, if_pos rfl]
    · exact ih hn.2 hg

theorem get?_foldl_clear (lines : List Int) (c : Register Int (List Annotation)) (line : Int) :
    (lines.foldl (fun c line => Register.set line [] c) c).get? line =
      if line ∈ lines then some [] else c.get? line := by
  induction lines generalizing c with
  | nil => simp
  | cons l lines ih =>
    rw [List.foldl_cons, ih, Register.get?_set]
    by_cases h : line = l
    · simp [h]
    · simp [h]

theorem nodup_keys_foldl_clear (lines : List Int) {c : Register Int (List Annotation)}
    (hnd : c.keys.Nodup) :
    (lines.foldl (fun c line => Register.set line [] c) c).keys.Nodup := by
  induction lines generalizing c with
  | nil => exact hnd
  | cons l lines ih => exact ih (Register.nodup_keys_set hnd)

theorem nodup_lines_opened (b : Board) (buffer : Text) (mentions : List Mention) :
    ((b.opened buffer mentions).map (·.line)).Nodup := by
  rw [opened, newGroups_lines]
  exact List.pairwise_map.mpr ((pairwise_byLine mentions).imp fun h he => by simp [he] at h)

/-! A board stays steady -/

theorem Steady.startPass (hb : b.Steady) (buffer : Text) (mentions : List Mention) :
    (b.startPass buffer mentions).2.1.Steady := by
  rw [startPass_eq]
  have hnew {g : Group} (hg : g ∈ b.opened buffer mentions) := isNew_of_mem hg
  have hne {g : Group} (hg : g ∈ b.opened buffer mentions) : g.slots ≠ [] := by
    obtain ⟨ms, hm, hs⟩ := (hnew hg).slots
    simpa [hs] using (mem_byLine.mp hm).2
  have hall {P : Group → Prop} (hP : ∀ g ∈ b.groups, P g)
      (hn : ∀ g ∈ b.opened buffer mentions, P g) :
      ∀ g ∈ b.groups ++ b.opened buffer mentions, P g :=
    fun g hg => (List.mem_append.mp hg).elim (hP g) (hn g)
  constructor
  · rw [List.map_append, List.nodup_append]
    refine ⟨hb.nodup, ?_, ?_⟩
    · rw [opened, newGroups_ids]
      exact List.nodup_range'
    · rintro id hid id' hid' rfl
      obtain ⟨g, hg, rfl⟩ := List.mem_map.mp hid
      obtain ⟨g', hg', he⟩ := List.mem_map.mp hid'
      have hlt := hb.id_lt g hg
      have hle := (hnew hg').first_le
      omega
  · refine hall (fun g hg => ?_) (fun g hg => (hnew hg).id_lt)
    exact Nat.lt_of_lt_of_le (hb.id_lt g hg) (Nat.le_add_right _ _)
  · exact hall hb.calledOff fun g hg => (hnew hg).calledOff
  · exact hall hb.slots_ne fun g hg => hne hg
  · refine hall hb.staged fun g hg => ⟨fun hr => ?_, fun hdone => ?_⟩
    · rw [(hnew hg).stage] at hr
      cases hr
    · obtain ⟨ms, -, hs⟩ := (hnew hg).slots
      obtain ⟨entry, he⟩ := List.exists_mem_of_ne_nil _ (hne hg)
      have hd := hdone entry he
      rw [hs] at he
      obtain ⟨m, -, rfl⟩ := List.mem_map.mp he
      cases hd

theorem commitGroup_groups (b : Board) (g : Group) :
    (b.commitGroup g).1.groups = b.groups ∧ (b.commitGroup g).1.nextGroup = b.nextGroup := by
  rcases commitGroup_cases b g with ⟨s, -, -, he⟩ | ⟨-, he⟩
  · rw [he]
    exact ⟨rfl, rfl⟩
  · rw [he]
    exact ⟨rfl, rfl⟩

theorem Steady.commitGroup (hb : b.Steady) (g : Group) : (b.commitGroup g).1.Steady := by
  obtain ⟨hg, hn⟩ := commitGroup_groups b g
  constructor <;> rw [hg]
  · exact hb.nodup
  · rw [hn]
    exact hb.id_lt
  · exact hb.calledOff
  · exact hb.slots_ne
  · exact hb.staged

theorem Steady.groupTurn (hb : b.Steady) (id : Nat) : (b.groupTurn id).1.Steady := by
  rcases groupTurn_cases hb id with ⟨he, _⟩ | ⟨g, hg, hs, he⟩ | ⟨g, hg, hs, he⟩
  · rw [he]
    exact hb
  · rw [he]
    have hm := (mem_of_group? hg).1
    refine hb.setGroup (hb.calledOff g hm) (hb.slots_ne g hm) ⟨nofun, fun hd => ?_⟩
    have hr := (hb.staged g hm).mpr hd
    rw [hs] at hr
    cases hr
  · rw [he]
    exact (hb.commitGroup g).dropGroup id

theorem Steady.slotTurn (hb : b.Steady) (id slot : Nat) : (b.slotTurn id slot).1.Steady := by
  rcases slotTurn_cases hb id slot with ⟨he, _⟩ | ⟨g, m, hg, hs, he⟩
  · rw [he]
    exact hb
  · rw [he]
    have hm := (mem_of_group? hg).1
    exact hb.setGroup (hb.calledOff g hm) (setSlot_slots_ne (hb.slots_ne g hm))
      ((hb.staged g hm).setSlot hs rfl rfl)

theorem Steady.answer (hb : b.Steady) (id slot : Nat) {outcome : Outcome}
    (ho : outcome ≠ .stopped) : (b.answer id slot outcome).1.Steady := by
  rcases answer_cases hb id slot ho with ⟨he, _⟩ | ⟨g, m, notes, hg, hs, _, he⟩
  · rw [he]
    exact hb
  · rw [he]
    have hm := (mem_of_group? hg).1
    exact hb.setGroup (hb.calledOff g hm) (setSlot_slots_ne (hb.slots_ne g hm))
      ((hb.staged g hm).filled hs _)

end CommitMessage.Board
