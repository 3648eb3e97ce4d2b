import CommitMessage.Proofs.Board.NewPass

/-! A board follows its passes: a line of the last pass of a buffer waits for a group of that pass,
or shows one annotation for each of its mentions; any other line shows nothing. -/

namespace CommitMessage.Board

variable {b : Board} {g g' : Group} {id slot : Nat} {buffer : Text}

/-- The lookup for one mention of a line in one pass. -/
structure Query where
  buffer : Text
  generation : Nat
  line : Int
  place : Nat
  deriving DecidableEq, Repr

def Group.query (g : Group) (place : Nat) : Query := ⟨g.buffer, g.generation, g.line, place⟩

/-- One annotation for each mention of a line in a pass, each after an answer to its own lookup,
in the order in which they are shown. -/
def Whole (answered : Query → Option Resolution → Prop) (buffer : Text) (generation : Nat)
    (line : Int) (mentions : List Mention) (annotations : List Annotation) : Prop :=
  ∃ answers : List (Option Resolution), answers.length = (onLine mentions line).length ∧
    (∀ i a, answers[i]? = some a → answered ⟨buffer, generation, line, i⟩ a) ∧
    annotations =
      (List.zipWith Annotation.ofAnswer (onLine mentions line) answers).mergeSort precedes

/-- What the sheet of a buffer shows of the last pass. -/
structure Sheet.Shows (answered : Query → Option Resolution → Prop) (groups : List Group)
    (buffer : Text) (mentions : List Mention) (s : Sheet) : Prop where
  nodup : s.committed.keys.Nodup
  pending : ∀ line id, s.pending.get? line = some id →
    ∃ g ∈ groups, g.id = id ∧ g.buffer = buffer ∧ g.generation = s.generation ∧ g.line = line
  waits : ∀ g ∈ groups, g.buffer = buffer → g.generation = s.generation →
    s.pending.get? g.line = some g.id
  shown : ∀ line, s.pending.get? line = none → onLine mentions line ≠ [] →
    ∃ annotations, s.committed.get? line = some annotations ∧
      Whole answered buffer s.generation line mentions annotations
  cleared : ∀ line, onLine mentions line = [] → (s.committed.get? line).getD [] = []

/-- A group belongs to a pass, and has the mentions of its line if that is the last pass. -/
structure Group.Follows (passOf : Text → Option (Nat × List Mention))
    (answered : Query → Option Resolution → Prop) (g : Group) : Prop where
  done : ∀ i m a, g.slots[i]? = some (m, .done a) → answered (g.query i) a
  pass : ∃ generation mentions, passOf g.buffer = some (generation, mentions) ∧
    g.generation ≤ generation ∧
    (g.generation = generation → g.slots.map (·.1) = onLine mentions g.line)

structure Tracks (passOf : Text → Option (Nat × List Mention))
    (answered : Query → Option Resolution → Prop) (b : Board) : Prop where
  steady : b.Steady
  distinct : (b.groups.map (·.query 0)).Nodup
  group : ∀ g ∈ b.groups, g.Follows passOf answered
  unseen : ∀ buffer, b.sheets.get? buffer = none → passOf buffer = none
  sheet : ∀ buffer s, b.sheets.get? buffer = some s →
    ∃ mentions, passOf buffer = some (s.generation, mentions) ∧
      s.Shows answered b.groups buffer mentions

variable {passOf : Text → Option (Nat × List Mention)}
  {answered answered' : Query → Option Resolution → Prop}

theorem tracks_empty : Tracks (fun _ => none) answered {} := by
  constructor <;> simp [steady_empty]

theorem Whole.mono {generation : Nat} {line : Int} {mentions : List Mention}
    {annotations : List Annotation} (h : Whole answered buffer generation line mentions annotations)
    (ha : ∀ q a, answered q a → answered' q a) :
    Whole answered' buffer generation line mentions annotations := by
  obtain ⟨answers, hlen, hans, he⟩ := h
  exact ⟨answers, hlen, fun i a hi => ha _ _ (hans i a hi), he⟩

theorem Sheet.Shows.mono {groups : List Group} {mentions : List Mention} {s : Sheet}
    (h : s.Shows answered groups buffer mentions) (ha : ∀ q a, answered q a → answered' q a) :
    s.Shows answered' groups buffer mentions := by
  refine ⟨h.nodup, h.pending, h.waits, fun line hp hl => ?_, h.cleared⟩
  obtain ⟨annotations, hc, hw⟩ := h.shown line hp hl
  exact ⟨annotations, hc, hw.mono ha⟩

theorem Tracks.mono (h : b.Tracks passOf answered) (ha : ∀ q a, answered q a → answered' q a) :
    b.Tracks passOf answered' := by
  refine ⟨h.steady, h.distinct, fun g hg => ?_, h.unseen, fun buffer s hs => ?_⟩
  · exact ⟨fun i m a hi => ha _ _ ((h.group g hg).done i m a hi), (h.group g hg).pass⟩
  · obtain ⟨mentions, hp, hsh⟩ := h.sheet buffer s hs
    exact ⟨mentions, hp, hsh.mono ha⟩

/-! A change of slots and stage -/

/-- Two states of one group. -/
structure Group.Same (g g' : Group) : Prop where
  id : g'.id = g.id
  sheet : g'.sheet = g.sheet
  query : g'.query 0 = g.query 0
  mentions : g'.slots.map (·.1) = g.slots.map (·.1)

theorem Group.Same.buffer_eq (h : g.Same g') : g'.buffer = g.buffer := congrArg Query.buffer h.query

theorem Group.Same.generation_eq (h : g.Same g') : g'.generation = g.generation :=
  congrArg Query.generation h.query

theorem Group.Same.line_eq (h : g.Same g') : g'.line = g.line := congrArg Query.line h.query

theorem Group.Same.setSlot (g : Group) (slot : Nat) (state : Slot) :
    g.Same (g.setSlot slot state) := ⟨rfl, rfl, rfl, setSlot_mentions g slot state⟩

theorem Group.Same.filled (g : Group) (slot : Nat) (answer : Option Resolution) :
    g.Same (g.filled slot answer) := ⟨rfl, rfl, rfl, setSlot_mentions g slot (.done answer)⟩

theorem Sheet.Shows.setGroup {mentions : List Mention} {s : Sheet} (hb : b.Steady)
    (hg : g ∈ b.groups) (hs : g.Same g') (h : s.Shows answered b.groups buffer mentions) :
    s.Shows answered (b.setGroup g').groups buffer mentions := by
  refine ⟨h.nodup, fun line id hp => ?_, fun g₀ hg₀ hbuf hgen => ?_, h.shown, h.cleared⟩
  · obtain ⟨g₀, hg₀, rfl, hbuf, hgen, hl⟩ := h.pending line id hp
    by_cases hid : g₀.id = g.id
    · obtain rfl := List.inj_on_of_nodup_map hb.nodup hg₀ hg hid
      exact ⟨g', mem_setGroup.mpr (.inr ⟨rfl, g₀, hg, hs.id.symm⟩), hs.id, hs.buffer_eq.trans hbuf,
        hs.generation_eq.trans hgen, hs.line_eq.trans hl⟩
    · exact ⟨g₀, mem_setGroup.mpr (.inl ⟨hg₀, hs.id ▸ hid⟩), rfl, hbuf, hgen, hl⟩
  · rcases mem_setGroup.mp hg₀ with ⟨hg₀, -⟩ | ⟨rfl, -⟩
    · exact h.waits g₀ hg₀ hbuf hgen
    · rw [hs.line_eq, hs.id]
      exact h.waits g hg (hs.buffer_eq ▸ hbuf) (hs.generation_eq ▸ hgen)

theorem Tracks.setGroup (h : b.Tracks passOf answered) (hg : g ∈ b.groups) (hs : g.Same g')
    (hb : (b.setGroup g').Steady)
    (hd : ∀ i m a, g'.slots[i]? = some (m, .done a) → answered (g'.query i) a) :
    (b.setGroup g').Tracks passOf answered := by
  refine ⟨hb, ?_, fun g₀ hg₀ => ?_, h.unseen, fun buffer s hsh => ?_⟩
  · have hq : (b.setGroup g').groups.map (·.query 0) = b.groups.map (·.query 0) := by
      rw [Board.setGroup, List.map_map]
      refine List.map_congr_left fun g₀ hg₀ => ?_
      by_cases hid : g₀.id = g'.id
      · obtain rfl := List.inj_on_of_nodup_map h.steady.nodup hg₀ hg (hid.trans hs.id)
        simp [hid, hs.query]
      · simp [hid]
    rw [hq]
    exact h.distinct
  · rcases mem_setGroup.mp hg₀ with ⟨hg₀, -⟩ | ⟨rfl, -⟩
    · exact h.group g₀ hg₀
    · obtain ⟨generation, mentions, hp, hle, hm⟩ := (h.group g hg).pass
      refine ⟨hd, generation, mentions, hs.buffer_eq ▸ hp, hs.generation_eq ▸ hle, fun he => ?_⟩
      rw [hs.mentions, hs.line_eq]
      exact hm (hs.generation_eq ▸ he)
  · obtain ⟨mentions, hp, hsh⟩ := h.sheet buffer s hsh
    exact ⟨mentions, hp, hsh.setGroup h.steady hg hs⟩

theorem Tracks.slotTurn (h : b.Tracks passOf answered) (id slot : Nat) :
    (b.slotTurn id slot).1.Tracks passOf answered := by
  have hst := h.steady.slotTurn id slot
  rcases slotTurn_cases h.steady id slot with ⟨he, -⟩ | ⟨g, m, hg, hs, he⟩
  · rw [he]
    exact h
  · rw [he] at hst ⊢
    have hm := (mem_of_group? hg).1
    refine h.setGroup hm (.setSlot g slot .asking) hst fun i m' a hi => ?_
    rw [getElem?_setSlot] at hi
    by_cases hslot : i = slot
    · simp [hslot, hs] at hi
    · rw [if_neg hslot] at hi
      exact (h.group g hm).done i m' a hi

theorem Tracks.answer {outcome : Outcome} (h : b.Tracks passOf answered) (id slot : Nat)
    (ho : outcome ≠ .stopped)
    (ha : ∀ g m, b.group? id = some g → g.slots[slot]? = some (m, .asking) →
      answered (g.query slot) outcome.resolution?) :
    (b.answer id slot outcome).1.Tracks passOf answered := by
  have hst := h.steady.answer id slot ho
  rcases answer_cases h.steady id slot ho with ⟨he, -⟩ | ⟨g, m, notes, hg, hs, -, he⟩
  · rw [he]
    exact h
  · rw [he] at hst ⊢
    have hm := (mem_of_group? hg).1
    refine h.setGroup hm (.filled g slot _) hst fun i m' a hi => ?_
    rw [filled_slots, getElem?_setSlot] at hi
    by_cases hslot : i = slot
    · subst hslot
      simp only [hs, if_true, Option.map_some, Option.some.injEq, Prod.mk.injEq,
        Slot.done.injEq] at hi
      exact hi.2 ▸ ha g m hg hs
    · rw [if_neg hslot] at hi
      exact (h.group g hm).done i m' a hi

/-! The turn of a group -/

def Slot.answer? : Slot → Option Resolution
  | done a => a
  | _ => none

theorem annotations_of_done (hd : ∀ entry ∈ g.slots, entry.2.isDone = true) :
    g.annotations = (List.zipWith Annotation.ofAnswer (g.slots.map (·.1))
      (g.slots.map (·.2.answer?))).mergeSort precedes := by
  unfold Group.annotations
  refine congrArg (List.mergeSort · precedes) ?_
  generalize g.slots = slots at hd ⊢
  induction slots with
  | nil => rfl
  | cons entry slots ih =>
    obtain ⟨m, state⟩ := entry
    have hi := ih fun e he => hd e (List.mem_cons_of_mem _ he)
    cases state with
    | done a => exact congrArg ( Annotation.ofAnswer m a :: ·) hi
    | fresh => cases hd _ List.mem_cons_self
    | asking => cases hd _ List.mem_cons_self

/-- What a group that is ready commits is whole. -/
theorem Tracks.whole (h : b.Tracks passOf answered) (hg : g ∈ b.groups) (hr : g.stage = .ready)
    {mentions : List Mention} (hp : passOf g.buffer = some (g.generation, mentions)) :
    Whole answered g.buffer g.generation g.line mentions g.annotations := by
  have hd := (h.steady.staged g hg).mp hr
  obtain ⟨generation, mentions', hp', -, hm⟩ := (h.group g hg).pass
  rw [hp] at hp'
  simp only [Option.some.injEq, Prod.mk.injEq] at hp'
  obtain ⟨rfl, rfl⟩ := hp'
  rw [Whole, ← hm rfl]
  refine ⟨g.slots.map (·.2.answer?), by simp, fun i a hi => ?_, annotations_of_done hd⟩
  rw [List.getElem?_map] at hi
  obtain ⟨⟨m, state⟩, hs, rfl⟩ := Option.map_eq_some_iff.mp hi
  cases state with
  | done a => exact (h.group g hg).done i m a hs
  | fresh => cases hd _ (List.mem_of_getElem? hs)
  | asking => cases hd _ (List.mem_of_getElem? hs)

theorem Sheet.Shows.dropGroup {mentions : List Mention} {s : Sheet} (hb : b.Steady)
    (hg : g ∈ b.groups) (h : s.Shows answered b.groups buffer mentions)
    (hn : g.buffer = buffer → g.generation ≠ s.generation) :
    s.Shows answered (b.dropGroup g.id).groups buffer mentions := by
  refine ⟨h.nodup, fun line id hp => ?_, fun g₀ hg₀ => h.waits g₀ (mem_dropGroup.mp hg₀).1,
    h.shown, h.cleared⟩
  obtain ⟨g₀, hg₀, rfl, hbuf, hgen, hl⟩ := h.pending line id hp
  refine ⟨g₀, mem_dropGroup.mpr ⟨hg₀, fun hid => ?_⟩, rfl, hbuf, hgen, hl⟩
  obtain rfl := List.inj_on_of_nodup_map hb.nodup hg₀ hg hid
  exact hn hbuf hgen

theorem Sheet.Shows.committing {mentions : List Mention} {s : Sheet} (hb : b.Steady)
    (hg : g ∈ b.groups) (h : s.Shows answered b.groups g.buffer mentions)
    (hgen : g.generation = s.generation) (hl : onLine mentions g.line ≠ [])
    (hw : Whole answered g.buffer s.generation g.line mentions g.annotations) :
    (s.committing g).Shows answered (b.dropGroup g.id).groups g.buffer mentions := by
  have hwait := h.waits g hg rfl hgen
  have hpend (line : Int) : (s.committing g).pending.get? line =
      if line = g.line then none else s.pending.get? line := by
    simp [Sheet.committing, hwait]
  have hcomm (line : Int) : (s.committing g).committed.get? line =
      if line = g.line then some g.annotations else s.committed.get? line := by
    simp [Sheet.committing]
  refine ⟨Register.nodup_keys_set h.nodup, fun line id hp => ?_, fun g₀ hg₀ hbuf hg₀gen => ?_,
    fun line hp hne => ?_, fun line hne => ?_⟩
  · rw [hpend] at hp
    by_cases hline : line = g.line
    · simp [hline] at hp
    · rw [if_neg hline] at hp
      obtain ⟨g₀, hg₀, rfl, hbuf, hg₀gen, hl₀⟩ := h.pending line id hp
      refine ⟨g₀, mem_dropGroup.mpr ⟨hg₀, fun hid => hline ?_⟩, rfl, hbuf, hg₀gen, hl₀⟩
      obtain rfl := List.inj_on_of_nodup_map hb.nodup hg₀ hg hid
      exact hl₀.symm
  · obtain ⟨hg₀, hid⟩ := mem_dropGroup.mp hg₀
    have hw₀ := h.waits g₀ hg₀ hbuf hg₀gen
    rw [hpend, if_neg, hw₀]
    intro hline
    rw [hline, hwait] at hw₀
    exact hid (Option.some.inj hw₀).symm
  · rw [hcomm]
    by_cases hline : line = g.line
    · rw [if_pos hline, hline]
      exact ⟨_, rfl, hw⟩
    · rw [hpend, if_neg hline] at hp
      rw [if_neg hline]
      exact h.shown line hp hne
  · rw [hcomm, if_neg fun hline : line = g.line => hl (hline ▸ hne)]
    exact h.cleared line hne

theorem Tracks.groupTurn (h : b.Tracks passOf answered) (id : Nat) :
    (b.groupTurn id).1.Tracks passOf answered := by
  have hst := h.steady.groupTurn id
  rcases groupTurn_cases h.steady id with ⟨he, -⟩ | ⟨g, hg, hs, he⟩ | ⟨g, hg, hs, he⟩
  · rw [he]
    exact h
  · rw [he] at hst ⊢
    have hm := (mem_of_group? hg).1
    exact h.setGroup hm ⟨rfl, rfl, rfl, rfl⟩ hst (h.group g hm).done
  · rw [he] at hst ⊢
    obtain ⟨hm, rfl⟩ := mem_of_group? hg
    have hgroups := (commitGroup_groups b g).1
    have hsub : ∀ g₀ ∈ ((b.commitGroup g).1.dropGroup g.id).groups, g₀ ∈ b.groups := by
      intro g₀ hg₀
      rw [mem_dropGroup, hgroups] at hg₀
      exact hg₀.1
    have hdrop : ((b.commitGroup g).1.dropGroup g.id).groups = (b.dropGroup g.id).groups := by
      simp only [dropGroup, hgroups]
    have hdist : (((b.commitGroup g).1.dropGroup g.id).groups.map (·.query 0)).Nodup := by
      rw [hdrop]
      exact h.distinct.sublist (List.filter_sublist.map _)
    obtain ⟨generation, mentions, hp, hle, hslots⟩ := (h.group g hm).pass
    rcases commitGroup_cases b g with ⟨s, hs', hgen, hc⟩ | ⟨hstale, hc⟩
    · obtain ⟨mentions', hp', hsh⟩ := h.sheet g.buffer s hs'
      have hpe := hp.symm.trans hp'
      simp only [Option.some.injEq, Prod.mk.injEq] at hpe
      obtain ⟨rfl, rfl⟩ := hpe
      have hl : onLine mentions g.line ≠ [] := by
        rw [← hslots hgen.symm]
        simpa using h.steady.slots_ne g hm
      have hw := h.whole hm hs (hgen ▸ hp)
      refine ⟨hst, hdist, fun g₀ hg₀ => h.group g₀ (hsub g₀ hg₀), fun buffer hbuf => ?_,
        fun buffer s' hbuf => ?_⟩
      · rw [hc, dropGroup_sheets, Register.get?_set] at hbuf
        by_cases hb : buffer = g.buffer
        · simp [hb] at hbuf
        · rw [if_neg hb] at hbuf
          exact h.unseen buffer hbuf
      · rw [hdrop]
        rw [hc, dropGroup_sheets, Register.get?_set] at hbuf
        by_cases hb : buffer = g.buffer
        · rw [if_pos hb] at hbuf
          subst hb
          obtain rfl := Option.some.inj hbuf
          exact ⟨mentions, hp, hsh.committing h.steady hm hgen.symm hl (hgen ▸ hw)⟩
        · rw [if_neg hb] at hbuf
          obtain ⟨mentions', hp', hsh'⟩ := h.sheet buffer s' hbuf
          exact ⟨mentions', hp', hsh'.dropGroup h.steady hm fun he => absurd he.symm hb⟩
    · have hsheets : ((b.commitGroup g).1.dropGroup g.id).sheets = b.sheets := by
        rw [hc]
        rfl
      refine ⟨hst, hdist, fun g₀ hg₀ => h.group g₀ (hsub g₀ hg₀), fun buffer hbuf => ?_,
        fun buffer s hbuf => ?_⟩
      · exact h.unseen buffer (hsheets ▸ hbuf)
      · rw [hsheets] at hbuf
        rw [hdrop]
        obtain ⟨mentions', hp', hsh⟩ := h.sheet buffer s hbuf
        refine ⟨mentions', hp', hsh.dropGroup h.steady hm fun hb hgen => ?_⟩
        subst hb
        exact hstale s hbuf hgen.symm

/-! A new pass -/

theorem sheetFor_cases (b : Board) (buffer : Text) :
    (∃ s, b.sheets.get? buffer = some s ∧ (b.sheetFor buffer).2 = s) ∨
      b.sheets.get? buffer = none ∧ (b.sheetFor buffer).2 = { serial := b.nextSheet } := by
  cases hs : b.sheets.get? buffer with
  | none => exact .inr ⟨rfl, by simp [sheetFor, hs]⟩
  | some s => exact .inl ⟨s, rfl, by simp [sheetFor, hs]⟩

theorem Tracks.generation_le (h : b.Tracks passOf answered) (hg : g ∈ b.groups) :
    g.generation ≤ (b.sheetFor g.buffer).2.generation := by
  obtain ⟨generation, mentions, hp, hle, -⟩ := (h.group g hg).pass
  rcases sheetFor_cases b g.buffer with ⟨s, hs, he⟩ | ⟨hs, -⟩
  · obtain ⟨mentions', hp', -⟩ := h.sheet g.buffer s hs
    rw [hp] at hp'
    cases hp'
    rw [he]
    exact hle
  · rw [h.unseen g.buffer hs] at hp
    cases hp

theorem mem_byLine_iff_any {mentions : List Mention} {line : Int} :
    (byLine mentions).any (·.1 == line) = true ↔ onLine mentions line ≠ [] := by
  rw [List.any_eq_true]
  constructor
  · rintro ⟨⟨line', ms⟩, hm, hl⟩
    obtain ⟨rfl, hne⟩ := mem_byLine.mp hm
    obtain rfl : line' = line := by simpa using hl
    exact hne
  · intro hne
    exact ⟨(line, onLine mentions line), mem_byLine.mpr ⟨rfl, hne⟩, by simp⟩

/-- A line without mentions shows nothing when a pass has started. -/
theorem get?_sheetAfter_of_unmentioned {mentions : List Mention} {line : Int}
    (hl : onLine mentions line = []) :
    ((b.sheetAfter buffer mentions).committed.get? line).getD [] = [] := by
  rw [sheetAfter, get?_foldl_clear]
  by_cases hlost : line ∈ (b.sheetFor buffer).2.lost mentions
  · rw [if_pos hlost]
    rfl
  · rw [if_neg hlost]
    cases hc : (b.sheetFor buffer).2.committed.get? line with
    | none => rfl
    | some annotations =>
      by_contra hne
      apply hlost
      have hshown : line ∈ (b.sheetFor buffer).2.shownLines := by
        refine List.mem_append_left _ (List.mem_map.mpr ⟨(line, annotations), ?_, rfl⟩)
        refine List.mem_filter.mpr ⟨Register.mem_of_get? hc, ?_⟩
        simpa using hne
      refine List.mem_filter.mpr ⟨mem_sortedLines.mpr hshown, ?_⟩
      rw [Bool.not_eq_true', ← Bool.not_eq_true, mem_byLine_iff_any]
      exact fun hn => hn hl

theorem get?_pending_sheetAfter {mentions : List Mention} (hg : g ∈ b.opened buffer mentions) :
    (b.sheetAfter buffer mentions).pending.get? g.line = some g.id :=
  get?_foldl_set_of_mem (nodup_lines_opened b buffer mentions) hg

theorem exists_opened_of_pending {mentions : List Mention} {line : Int}
    (hp : (b.sheetAfter buffer mentions).pending.get? line = some id) :
    ∃ g ∈ b.opened buffer mentions, g.id = id ∧ g.line = line := by
  by_cases hl : line ∈ (b.opened buffer mentions).map (·.line)
  · obtain ⟨g, hg, rfl⟩ := List.mem_map.mp hl
    rw [get?_pending_sheetAfter hg] at hp
    exact ⟨g, hg, Option.some.inj hp, rfl⟩
  · rw [sheetAfter, get?_foldl_set_lines hl] at hp
    cases hp

theorem Tracks.shows_sheetAfter (h : b.Tracks passOf answered) (buffer : Text)
    (mentions : List Mention) :
    (b.sheetAfter buffer mentions).Shows answered (b.groups ++ b.opened buffer mentions) buffer
      mentions := by
  have hnew {g : Group} (hg : g ∈ b.opened buffer mentions) := isNew_of_mem hg
  refine ⟨?_, fun line id hp => ?_, fun g hg hbuf hgen => ?_, fun line hp hl => ?_,
    fun line hl => get?_sheetAfter_of_unmentioned hl⟩
  · apply nodup_keys_foldl_clear
    rcases sheetFor_cases b buffer with ⟨s, hs, he⟩ | ⟨-, he⟩
    · obtain ⟨_, -, hsh⟩ := h.sheet buffer s hs
      rw [he]
      exact hsh.nodup
    · rw [he]
      exact List.nodup_nil
  · obtain ⟨g, hg, rfl, rfl⟩ := exists_opened_of_pending hp
    exact ⟨g, List.mem_append_right _ hg, rfl, (hnew hg).buffer, (hnew hg).generation, rfl⟩
  · rcases List.mem_append.mp hg with hg | hg
    · have hle := h.generation_le hg
      rw [hgen, hbuf] at hle
      simp only [sheetAfter] at hle
      omega
    · exact get?_pending_sheetAfter hg
  · obtain ⟨g, hg, rfl⟩ := exists_newGroup b.nextGroup (b.sheetFor buffer).2.serial
      ((b.sheetFor buffer).2.generation + 1) buffer (mem_byLine.mpr ⟨rfl, hl⟩)
    rw [get?_pending_sheetAfter hg] at hp
    cases hp

theorem Tracks.startPass (h : b.Tracks passOf answered) (buffer : Text)
    (mentions : List Mention) :
    (b.startPass buffer mentions).2.1.Tracks
      (fun x => if x = buffer then some ((b.startPass buffer mentions).1, mentions) else passOf x)
      answered := by
  have hst := h.steady.startPass buffer mentions
  have hnew {g : Group} (hg : g ∈ b.opened buffer mentions) := isNew_of_mem hg
  rw [startPass_eq] at hst ⊢
  refine ⟨hst, ?_, fun g hg => ?_, fun x hx => ?_, fun x s hx => ?_⟩
  · rw [List.map_append, List.nodup_append]
    refine ⟨h.distinct, ?_, ?_⟩
    · have hl := nodup_lines_opened b buffer mentions
      refine List.Nodup.of_map Query.line ?_
      rw [List.map_map]
      exact hl
    · rintro q hq q' hq' rfl
      obtain ⟨g, hg, rfl⟩ := List.mem_map.mp hq
      obtain ⟨g', hg', he⟩ := List.mem_map.mp hq'
      have hbuf : g'.buffer = g.buffer := congrArg Query.buffer he
      have hgen : g'.generation = g.generation := congrArg Query.generation he
      have hle := h.generation_le hg
      rw [← hgen, ← hbuf, (hnew hg').buffer, (hnew hg').generation] at hle
      omega
  · rcases List.mem_append.mp hg with hg | hg
    · have hf := h.group g hg
      by_cases hb : g.buffer = buffer
      · refine ⟨hf.done, (b.sheetFor buffer).2.generation + 1, mentions, if_pos hb, ?_, ?_⟩
        · exact Nat.le_succ_of_le (hb ▸ h.generation_le hg)
        · intro he
          have hle := h.generation_le hg
          rw [he, hb] at hle
          omega
      · obtain ⟨generation, ms, hp, hle, hm⟩ := hf.pass
        exact ⟨hf.done, generation, ms, (if_neg hb).trans hp, hle, hm⟩
    · obtain ⟨ms, hm, hs⟩ := (hnew hg).slots
      refine ⟨fun i m a hi => ?_, (b.sheetFor buffer).2.generation + 1, mentions,
        if_pos (hnew hg).buffer, (hnew hg).generation.le, fun _ => ?_⟩
      · rw [hs, List.getElem?_map] at hi
        obtain ⟨_, _, he⟩ := Option.map_eq_some_iff.mp hi
        cases he
      · rw [hs, List.map_map, (mem_byLine.mp hm).1]
        exact List.map_id _
  · rw [Register.get?_set] at hx
    by_cases hb : x = buffer
    · simp [hb] at hx
    · rw [if_neg hb] at hx ⊢
      exact h.unseen x hx
  · rw [Register.get?_set] at hx
    by_cases hb : x = buffer
    · rw [if_pos hb] at hx ⊢
      subst hb
      obtain rfl := Option.some.inj hx
      exact ⟨mentions, rfl, h.shows_sheetAfter x mentions⟩
    · rw [if_neg hb] at hx ⊢
      obtain ⟨ms, hp, hsh⟩ := h.sheet x s hx
      refine ⟨ms, hp, hsh.nodup, fun line id hl => ?_, fun g hg hbuf => ?_, hsh.shown, hsh.cleared⟩
      · obtain ⟨g, hg, hh⟩ := hsh.pending line id hl
        exact ⟨g, List.mem_append_left _ hg, hh⟩
      · rcases List.mem_append.mp hg with hg | hg
        · exact hsh.waits g hg hbuf
        · exact absurd ((hnew hg).buffer.symm.trans hbuf).symm hb

end CommitMessage.Board
