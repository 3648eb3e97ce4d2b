import CommitMessage.Proofs.Board.Lasting

/-! What the lines of a buffer will show, as far as its last pass goes. It does not depend on when
the lookups end, nor on what happens to other buffers. -/

namespace CommitMessage.Board

variable {b b' : Board} {g g' : Group} {id slot : Nat} {buffer : Text} {line : Int}
  {truth : Reference → Option Resolution} {wanted : Reference → Prop} {mark : Nat × Nat}
  {shown : Int → List Annotation}

/-- The answer of a slot, or the one that is still to come. -/
def Slot.foretold (answer : Option Resolution) : Slot → Option Resolution
  | .done given => given
  | _ => answer

/-- The annotations that a group is going to commit. -/
def Group.foretold (truth : Reference → Option Resolution) (g : Group) : List Annotation :=
  (g.slots.map fun e =>
    Annotation.ofAnswer e.1 (e.2.foretold (truth e.1.reference))).mergeSort precedes

theorem Group.foretold_of_ready (hst : g.Staged) (hr : g.stage = .ready) :
    g.foretold truth = g.annotations := by
  rw [Group.foretold, Group.annotations, ← List.filterMap_eq_map]
  congr 1
  refine List.filterMap_congr fun e he => ?_
  obtain ⟨m, state⟩ := e
  have hdone := hst.mp hr _ he
  cases state with
  | done answer => rfl
  | _ => cases hdone

theorem Group.foretold_setSlot {m : Mention} {old state : Slot}
    (hs : g.slots[slot]? = some (m, old))
    (he : state.foretold (truth m.reference) = old.foretold (truth m.reference)) :
    (g.setSlot slot state).foretold truth = g.foretold truth := by
  rw [Group.foretold, Group.foretold]
  congr 1
  refine List.ext_getElem? fun i => ?_
  simp only [List.getElem?_map, getElem?_setSlot]
  by_cases hi : i = slot
  · simp [hi, hs, he]
  · simp [hi]

/-- All lines of the buffer, as of the pass with this mark, are going to show this, and want nothing
but these references for it. -/
structure Foretells (truth : Reference → Option Resolution) (wanted : Reference → Prop)
    (buffer : Text) (mark : Nat × Nat) (shown : Int → List Annotation) (b : Board) : Prop where
  marked : (b.sheets.get? buffer).map Sheet.mark = some mark
  own : ∀ g ∈ b.groups, g.buffer = buffer → g.generation = mark.2 → g.sheet = mark.1
  within : ∀ g ∈ b.groups, g.buffer = buffer → g.generation = mark.2 →
    ∀ m ∈ g.slots.map (·.1), wanted m.reference
  waits : ∀ g ∈ b.groups, g.buffer = buffer → g.generation = mark.2 →
    g.foretold truth = shown g.line
  shows : ∀ s line, b.sheets.get? buffer = some s →
    (∀ g ∈ b.groups, g.buffer = buffer → g.generation = mark.2 → g.line ≠ line) →
    (s.committed.get? line).getD [] = shown line

/-- The buffer has had another pass, or has been dropped. -/
def Passed (buffer : Text) (mark : Nat × Nat) (b : Board) : Prop :=
  mark.1 < b.nextSheet ∧
    ∀ s, b.sheets.get? buffer = some s → s.serial = mark.1 → mark.2 < s.generation

theorem Foretells.sheet (h : b.Foretells truth wanted buffer mark shown) :
    ∃ s, b.sheets.get? buffer = some s ∧ s.serial = mark.1 ∧ s.generation = mark.2 := by
  obtain ⟨s, hs, he⟩ := Option.map_eq_some_iff.mp h.marked
  exact ⟨s, hs, congrArg Prod.fst he, congrArg Prod.snd he⟩

/-- Once it has passed, a pass is never the last one again. -/
theorem Passed.mark_ne (h : b.Passed buffer mark) :
    (b.sheets.get? buffer).map Sheet.mark ≠ some mark := by
  intro hm
  obtain ⟨s, hs, he⟩ := Option.map_eq_some_iff.mp hm
  have hlt := h.2 s hs (congrArg Prod.fst he)
  exact hlt.ne' (congrArg Prod.snd he)

/-- What a line of a buffer shows. -/
def shownAt (b : Board) (buffer : Text) (line : Int) : List Annotation :=
  ((b.sheets.get? buffer).bind (·.committed.get? line)).getD []

/-- What a line of a buffer is going to show. -/
def foretold (truth : Reference → Option Resolution) (b : Board) (buffer : Text) (line : Int) :
    List Annotation :=
  match b.groups.find? fun g => g.buffer = buffer ∧ g.generation = b.generation buffer ∧
      g.line = line with
  | some g => g.foretold truth
  | none => b.shownAt buffer line

/-- On the sheet of its buffer, a group is alone with its line. -/
theorem foretells_foretold (hb : b.Steady) (hp : b.Placed) {s : Sheet}
    (hs : b.sheets.get? buffer = some s)
    (hown : ∀ g ∈ b.groups, g.buffer = buffer → g.generation = s.generation →
      g.sheet = s.serial)
    (hwithin : ∀ g ∈ b.groups, g.buffer = buffer → g.generation = s.generation →
      ∀ m ∈ g.slots.map (·.1), wanted m.reference) :
    b.Foretells truth wanted buffer s.mark (b.foretold truth buffer) := by
  have hgen : b.generation buffer = s.generation := by rw [generation, hs]; rfl
  refine ⟨congrArg (Option.map Sheet.mark) hs, hown, hwithin, fun g hg hbuf hg' => ?_,
    fun s' line hs' hn => ?_⟩
  · have hcurrent {g : Group} (hg : g ∈ b.groups) (hbuf : g.buffer = buffer)
        (hg' : g.generation = s.generation) : s.pending.get? g.line = some g.id :=
      hp.current g hg s (hbuf ▸ hs) (hown g hg hbuf hg').symm hg'.symm
    have hfind : b.groups.find? (fun g' => g'.buffer = buffer ∧
        g'.generation = b.generation buffer ∧ g'.line = g.line) = some g := by
      cases hf : b.groups.find? fun g' => g'.buffer = buffer ∧
          g'.generation = b.generation buffer ∧ g'.line = g.line with
      | none =>
        have hno := List.find?_eq_none.mp hf g hg
        simp [hbuf, hgen, hg', Sheet.mark] at hno
      | some g₀ =>
        have hm := List.mem_of_find?_eq_some hf
        obtain ⟨hbuf₀, hgen₀, hline⟩ : g₀.buffer = buffer ∧
            g₀.generation = b.generation buffer ∧ g₀.line = g.line := by
          simpa using List.find?_some hf
        have hid : g₀.id = g.id := by
          refine Option.some.inj ?_
          rw [← hcurrent hm hbuf₀ (hgen₀.trans hgen), hline, hcurrent hg hbuf hg']
        rw [List.inj_on_of_nodup_map hb.nodup hm hg hid]
    rw [foretold, hfind]
  · have hfind : b.groups.find? (fun g => g.buffer = buffer ∧
        g.generation = b.generation buffer ∧ g.line = line) = none := by
      refine List.find?_eq_none.mpr fun g hg => ?_
      simp only [decide_eq_true_eq, not_and]
      exact fun hbuf hg' => hn g hg hbuf (hg'.trans hgen)
    rw [foretold, hfind, shownAt, hs']
    rfl

/-- A line that waits for nothing shows what was foretold. -/
theorem Foretells.shownAt (h : b.Foretells truth wanted buffer mark shown) (hp : b.Placed)
    (hn : b.lineState buffer line ≠ .pending) : b.shownAt buffer line = shown line := by
  obtain ⟨s, hs, hserial, hgen⟩ := h.sheet
  rw [Board.shownAt, hs]
  refine h.shows s line hs fun g hg hb hgen' hl => hn ?_
  have hwait := hp.current g hg s (hb ▸ hs) (hserial.trans (h.own g hg hb hgen').symm)
    (hgen.trans hgen'.symm)
  rw [lineState, hs]
  simp [Register.has_eq_isSome, ← hl, hwait]

/-! Changes of groups -/

theorem Foretells.of_same (h : b.Foretells truth wanted buffer mark shown)
    (hs : b'.sheets = b.sheets)
    (hold : ∀ g' ∈ b'.groups, ∃ g ∈ b.groups, g.Same g' ∧ (g.buffer = buffer →
      g.generation = mark.2 → g'.foretold truth = g.foretold truth))
    (hkept : ∀ g ∈ b.groups, ∃ g' ∈ b'.groups, g.Same g') :
    b'.Foretells truth wanted buffer mark shown := by
  refine ⟨hs ▸ h.marked, fun g' hg' hb hgen => ?_, fun g' hg' hb hgen => ?_,
    fun g' hg' hb hgen => ?_, fun s line hx hn => ?_⟩
  · obtain ⟨g, hg, hsame, -⟩ := hold g' hg'
    rw [hsame.sheet]
    exact h.own g hg (hsame.buffer_eq ▸ hb) (hsame.generation_eq ▸ hgen)
  · obtain ⟨g, hg, hsame, -⟩ := hold g' hg'
    rw [hsame.mentions]
    exact h.within g hg (hsame.buffer_eq ▸ hb) (hsame.generation_eq ▸ hgen)
  · obtain ⟨g, hg, hsame, he⟩ := hold g' hg'
    have hbuf : g.buffer = buffer := hsame.buffer_eq ▸ hb
    have hgen' : g.generation = mark.2 := hsame.generation_eq ▸ hgen
    rw [he hbuf hgen', hsame.line_eq]
    exact h.waits g hg hbuf hgen'
  · refine h.shows s line (hs ▸ hx) fun g hg hb hgen => ?_
    obtain ⟨g', hg', hsame⟩ := hkept g hg
    exact hsame.line_eq ▸ hn g' hg' (hsame.buffer_eq.trans hb) (hsame.generation_eq.trans hgen)

theorem Foretells.setGroup (h : b.Foretells truth wanted buffer mark shown) (hb : b.Steady)
    (hg : g ∈ b.groups) (hsame : g.Same g') (he : g.buffer = buffer → g.generation = mark.2 →
      g'.foretold truth = g.foretold truth) :
    (b.setGroup g').Foretells truth wanted buffer mark shown := by
  refine h.of_same rfl (fun h' hh => ?_) fun h' hh => ?_
  · rcases mem_setGroup.mp hh with ⟨hh, -⟩ | ⟨rfl, -⟩
    · exact ⟨h', hh, .refl h', fun _ _ => rfl⟩
    · exact ⟨g, hg, hsame, he⟩
  · by_cases hid : h'.id = g.id
    · obtain rfl := List.inj_on_of_nodup_map hb.nodup hh hg hid
      exact ⟨g', mem_setGroup.mpr (.inr ⟨rfl, h', hh, hsame.id.symm⟩), hsame⟩
    · exact ⟨h', mem_setGroup.mpr (.inl ⟨hh, hsame.id ▸ hid⟩), .refl h'⟩

/-- Other groups may go. -/
theorem Foretells.only (h : b.Foretells truth wanted buffer mark shown) {p : Group → Bool}
    (hp : ∀ g ∈ b.groups, g.buffer = buffer → g.generation = mark.2 → p g = true) :
    (b.only p).Foretells truth wanted buffer mark shown := by
  refine ⟨h.marked, fun g hg => h.own g (mem_only.mp hg).1,
    fun g hg => h.within g (mem_only.mp hg).1, fun g hg => h.waits g (mem_only.mp hg).1,
    fun s line hs hn => h.shows s line hs fun g hg hb hgen => ?_⟩
  exact hn g (mem_only.mpr ⟨hg, hp g hg hb hgen⟩) hb hgen

/-- A line shows what was foretold when its group commits. -/
theorem Foretells.commitGroup (h : b.Foretells truth wanted buffer mark shown) (hb : b.Steady)
    (hg : g ∈ b.groups) (hr : g.stage = .ready) :
    ((b.commitGroup g).1.dropGroup g.id).Foretells truth wanted buffer mark shown := by
  obtain ⟨s, hs, hserial, hgen⟩ := h.sheet
  rcases commitGroup_cases b g with ⟨s', hs', hcurrent, he⟩ | ⟨hstale, he⟩
  · rw [he]
    by_cases hbuf : g.buffer = buffer
    · obtain rfl := Option.some.inj (hs.symm.trans (hbuf ▸ hs'))
      have hcommitted : (s.committing g).committed = s.committed.set g.line g.annotations := rfl
      have hset : (b.sheets.set g.buffer (s.committing g)).get? buffer = some (s.committing g) := by
        rw [Register.get?_set, if_pos hbuf.symm]
      refine ⟨?_, fun h' hh => h.own h' (mem_dropGroup.mp hh).1,
        fun h' hh => h.within h' (mem_dropGroup.mp hh).1,
        fun h' hh => h.waits h' (mem_dropGroup.mp hh).1, fun s₁ line hs₁ hn => ?_⟩
      · rw [← h.marked, hs]
        exact (congrArg (Option.map Sheet.mark) hset).trans rfl
      · obtain rfl := Option.some.inj (hset.symm.trans hs₁)
        rw [hcommitted, Register.get?_set]
        split
        · next hl =>
          have hshown := h.waits g hg hbuf (hcurrent.symm.trans hgen)
          rw [g.foretold_of_ready (hb.staged g hg) hr] at hshown
          exact hl ▸ hshown
        · next hl =>
          refine h.shows s line hs fun h' hh hb' hgen' hl' => ?_
          refine hn h' (mem_dropGroup.mpr ⟨hh, fun hid => ?_⟩) hb' hgen' hl'
          obtain rfl := List.inj_on_of_nodup_map hb.nodup hh hg hid
          exact hl hl'.symm
    · have hset : (b.sheets.set g.buffer (s'.committing g)).get? buffer = b.sheets.get? buffer := by
        rw [Register.get?_set, if_neg (Ne.symm hbuf)]
      have hdrop := h.only (p := fun h' => decide (h'.id ≠ g.id)) fun h' hh hb' _ => ?_
      · refine ⟨?_, hdrop.own, hdrop.within, hdrop.waits,
          fun s₁ line hs₁ => hdrop.shows s₁ line (hset ▸ hs₁)⟩
        rw [← h.marked]
        exact congrArg (Option.map Sheet.mark) hset
      · refine decide_eq_true fun hid => ?_
        obtain rfl := List.inj_on_of_nodup_map hb.nodup hh hg hid
        exact hbuf hb'
  · rw [he]
    refine h.only fun h' hh hb' hgen' => decide_eq_true fun hid => ?_
    obtain rfl := List.inj_on_of_nodup_map hb.nodup hh hg hid
    exact hstale s (hb' ▸ hs) (hgen.trans hgen'.symm)

/-! Passes -/

theorem Passed.of_sameMarks (h : b.Passed buffer mark) (hs : SameMarks b b') :
    b'.Passed buffer mark := by
  refine ⟨hs.nextSheet ▸ h.1, fun s' hs' hserial => ?_⟩
  obtain ⟨s, hget, hsame, hgen⟩ := hs.get? hs'
  exact hgen ▸ h.2 s hget (hsame ▸ hserial)

theorem Passed.of_sheets (h : b.Passed buffer mark) {sheets : Register Text Sheet}
    (hs : Fewer sheets b.sheets) : ({ b with sheets } : Board).Passed buffer mark :=
  ⟨h.1, fun s hx => h.2 s (hs.get? buffer s hx)⟩

theorem Passed.startPass (h : b.Passed buffer mark) (x : Text) (mentions : List Mention) :
    (b.startPass x mentions).2.1.Passed buffer mark := by
  refine ⟨h.1.trans_le (nextSheet_startPass b x mentions), fun s hs hserial => ?_⟩
  rw [startPass_eq, Register.get?_set] at hs
  split at hs
  · next he =>
    cases hs
    rcases sheetAfter_mark b x mentions with ⟨s, hs, hsame, hgen⟩ | ⟨-, hnew⟩
    · exact hgen ▸ (h.2 s (he ▸ hs) (hsame ▸ hserial)).trans (Nat.lt_succ_self _)
    · exact absurd (hnew.symm.trans hserial) h.1.ne'
  · exact h.2 s hs hserial

theorem Foretells.startPass (h : b.Foretells truth wanted buffer mark shown) (hp : b.Placed)
    (x : Text) (mentions : List Mention) : (b.startPass x mentions).2.1.Passed buffer mark ∨
      (b.startPass x mentions).2.1.Foretells truth wanted buffer mark shown := by
  obtain ⟨s, hs, hserial, hgen⟩ := h.sheet
  rw [startPass_eq]
  by_cases hx : x = buffer
  · subst hx
    refine .inl ⟨?_, fun s' hs' _ => ?_⟩
    · have hnext := nextSheet_startPass b x mentions
      rw [startPass_eq] at hnext
      exact (hserial ▸ hp.lt_nextSheet hs).trans_le hnext
    · rw [Register.get?_set, if_pos rfl] at hs'
      cases hs'
      rcases sheetAfter_mark b x mentions with ⟨s', hs', -, hafter⟩ | ⟨hnone, -⟩
      · obtain rfl := Option.some.inj (hs.symm.trans hs')
        rw [hafter, hgen]
        exact Nat.lt_succ_self _
      · rw [hs] at hnone
        cases hnone
  · have hset : (b.sheets.set x (b.sheetAfter x mentions)).get? buffer = b.sheets.get? buffer := by
      rw [Register.get?_set, if_neg (Ne.symm hx)]
    have hnew {g : Group} (hg : g ∈ b.opened x mentions) : g.buffer ≠ buffer :=
      fun hb => hx ((isNew_of_mem hg).buffer.symm.trans hb)
    have hold {g : Group} (hg : g ∈ b.groups ++ b.opened x mentions) (hb : g.buffer = buffer) :
        g ∈ b.groups :=
      (List.mem_append.mp hg).resolve_right fun ho => hnew ho hb
    refine .inr ⟨?_, fun g hg hb => h.own g (hold hg hb) hb,
      fun g hg hb => h.within g (hold hg hb) hb, fun g hg hb => h.waits g (hold hg hb) hb,
      fun s' line hs' hn => ?_⟩
    · rw [← h.marked]
      exact congrArg (Option.map Sheet.mark) hset
    · exact h.shows s' line (hset ▸ hs') fun g hg => hn g (List.mem_append_left _ hg)

theorem Foretells.of_sheets (h : b.Foretells truth wanted buffer mark shown) (hp : b.Placed)
    {sheets : Register Text Sheet} (hs : Fewer sheets b.sheets) :
    ({ b with sheets } : Board).Passed buffer mark ∨
      ({ b with sheets } : Board).Foretells truth wanted buffer mark shown := by
  obtain ⟨s, hget, hserial, -⟩ := h.sheet
  cases hx : sheets.get? buffer with
  | none =>
    refine .inl ⟨hserial ▸ hp.lt_nextSheet hget, fun s' hs' => ?_⟩
    rw [show ({ b with sheets } : Board).sheets.get? buffer = none from hx] at hs'
    cases hs'
  | some s' =>
    have hsame : sheets.get? buffer = b.sheets.get? buffer := hx.trans (hs.get? buffer s' hx).symm
    refine .inr ⟨?_, h.own, h.within, h.waits, fun s₁ line hs₁ => h.shows s₁ line (hsame ▸ hs₁)⟩
    rw [← h.marked]
    exact congrArg (Option.map Sheet.mark) hsame

/-- Whatever happens, the lines go on to show what was foretold, until there is another pass over
the buffer or it is dropped. -/
theorem lasting_foretells (truth : Reference → Option Resolution) (wanted : Reference → Prop)
    (buffer : Text) (mark : Nat × Nat) (shown : Int → List Annotation) :
    Lasting (fun r outcome => wanted r → outcome.resolution? = truth r)
      fun b => b.Passed buffer mark ∨ b.Foretells truth wanted buffer mark shown where
  groupTurn := by
    intro b id hb hp h
    refine h.imp (fun h => h.of_sameMarks (sameMarks_groupTurn hb id)) fun h => ?_
    rcases groupTurn_cases hb id with ⟨he, -⟩ | ⟨g, hg, -, he⟩ | ⟨g, hg, hr, he⟩
    · rwa [he]
    · rw [he]
      exact h.setGroup hb (mem_of_group? hg).1 ⟨rfl, rfl, rfl, rfl⟩ fun _ _ => rfl
    · obtain ⟨hm, rfl⟩ := mem_of_group? hg
      rw [he]
      exact h.commitGroup hb hm hr
  slotTurn := by
    intro b id slot hb h
    refine h.imp (fun h => h.of_sameMarks (sameMarks_slotTurn hb id slot)) fun h => ?_
    rcases slotTurn_cases hb id slot with ⟨he, -⟩ | ⟨g, m, hg, hs, he⟩
    · rwa [he]
    · rw [he]
      exact h.setGroup hb (mem_of_group? hg).1 (.setSlot g slot _)
        fun _ _ => g.foretold_setSlot hs rfl
  answer := by
    intro b id slot outcome hb ho hf h
    refine h.imp (fun h => h.of_sameMarks (sameMarks_answer hb id slot ho)) fun h => ?_
    rcases answer_cases hb id slot ho with ⟨he, -⟩ | ⟨g, m, notes, hg, hs, -, he⟩
    · rwa [he]
    · obtain ⟨hm, hid⟩ := mem_of_group? hg
      rw [he]
      refine h.setGroup hb hm (.filled g slot _) fun hbuf hgen =>
        g.foretold_setSlot hs (hf g hm hid m _ hs (h.within g hm hbuf hgen m ?_))
      exact List.mem_map_of_mem (List.mem_of_getElem? hs)
  startPass := by
    rintro b x mentions hp (h | h)
    · exact .inl (h.startPass x mentions)
    · exact h.startPass hp x mentions
  only := by
    rintro b sheet hd (h | h)
    · exact .inl h
    · obtain ⟨s, hs, hserial, -⟩ := h.sheet
      refine .inr (h.only fun g hg hb hgen => decide_eq_true ?_)
      rw [h.own g hg hb hgen, ← hserial]
      exact (hd sheet rfl).2 buffer s hs
  sheets := by
    rintro b sheets hp hs (h | h)
    · exact .inl (h.of_sheets hs)
    · exact h.of_sheets hp hs

end CommitMessage.Board
