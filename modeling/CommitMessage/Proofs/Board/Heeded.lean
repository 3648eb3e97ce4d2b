import CommitMessage.Proofs.Board.Kept

/-! Boards on which nothing is overlooked. Groups belong to the sheet of their buffer, the line of
a current group waits for that group, and every group that is not called off has something to
come. -/

namespace CommitMessage.Board

variable {b b' : Board} {g : Group} {id slot : Nat} {due due' : Wake → Prop} {buffer : Text}

/-- Some sheets are left out. -/
structure Fewer (sheets' sheets : Register Text Sheet) : Prop where
  get? : ∀ x s, sheets'.get? x = some s → sheets.get? x = some s
  subset : sheets' ⊆ sheets

theorem fewer_erase (sheets : Register Text Sheet) (buffer : Text) :
    Fewer (sheets.erase buffer) sheets := by
  refine ⟨fun x s hx => ?_, List.filter_sublist.subset⟩
  rw [Register.get?_erase] at hx
  split at hx
  · cases hx
  · exact hx

theorem fewer_nil (sheets : Register Text Sheet) : Fewer [] sheets :=
  ⟨by simp, List.nil_subset _⟩

/-- Sheets have numbers of their own, and groups belong to the sheet of their buffer. -/
structure Placed (b : Board) : Prop where
  serial_lt : ∀ entry ∈ b.sheets, entry.2.serial < b.nextSheet
  distinct : ∀ x y s s', b.sheets.get? x = some s → b.sheets.get? y = some s' →
    s.serial = s'.serial → x = y
  sheet_lt : ∀ g ∈ b.groups, g.sheet < b.nextSheet
  own : ∀ g ∈ b.groups, ∀ x s, b.sheets.get? x = some s → s.serial = g.sheet →
    g.buffer = x ∧ g.generation ≤ s.generation
  current : ∀ g ∈ b.groups, ∀ s, b.sheets.get? g.buffer = some s → s.serial = g.sheet →
    s.generation = g.generation → s.pending.get? g.line = some g.id

theorem placed_empty : Placed {} := by
  constructor <;> simp

theorem Placed.lt_nextSheet (h : b.Placed) {x : Text} {s : Sheet}
    (hx : b.sheets.get? x = some s) : s.serial < b.nextSheet :=
  h.serial_lt (x, s) (Register.mem_of_get? hx)

theorem Placed.of_same (h : b.Placed) (hs : b'.sheets = b.sheets)
    (hn : b'.nextSheet = b.nextSheet) (hg : ∀ g' ∈ b'.groups, ∃ g ∈ b.groups, g.Same g') :
    b'.Placed := by
  refine ⟨?_, ?_, fun g' hg' => ?_, fun g' hg' => ?_, fun g' hg' => ?_⟩
  · rw [hs, hn]
    exact h.serial_lt
  · rw [hs]
    exact h.distinct
  · obtain ⟨g, hg, hsame⟩ := hg g' hg'
    rw [hn, hsame.sheet]
    exact h.sheet_lt g hg
  · obtain ⟨g, hg, hsame⟩ := hg g' hg'
    rw [hs, hsame.sheet, hsame.buffer_eq, hsame.generation_eq]
    exact h.own g hg
  · obtain ⟨g, hg, hsame⟩ := hg g' hg'
    rw [hs, hsame.sheet, hsame.buffer_eq, hsame.generation_eq, hsame.line_eq, hsame.id]
    exact h.current g hg

theorem Placed.only (h : b.Placed) (p : Group → Bool) : (b.only p).Placed :=
  h.of_same rfl rfl fun g hg => ⟨g, (mem_only.mp hg).1, .refl g⟩

/-- A group that commits clears its line only where the line waits for that very group. -/
theorem Sheet.pending_committing {s : Sheet} {line : Int} (h : s.pending.get? line = some id)
    (hne : id ≠ g.id) : (s.committing g).pending.get? line = some id := by
  unfold Sheet.committing
  dsimp only
  split
  · next hclear =>
    rw [Register.get?_erase, if_neg fun hl => ?_]
    · exact h
    · rw [hl, hclear] at h
      exact hne (Option.some.inj h).symm
  · exact h

/-- A group commits and is gone. -/
theorem Placed.commitGroup (h : b.Placed) (g : Group) :
    ((b.commitGroup g).1.dropGroup g.id).Placed := by
  rcases commitGroup_cases b g with ⟨s, hs, -, he⟩ | ⟨-, he⟩
  · rw [he]
    have hget {x : Text} {s' : Sheet}
        (hx : (b.sheets.set g.buffer (s.committing g)).get? x = some s') :
        ∃ s₀, b.sheets.get? x = some s₀ ∧ s'.serial = s₀.serial ∧ s'.generation = s₀.generation ∧
          (s' = s₀ ∨ s' = s₀.committing g) := by
      rw [Register.get?_set] at hx
      split at hx
      · next hx' =>
        cases hx
        exact ⟨s, hx' ▸ hs, rfl, rfl, .inr rfl⟩
      · exact ⟨s', hx, rfl, rfl, .inl rfl⟩
    refine ⟨fun entry hm => ?_, fun x y s' s'' hx hy he => ?_, fun h' hh => ?_,
      fun h' hh x s' hx he => ?_, fun h' hh s' hx he hgen => ?_⟩
    · rcases Register.mem_set hm with rfl | hm
      · have hlt := h.lt_nextSheet hs
        exact hlt
      · exact h.serial_lt entry hm
    · obtain ⟨s₀, hx, hserial, -⟩ := hget hx
      obtain ⟨s₁, hy, hserial', -⟩ := hget hy
      exact h.distinct x y s₀ s₁ hx hy (hserial ▸ hserial' ▸ he)
    · exact h.sheet_lt h' (mem_dropGroup.mp hh).1
    · obtain ⟨s₀, hx, hserial, hgen, -⟩ := hget hx
      rw [hgen]
      exact h.own h' (mem_dropGroup.mp hh).1 x s₀ hx (hserial ▸ he)
    · obtain ⟨hh, hne⟩ := mem_dropGroup.mp hh
      obtain ⟨s₀, hx, hserial, hgen', hcases⟩ := hget hx
      have hpending := h.current h' hh s₀ hx (hserial ▸ he) (hgen' ▸ hgen)
      rcases hcases with rfl | rfl
      · exact hpending
      · exact Sheet.pending_committing hpending hne
  · rw [he]
    exact h.only _

/-- A sheet that is not of the buffer has another number than the one for its next pass. -/
theorem Placed.serial_ne (h : b.Placed) {x : Text} {s : Sheet} (hx : b.sheets.get? x = some s)
    (hne : x ≠ buffer) : s.serial ≠ (b.sheetFor buffer).2.serial := by
  rcases sheetFor_cases b buffer with ⟨s', hs', he⟩ | ⟨-, he⟩
  · rw [he]
    exact fun hserial => hne (h.distinct x buffer s s' hx hs' hserial)
  · rw [he]
    exact (h.lt_nextSheet hx).ne

theorem Placed.serial_sheetFor_lt (h : b.Placed) (buffer : Text) :
    (b.sheetFor buffer).2.serial < (b.sheetFor buffer).1.nextSheet := by
  unfold sheetFor
  split
  · next s hs => exact h.lt_nextSheet hs
  · exact Nat.lt_succ_self _

theorem le_nextSheet_sheetFor (b : Board) (buffer : Text) :
    b.nextSheet ≤ (b.sheetFor buffer).1.nextSheet := by
  unfold sheetFor
  split
  · exact le_refl _
  · exact Nat.le_succ _

/-- The groups on the sheet for the next pass of a buffer are of generations before that pass. -/
theorem Placed.own_sheetFor (h : b.Placed) (hg : g ∈ b.groups)
    (he : (b.sheetFor buffer).2.serial = g.sheet) :
    g.buffer = buffer ∧ g.generation ≤ (b.sheetFor buffer).2.generation := by
  rcases sheetFor_cases b buffer with ⟨s, hs, hfor⟩ | ⟨-, hfor⟩
  · rw [hfor] at he ⊢
    exact h.own g hg buffer s hs he
  · rw [hfor] at he
    exact absurd he (h.sheet_lt g hg).ne'

theorem Placed.startPass (h : b.Placed) (buffer : Text) (mentions : List Mention) :
    (b.startPass buffer mentions).2.1.Placed := by
  rw [startPass_eq]
  have hlt := h.serial_sheetFor_lt buffer
  have hle := le_nextSheet_sheetFor b buffer
  have hnew {g : Group} (hg : g ∈ b.opened buffer mentions) := isNew_of_mem hg
  refine ⟨fun entry hm => ?_, fun x y s s' hx hy he => ?_, fun g hg => ?_, fun g hg x s hx he => ?_,
    fun g hg s hx he hgen => ?_⟩
  · rcases Register.mem_set hm with rfl | hm
    · exact hlt
    · exact (h.serial_lt entry hm).trans_le hle
  · rw [Register.get?_set] at hx hy
    split at hx
    · next hx' =>
      cases hx
      split at hy
      · next hy' => exact hx'.trans hy'.symm
      · next hy' => exact absurd he.symm (h.serial_ne hy hy')
    · next hx' =>
      split at hy
      · cases hy
        exact absurd he (h.serial_ne hx hx')
      · exact h.distinct x y s s' hx hy he
  · rcases List.mem_append.mp hg with hg | hg
    · exact (h.sheet_lt g hg).trans_le hle
    · rw [(hnew hg).sheet]
      exact hlt
  · rw [Register.get?_set] at hx
    rcases List.mem_append.mp hg with hg | hg
    · split at hx
      · next hx' =>
        cases hx
        obtain ⟨hb, hgen⟩ := h.own_sheetFor hg he
        exact ⟨hb.trans hx'.symm, hgen.trans (Nat.le_succ _)⟩
      · exact h.own g hg x s hx he
    · split at hx
      · next hx' =>
        cases hx
        exact ⟨(hnew hg).buffer.trans hx'.symm, (hnew hg).generation.le⟩
      · next hx' =>
        rw [(hnew hg).sheet] at he
        exact absurd he (h.serial_ne hx hx')
  · rw [Register.get?_set] at hx
    rcases List.mem_append.mp hg with hg | hg
    · split at hx
      · cases hx
        exact absurd hgen.symm (Nat.lt_succ_of_le (h.own_sheetFor hg he).2).ne
      · exact h.current g hg s hx he hgen
    · rw [if_pos (hnew hg).buffer] at hx
      cases hx
      exact get?_foldl_set_of_mem (nodup_lines_opened b buffer mentions) hg

theorem Placed.of_sheets (h : b.Placed) {sheets : Register Text Sheet}
    (hs : Fewer sheets b.sheets) : ({ b with sheets } : Board).Placed :=
  ⟨fun entry hm => h.serial_lt entry (hs.subset hm),
    fun x y s s' hx hy => h.distinct x y s s' (hs.get? x s hx) (hs.get? y s' hy), h.sheet_lt,
    fun g hg x s hx => h.own g hg x s (hs.get? x s hx),
    fun g hg s hx => h.current g hg s (hs.get? _ s hx)⟩

/-! Nothing is overlooked -/

theorem Steady.only (hb : b.Steady) (p : Group → Bool) : (b.only p).Steady :=
  have hsub : ∀ g ∈ (b.only p).groups, g ∈ b.groups := fun _ hg => (mem_only.mp hg).1
  ⟨hb.nodup.sublist (List.filter_sublist.map _), fun g hg => hb.id_lt g (hsub g hg),
    fun g hg => hb.calledOff g (hsub g hg), fun g hg => hb.slots_ne g (hsub g hg),
    fun g hg => hb.staged g (hsub g hg)⟩

/-- All is well with the board, when this is to come: groups that are called off only wait to be
taken out, and to all others something is to come. -/
structure Heeded (due : Wake → Prop) (b : Board) : Prop where
  ending : b.Ending fun _ => True
  steady : b.kept.Steady
  placed : b.kept.Placed
  attended : b.kept.Attended due

theorem heeded_empty : Heeded due {} :=
  ⟨ending_empty, steady_empty, placed_empty, List.forall_mem_nil _⟩

/-- The group that is to wake up. -/
def Wake.groupId : Wake → Nat
  | .group id | .slot id _ | .answer id _ => id

theorem Heeded.mono (h : b.Heeded due)
    (hd : ∀ g ∈ b.kept.groups, ∀ e : Wake, e.groupId = g.id → due e → due' e) : b.Heeded due' :=
  ⟨h.ending, h.steady, h.placed, fun g hg =>
    ⟨fun hs => hd g hg _ rfl ((h.attended g hg).turn hs),
      fun i m hi hs => hd g hg _ rfl ((h.attended g hg).slot i m hi hs),
      fun i m hi => hd g hg _ rfl ((h.attended g hg).answer i m hi)⟩⟩

theorem Heeded.groupTurn (h : b.Heeded fun e => due e ∨ e = .group id) :
    (b.groupTurn id).1.Heeded fun e => due e ∨ e ∈ wakes (b.groupTurn id).2 := by
  have hwithin := within_groupTurn h.ending id
  have hattended := h.attended.groupTurn h.steady
  have hplaced : (b.kept.groupTurn id).1.Placed := by
    rcases groupTurn_cases h.steady id with ⟨he, -⟩ | ⟨g, hg, -, he⟩ | ⟨g, hg, -, he⟩
    · rw [he]
      exact h.placed
    · rw [he]
      refine h.placed.of_same rfl rfl fun g' hg' => ?_
      rcases mem_setGroup.mp hg' with ⟨hg', -⟩ | ⟨rfl, -⟩
      · exact ⟨g', hg', .refl g'⟩
      · exact ⟨g, (mem_of_group? hg).1, ⟨rfl, rfl, rfl, rfl⟩⟩
    · obtain ⟨hm, rfl⟩ := mem_of_group? hg
      rw [he]
      exact h.placed.commitGroup g
  refine ⟨(ending_groupTurn b id).2 (h.ending.mono fun _ _ => .inl trivial), ?_, ?_, ?_⟩
  · exact hwithin.1 ▸ h.steady.groupTurn id
  · exact hwithin.1 ▸ hplaced
  · exact hwithin.1 ▸ hattended.mono fun e he => he.imp_right hwithin.wakes

theorem Heeded.slotTurn (h : b.Heeded fun e => due e ∨ e = .slot id slot) :
    (b.slotTurn id slot).1.Heeded fun e => due e ∨ e ∈ wakes (b.slotTurn id slot).2 := by
  have hwithin := within_slotTurn h.ending id slot
  have hsame := (moves_slotTurn h.steady id slot).same (h.steady.slotTurn id slot)
    (nextGroup_slotTurn h.steady id slot)
  have hplaced : (b.kept.slotTurn id slot).1.Placed := by
    rcases slotTurn_cases h.steady id slot with ⟨he, -⟩ | ⟨g, m, -, -, he⟩
    · rw [he]
      exact h.placed
    · rw [he] at hsame ⊢
      exact h.placed.of_same rfl rfl hsame
  refine ⟨(ending_slotTurn b id slot).2 h.ending, ?_, ?_, ?_⟩
  · exact hwithin.1 ▸ h.steady.slotTurn id slot
  · exact hwithin.1 ▸ hplaced
  · exact hwithin.1 ▸ (h.attended.slotTurn h.steady).mono fun e he => he.imp_right hwithin.wakes

theorem Heeded.answer (h : b.Heeded fun e => due e ∨ e = .answer id slot) {outcome : Outcome}
    (ho : outcome ≠ .stopped) :
    (b.answer id slot outcome).1.Heeded fun e => due e ∨ e ∈ wakes (b.answer id slot outcome).2 := by
  have hwithin := within_answer h.ending id slot ho
  have hsame := (moves_answer h.steady id slot ho).same (h.steady.answer id slot ho)
    (nextGroup_answer h.steady id slot ho)
  have hplaced : (b.kept.answer id slot outcome).1.Placed := by
    rcases answer_cases h.steady id slot ho with ⟨he, -⟩ | ⟨g, m, notes, -, -, -, he⟩
    · rw [he]
      exact h.placed
    · rw [he] at hsame ⊢
      exact h.placed.of_same rfl rfl hsame
  refine ⟨((ending_answer b id slot outcome).2 h.ending).mono fun _ _ => trivial, ?_, ?_, ?_⟩
  · exact hwithin.1 ▸ h.steady.answer id slot ho
  · exact hwithin.1 ▸ hplaced
  · exact hwithin.1 ▸ (h.attended.answer h.steady ho).mono fun e he => he.imp_right hwithin.wakes

theorem Heeded.startPass (h : b.Heeded due) (buffer : Text) (mentions : List Mention) :
    (b.startPass buffer mentions).2.1.Heeded
      fun e => due e ∨ e ∈ wakes (b.startPass buffer mentions).2.2 := by
  obtain ⟨hkept, hsignals⟩ := kept_startPass b buffer mentions
  refine ⟨(h.ending.startPass buffer mentions).mono fun _ _ => trivial, ?_, ?_, ?_⟩
  · exact hkept ▸ h.steady.startPass buffer mentions
  · exact hkept ▸ h.placed.startPass buffer mentions
  · rw [hkept, ← hsignals]
    exact h.attended.startPass buffer mentions

/-- Sheets may be dropped. -/
theorem Heeded.of_sheets (h : b.Heeded due) {sheets : Register Text Sheet}
    (hs : Fewer sheets b.sheets) : ({ b with sheets } : Board).Heeded due :=
  ⟨⟨h.ending.nodup, h.ending.id_lt, h.ending.ends⟩,
    ⟨h.steady.nodup, h.steady.id_lt, h.steady.calledOff, h.steady.slots_ne, h.steady.staged⟩,
    h.placed.of_sheets hs, h.attended⟩

theorem Heeded.callOffSheet (h : b.Heeded due) (sheet : Nat) :
    (b.callOffSheet sheet).1.Heeded due := by
  have hkept := kept_callOffSheet h.ending sheet
  refine ⟨(h.ending.callOffSheet sheet).1.mono fun _ _ => trivial, ?_, ?_, ?_⟩
  · exact hkept ▸ h.steady.only _
  · exact hkept ▸ h.placed.only _
  · exact hkept ▸ fun g hg => h.attended g (mem_only.mp hg).1

/-- Where nothing is to come, no group goes on. -/
theorem Heeded.groups_eq_nil (h : b.Heeded fun _ => False) : b.kept.groups = [] :=
  h.attended.groups_eq_nil h.steady

end CommitMessage.Board
