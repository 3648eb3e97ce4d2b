import CommitMessage.Proofs.Board.Commits

/-! What is handed over and what the board shows. On a board with groups that are called off, too,
what was handed over last for a line is what the line shows, and nothing is handed over for a line
that shows nothing and waits for nothing. -/

namespace CommitMessage.Board

variable {b : Board} {g : Group} {id slot : Nat} {buffer : Text} {line : Int}
  {change : Board × List Signal}

/-! Groups that are called off or not -/

/-- A group that is to commit has an answer for each of its mentions, one mention at least. -/
structure Group.Ripe (g : Group) : Prop where
  slots_ne : g.slots ≠ []
  done : g.stage = .ready → g.calledOff = false → ∀ entry ∈ g.slots, entry.2.isDone = true

theorem Group.Ripe.annotations_ne (h : g.Ripe) (hr : g.stage = .ready)
    (hc : g.calledOff = false) : g.annotations ≠ [] := by
  obtain ⟨⟨m, state⟩, he⟩ := List.exists_mem_of_ne_nil _ h.slots_ne
  have hdone := h.done hr hc _ he
  cases state with
  | fresh => cases hdone
  | asking => cases hdone
  | done answer =>
    refine List.ne_nil_of_mem (a := Annotation.ofAnswer m answer) ?_
    rw [annotations, (List.mergeSort_perm _ _).mem_iff]
    exact List.mem_filterMap.mpr ⟨_, he, rfl⟩

structure Tidy (b : Board) : Prop where
  ripe : ∀ g ∈ b.groups, g.Ripe
  nodup : ∀ buffer s, b.sheets.get? buffer = some s → s.committed.keys.Nodup

theorem Tidy.of_eq {b' : Board} (h : b.Tidy) (hs : b'.sheets = b.sheets)
    (hg : ∀ g ∈ b'.groups, g.Ripe) : b'.Tidy :=
  ⟨hg, fun buffer s hm => h.nodup buffer s (hs ▸ hm)⟩

theorem Tidy.setGroup (h : b.Tidy) (hg : g.Ripe) : (b.setGroup g).Tidy := by
  refine h.of_eq rfl fun h' hm => ?_
  rcases mem_setGroup.mp hm with ⟨hm, -⟩ | ⟨rfl, -⟩
  · exact h.ripe h' hm
  · exact hg

theorem Tidy.dropGroup (h : b.Tidy) (id : Nat) : (b.dropGroup id).Tidy :=
  h.of_eq rfl fun g hm => h.ripe g (mem_dropGroup.mp hm).1

/-! What is handed over last -/

def lastFor (commits : List Commit) (buffer : Text) (line : Int) : Option (List Annotation) :=
  (commits.reverse.find? fun c => c.buffer = buffer ∧ c.line = line).map (·.annotations)

@[simp] theorem lastFor_nil : lastFor [] buffer line = none := rfl

theorem lastFor_append (commits more : List Commit) :
    lastFor (commits ++ more) buffer line =
      (lastFor more buffer line).or (lastFor commits buffer line) := by
  rw [lastFor, List.reverse_append, List.find?_append, Option.map_or]
  rfl

theorem lastFor_singleton (c : Commit) : lastFor [c] buffer line =
    if c.buffer = buffer ∧ c.line = line then some c.annotations else none := by
  by_cases h : c.buffer = buffer ∧ c.line = line
  · simp [lastFor, h]
  · simp [lastFor, h]

def commitsOf (signals : List Signal) : List Commit := signals.filterMap Signal.commit?

/-- What a line shows after a change is what the change commits for it last, if anything. -/
def Tells (b : Board) (change : Board × List Signal) (buffer : Text) : Prop :=
  ∀ line, shown change.1 buffer line =
    (lastFor (commitsOf change.2) buffer line).getD (shown b buffer line)

/-- A change that keeps a board tidy and commits nothing empty. -/
structure Fills (b : Board) (change : Board × List Signal) : Prop where
  tidy : change.1.Tidy
  tells : ∀ buffer, Tells b change buffer
  ne : ∀ c ∈ commitsOf change.2, c.annotations ≠ []

theorem Fills.of_sheets (ht : change.1.Tidy) (hs : change.1.sheets = b.sheets)
    (hc : commitsOf change.2 = []) : Fills b change := by
  refine ⟨ht, fun buffer line => ?_, ?_⟩
  · rw [hc, lastFor_nil, Option.getD_none, shown, hs, shown]
  · rw [hc]
    exact List.forall_mem_nil _

theorem commitsOf_append (signals more : List Signal) :
    commitsOf (signals ++ more) = commitsOf signals ++ commitsOf more := List.filterMap_append

theorem Fills.same (h : b.Tidy) : Fills b (b, []) := .of_sheets h rfl rfl

theorem Fills.trans {b₁ b₂ : Board} {signals more : List Signal} (h : Fills b (b₁, signals))
    (h' : Fills b₁ (b₂, more)) : Fills b (b₂, signals ++ more) := by
  refine ⟨h'.tidy, fun buffer line => ?_, fun c hm => ?_⟩
  · have hfirst := h.tells buffer line
    have hsecond := h'.tells buffer line
    rw [commitsOf_append, lastFor_append, hsecond, hfirst]
    cases lastFor (commitsOf more) buffer line <;> rfl
  · rw [commitsOf_append] at hm
    rcases List.mem_append.mp hm with hm | hm
    · exact h.ne c hm
    · exact h'.ne c hm

/-! Turns -/

theorem Tidy.commitGroup (h : b.Tidy) (g : Group) : (b.commitGroup g).1.Tidy := by
  rcases commitGroup_cases b g with ⟨s, hs, -, he⟩ | ⟨-, he⟩
  · rw [he]
    refine ⟨h.ripe, fun buffer s' hs' => ?_⟩
    rw [Register.get?_set] at hs'
    by_cases hb : buffer = g.buffer
    · rw [if_pos hb] at hs'
      cases hs'
      exact Register.nodup_keys_set (h.nodup g.buffer s hs)
    · rw [if_neg hb] at hs'
      exact h.nodup buffer s' hs'
  · rw [he]
    exact h

theorem tells_commitGroup (b : Board) (g : Group) (buffer : Text) :
    Tells b (b.commitGroup g) buffer := by
  intro line
  rcases commitGroup_cases b g with ⟨s, hs, -, he⟩ | ⟨-, he⟩
  · have hc : commitsOf (b.commitGroup g).2 = [⟨g.buffer, g.line, g.annotations⟩] := by
      rw [he]
      rfl
    rw [hc, lastFor_singleton, he]
    by_cases hb : g.buffer = buffer
    · subst hb
      by_cases hl : g.line = line
      · simp [shown, Sheet.committing, hl]
      · simp [shown, Sheet.committing, hl, Ne.symm hl, hs]
    · simp [shown, hb, Ne.symm hb]
  · rw [he]
    rfl

theorem fills_commitGroup (h : b.Tidy) (hg : g ∈ b.groups) (hr : g.stage = .ready)
    (hc : g.calledOff = false) : Fills b (b.commitGroup g) := by
  refine ⟨h.commitGroup g, tells_commitGroup b g, fun c hm => ?_⟩
  rcases commitGroup_cases b g with ⟨s, -, -, he⟩ | ⟨-, he⟩
  · rw [he] at hm
    obtain rfl := List.mem_singleton.mp hm
    exact (h.ripe g hg).annotations_ne hr hc
  · rw [he] at hm
    cases hm

theorem fills_groupTurn (h : b.Tidy) (id : Nat) : Fills b (b.groupTurn id) := by
  unfold groupTurn
  split
  · exact .same h
  · next g hg =>
    have hm := (mem_of_group? hg).1
    split
    · split
      · exact .of_sheets (h.dropGroup id) rfl rfl
      · refine .of_sheets (h.setGroup ⟨(h.ripe g hm).slots_ne, nofun⟩) rfl ?_
        refine List.filterMap_eq_nil_iff.mpr fun x hx => ?_
        obtain ⟨slot, -, rfl⟩ := List.mem_map.mp hx
        rfl
    · exact .same h
    · next hr =>
      cases hc : g.calledOff with
      | true => exact .of_sheets (h.dropGroup id) rfl rfl
      | false =>
        have hfills := fills_commitGroup h hm hr hc
        exact hfills.trans (.of_sheets (hfills.tidy.dropGroup id) rfl rfl)

theorem Group.Ripe.stage_ne_ready {m : Mention} {state : Slot} (h : g.Ripe)
    (hs : g.slots[slot]? = some (m, state)) (hd : state.isDone = false)
    (hc : g.calledOff = false) : g.stage ≠ .ready := by
  intro hr
  have hdone := h.done hr hc _ (List.mem_of_getElem? hs)
  rw [hd] at hdone
  cases hdone

theorem fills_slotTurn (h : b.Tidy) (id slot : Nat) : Fills b (b.slotTurn id slot) := by
  unfold slotTurn
  split
  · exact .same h
  · next g hg =>
    have hripe := h.ripe g (mem_of_group? hg).1
    split
    · next m hc hs =>
      refine .of_sheets (h.setGroup ⟨setSlot_slots_ne hripe.slots_ne, fun hr => ?_⟩) rfl rfl
      exact absurd hr (hripe.stage_ne_ready hs rfl hc)
    · exact .same h

theorem fills_fillSlot {m : Mention} (h : b.Tidy) (hg : g ∈ b.groups) (hc : g.calledOff = false)
    (hs : g.slots[slot]? = some (m, .asking)) (answer : Option Resolution) :
    Fills b (b.fillSlot g slot answer) := by
  have hripe := h.ripe g hg
  rw [fillSlot_eq]
  refine .of_sheets (h.setGroup ⟨setSlot_slots_ne hripe.slots_ne, fun hr _ => ?_⟩) rfl ?_
  · by_cases hall : (g.setSlot slot (.done answer)).slots.all (·.2.isDone) = true
    · exact List.all_eq_true.mp hall
    · rw [Group.filled, if_neg hall] at hr
      exact absurd hr (hripe.stage_ne_ready hs rfl hc)
  · split <;> rfl

theorem fills_answer (h : b.Tidy) (id slot : Nat) (outcome : Outcome) :
    Fills b (b.answer id slot outcome) := by
  unfold answer
  split
  · exact .same h
  · next g hg =>
    have hm := (mem_of_group? hg).1
    split
    · next hc hs => exact fills_fillSlot h hm hc hs _
    · next hc hs =>
      have hnote (e : LogEntry) : Fills b (b, [.note e]) := .of_sheets h rfl rfl
      exact (hnote _).trans (fills_fillSlot h hm hc hs _)
    · exact .of_sheets (h.setGroup ⟨(h.ripe g hm).slots_ne, nofun⟩) rfl rfl
    · exact .same h

theorem fills_callOff (h : b.Tidy) (hg : g.Ripe) : Fills b (b.callOff g) := by
  unfold callOff
  split
  · exact .same h
  · split
    · refine .of_sheets (h.setGroup ⟨hg.slots_ne, nofun⟩) rfl ?_
      refine List.filterMap_eq_nil_iff.mpr fun x hx => ?_
      rcases List.mem_append.mp hx with hx | hx
      · obtain ⟨slot, -, rfl⟩ := List.mem_map.mp hx
        rfl
      · obtain rfl := List.mem_singleton.mp hx
        rfl
    · exact .of_sheets (h.setGroup ⟨hg.slots_ne, nofun⟩) rfl rfl

theorem fills_callOffSheet (h : b.Tidy) (sheet : Nat) : Fills b (b.callOffSheet sheet) := by
  refine List.foldlRecOn (motive := Fills b) _ _ (.same h) fun change hchange g hm => ?_
  have hripe := h.ripe g (List.mem_of_mem_filter hm)
  exact hchange.trans (fills_callOff hchange.tidy hripe)

/-! Passes -/

theorem Tidy.startPass (h : b.Tidy) (buffer : Text) (mentions : List Mention) :
    (b.startPass buffer mentions).2.1.Tidy := by
  rw [startPass_eq]
  constructor
  · intro g hg
    rcases List.mem_append.mp hg with hg | hg
    · exact h.ripe g hg
    · have hnew := isNew_of_mem hg
      obtain ⟨ms, hm, hs⟩ := hnew.slots
      refine ⟨by simpa [hs] using (mem_byLine.mp hm).2, fun hr => ?_⟩
      rw [hnew.stage] at hr
      cases hr
  · intro x s hs
    dsimp only at hs
    rw [Register.get?_set] at hs
    split at hs
    · cases hs
      refine nodup_keys_foldl_clear _ ?_
      rcases sheetFor_cases b buffer with ⟨s, hs, he⟩ | ⟨-, he⟩
      · rw [he]
        exact h.nodup buffer s hs
      · rw [he]
        exact List.nodup_nil
    · exact h.nodup x s hs

theorem commitsOf_startPass (b : Board) (buffer : Text) (mentions : List Mention) :
    commitsOf (b.startPass buffer mentions).2.2 =
      ((b.sheetFor buffer).2.lost mentions).map fun line => ⟨buffer, line, []⟩ := by
  have hturns : commitsOf ((b.opened buffer mentions).map (Signal.groupTurn ·.id)) = [] := by
    refine List.filterMap_eq_nil_iff.mpr fun x hx => ?_
    obtain ⟨g, -, rfl⟩ := List.mem_map.mp hx
    rfl
  have hcleared (lost : List Int) :
      commitsOf (lost.map fun line => .commit none ⟨buffer, line, []⟩) =
        lost.map fun line => ⟨buffer, line, []⟩ := by
    rw [commitsOf, List.filterMap_map, ← List.filterMap_eq_map]
    rfl
  rw [startPass_eq]
  dsimp only
  rw [commitsOf_append, commitsOf_append, hturns, hcleared, List.append_nil]
  exact List.append_nil _

theorem lastFor_cleared (lost : List Int) (x : Text) :
    lastFor (lost.map fun line => ⟨buffer, line, []⟩) x line =
      if buffer = x ∧ line ∈ lost then some [] else none := by
  induction lost with
  | nil => simp
  | cons l lost ih =>
    rw [List.map_cons, ← List.singleton_append, lastFor_append, ih, lastFor_singleton]
    by_cases hx : buffer = x
    · by_cases hl : l = line
      · by_cases hm : line ∈ lost <;> simp [hx, hl, hm]
      · simp [hx, hl, Ne.symm hl]
    · simp [hx]

theorem tells_startPass (b : Board) (buffer : Text) (mentions : List Mention) (x : Text) :
    Tells b (b.startPass buffer mentions).2 x := by
  intro line
  rw [commitsOf_startPass, lastFor_cleared, startPass_eq]
  by_cases hx : buffer = x
  · subst hx
    rw [shown_eq_sheetFor b]
    by_cases hlost : line ∈ (b.sheetFor buffer).2.lost mentions
    · simp [shown, sheetAfter, get?_foldl_clear, hlost]
    · simp [shown, sheetAfter, get?_foldl_clear, hlost]
  · simp [shown, hx, Ne.symm hx]

/-- A line is cleared if it shows something or waits for a group, and has no mention any more. -/
theorem Tidy.of_mem_lost (h : b.Tidy) {mentions : List Mention}
    (hl : line ∈ (b.sheetFor buffer).2.lost mentions) :
    (shown b buffer line ≠ [] ∨ b.lineState buffer line = .pending) ∧
      ∀ m ∈ mentions, m.line ≠ line := by
  obtain ⟨hshown, hnone⟩ := List.mem_filter.mp hl
  constructor
  · rw [mem_sortedLines] at hshown
    rcases sheetFor_cases b buffer with ⟨s, hs, he⟩ | ⟨hs, he⟩
    · rw [he] at hshown
      rcases List.mem_append.mp hshown with hc | hp
      · left
        obtain ⟨⟨l, annotations⟩, hm, rfl⟩ := List.mem_map.mp hc
        obtain ⟨hm, hne⟩ := List.mem_filter.mp hm
        rw [shown, hs, Option.bind_some, Register.get?_of_mem (h.nodup buffer s hs) hm]
        simpa using hne
      · right
        have hpending : s.pending.has line = true := by
          rw [Register.has_eq_isSome, Option.isSome_iff_ne_none, Ne, Register.get?_eq_none_iff]
          exact not_not_intro hp
        simp [lineState, hs, hpending]
    · rw [he] at hshown
      cases hshown
  · rintro m hm rfl
    have hline : m ∈ onLine mentions m.line := List.mem_filter.mpr ⟨hm, by simp⟩
    have hentry := mem_byLine.mpr ⟨rfl, List.ne_nil_of_mem hline⟩
    have hany : (byLine mentions).any (·.1 == m.line) = true :=
      List.any_eq_true.mpr ⟨_, hentry, by simp⟩
    rw [hany] at hnone
    cases hnone

/-! Sessions -/

/-- What leaves a buffer in place, with someone to take the commits. -/
def Event.Keeps (buffer : Text) : Event → Prop
  | .detach buffer' => buffer' ≠ buffer
  | .shutdown => False
  | .handTo sink => sink ≠ .absent
  | _ => True

namespace Session

variable {s s' s'' : Session} {e : Event}

/-- A change of a session that commits nothing empty. -/
structure Fills (buffer : Text) (s s' : Session) : Prop where
  tidy : s'.board.Tidy
  present : s'.sink ≠ .absent
  told : ∃ commits, s'.handedOver = s.handedOver ++ commits ∧
    (∀ line, shown s'.board buffer line =
      (lastFor commits buffer line).getD (shown s.board buffer line)) ∧
    ∀ c ∈ commits, c.annotations ≠ []

theorem Fills.of_eq (ht : s'.board.Tidy) (hp : s'.sink ≠ .absent)
    (hs : ∀ line, shown s'.board buffer line = shown s.board buffer line)
    (hh : s'.handedOver = s.handedOver) : Fills buffer s s' :=
  ⟨ht, hp, [], by rw [hh, List.append_nil], hs, nofun⟩

theorem Fills.trans (h : Fills buffer s s') (h' : Fills buffer s' s'') : Fills buffer s s'' := by
  obtain ⟨commits, hh, hs, hn⟩ := h.told
  obtain ⟨more, hh', hs', hn'⟩ := h'.told
  refine ⟨h'.tidy, h'.present, commits ++ more, ?_, fun line => ?_, fun c hm => ?_⟩
  · rw [hh', hh, List.append_assoc]
  · rw [hs', hs, lastFor_append]
    cases lastFor more buffer line <;> rfl
  · rcases List.mem_append.mp hm with hm | hm
    · exact hn c hm
    · exact hn' c hm

theorem sink_foldl_signal (signals : List Signal) (s : Session) :
    (signals.foldl signal s).sink = s.sink := by
  induction signals generalizing s with
  | nil => rfl
  | cons x signals ih => rw [List.foldl_cons, ih, (handedOver_signal s x).1]

theorem sink_apply (s : Session) (change : Board × List Signal) :
    (s.apply change).sink = s.sink := sink_foldl_signal change.2 _

theorem handedOver_apply_of_present (hp : s.sink ≠ .absent) (change : Board × List Signal) :
    (s.apply change).handedOver = s.handedOver ++ commitsOf change.2 := by
  rw [handedOver_apply]
  cases hs : s.sink with
  | absent => exact absurd hs hp
  | present failsAt => rfl

theorem fills_apply (hp : s.sink ≠ .absent) (h : Board.Fills s.board change) :
    Fills buffer s (s.apply change) := by
  refine ⟨by rw [board_apply]; exact h.tidy, by rw [sink_apply]; exact hp, commitsOf change.2,
    handedOver_apply_of_present hp change, fun line => ?_, h.ne⟩
  rw [board_apply]
  exact h.tells buffer line

theorem fills_proceed (ht : s.board.Tidy) (hp : s.sink ≠ .absent) (caller : Nat)
    (plan : List Phase) : Fills buffer s (s.proceed caller plan) := by
  induction plan generalizing s with
  | nil =>
    rw [proceed]
    refine .of_eq ht hp (fun _ => rfl) ?_
    rw [handedOver_note]
    exact List.append_nil _
  | cons phase rest ih =>
    cases phase with
    | callOff sheet =>
      have hfirst : Fills buffer s (s.apply (s.board.callOffSheet sheet)) :=
        fills_apply hp (fills_callOffSheet ht sheet)
      rw [proceed]
      split
      · exact hfirst.trans (ih hfirst.tidy hfirst.present)
      · exact hfirst.trans (.of_eq hfirst.tidy hfirst.present (fun _ => rfl) rfl)
    | ended groups =>
      rw [proceed]
      · split
        · exact ih ht hp
        · exact .of_eq ht hp (fun _ => rfl) rfl
      · nofun
    | idle sheet =>
      rw [proceed]
      · split
        · exact ih ht hp
        · exact .of_eq ht hp (fun _ => rfl) rfl
      · nofun

theorem fills_call (ht : s.board.Tidy) (hp : s.sink ≠ .absent) (plan : List Phase) :
    Fills buffer s (s.call plan) := by
  have hnext : Fills buffer s { s with nextCaller := s.nextCaller + 1 } :=
    .of_eq ht hp (fun _ => rfl) rfl
  exact hnext.trans (fills_proceed hnext.tidy hnext.present s.nextCaller plan)

theorem fills_callCallers (ht : s.board.Tidy) (hp : s.sink ≠ .absent) :
    Fills buffer s s.callCallers := by
  refine List.foldlRecOn (motive := Fills buffer s) _ _ (.of_eq ht hp (fun _ => rfl) rfl) ?_
  intro s' h entry _
  split
  · exact h.trans (.of_eq h.tidy h.present (fun _ => rfl) rfl)
  · exact h

theorem fills_slotTurn (ht : s.board.Tidy) (hp : s.sink ≠ .absent) (id slot : Nat) :
    Fills buffer s (s.slotTurn id slot) := by
  have hturn := Board.fills_slotTurn ht id slot
  unfold slotTurn
  split
  next board signals he =>
    rw [he] at hturn
    split
    · next id slot pass r =>
      dsimp only
      split
      · next outcome hk =>
        have hasked : Fills buffer s ({ s with board }.note (.asked r)) := by
          refine .of_eq hturn.tidy hp (fun line => hturn.tells buffer line) ?_
          rw [handedOver_note]
          exact List.append_nil _
        exact hasked.trans (fills_apply hp (fills_answer hturn.tidy id slot outcome))
      · exact fills_apply hp hturn
    · exact fills_apply hp hturn

theorem fills_perform (ht : s.board.Tidy) (hp : s.sink ≠ .absent) (job : Job) :
    Fills buffer s (s.perform job) := by
  cases job with
  | group id => exact fills_apply hp (fills_groupTurn ht id)
  | slot id slot => exact fills_slotTurn ht hp id slot
  | answer id slot outcome => exact fills_apply hp (fills_answer ht id slot outcome)
  | caller id =>
    rw [perform]
    split
    · exact fills_proceed ht hp id _
    · exact .of_eq ht hp (fun _ => rfl) rfl

theorem fills_work (ht : s.board.Tidy) (hp : s.sink ≠ .absent) : Fills buffer s s.work := by
  unfold work
  split
  · exact .of_eq ht hp (fun _ => rfl) rfl
  · next job rest hj =>
    have hrest : Fills buffer s { s with jobs := rest } := .of_eq ht hp (fun _ => rfl) rfl
    have hjob := hrest.trans (fills_perform hrest.tidy hrest.present job)
    exact hjob.trans (fills_callCallers hjob.tidy hjob.present)

theorem fills_detach {buffer' : Text} (ht : s.board.Tidy) (hp : s.sink ≠ .absent)
    (hne : buffer' ≠ buffer) : Fills buffer s (s.detach buffer') := by
  unfold detach
  split
  · have hdrop : Fills buffer s { s with board := s.board.drop buffer' } := by
      refine .of_eq ⟨ht.ripe, fun x sheet hx => ?_⟩ hp (fun line => ?_) rfl
      · rw [drop, Register.get?_erase] at hx
        split at hx
        · cases hx
        · exact ht.nodup x sheet hx
      · simp [shown, drop, Ne.symm hne]
    exact hdrop.trans (fills_call hdrop.tidy hdrop.present _)
  · exact fills_call ht hp []

/-- An event other than a new pass commits nothing empty. -/
theorem fills_step (ht : s.board.Tidy) (hp : s.sink ≠ .absent) (he : e.Keeps buffer)
    (hpass : ∀ buffer' mentions, e ≠ .startPass buffer' mentions) :
    Fills buffer s (s.step e) := by
  cases e with
  | startPass buffer' mentions => exact absurd rfl (hpass buffer' mentions)
  | settle r outcome => exact .of_eq ht hp (fun _ => rfl) rfl
  | settleOne id slot outcome => exact .of_eq ht hp (fun _ => rfl) rfl
  | know known => exact .of_eq ht hp (fun _ => rfl) rfl
  | handTo sink => exact .of_eq ht he (fun _ => rfl) rfl
  | detach buffer' => exact fills_detach ht hp he
  | shutdown => exact he.elim
  | wait buffer' =>
    rw [step, wait]
    split
    · exact fills_call ht hp _
    · exact fills_call ht hp []
  | work => exact fills_work ht hp

/-- What was handed over last for a line of the buffer is what the line shows. -/
structure Mirrors (buffer : Text) (s : Session) : Prop where
  tidy : s.board.Tidy
  present : s.sink ≠ .absent
  last : ∀ line, (lastFor s.handedOver buffer line).getD [] = shown s.board buffer line

theorem Mirrors.tell (h : Mirrors buffer s) (ht : s'.board.Tidy) (hp : s'.sink ≠ .absent)
    {commits : List Commit} (hh : s'.handedOver = s.handedOver ++ commits)
    (hs : ∀ line, shown s'.board buffer line =
      (lastFor commits buffer line).getD (shown s.board buffer line)) : Mirrors buffer s' := by
  refine ⟨ht, hp, fun line => ?_⟩
  rw [hh, lastFor_append, hs, ← h.last line]
  cases lastFor commits buffer line <;> rfl

theorem startPass_handedOver (hp : s.sink ≠ .absent) (buffer : Text) (mentions : List Mention) :
    (s.step (.startPass buffer mentions)).handedOver = s.handedOver ++
      ((s.board.sheetFor buffer).2.lost mentions).map fun line => ⟨buffer, line, []⟩ := by
  rw [← commitsOf_startPass]
  exact handedOver_apply_of_present hp _

theorem Mirrors.step (h : Mirrors buffer s) (he : e.Keeps buffer) :
    Mirrors buffer (s.step e) := by
  by_cases hpass : ∃ buffer' mentions, e = .startPass buffer' mentions
  · obtain ⟨buffer', mentions, rfl⟩ := hpass
    have hboard : (s.step (.startPass buffer' mentions)).board =
        (s.board.startPass buffer' mentions).2.1 := board_apply _ _
    refine h.tell ?_ ?_ (handedOver_apply_of_present h.present _) fun line => ?_
    · rw [hboard]
      exact h.tidy.startPass buffer' mentions
    · exact (sink_apply _ _).trans_ne h.present
    · rw [hboard]
      exact tells_startPass s.board buffer' mentions buffer line
  · have hfills := fills_step h.tidy h.present he (by simpa using hpass)
    obtain ⟨commits, hh, hs, -⟩ := hfills.told
    exact h.tell hfills.tidy hfills.present hh hs

theorem mirrors_start (buffer : Text) (failsAt : Commit → Option Failure) :
    Mirrors buffer { sink := .present failsAt } :=
  ⟨⟨nofun, nofun⟩, nofun, fun _ => rfl⟩

theorem Mirrors.run (h : Mirrors buffer s) {events : List Event}
    (he : ∀ e ∈ events, e.Keeps buffer) : Mirrors buffer (s.run events) := by
  induction events generalizing s with
  | nil => exact h
  | cons e events ih =>
    exact ih (h.step (he e List.mem_cons_self)) fun e hm => he e (List.mem_cons_of_mem _ hm)

/-- In a run in which a buffer is not given up, what was handed over last for a line of the buffer
is what the line shows, also when the one who takes the commits fails at some. A line is cleared by
a new pass alone, when it shows something or waits for a group and the pass has no mention on it. -/
theorem run_mirrors {failsAt : Commit → Option Failure} {events : List Event}
    (ho : ∀ e ∈ events, e.Keeps buffer) :
    let s := run { sink := .present failsAt } events
    (∀ line, (lastFor s.handedOver buffer line).getD [] = shown s.board buffer line) ∧
    ∀ e, e.Keeps buffer → ∃ commits, (s.step e).handedOver = s.handedOver ++ commits ∧
      ∀ c ∈ commits, c.annotations = [] → ∃ mentions, e = .startPass c.buffer mentions ∧
        (shown s.board c.buffer c.line ≠ [] ∨ s.board.lineState c.buffer c.line = .pending) ∧
        ∀ m ∈ mentions, m.line ≠ c.line := by
  intro s
  have hs : Mirrors buffer s := (mirrors_start buffer failsAt).run ho
  refine ⟨hs.last, fun e he => ?_⟩
  by_cases hpass : ∃ buffer' mentions, e = .startPass buffer' mentions
  · obtain ⟨buffer', mentions, rfl⟩ := hpass
    refine ⟨_, startPass_handedOver hs.present buffer' mentions, fun c hm _ => ?_⟩
    obtain ⟨line, hl, rfl⟩ := List.mem_map.mp hm
    exact ⟨mentions, rfl, hs.tidy.of_mem_lost hl⟩
  · obtain ⟨commits, hh, -, hn⟩ := (fills_step hs.tidy hs.present he (by simpa using hpass)).told
    exact ⟨commits, hh, fun c hm hempty => absurd hempty (hn c hm)⟩

/-- A line is filled, and then cleared by a later pass; another buffer is given up. -/
def clearing : List Event :=
  let mention (line : Int) : Mention := ⟨line, 4, ⟨.ticket, ['7']⟩⟩
  [.startPass ['b'] [mention 1], .startPass ['c'] [mention 1], .work, .work, .work,
    .settleOne 0 0 (.failed ⟨[], []⟩), .work, .work, .work, .work, .detach ['c'], .work, .work,
    .startPass ['b'] [mention 2]]

theorem run_mirrors_clearing :
    (∀ e ∈ clearing, e.Keeps ['b']) ∧
      (lastFor (run { sink := rejecting } clearing).handedOver ['b'] 1).getD [] =
        shown (run { sink := rejecting } clearing).board ['b'] 1 ∧
      (run { sink := rejecting } clearing).handedOver.map (fun c => (c.line, c.annotations.length)) =
        [(1, 1), (1, 0)] := by
  have ho : ∀ e ∈ clearing, e.Keeps ['b'] := by simp [clearing, Event.Keeps]
  exact ⟨ho, (run_mirrors ho).1 1, by decide +kernel⟩

end Session

end CommitMessage.Board
