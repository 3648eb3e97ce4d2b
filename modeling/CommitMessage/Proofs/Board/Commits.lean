import CommitMessage.Proofs.Board.Runs

/-! What is committed. Only a group of the last pass of its buffer commits something to be shown,
when all its lookups have been settled; what becomes of a lookup of an earlier pass is not seen. -/

namespace CommitMessage.Board

variable {b : Board} {g : Group} {h : List Happening} {id slot : Nat} {buffer : Text} {line : Int}

def shown (b : Board) (buffer : Text) (line : Int) : List Annotation :=
  ((b.sheets.get? buffer).bind (·.committed.get? line)).getD []

/-- A commit for a line of the last pass of its buffer: one annotation for each mention of the
line, each after the outcome of its own lookup, in order. -/
def Commit.IsWhole (h : List Happening) (generation : Nat) (c : Commit) : Prop :=
  ∃ mentions answers, lastPass? h c.buffer = some (generation, mentions) ∧
    answers.length = (onLine mentions c.line).length ∧
    (∀ i a, answers[i]? = some a →
      ∃ outcome, .settled ⟨c.buffer, generation, c.line, i⟩ outcome ∈ h ∧ outcome.resolution? = a) ∧
    c.annotations.Perm (List.zipWith Annotation.ofAnswer (onLine mentions c.line) answers) ∧
    c.annotations.Pairwise InOrder

def Job.group? : Job → Option Nat
  | .group id | .slot id _ | .answer id _ _ => some id
  | .caller _ => none

def Happening.commit? : Happening → Option Commit
  | committed _ c => some c
  | _ => none

def Entry.commit? : Entry → Option Commit
  | committed c => some c
  | _ => none

def Signal.commit? : Signal → Option Commit
  | commit _ c => some c
  | _ => none

theorem commit?_commitsIn (generation : Nat) (signals : List Signal) :
    (Session.commitsIn generation signals).filterMap Happening.commit? =
      signals.filterMap Signal.commit? := by
  rw [Session.commitsIn, List.filterMap_filterMap]
  refine List.filterMap_congr fun x _ => ?_
  cases x <;> rfl

/-! What turns commit and show -/

theorem sheets_slotTurn (hb : b.Steady) (id slot : Nat) :
    (b.slotTurn id slot).1.sheets = b.sheets := by
  rcases slotTurn_cases hb id slot with ⟨he, -⟩ | ⟨g, m, -, -, he⟩
  · rw [he]
  · rw [he]
    rfl

theorem sheets_answer (hb : b.Steady) (id slot : Nat) {o : Outcome} (ho : o ≠ .stopped) :
    (b.answer id slot o).1.sheets = b.sheets := by
  rcases answer_cases hb id slot ho with ⟨he, -⟩ | ⟨g, m, notes, -, -, -, he⟩
  · rw [he]
  · rw [he]
    rfl

theorem commits_answer (hb : b.Steady) (id slot : Nat) {o : Outcome} (ho : o ≠ .stopped) :
    (b.answer id slot o).2.filterMap Signal.commit? = [] := by
  refine List.filterMap_eq_nil_iff.mpr fun x hx => ?_
  rcases answer_cases hb id slot ho with ⟨he, -⟩ | ⟨g, m, notes, -, -, hn, he⟩
  · rw [he] at hx
    cases hx
  · rw [he] at hx
    rcases List.mem_append.mp hx with hx | hx
    · obtain ⟨e, rfl⟩ := hn x hx
      rfl
    · split at hx
      · obtain rfl := List.mem_singleton.mp hx
        rfl
      · cases hx

theorem isWhole_of_whole {generation : Nat} {mentions : List Mention}
    {annotations : List Annotation} (hp : lastPass? h buffer = some (generation, mentions))
    (hw : Whole (Answered h) buffer generation line mentions annotations) :
    Commit.IsWhole h generation ⟨buffer, line, annotations⟩ := by
  obtain ⟨answers, hlen, hans, rfl⟩ := hw
  exact ⟨mentions, answers, hp, hlen, hans, List.mergeSort_perm _ _, pairwise_inOrder_mergeSort _⟩

theorem commitsIn_groupTurn (hb : b.Tracks (lastPass? h) (Answered h)) (hg : b.group? id = some g)
    {x : Happening} (hx : x ∈ Session.commitsIn g.generation (b.groupTurn id).2) :
    b.generation g.buffer = g.generation ∧
      x = .committed g.generation ⟨g.buffer, g.line, g.annotations⟩ ∧
      Commit.IsWhole h g.generation ⟨g.buffer, g.line, g.annotations⟩ ∧
      shown (b.groupTurn id).1 g.buffer g.line = g.annotations := by
  rcases groupTurn_cases hb.steady id with ⟨he, -⟩ | ⟨g', -, -, he⟩ | ⟨g', hg', hr, he⟩
  · rw [he] at hx
    cases hx
  · rw [he] at hx
    obtain ⟨y, hy, hc⟩ := List.mem_filterMap.mp hx
    obtain ⟨i, -, rfl⟩ := List.mem_map.mp hy
    cases hc
  · rw [hg] at hg'
    obtain rfl := Option.some.inj hg'
    rcases commitGroup_cases b g with ⟨s, hs, hgen, hc⟩ | ⟨-, hc⟩
    · obtain ⟨mentions, hp, -⟩ := hb.sheet g.buffer s hs
      rw [hgen] at hp
      have hw := hb.whole (mem_of_group? hg).1 hr hp
      rw [he, hc] at hx ⊢
      have hx : x ∈ [Happening.committed g.generation ⟨g.buffer, g.line, g.annotations⟩] := hx
      refine ⟨by simp [generation, hs, hgen], List.mem_singleton.mp hx, isWhole_of_whole hp hw, ?_⟩
      simp [shown, Sheet.committing]
    · rw [he, hc] at hx
      cases hx

theorem shown_groupTurn (hb : b.Steady) (id : Nat) (buffer : Text) (line : Int) :
    shown (b.groupTurn id).1 buffer line = shown b buffer line ∨
      ∃ g, b.group? id = some g ∧ .committed g.generation ⟨g.buffer, g.line, g.annotations⟩ ∈
        Session.commitsIn g.generation (b.groupTurn id).2 ∧ g.buffer = buffer ∧ g.line = line := by
  rcases groupTurn_cases hb id with ⟨he, -⟩ | ⟨g, -, -, he⟩ | ⟨g, hg, -, he⟩
  · rw [he]
    exact .inl rfl
  · rw [he]
    exact .inl rfl
  · rcases commitGroup_cases b g with ⟨s, hs, -, hc⟩ | ⟨-, hc⟩
    · by_cases hbuf : buffer = g.buffer
      · by_cases hline : line = g.line
        · refine .inr ⟨g, hg, ?_, hbuf.symm, hline.symm⟩
          rw [he, hc]
          exact List.mem_cons_self
        · rw [he, hc]
          simp [shown, hbuf, hs, Sheet.committing, hline]
      · rw [he, hc]
        simp [shown, hbuf]
    · rw [he, hc]
      exact .inl rfl

theorem shown_eq_sheetFor (b : Board) (buffer : Text) (line : Int) :
    shown b buffer line = ((b.sheetFor buffer).2.committed.get? line).getD [] := by
  rcases sheetFor_cases b buffer with ⟨s, hs, he⟩ | ⟨hs, he⟩
  · rw [shown, hs, he, Option.bind_some]
  · rw [shown, hs, he]
    rfl

theorem shown_startPass (b : Board) (buffer : Text) (mentions : List Mention) (x : Text)
    (line : Int) :
    shown (b.startPass buffer mentions).2.1 x line = shown b x line ∨
      shown (b.startPass buffer mentions).2.1 x line = [] ∧
        .committed (b.startPass buffer mentions).1 ⟨x, line, []⟩ ∈
          Session.commitsIn (b.startPass buffer mentions).1 (b.startPass buffer mentions).2.2 := by
  rw [startPass_eq]
  by_cases hx : x = buffer
  · subst hx
    by_cases hlost : line ∈ (b.sheetFor x).2.lost mentions
    · refine .inr ⟨by simp [shown, sheetAfter, get?_foldl_clear, hlost], ?_⟩
      refine List.mem_filterMap.mpr ⟨.commit none ⟨x, line, []⟩, ?_, rfl⟩
      simp only [List.append_assoc, List.mem_append, List.mem_map]
      exact .inl ⟨line, hlost, rfl⟩
    · rw [shown_eq_sheetFor b]
      exact .inl (by simp [shown, sheetAfter, get?_foldl_clear, hlost])
  · simp [shown, hx]

namespace Session

variable {s : Session} {e : Event} {job : Job} {rest : List Job}

/-- What was handed over so far. -/
def handedOver (s : Session) : List Commit := (s.record.filterMap Entry.commit?).reverse

/-- What a sink takes of some commits. -/
def Sink.taken : Sink → List Commit → List Commit
  | .absent, _ => []
  | .present _, commits => commits

theorem board_signal (s : Session) (x : Signal) : (s.signal x).board = s.board := by
  cases x with
  | commit pass c =>
    obtain ⟨record, he⟩ := handOver_eq s pass c
    rw [signal, he]
  | _ => rfl

theorem board_foldl_signal (signals : List Signal) (s : Session) :
    (signals.foldl signal s).board = s.board := by
  induction signals generalizing s with
  | nil => rfl
  | cons x signals ih => rw [List.foldl_cons, ih, board_signal]

@[simp] theorem board_apply (s : Session) (change : Board × List Signal) :
    (s.apply change).board = change.1 := board_foldl_signal change.2 _

theorem handedOver_note (s : Session) (e : Entry) :
    (s.note e).handedOver = s.handedOver ++ e.commit?.toList := by
  cases e <;> simp [handedOver, note, Entry.commit?, List.filterMap_cons]

theorem handedOver_signal (s : Session) (x : Signal) :
    (s.signal x).sink = s.sink ∧
      (s.signal x).handedOver = s.handedOver ++ Sink.taken s.sink x.commit?.toList := by
  have hnone : Sink.taken s.sink [] = [] := by cases s.sink <;> rfl
  cases x with
  | commit pass c =>
    rw [signal, handOver]
    split
    · rename_i hs
      exact ⟨rfl, by simp [Sink.taken, hs]⟩
    · rename_i failsAt hs
      split
      · refine ⟨rfl, ?_⟩
        simp only [handedOver_note, hs]
        simp [Entry.commit?, Signal.commit?, Sink.taken]
      · refine ⟨rfl, ?_⟩
        simp only [handedOver_note, hs]
        simp [Entry.commit?, Signal.commit?, Sink.taken]
  | ask group slot pass r =>
    refine ⟨rfl, ?_⟩
    rw [signal, handedOver_note]
    exact congrArg _ hnone.symm
  | note e =>
    refine ⟨rfl, ?_⟩
    rw [signal, handedOver_note]
    exact congrArg _ hnone.symm
  | groupTurn id => exact ⟨rfl, by simp [signal, handedOver, soon, Signal.commit?, hnone]⟩
  | slotTurn group slot => exact ⟨rfl, by simp [signal, handedOver, soon, Signal.commit?, hnone]⟩
  | withdraw group slot => exact ⟨rfl, by simp [signal, handedOver, Signal.commit?, hnone]⟩
  | ended id => exact ⟨rfl, by simp [signal, Signal.commit?, hnone]⟩

theorem handedOver_foldl_signal (signals : List Signal) (s : Session) :
    (signals.foldl signal s).handedOver =
      s.handedOver ++ Sink.taken s.sink (signals.filterMap Signal.commit?) := by
  induction signals generalizing s with
  | nil => cases hs : s.sink <;> simp [Sink.taken]
  | cons x signals ih =>
    obtain ⟨hsink, hx⟩ := handedOver_signal s x
    rw [List.foldl_cons, ih, hsink, hx]
    cases hs : s.sink with
    | absent => simp [Sink.taken]
    | present failsAt => cases hc : x.commit? <;> simp [Sink.taken, hc]

theorem handedOver_apply (s : Session) (change : Board × List Signal) :
    (s.apply change).handedOver =
      s.handedOver ++ Sink.taken s.sink (change.2.filterMap Signal.commit?) :=
  handedOver_foldl_signal change.2 _

/-- A job is the turn of a group, or nothing that is shown changes. -/
theorem perform_cases (hs : s.Sound h) (hj : s.jobs = job :: rest) :
    (∃ id g, job = .group id ∧ s.board.group? id = some g ∧
      perform { s with jobs := rest } job =
        Session.apply { s with jobs := rest } (s.board.groupTurn id) ∧
      s.happeningsOf job = commitsIn g.generation (s.board.groupTurn id).2) ∨
    (perform { s with jobs := rest } job).board.sheets = s.board.sheets ∧
      (perform { s with jobs := rest } job).handedOver = s.handedOver ∧
      ∀ generation c, Happening.committed generation c ∉ s.happeningsOf job := by
  have hst := hs.ledger.tracks.steady
  have hnone : Sink.taken s.sink [] = [] := by cases s.sink <;> rfl
  cases job with
  | group id =>
    cases hg : s.board.group? id with
    | none =>
      have he : s.board.groupTurn id = (s.board, []) := by simp [groupTurn, hg]
      simp only [perform, he, happeningsOf, hg]
      exact .inr ⟨rfl, rfl, fun _ _ => List.not_mem_nil⟩
    | some g => exact .inl ⟨id, g, rfl, hg, rfl, by simp only [happeningsOf, hg]⟩
  | slot id slot =>
    have hst' := hst.slotTurn id slot
    have hsheets := sheets_slotTurn hst id slot
    right
    rcases slotTurn_cases hst id slot with ⟨he, -⟩ | ⟨g, m, hg, -, he⟩
    · simp only [perform, Session.slotTurn, he, List.foldl_nil, happeningsOf]
      exact ⟨trivial, rfl, fun _ _ => List.not_mem_nil⟩
    · rw [he] at hst' hsheets
      cases hk : s.known m.reference with
      | none =>
        simp only [perform, Session.slotTurn, he, hk, happeningsOf]
        refine ⟨by rw [board_signal]; exact hsheets, ?_, fun _ _ => List.not_mem_nil⟩
        rw [(handedOver_signal _ _).2]
        exact (congrArg _ hnone).trans (List.append_nil _)
      | some o =>
        have ho : o ≠ .stopped := fun hstop => hs.known _ (hstop ▸ hk)
        simp only [perform, Session.slotTurn, he, hk, happeningsOf, query?, hg, Option.map_some]
        refine ⟨?_, ?_, fun _ _ hc => by cases List.mem_singleton.mp hc⟩
        · rw [board_apply, sheets_answer hst' id slot ho]
          exact hsheets
        · rw [handedOver_apply, commits_answer hst' id slot ho, handedOver_note]
          simp only [note, hnone, List.append_nil]
          exact List.append_nil _
  | answer id slot o =>
    have ho := (hs.answer id slot o (hj ▸ List.mem_cons_self)).1
    right
    simp only [perform, happeningsOf]
    refine ⟨by rw [board_apply, sheets_answer hst id slot ho], ?_, fun _ _ => List.not_mem_nil⟩
    rw [handedOver_apply, commits_answer hst id slot ho, hnone, List.append_nil]
    rfl
  | caller id =>
    right
    simp only [perform, hs.callers, Register.get?_nil, happeningsOf]
    exact ⟨trivial, rfl, fun _ _ => List.not_mem_nil⟩

theorem not_committed_settlements (s : Session) (p : Nat × Nat × Reference → Bool) (o : Outcome) :
    ∀ generation c, Happening.committed generation c ∉ s.settlements p o := by
  intro generation c hc
  rw [settlements_eq] at hc
  obtain ⟨q, -, he⟩ := List.mem_map.mp hc
  cases he

/-- What an event commits to be shown. -/
theorem isWhole_of_committed (hs : s.Sound h) (he : e.IsOrdinary) {generation : Nat} {c : Commit}
    (hc : .committed generation c ∈ s.happenings e) (hne : c.annotations ≠ []) :
    s.board.generation c.buffer = generation ∧
      (∃ g ∈ s.board.groups, g.query 0 = ⟨c.buffer, generation, c.line, 0⟩) ∧
      c.IsWhole h generation := by
  cases e with
  | startPass buffer mentions =>
    have hshown := (began_startPass s.board buffer mentions).2
    have hk : (c.buffer, generation, c.line) ∈
        shownLinesOf (s.happenings (.startPass buffer mentions)) :=
      List.mem_filterMap.mpr ⟨_, hc, if_neg hne⟩
    have hempty : shownLinesOf (s.happenings (.startPass buffer mentions)) = [] := hshown
    rw [hempty] at hk
    cases hk
  | settle r o => exact (not_committed_settlements s _ o _ _ hc).elim
  | settleOne id slot o => exact (not_committed_settlements s _ o _ _ hc).elim
  | know known => cases hc
  | handTo sink => cases hc
  | work =>
    cases hj : s.jobs with
    | nil => simp [happenings, hj] at hc
    | cons job rest =>
      simp only [happenings, hj] at hc
      rcases perform_cases hs hj with ⟨id, g, rfl, hg, -, hh⟩ | ⟨-, -, hn⟩
      · rw [hh] at hc
        obtain ⟨hgen, he, hw, -⟩ := commitsIn_groupTurn hs.ledger.tracks hg hc
        cases he
        exact ⟨hgen, ⟨g, (mem_of_group? hg).1, rfl⟩, hw⟩
      · exact (hn _ _ hc).elim
  | detach buffer => exact he.elim
  | shutdown => exact he.elim
  | wait buffer => exact he.elim

/-- A line shows what was committed for it last. -/
theorem shown_step (hs : s.Sound h) (he : e.IsOrdinary) (buffer : Text) (line : Int) :
    shown (s.step e).board buffer line = shown s.board buffer line ∨
      ∃ generation, .committed generation ⟨buffer, line, shown (s.step e).board buffer line⟩ ∈
        s.happenings e := by
  cases e with
  | startPass x mentions =>
    have hboard : (s.step (.startPass x mentions)).board = (s.board.startPass x mentions).2.1 :=
      board_apply _ _
    rw [hboard]
    refine (shown_startPass s.board x mentions buffer line).imp (fun hsame => hsame)
      fun ⟨hempty, hc⟩ => ?_
    rw [hempty]
    exact ⟨_, List.mem_cons_of_mem _ hc⟩
  | settle r o => exact .inl rfl
  | settleOne id slot o => exact .inl rfl
  | know known => exact .inl rfl
  | handTo sink => exact .inl rfl
  | work =>
    cases hj : s.jobs with
    | nil => exact .inl (by simp [step, Session.work, hj])
    | cons job rest =>
      have hwork : s.step .work = perform { s with jobs := rest } job := hs.work_eq hj
      rw [hwork]
      simp only [happenings, hj]
      rcases perform_cases hs hj with ⟨id, g, rfl, hg, hp, hh⟩ | ⟨hsheets, -, -⟩
      · rw [hp, hh, board_apply]
        refine (shown_groupTurn hs.ledger.tracks.steady id buffer line).imp (fun hsame => hsame) ?_
        rintro ⟨g', hg', hc, rfl, rfl⟩
        rw [hg] at hg'
        cases hg'
        have hshow := (commitsIn_groupTurn hs.ledger.tracks hg hc).2.2.2
        exact ⟨g.generation, by rw [hshow]; exact hc⟩
      · exact .inl (by rw [shown, hsheets, shown])
  | detach buffer => exact he.elim
  | shutdown => exact he.elim
  | wait buffer => exact he.elim

/-- A sink that is present takes what is committed, as it is committed. -/
theorem handedOver_step (hs : s.Sound h) (he : e.IsOrdinary) :
    (s.step e).handedOver =
      s.handedOver ++ Sink.taken s.sink ((s.happenings e).filterMap Happening.commit?) := by
  have hnone : Sink.taken s.sink [] = [] := by cases s.sink <;> rfl
  have hno {events : List Happening}
      (hn : ∀ generation c, Happening.committed generation c ∉ events) :
      events.filterMap Happening.commit? = [] := by
    refine List.filterMap_eq_nil_iff.mpr fun x hx => ?_
    cases x with
    | committed generation c => exact (hn _ _ hx).elim
    | began buffer generation mentions => rfl
    | settled q o => rfl
  have hsame {e : Event} (hrec : (s.step e).handedOver = s.handedOver)
      (hn : ∀ generation c, Happening.committed generation c ∉ s.happenings e) :
      (s.step e).handedOver =
        s.handedOver ++ Sink.taken s.sink ((s.happenings e).filterMap Happening.commit?) := by
    rw [hno hn, hnone, List.append_nil, hrec]
  cases e with
  | startPass buffer mentions =>
    have hcommits : (s.happenings (.startPass buffer mentions)).filterMap Happening.commit? =
        (s.board.startPass buffer mentions).2.2.filterMap Signal.commit? :=
      commit?_commitsIn _ _
    rw [hcommits]
    exact handedOver_apply _ _
  | settle r o => exact hsame rfl (not_committed_settlements s _ o)
  | settleOne id slot o => exact hsame rfl (not_committed_settlements s _ o)
  | know known => exact hsame rfl fun _ _ => List.not_mem_nil
  | handTo sink => exact hsame rfl fun _ _ => List.not_mem_nil
  | work =>
    cases hj : s.jobs with
    | nil =>
      refine hsame ?_ ?_
      · simp [step, Session.work, hj]
      · simp [happenings, hj]
    | cons job rest =>
      have hwork : s.step .work = perform { s with jobs := rest } job := hs.work_eq hj
      rcases perform_cases hs hj with ⟨id, g, rfl, hg, hp, hh⟩ | ⟨-, hrec, hn⟩
      · simp only [happenings, hj]
        rw [hwork, hp, hh, commit?_commitsIn]
        exact handedOver_apply _ _
      · exact hsame (hwork ▸ hrec) (by simpa only [happenings, hj] using hn)
  | detach buffer => exact he.elim
  | shutdown => exact he.elim
  | wait buffer => exact he.elim

/-- The job of a group that is not of the last pass changes nothing that is shown. -/
theorem sheets_work_of_stale (hs : s.Sound h) (hj : s.jobs = job :: rest) (hg : g ∈ s.board.groups)
    (hgen : g.generation ≠ s.board.generation g.buffer) (hjob : job.group? = some g.id) :
    s.work.board.sheets = s.board.sheets ∧
      ∀ generation c, Happening.committed generation c ∉ s.happeningsOf job := by
  have hst := hs.ledger.tracks.steady
  rw [hs.work_eq hj]
  rcases perform_cases hs hj with ⟨id, g', rfl, hg', hp, hh⟩ | ⟨hsheets, -, hn⟩
  · cases hjob
    rw [hst.group?_of_mem hg] at hg'
    cases hg'
    have hn (x : Happening) : x ∉ commitsIn g.generation (s.board.groupTurn g.id).2 := fun hx =>
      hgen (commitsIn_groupTurn hs.ledger.tracks (hst.group?_of_mem hg) hx).1.symm
    refine ⟨?_, fun generation c => hh ▸ hn _⟩
    rw [hp, board_apply]
    rcases groupTurn_cases hst g.id with ⟨he, -⟩ | ⟨g', -, -, he⟩ | ⟨g', hg', -, he⟩
    · rw [he]
    · rw [he, setGroup_sheets]
    · rw [hst.group?_of_mem hg] at hg'
      cases hg'
      rcases commitGroup_cases s.board g with ⟨sheet, hsheet, hcur, -⟩ | ⟨-, hc⟩
      · exact absurd (by simp [generation, hsheet, hcur]) hgen
      · rw [he, dropGroup_sheets, hc]
  · exact ⟨hsheets, hn⟩

/-- In a run of passes and settlements in any order, whoever takes the commits, a line is shown
once at most for a pass, and only when all the lookups of the line in that pass have been settled
and no later pass has begun. -/
theorem run_commits_whole {sink : Sink} {events : List Event} (ho : ∀ e ∈ events, e.IsOrdinary) :
    let s := run { sink } events
    let h := history { sink } events
    (shownLinesOf h).Nodup ∧ (settledQueries h).Nodup ∧
    (∀ e, e.IsOrdinary →
      (∀ generation c, .committed generation c ∈ s.happenings e → c.annotations ≠ [] →
        s.board.generation c.buffer = generation ∧
          (∃ g ∈ s.board.groups, g.query 0 = ⟨c.buffer, generation, c.line, 0⟩) ∧
          c.IsWhole h generation) ∧
      (∀ buffer line, shown (s.step e).board buffer line = shown s.board buffer line ∨
        ∃ generation, .committed generation ⟨buffer, line, shown (s.step e).board buffer line⟩ ∈
          s.happenings e) ∧
      (s.step e).handedOver =
        s.handedOver ++ Sink.taken s.sink ((s.happenings e).filterMap Happening.commit?)) ∧
    (∀ r o, (s.step (.settle r o)).board = s.board) ∧
    (∀ group slot o, (s.step (.settleOne group slot o)).board = s.board) ∧
    ∀ job rest, s.jobs = job :: rest → ∀ g ∈ s.board.groups, job.group? = some g.id →
      g.generation ≠ s.board.generation g.buffer →
      s.work.board.sheets = s.board.sheets ∧
        ∀ generation c, .committed generation c ∉ s.happenings .work := by
  intro s h
  have hs : s.Sound h := (sound_start sink).run ho
  refine ⟨hs.ledger.shownOnce, hs.ledger.once, fun e he => ⟨fun generation c hc hne => ?_, ?_, ?_⟩,
    fun _ _ => rfl, fun _ _ _ => rfl, fun job rest hj g hg hjob hgen => ?_⟩
  · exact isWhole_of_committed hs he hc hne
  · exact shown_step hs he
  · exact handedOver_step hs he
  · simp only [happenings, hj]
    exact sheets_work_of_stale hs hj hg hgen hjob

def rejecting : Sink := .present fun _ => some ⟨[], []⟩

/-- A pass overtakes another before its lookup is settled. -/
def overtaken : List Event :=
  let mention (position : Int) : Mention := ⟨1, position, ⟨.ticket, ['7']⟩⟩
  [.startPass ['b'] [mention 4], .work, .work, .startPass ['b'] [mention 9, mention 2],
    .settleOne 0 0 (.failed ⟨[], []⟩), .work, .work, .work, .work, .work,
    .settle ⟨.ticket, ['7']⟩ (.resolved ⟨⟨.ticket, ['7']⟩, true, none, true⟩), .work, .work, .work]

theorem run_commits_whole_overtaken :
    (∀ e ∈ overtaken, e.IsOrdinary) ∧
      (shownLinesOf (history { sink := rejecting } overtaken)).Nodup ∧
      shownLinesOf (history { sink := rejecting } overtaken) = [(['b'], 2, 1)] ∧
      (run { sink := rejecting } overtaken).handedOver.map (·.annotations.map (·.position)) =
        [[2, 9]] := by
  have ho : ∀ e ∈ overtaken, e.IsOrdinary := by simp [overtaken, Event.IsOrdinary]
  exact ⟨ho, (run_commits_whole ho).1, by cbv, by cbv⟩

end Session

end CommitMessage.Board
