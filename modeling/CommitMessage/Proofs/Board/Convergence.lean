import CommitMessage.Proofs.Board.Commits
import CommitMessage.Proofs.Board.Shown

/-! When no lookup waits and no job is left, a buffer shows what its last pass has found, and
nothing that came before or the order of the answers makes a difference. -/

namespace CommitMessage.Board

variable {b : Board} {h : List Happening} {buffer : Text} {line : Int}

/-! The work of a session comes to an end -/

theorem length_jobs_of_signals (signals : List Signal) :
    (signals.filterMap Signal.job?).length = signals.countP isTurn := by
  induction signals with
  | nil => rfl
  | cons x signals ih =>
    cases x <;> simp [Signal.job?, isTurn, List.filterMap_cons, List.countP_cons, ih]

namespace Session

variable {s : Session} {job : Job} {rest : List Job}

/-- The jobs there are, and those that the board may still ask for. -/
def remaining (s : Session) : Nat := s.jobs.length + s.board.cost 0

theorem remaining_apply {change : Board × List Signal} (hq : ∀ x ∈ change.2, x.IsQuiet) :
    (s.apply change).remaining = s.jobs.length + (change.2.countP isTurn + change.1.cost 0) := by
  obtain ⟨record, he⟩ := apply_eq s change hq
  rw [he]
  simp only [remaining, List.length_append, length_jobs_of_signals]
  omega

theorem remaining_perform (hs : s.Sound h) (hj : s.jobs = job :: rest) :
    (perform { s with jobs := rest } job).remaining < s.remaining := by
  have hst := hs.ledger.tracks.steady
  have hlen : s.remaining = rest.length + 1 + s.board.cost 0 := by
    simp only [remaining, hj, List.length_cons]
  cases job with
  | group id =>
    have hcost := cost_groupTurn hst id 0
    have hr := remaining_apply (s := { s with jobs := rest }) (isQuiet_groupTurn s.board id)
    simp only [perform, hr]
    omega
  | slot id slot =>
    have hst' := hst.slotTurn id slot
    rcases cost_slotTurn hst id slot 0 with he | ⟨pass, r, he, hcost⟩
    · simp only [perform, Session.slotTurn, he, List.foldl_nil, remaining, hj, List.length_cons]
      omega
    · have hsplit : s.board.slotTurn id slot =
          ((s.board.slotTurn id slot).1, [.ask id slot pass r]) := by rw [← he]
      cases hk : s.known r with
      | none =>
        have hp : (perform { s with jobs := rest } (.slot id slot)).remaining =
            rest.length + (s.board.slotTurn id slot).1.cost 0 := by
          simp only [perform, Session.slotTurn]
          rw [hsplit]
          simp only [hk]
          rfl
        omega
      | some o =>
        have ho : o ≠ .stopped := fun hstop => hs.known _ (hstop ▸ hk)
        have hanswer := cost_answer hst' id slot 0 ho
        have hp : perform { s with jobs := rest } (.slot id slot) =
            Session.apply { s with
              board := (s.board.slotTurn id slot).1
              jobs := rest
              record := .asked r :: s.record }
              ((s.board.slotTurn id slot).1.answer id slot o) := by
          simp only [perform, Session.slotTurn]
          rw [hsplit]
          simp only [hk]
          rfl
        have hr := remaining_apply (s := { s with
          board := (s.board.slotTurn id slot).1
          jobs := rest
          record := .asked r :: s.record }) (isQuiet_answer (s.board.slotTurn id slot).1 id slot o)
        rw [hp, hr]
        dsimp only
        omega
  | answer id slot o =>
    have ho := (hs.answer id slot o (hj ▸ List.mem_cons_self)).1
    have hcost := cost_answer hst id slot 0 ho
    have hr := remaining_apply (s := { s with jobs := rest }) (isQuiet_answer s.board id slot o)
    simp only [perform, hr]
    omega
  | caller id =>
    simp only [perform, hs.callers, Register.get?_nil, remaining, hj, List.length_cons]
    omega

theorem remaining_le_backlog (s : Session) : s.remaining ≤ s.backlog := by
  have hcost (g : Group) : g.cost 0 ≤ groupWork g := by
    have hzero : (g.slots.map (·.2.cost 0)).sum = 0 := by
      refine List.sum_eq_zero fun n hn => ?_
      obtain ⟨⟨m, state⟩, -, rfl⟩ := List.mem_map.mp hn
      cases state <;> rfl
    rw [Group.cost, hzero, groupWork]
    cases g.stage <;> dsimp only <;> omega
  have hsum : s.board.cost 0 ≤ (s.board.groups.map groupWork).sum := by
    rw [Board.cost]
    induction s.board.groups with
    | nil => exact le_refl _
    | cons g groups ih =>
      have hg := hcost g
      simp only [List.map_cons, List.sum_cons]
      omega
  rw [remaining, backlog]
  omega

theorem workFor_eq_run (n : Nat) (s : Session) :
    ∃ rounds, workFor n s = s.run (List.replicate rounds .work) := by
  induction n generalizing s with
  | zero => exact ⟨0, rfl⟩
  | succ n ih =>
    by_cases hj : s.jobs.isEmpty = true
    · exact ⟨0, by rw [workFor, if_pos hj]; rfl⟩
    · obtain ⟨rounds, he⟩ := ih s.work
      exact ⟨rounds + 1, by rw [workFor, if_neg hj, he]; rfl⟩

theorem jobs_workFor (hs : s.Sound h) {n : Nat} (hn : s.remaining ≤ n) :
    (workFor n s).jobs = [] := by
  induction n generalizing s h with
  | zero =>
    have hlen : s.jobs.length = 0 := by
      rw [remaining] at hn
      omega
    exact List.length_eq_zero_iff.mp hlen
  | succ n ih =>
    cases hj : s.jobs with
    | nil => simp [workFor, hj]
    | cons job rest =>
      have hlt := remaining_perform hs hj
      have hwork := hs.work_eq hj
      rw [workFor, if_neg (by simp [hj])]
      exact ih hs.work (by rw [hwork]; omega)

theorem jobs_drain (hs : s.Sound h) : s.drain.jobs = [] :=
  jobs_workFor hs s.remaining_le_backlog

end Session

/-! What is shown in the end -/

/-- What a lookup was answered; nothing if it was not, or failed. -/
def answerIn (h : List Happening) (q : Query) : Option Resolution :=
  (outcome? h q).bind Outcome.resolution?

/-- The lines of the last pass of a buffer, with their annotations. -/
def lastAnnotations (h : List Happening) (buffer : Text) : List (Int × List Annotation) :=
  match lastPass? h buffer with
  | none => []
  | some (generation, mentions) => (byLine mentions).map fun entry =>
    (entry.1, lineAnnotations (answerIn h) buffer generation entry.1 entry.2)

theorem outcome?_of_mem {q : Query} {o : Outcome} (hnd : (settledQueries h).Nodup)
    (hm : .settled q o ∈ h) : outcome? h q = some o := by
  induction h with
  | nil => cases hm
  | cons x h ih =>
    rcases List.mem_cons.mp hm with rfl | hlater
    · simp [outcome?]
    · have hrest : (settledQueries h).Nodup := by
        cases x with
        | settled q' o' => exact (List.nodup_cons.mp hnd).2
        | began buffer generation mentions => exact hnd
        | committed generation c => exact hnd
      have hi := ih hrest hlater
      rw [outcome?] at hi ⊢
      rw [List.findSome?_cons, hi]
      cases x with
      | settled q' o' =>
        have hne : q' ≠ q := fun he =>
          (List.nodup_cons.mp hnd).1 (he ▸ mem_settledQueries.mpr ⟨o, hlater⟩)
        simp [hne]
      | began buffer generation mentions => rfl
      | committed generation c => rfl

theorem Answered.answerIn_eq {q : Query} {a : Option Resolution} (hnd : (settledQueries h).Nodup)
    (ha : Answered h q a) : answerIn h q = a := by
  obtain ⟨o, hm, rfl⟩ := ha
  rw [answerIn, outcome?_of_mem hnd hm, Option.bind_some]

/-- A board without groups shows what the last pass of each buffer has found. -/
theorem Ledger.annotations_eq (hb : b.Ledger h) (hn : b.groups = []) (buffer : Text) :
    b.annotations buffer = lastAnnotations h buffer := by
  cases hp : lastPass? h buffer with
  | none =>
    have hs : b.sheets.get? buffer = none := by
      cases hs : b.sheets.get? buffer with
      | none => rfl
      | some s =>
        obtain ⟨mentions, hp', -⟩ := hb.tracks.sheet buffer s hs
        rw [hp] at hp'
        cases hp'
    simp only [annotations, hs, lastAnnotations, hp]
  | some pass =>
    have ha : ∀ q a, Answered h q a → answerIn h q = a := fun q a hq => hq.answerIn_eq hb.once
    simp only [lastAnnotations, hp, hb.tracks.annotations_eq hn ha hp]

namespace Session

variable {s : Session}

/-- No lookup waits, and nothing is left to be done. -/
def Finished (s : Session) : Prop := s.jobs = [] ∧ s.lookups = []

theorem Sound.groups_eq_nil (hs : s.Sound h) (hf : s.Finished) : s.board.groups = [] := by
  refine Attended.groups_eq_nil hs.ledger.tracks.steady (hs.attended.mono fun w hw => ?_)
  cases w with
  | group id => simp [due, hf.1] at hw
  | slot id slot => simp [due, hf.1] at hw
  | answer id slot => simp [due, hf.1, hf.2] at hw

theorem Sound.not_pending (hs : s.Sound h) (hf : s.Finished) (buffer : Text) (line : Int) :
    s.board.lineState buffer line ≠ .pending := by
  rw [lineState]
  cases hsheet : s.board.sheets.get? buffer with
  | none => simp
  | some sheet =>
    obtain ⟨mentions, -, hsh⟩ := hs.ledger.tracks.sheet buffer sheet hsheet
    have hno : sheet.pending.has line = false := by
      rw [Register.has_eq_isSome, hsh.not_pending (by simp [hs.groups_eq_nil hf]) line]
      rfl
    simp only [hno]
    cases sheet.committed.has line <;> simp

/-- Each lookup of the last pass of a buffer has been settled, and a line has its answers. -/
theorem Sound.settled_last (hs : s.Sound h) (hf : s.Finished) {generation : Nat}
    {mentions : List Mention} (hp : lastPass? h buffer = some (generation, mentions)) (line : Int)
    {i : Nat} (hi : i < (onLine mentions line).length) :
    ∃ o, outcome? h ⟨buffer, generation, line, i⟩ = some o := by
  cases hsheet : s.board.sheets.get? buffer with
  | none => rw [hs.ledger.tracks.unseen buffer hsheet] at hp; cases hp
  | some sheet =>
    obtain ⟨mentions', hp', hsh⟩ := hs.ledger.tracks.sheet buffer sheet hsheet
    rw [hp] at hp'
    cases hp'
    have hl : onLine mentions line ≠ [] := List.ne_nil_of_length_pos (Nat.zero_lt_of_lt hi)
    have hpend := hsh.not_pending (by simp [hs.groups_eq_nil hf]) line
    obtain ⟨annotations, -, answers, hlen, hans, -⟩ := hsh.shown line hpend hl
    obtain ⟨o, hm, -⟩ := hans i _ (List.getElem?_eq_getElem (hlen ▸ hi))
    exact ⟨o, outcome?_of_mem hs.ledger.once hm⟩

/-- Passes and settlements in any order come to rest, and when every lookup has been settled, a
buffer shows its last pass and waits for nothing. The order makes no difference: a run whose last
pass and whose outcomes for that pass are the same ends with the same annotations. -/
theorem run_converges {sink : Sink} {events : List Event} (ho : ∀ e ∈ events, e.IsOrdinary) :
    let s := run { sink } events
    let h := history { sink } events
    (s.drain.jobs = [] ∧ ∃ rounds, s.drain = run { sink } (events ++ List.replicate rounds .work)) ∧
    (s.Finished → ∀ buffer,
      (∀ line, s.board.lineState buffer line ≠ .pending) ∧
      s.board.annotations buffer = lastAnnotations h buffer ∧
      (settledQueries h).Nodup ∧
      (∀ generation mentions, lastPass? h buffer = some (generation, mentions) →
        ∀ line i, i < (onLine mentions line).length →
          ∃ o, outcome? h ⟨buffer, generation, line, i⟩ = some o) ∧
      ∀ sink' events', (∀ e ∈ events', e.IsOrdinary) → (run { sink := sink' } events').Finished →
        ∀ generation generation' mentions, lastPass? h buffer = some (generation, mentions) →
        lastPass? (history { sink := sink' } events') buffer = some (generation', mentions) →
        (∀ line i, i < (onLine mentions line).length →
          outcome? h ⟨buffer, generation, line, i⟩ =
            outcome? (history { sink := sink' } events') ⟨buffer, generation', line, i⟩) →
        s.board.annotations buffer =
          (run { sink := sink' } events').board.annotations buffer) := by
  intro s h
  have hs : s.Sound h := (sound_start sink).run ho
  have hend {s : Session} {h : List Happening} (hs : s.Sound h) (hf : s.Finished) (buffer : Text) :
      s.board.annotations buffer = lastAnnotations h buffer :=
    hs.ledger.annotations_eq (hs.groups_eq_nil hf) buffer
  refine ⟨⟨jobs_drain hs, ?_⟩, fun hf buffer => ⟨hs.not_pending hf buffer, hend hs hf buffer,
    hs.ledger.once, fun generation mentions hp line i => hs.settled_last hf hp line, ?_⟩⟩
  · obtain ⟨rounds, he⟩ := workFor_eq_run s.backlog s
    exact ⟨rounds, by rw [run_append]; exact he⟩
  · intro sink' events' ho' hf' generation generation' mentions hp hp' hsame
    have hs' := (sound_start sink').run ho'
    rw [hend hs hf, hend hs' hf', List.nil_append, lastAnnotations, lastAnnotations]
    simp only [hp, hp']
    refine List.map_congr_left fun entry hm => Prod.ext rfl (lineAnnotations_congr fun i hi => ?_)
    rw [(mem_byLine.mp hm).1] at hi
    rw [answerIn, hsame entry.1 i hi, answerIn]

/-- Two lines of a pass whose lookups are settled in one of two orders, after an earlier pass or
without one. -/
def inOneOrder : List Event :=
  [.startPass ['b'] [⟨1, 9, ⟨.ticket, ['7']⟩⟩, ⟨3, 0, ⟨.ticket, ['7']⟩⟩],
    .startPass ['b'] [⟨1, 4, ⟨.ticket, ['7']⟩⟩, ⟨2, 0, ⟨.profile, ['8']⟩⟩]] ++
  List.replicate 8 .work ++
  [.settle ⟨.profile, ['8']⟩ (.resolved ⟨⟨.profile, ['8']⟩, true, some ['N'], true⟩),
    .settle ⟨.ticket, ['7']⟩ (.resolved ⟨⟨.ticket, ['7']⟩, true, none, true⟩)] ++
  List.replicate 8 .work

def inAnotherOrder : List Event :=
  [.startPass ['b'] [⟨1, 4, ⟨.ticket, ['7']⟩⟩, ⟨2, 0, ⟨.profile, ['8']⟩⟩]] ++
  List.replicate 4 .work ++
  [.settle ⟨.ticket, ['7']⟩ (.resolved ⟨⟨.ticket, ['7']⟩, true, none, true⟩), .work, .work,
    .settle ⟨.profile, ['8']⟩ (.resolved ⟨⟨.profile, ['8']⟩, true, some ['N'], true⟩), .work, .work]

theorem run_converges_two_orders :
    (∀ e ∈ inOneOrder, e.IsOrdinary) ∧ (run { sink := .absent } inOneOrder).Finished ∧
      (run { sink := .absent } inOneOrder).board.annotations ['b'] =
        (run { sink := rejecting } inAnotherOrder).board.annotations ['b'] := by
  have ho : ∀ e ∈ inOneOrder, e.IsOrdinary := by simp [inOneOrder, Event.IsOrdinary]
  have ho' : ∀ e ∈ inAnotherOrder, e.IsOrdinary := by simp [inAnotherOrder, Event.IsOrdinary]
  have hf : (run { sink := .absent } inOneOrder).Finished := ⟨by cbv, by cbv⟩
  have hf' : (run { sink := rejecting } inAnotherOrder).Finished := ⟨by cbv, by cbv⟩
  obtain ⟨-, -, -, -, hsame⟩ := (run_converges ho).2 hf ['b']
  refine ⟨ho, hf, hsame rejecting inAnotherOrder ho' hf' 2 1
    [⟨1, 4, ⟨.ticket, ['7']⟩⟩, ⟨2, 0, ⟨.profile, ['8']⟩⟩] (by cbv) (by cbv) fun line i hi => ?_⟩
  by_cases hone : line = 1
  · subst hone
    obtain rfl : i = 0 := by simpa [onLine] using hi
    cbv
  · by_cases htwo : line = 2
    · subst htwo
      obtain rfl : i = 0 := by simpa [onLine] using hi
      cbv
    · simp [onLine, Ne.symm hone, Ne.symm htwo] at hi

end Session

end CommitMessage.Board
