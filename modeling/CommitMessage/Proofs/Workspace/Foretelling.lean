import CommitMessage.Proofs.Board.Lasting
import CommitMessage.Proofs.Workspace.Tending
import CommitMessage.Proofs.Workspace.Watching

/-! What a buffer is going to show does not depend on what happens to other buffers. It follows from
the groups of its last pass, if every reference is answered alike whenever it is looked up. -/

namespace CommitMessage.Workspace

open Desk (Happening)
open Board (Lasting)

variable {w w' : Workspace ℚ} {P : Board → Prop} {fits : Reference → Outcome → Prop}
  {history more : List (Happening Asker)} {p : Plan ℚ} {replyTo : Reference → Reply}
  {wanted : Reference → Prop} {now : ℚ} {moves later : List Move}

theorem Move.IsFine.isStep {m : Move} (h : m.IsFine) : m.IsStep := by
  cases m with
  | event e =>
    cases e with
    | advance dt => exact h
    | _ => trivial
  | _ => trivial

/-! Slots remember what they have asked for -/

theorem Faithful.not_stopped_of_ask (h : Faithful p history w) :
    w.Apt fun _ _ => True :=
  ⟨fun _ _ _ _ hg => ⟨h.ask_not_stopped hg, trivial⟩,
    fun _ _ _ hm => ⟨h.not_stopped hm, fun _ _ _ _ _ _ => trivial⟩⟩

theorem recalls_happenings (h : w.IsWatched P) {m : Move}
    (hi : Board.Inherits w.board.kept w'.board.kept) :
    w'.board.kept.Recalls (w.happenings m) := by
  intro id slot r how hm
  cases m with
  | event e =>
    cases e with
    | work =>
      cases hj : w.agenda.jobs with
      | nil => simp [happenings, hj] at hm
      | cons job rest =>
        simp only [happenings, hj, List.head?_cons, Option.map_some, Option.getD_some] at hm
        obtain ⟨rfl, pass, he, -⟩ := asked_of_mem_doing hm
        exact h.heeded.mention_of_ask he hi
    | sweep => simp [happenings] at hm
    | clear => simp [happenings] at hm
    | _ => cases hm
  | _ => cases hm

theorem IsWatched.recalls_move (h : w.IsWatched fun _ => True) (hf : Faithful p history w)
    (hr : w.board.kept.Recalls history) {m : Move} (hm : m.IsFine) :
    (w.move m).board.kept.Recalls (history ++ w.happenings m) := by
  have hself : w.IsWatched (Board.Inherits w.board.kept) :=
    ⟨h.heeded, .refl _, h.lasting.2⟩
  have hi := (hself.move (Board.lasting_inherits _) hf.orderly hf.not_stopped_of_ask hm).lasting.1
  exact (hr.inherits hi).append (recalls_happenings h hi)

theorem lasting_true : Lasting fits fun _ => True :=
  ⟨fun _ _ _ _ => trivial, fun _ _ _ _ => trivial, fun _ _ _ _ _ _ _ => trivial,
    fun _ _ _ _ => trivial, fun _ _ => trivial, fun _ _ _ => trivial⟩

/-- In every run nothing is overlooked, and all slots remember. -/
theorem watched_run (p : Plan ℚ) (now : ℚ) (hm : ∀ m ∈ moves, m.IsFine) :
    ((new p now).runMoves moves).IsWatched (fun _ => True) ∧
      ((new p now).runMoves moves).board.kept.Recalls ((new p now).history moves) := by
  induction moves using List.reverseRecOn with
  | nil => exact ⟨isWatched_new p now trivial, fun _ _ _ _ hm => nomatch hm⟩
  | append_singleton moves m ih =>
    have hfine : ∀ m' ∈ moves, m'.IsFine := fun m' hm' => hm m' (List.mem_append_left _ hm')
    have hlast : m.IsFine := hm m (List.mem_append_right _ (List.mem_singleton_self m))
    obtain ⟨hwatched, hrecalls⟩ := ih hfine
    have hf := faithful_run p now hfine
    rw [runMoves_append, history_append]
    have hone : ((new p now).runMoves moves).history [m] =
        ((new p now).runMoves moves).happenings m := List.append_nil _
    rw [hone]
    exact ⟨hwatched.move lasting_true hf.orderly hf.not_stopped_of_ask hlast,
      hwatched.recalls_move hf hrecalls hlast⟩

/-! Answers that are known beforehand -/

/-- Every lookup of one of these references gets the same reply. -/
def Alike (wanted : Reference → Prop) (replyTo : Reference → Reply)
    (history : List (Happening Asker)) : Prop :=
  ∀ r reply time, wanted r → .begun r reply time ∈ history → reply = replyTo r

/-- The outcome is the one that the reply to the reference brings. -/
def Brings (replyTo : Reference → Reply) (r : Reference) (outcome : Outcome) : Prop :=
  outcome.resolution? = r.answerTo (replyTo r)

theorem Faithful.received_eq (h : Faithful p history w) (ha : Alike wanted replyTo history)
    {r : Reference} (hw : wanted r) {reply : Reply} {time : ℚ}
    (hm : .received r reply time ∈ history) : reply = replyTo r := by
  obtain ⟨before, after, rfl⟩ := List.mem_iff_append.mp hm
  obtain ⟨begun, front, back, rfl, -⟩ := h.paired before r reply time after rfl
  exact ha r reply begun hw (by simp)

theorem brings_outcome {r : Reference} (hv : r.isValid = true) :
    Brings replyTo r ((replyTo r).outcome r) := by
  rw [Brings, Reference.answerTo, if_pos hv]
  exact (isFor_resolution ((replyTo r).isFor_outcome r)).2

theorem valid_asked (p : Plan ℚ) (now : ℚ) (hm : ∀ m ∈ moves, m.IsFine) {a : Asker}
    {r : Reference} {how : Desk.Reception} (ha : .asked a r how ∈ (new p now).history moves)
    (hw : ∀ outcome, how ≠ .given outcome) : r.isValid = true :=
  (steps_run (orderly_new p now) hm).1.valid_asked (orderly_new p now).sound ha hw

/-- What is given at once or about to be told is what the reply to the reference brings. -/
theorem Faithful.apt (h : Faithful p history w) (ha : Alike wanted replyTo history)
    (hr : w.board.kept.Recalls history)
    (hv : ∀ a r how, .asked a r how ∈ history → (∀ outcome, how ≠ .given outcome) →
      r.isValid = true) : w.Apt fun r outcome => wanted r → Brings replyTo r outcome := by
  refine ⟨fun a pass r outcome hg => ⟨h.ask_not_stopped hg, fun hw => ?_⟩, fun id slot outcome hm =>
    ⟨h.not_stopped hm, fun g hgroup hid m state hs hw => ?_⟩⟩
  · rcases Desk.ask_eq w.desk w.agenda.now a pass r with ⟨given, notes, he, -, hgives⟩ |
      ⟨-, -, ⟨f, -, -, he⟩ | ⟨-, he⟩⟩ <;> rw [he] at hg
    · obtain rfl := Option.some.inj hg
      cases hgives with
      | missing hv => simp [Brings, Reference.answerTo, hv, Outcome.resolution?]
      | @cached entry hv hc =>
        have hget := (Option.filter_eq_some_iff.mp hc).1
        obtain ⟨reply, hverdict, before, after, hsince, -⟩ := h.accounts.kept r entry hget
        obtain rfl := h.received_eq ha hw
          (hsince ▸ by simp : .received r reply entry.time ∈ history)
        rcases (replyTo r).verdict?_cases r with ⟨verdict, hv', ho⟩ | ⟨hnone, -⟩
        · obtain rfl := Option.some.inj (hverdict.symm.trans hv')
          rw [← ho]
          exact brings_outcome hv
        · rw [hverdict] at hnone
          cases hnone
      | @ended f _ hv hc hf hr' ho =>
        subst hr'
        obtain ⟨reply, time, rfl, before, after, hsince, -⟩ := h.accounts.ended f hf _ ho
        obtain rfl :=
          h.received_eq ha hw (hsince ▸ by simp : .received f.reference reply time ∈ history)
        exact brings_outcome hv
    · cases hg
    · cases hg
  · obtain ⟨r, how, reply, time, before, between, after, he, hhow, -, rfl⟩ :=
      h.accounts.answers _ _ hm
    have hasked : .asked (.slot id slot) r how ∈ history := he ▸ by simp
    have hwaited : ∀ outcome, how ≠ .given outcome := by
      rintro outcome rfl
      rcases hhow with hhow | hhow <;> cases hhow
    obtain rfl := (hr id slot r how hasked).2 g hgroup hid m state hs
    obtain rfl := h.received_eq ha hw (he ▸ by simp : .received m.reference reply time ∈ history)
    exact brings_outcome (hv _ _ how hasked hwaited)

theorem Alike.of_append (h : Alike wanted replyTo (history ++ more)) :
    Alike wanted replyTo history :=
  fun r reply time hw hm => h r reply time hw (List.mem_append_left _ hm)

/-- What lasts goes on through a run in which all lookups of a reference get the same reply. -/
theorem lasting_run (hP : Lasting (fun r outcome => wanted r → Brings replyTo r outcome) P)
    (hm : ∀ m ∈ moves ++ later, m.IsFine)
    (ha : Alike wanted replyTo ((new p now).history (moves ++ later)))
    (h : P ((new p now).runMoves moves).board.kept) :
    ((new p now).runMoves (moves ++ later)).IsWatched P := by
  induction later using List.reverseRecOn with
  | nil =>
    rw [List.append_nil] at hm ⊢
    obtain ⟨hheeded, -, hdropped⟩ := (watched_run p now hm).1
    exact ⟨hheeded, h, hdropped⟩
  | append_singleton later m ih =>
    rw [← List.append_assoc] at hm ha ⊢
    have hfine : ∀ m' ∈ moves ++ later, m'.IsFine := fun m' hm' =>
      hm m' (List.mem_append_left _ hm')
    have hlast : m.IsFine := hm m (List.mem_append_right _ (List.mem_singleton_self m))
    rw [history_append] at ha
    have hf := faithful_run p now hfine
    have hapt := hf.apt ha.of_append (watched_run p now hfine).2
      fun a r how => valid_asked p now hfine
    rw [runMoves_append]
    exact (ih hfine ha.of_append).move hP hf.orderly hapt hlast

/-! What buffers show -/

/-- No group that the buffer takes for one of its last pass is yet to be called off. -/
def IsSpared (w : Workspace ℚ) (buffer : Text) : Prop :=
  ∀ g ∈ w.board.groups, g.buffer = buffer → g.generation = w.board.generation buffer →
    g.calledOff = false → ¬ w.Owes (.callOffSheet g.sheet)

theorem sheet_of_isSpared (hm : ∀ m ∈ moves, m.IsFine) {buffer : Text} {s : Board.Sheet}
    (hs : ((new p now).runMoves moves).IsSpared buffer)
    (hget : ((new p now).runMoves moves).board.sheets.get? buffer = some s) :
    ∀ g ∈ ((new p now).runMoves moves).board.kept.groups, g.buffer = buffer →
      g.generation = s.generation → g.sheet = s.serial := by
  intro g hg hbuf hgen
  have htended := ((inOrder_new p now).run fun m hx => (hm m hx).isStep).tended
  have hplaced := (watched_run p now hm).1.heeded.placed
  obtain ⟨hmem, hkept⟩ := Board.mem_kept.mp hg
  rcases htended.housed g hmem with hoff | ⟨x, s', hs', hserial⟩ | howes
  · rw [hkept] at hoff
    cases hoff
  · obtain ⟨hx, -⟩ := hplaced.own g hg x s' hs' hserial
    obtain rfl := hbuf.symm.trans hx
    obtain rfl := Option.some.inj (hs'.symm.trans hget)
    exact hserial.symm
  · refine absurd howes (hs g hmem hbuf ?_ hkept)
    rw [hgen, Board.generation, hget]
    rfl

/-- What the groups of a buffer are to look up. -/
def IsToLookUp (w : Workspace ℚ) (buffer : Text) (r : Reference) : Prop :=
  ∃ g ∈ w.board.groups, g.buffer = buffer ∧ ∃ m ∈ g.slots.map (·.1), m.reference = r

/-- What a line of a buffer is going to show. -/
def foretold (replyTo : Reference → Reply) (w : Workspace ℚ) (buffer : Text) (line : Int) :
    List Annotation :=
  w.board.kept.foretold (fun r => r.answerTo (replyTo r)) buffer line

/-- A line shows what was foretold, when it waits for nothing and its buffer has had no other
pass. -/
theorem shows_foretold (hm : ∀ m ∈ moves ++ later, m.IsFine) {buffer : Text}
    (ha : Alike (((new p now).runMoves moves).IsToLookUp buffer) replyTo
      ((new p now).history (moves ++ later)))
    (hspares : ((new p now).runMoves moves).IsSpared buffer) {s : Board.Sheet}
    (hs : ((new p now).runMoves moves).board.sheets.get? buffer = some s)
    (hmark : (((new p now).runMoves (moves ++ later)).board.sheets.get? buffer).map
      Board.Sheet.mark = some s.mark) {line : Int}
    (hline : ((new p now).runMoves (moves ++ later)).board.lineState buffer line ≠ .pending) :
    ((new p now).runMoves (moves ++ later)).board.shownAt buffer line =
      ((new p now).runMoves moves).foretold replyTo buffer line := by
  have hfine : ∀ m ∈ moves, m.IsFine := fun m hx => hm m (List.mem_append_left _ hx)
  obtain ⟨hwatched, -⟩ := watched_run p now hfine
  have hforetells : ((new p now).runMoves moves).board.kept.Foretells
      (fun r => r.answerTo (replyTo r)) (((new p now).runMoves moves).IsToLookUp buffer) buffer
      s.mark (((new p now).runMoves moves).foretold replyTo buffer) := Board.foretells_foretold
    hwatched.heeded.steady hwatched.heeded.placed hs
    (sheet_of_isSpared hfine hspares hs)
    fun g hg hbuf _ m hmention => ⟨g, (Board.mem_kept.mp hg).1, hbuf, m, hmention, rfl⟩
  have hafter := lasting_run (Board.lasting_foretells _ _ buffer s.mark _) hm ha (.inr hforetells)
  rcases hafter.lasting.1 with hpassed | hforetells
  · exact absurd hmark hpassed.mark_ne
  · exact hforetells.shownAt hafter.heeded.placed hline

/-- Nothing is left to be done now, and no lookup is under way. -/
def IsAtRest (w : Workspace ℚ) : Prop := w.agenda.jobs = [] ∧ w.desk.fetches = []

/-- At rest, no line waits for anything. -/
theorem lineState_ne_at_rest (hm : ∀ m ∈ moves, m.IsFine)
    (h : ((new p now).runMoves moves).IsAtRest) (buffer : Text) (line : Int) :
    ((new p now).runMoves moves).board.lineState buffer line ≠ .pending := by
  obtain ⟨hjobs, hfetches⟩ := h
  -- What `Awaited` says does not depend on the replies.
  have halike : Alike (fun _ => False) (fun _ => .timedOut) ((new p now).history ([] ++ moves)) :=
    fun _ _ _ hw => hw.elim
  have hwatched : ((new p now).runMoves ([] ++ moves)).IsWatched Board.Awaited :=
    lasting_run (Board.lasting_awaited _) hm halike Board.awaited_empty
  rw [List.nil_append] at hwatched
  refine hwatched.lasting.1.lineState_ne (hwatched.heeded.mono fun g _ e _ hd => ?_).groups_eq_nil
    buffer line
  cases e with
  | group id =>
    rw [hjobs] at hd
    cases hd
  | slot id slot =>
    rw [hjobs] at hd
    cases hd
  | answer id slot =>
    rcases hd with ⟨f, hf, -⟩ | ⟨outcome, hm⟩
    · rw [show ((new p now).runMoves moves).traffic.fetches = [] from hfetches] at hf
      cases hf
    · obtain ⟨job, hj, -⟩ := List.mem_filterMap.mp hm
      rw [hjobs] at hj
      cases hj

end CommitMessage.Workspace
