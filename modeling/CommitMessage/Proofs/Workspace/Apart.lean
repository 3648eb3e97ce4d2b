import CommitMessage.Proofs.Workspace.Concerns
import CommitMessage.Proofs.Workspace.Disposed

/-! Buffers do not disturb each other. -/

namespace CommitMessage.Workspace

open Desk (Happening)

variable {w w' : Workspace ℚ} {buffer other : Text} {caller k : Nat} {p : Plan ℚ} {now : ℚ}
  {moves later : List Move}

/-! Who drops a buffer -/

/-- What remains to be done for one who drops a buffer, whenever there is to wait. -/
def IsDropping (buffer : Text) (plan : List Phase) : Prop :=
  (∃ key timers, plan = [.timersEnded key timers, .forget buffer, .drop buffer]) ∨
    ∃ groups, plan = [.groupsEnded groups]

theorem IsDropping.not_concerns {plan : List Phase} (h : IsDropping other plan)
    (ho : other ≠ buffer) : ∀ p ∈ plan, ¬ p.Concerns buffer w := by
  rcases h with ⟨key, timers, rfl⟩ | ⟨groups, rfl⟩
  · simpa [Phase.Concerns] using ho
  · simp [Phase.Concerns]

/-- The caller is done, or drops the buffer. -/
def Drops (w : Workspace ℚ) (caller : Nat) (buffer : Text) : Prop :=
  ∀ plan, w.callers.get? caller = some plan → IsDropping buffer plan

theorem proceed_cons {fuel : Nat} {phase : Phase} {rest : List Phase} (h : w.isOver phase = true) :
    proceed caller (fuel + 1) (phase :: rest) w =
      proceed caller fuel ((w.enter caller phase).2 ++ rest) (w.enter caller phase).1 := by
  rw [proceed, if_pos h]

theorem drops_nil (fuel : Nat) (w : Workspace ℚ) :
    (proceed caller fuel [] w).Drops caller buffer := by
  intro plan hget
  cases fuel <;> simp [proceed, note] at hget

theorem drops_wait {plan : List Phase} (hp : IsDropping buffer plan) (w : Workspace ℚ) :
    Drops { w with callers := w.callers.set caller plan } caller buffer := by
  intro plan' hget
  rw [Register.get?_set, if_pos rfl] at hget
  exact Option.some.inj hget ▸ hp

theorem drops_groupsEnded (fuel : Nat) (groups : List Nat) (w : Workspace ℚ) :
    (proceed caller (fuel + 1) [.groupsEnded groups] w).Drops caller buffer := by
  by_cases hover : w.isOver (.groupsEnded groups) = true
  · rw [proceed_cons hover]
    exact drops_nil fuel w
  · rw [proceed, if_neg hover]
    exact drops_wait (.inr ⟨groups, rfl⟩) w

theorem drops_drop (fuel : Nat) (w : Workspace ℚ) :
    (proceed caller (fuel + 3) [.drop buffer] w).Drops caller buffer := by
  rw [proceed_cons rfl]
  simp only [enter]
  split
  · rw [List.cons_append, proceed_cons rfl]
    exact drops_groupsEnded fuel _ _
  · exact drops_nil _ w

theorem drops_forget (fuel : Nat) (w : Workspace ℚ) :
    (proceed caller (fuel + 4) [.forget buffer, .drop buffer] w).Drops caller buffer := by
  rw [proceed_cons rfl]
  exact drops_drop fuel _

theorem drops_timersEnded (fuel key : Nat) (timers : List Nat) (w : Workspace ℚ) :
    (proceed caller (fuel + 5) [.timersEnded key timers, .forget buffer, .drop buffer] w).Drops
      caller buffer := by
  by_cases hover : w.isOver (.timersEnded key timers) = true
  · rw [proceed_cons hover]
    exact drops_forget fuel w
  · rw [proceed, if_neg hover]
    exact drops_wait (.inl ⟨key, timers, rfl⟩) w

theorem drops_callOffTimers (fuel key : Nat) (w : Workspace ℚ) :
    (proceed caller (fuel + 6) [.callOffTimers key, .forget buffer, .drop buffer] w).Drops
      caller buffer := by
  rw [proceed_cons rfl]
  exact drops_timersEnded fuel key _ _

/-- There is fuel for more phases than there are. -/
theorem exists_planLength (w : Workspace ℚ) {plan : List Phase} (hp : plan ≠ []) :
    ∃ fuel, w.planLength plan = fuel + 4 * (plan.length - 1) + 5 := by
  have hlength := List.length_pos_of_ne_nil hp
  exact ⟨4 * w.board.sheets.length, by unfold planLength; omega⟩

theorem Drops.resume {plan : List Phase} (hp : IsDropping buffer plan) (w : Workspace ℚ) :
    (w.resume caller plan).Drops caller buffer := by
  rcases hp with ⟨key, timers, rfl⟩ | ⟨groups, rfl⟩
  · obtain ⟨fuel, hfuel⟩ := w.exists_planLength (List.cons_ne_nil (.timersEnded key timers) _)
    rw [Workspace.resume, hfuel]
    exact drops_timersEnded _ key timers w
  · obtain ⟨fuel, hfuel⟩ := w.exists_planLength (List.cons_ne_nil (.groupsEnded groups) [])
    rw [Workspace.resume, hfuel]
    exact drops_groupsEnded _ groups w

theorem drops_detach (w : Workspace ℚ) (buffer : Text) :
    (w.detach buffer).Drops w.nextCaller buffer := by
  unfold detach start
  dsimp only
  split
  · next key _ =>
    obtain ⟨fuel, hfuel⟩ := exists_planLength
      { w with debouncerOf := w.debouncerOf.erase buffer, nextCaller := w.nextCaller + 1 }
      (List.cons_ne_nil (.callOffTimers key) [.forget buffer, .drop buffer])
    rw [Workspace.resume, List.cons_append, List.nil_append, hfuel]
    exact drops_callOffTimers (fuel + 7) key _
  · obtain ⟨fuel, hfuel⟩ := exists_planLength
      { w with debouncerOf := w.debouncerOf.erase buffer, nextCaller := w.nextCaller + 1 }
      (List.cons_ne_nil (.forget buffer) [.drop buffer])
    rw [Workspace.resume, List.nil_append, hfuel]
    exact drops_forget (fuel + 5) _

/-! It goes on to drop the buffer, whatever others do -/

theorem proceed_nextCaller (caller fuel : Nat) (plan : List Phase) (w : Workspace ℚ) :
    (proceed caller fuel plan w).nextCaller = w.nextCaller := by
  have hplan : ∀ phase ∈ plan, (fun _ : Phase => True) phase := fun _ _ => trivial
  exact proceed_rec (C := fun w' => w'.nextCaller = w.nextCaller) caller (fun _ _ h _ => h)
    (fun _ h => h) (fun w' phase h _ => ⟨(enter_callers w' caller phase).2.trans h,
      fun _ _ => trivial⟩) fuel hplan rfl

theorem get?_proceed (hk : k ≠ caller) (fuel : Nat) (plan : List Phase) (w : Workspace ℚ) :
    (proceed caller fuel plan w).callers.get? k = w.callers.get? k := by
  have hplan : ∀ phase ∈ plan, (fun _ : Phase => True) phase := fun _ _ => trivial
  refine proceed_rec (C := fun w' => w'.callers.get? k = w.callers.get? k) caller
    (fun w' plan h _ => ?_) (fun w' h => ?_) (fun w' phase h _ => ?_) fuel hplan rfl
  · rw [Register.get?_set, if_neg hk, h]
  · simp only [note, Register.get?_erase, if_neg hk, h]
  · exact ⟨(enter_callers w' caller phase).1 ▸ h, fun _ _ => trivial⟩

theorem perform_nextCaller (w : Workspace ℚ) {job : Job} (hj : ∀ id, job ≠ .caller id) :
    (w.perform job).nextCaller = w.nextCaller := by
  by_cases htiming : job.IsTiming
  · cases job with
    | timer id timer => exact (withDebouncer_callers w id _).2
    | caller id => exact absurd rfl (hj id)
    | _ => exact htiming.elim
  · exact (beside_perform w htiming).nextCaller

/-- One who has begun to drop the buffer. -/
structure Began (w : Workspace ℚ) (caller : Nat) (buffer : Text) : Prop where
  lt : caller < w.nextCaller
  drops : w.Drops caller buffer

theorem Began.of_get? (h : w.Began caller buffer)
    (hc : w'.callers.get? caller = w.callers.get? caller) (hn : w.nextCaller ≤ w'.nextCaller) :
    w'.Began caller buffer :=
  ⟨h.lt.trans_le hn, fun plan hget => h.drops plan (hc ▸ hget)⟩

theorem Began.start (h : w.Began caller buffer) (plan : List Phase) :
    (w.start plan).Began caller buffer :=
  h.of_get? (get?_proceed h.lt.ne _ plan { w with nextCaller := w.nextCaller + 1 })
    ((proceed_nextCaller w.nextCaller _ plan _).ge.trans' (Nat.le_succ _))

theorem Began.work (h : w.Began caller buffer) : w.work.Began caller buffer := by
  unfold Workspace.work Agenda.nextJob?
  cases hj : w.agenda.jobs with
  | nil => exact h
  | cons job rest =>
    have hpop : (w.withJobs rest).Began caller buffer := ⟨h.lt, h.drops⟩
    have hperform : ((w.withJobs rest).perform job).Began caller buffer := by
      by_cases hcaller : ∃ id, job = .caller id
      · obtain ⟨id, rfl⟩ := hcaller
        unfold Workspace.perform
        dsimp only
        split
        · next plan hget =>
          have hnext := proceed_nextCaller id ((w.withJobs rest).planLength plan) plan
            (w.withJobs rest)
          by_cases hid : caller = id
          · subst hid
            exact ⟨hpop.lt.trans_eq hnext.symm, .resume (h.drops plan hget) _⟩
          · exact hpop.of_get? (get?_proceed hid _ plan _) hnext.ge
        · exact hpop
      · have hne : ∀ id, job ≠ .caller id := fun id he => hcaller ⟨id, he⟩
        refine hpop.of_get? ?_ (perform_nextCaller _ hne).ge
        rw [perform_callers _ hne]
    have hcall := elsewhere_callCallers ((w.withJobs rest).perform job)
    exact hperform.of_get? (congrArg (Register.get? · caller) hcall.callers) hcall.nextCaller.ge

theorem Began.keepsTimers (h : w.Began caller buffer) (hk : KeepsTimers w w') :
    w'.Began caller buffer :=
  h.of_get? (congrArg (Register.get? · caller) hk.callers) hk.nextCaller.ge

theorem Began.move (h : w.Began caller buffer) {m : Move} (hm : m.IsFine) :
    (w.move m).Began caller buffer := by
  have hsame {w' : Workspace ℚ} (hc : w'.callers = w.callers ∧ w'.nextCaller = w.nextCaller) :
      w'.Began caller buffer := h.of_get? (congrArg (Register.get? · caller) hc.1) hc.2.ge
  have helse {e : Event ℚ} (he : e.IsBeside) : (w.move (.event e)).Began caller buffer :=
    h.keepsTimers (beside_step w he).toKeepsTimers
  have hstart (debouncerOf : Register Text Nat) (plan : List Phase) :
      (Workspace.start { w with debouncerOf } plan).Began caller buffer := by
    have hset : Began { w with debouncerOf } caller buffer := ⟨h.lt, h.drops⟩
    exact hset.start plan
  cases m with
  | event e =>
    cases e with
    | runPass other text => exact h.keepsTimers (keepsTimers_runPass w other text)
    | attach other path text => exact h.keepsTimers (keepsTimers_attach w other path text)
    | notify other text => exact hsame (notify_callers w other text)
    | flush other => exact hsame (flush_callers w other)
    | settle other => exact h.start _
    | detach other => exact hstart _ _
    | shutdown => exact hstart _ _
    | dispose => exact hm.elim
    | annotate name text =>
      exact (h.keepsTimers (keepsTimers_runPass w (name.getD w.freshBuffer) text)).start _
    | work => exact h.work
    | advance dt => exact hm.elim
    | _ => exact helse trivial
  | ring =>
    unfold Workspace.move
    dsimp only
    split
    · exact h
    · next alarm alarms _ =>
      have hpop : (w.withAlarms alarms).Began caller buffer := ⟨h.lt, h.drops⟩
      cases hring : alarm.2 with
      | timer key timer =>
        obtain ⟨hc, hn⟩ := withDebouncer_callers (w.withAlarms alarms) key (·.wake timer)
        exact hpop.of_get? (congrArg (Register.get? · caller) hc) hn.ge
      | limiter r =>
        have helse := elsewhere_applyDesk (w.withAlarms alarms) (w.desk.limiterWake r)
        exact hpop.of_get? (congrArg (Register.get? · caller) helse.callers) helse.nextCaller.ge
      | reply r reply => exact ⟨h.lt, h.drops⟩
  | wait time =>
    unfold Workspace.move
    dsimp only
    split
    · exact ⟨h.lt, h.drops⟩
    · exact h

theorem Began.run (h : w.Began caller buffer) (hm : ∀ m ∈ later, m.IsFine) :
    (w.runMoves later).Began caller buffer :=
  List.foldlRecOn (motive := fun w' => w'.Began caller buffer) later Workspace.move h
    fun _ h' m hx => h'.move (hm m hx)

theorem began_detach (w : Workspace ℚ) (buffer : Text) :
    (w.detach buffer).Began w.nextCaller buffer :=
  ⟨(proceed_nextCaller w.nextCaller _ _ _).ge.trans_lt' (Nat.lt_succ_self _),
    drops_detach w buffer⟩

/-- One who drops another buffer never has anything to do with this one. -/
theorem Began.not_concerns (h : w.Began caller other) (ho : other ≠ buffer) :
    ¬ (Job.caller caller).Concerns buffer w := by
  rintro ⟨plan, hget, phase, hp, hc⟩
  exact (h.drops plan hget).not_concerns ho phase hp hc

/-! Both buffers -/

/-- The lines of a buffer that wait for nothing show the same, and at rest no line waits. -/
structure ShowsAlike (buffer : Text) (w w' : Workspace ℚ) : Prop where
  shown : ∀ line, w.board.lineState buffer line ≠ .pending →
    w'.board.lineState buffer line ≠ .pending →
    w.board.shownAt buffer line = w'.board.shownAt buffer line
  first : w.IsAtRest → ∀ line, w.board.lineState buffer line ≠ .pending
  second : w'.IsAtRest → ∀ line, w'.board.lineState buffer line ≠ .pending

/-- What is asked for one buffer does not disturb another. -/
structure KeepsApart (w : Workspace ℚ) (history : List (Happening Asker)) (other buffer : Text) :
    Prop where
  /-- It asks nothing of the buffer, and leaves it alone until something of its own is due. -/
  asked : ∀ e, Event.IsFor other e → Aside buffer w (w.step e) ∧
    ∀ later, (∀ m ∈ later, m.IsFine) → Avoids buffer later (w.step e) →
      Untouched buffer w ((w.step e).runMoves later)
  /-- When the other buffer is dropped, then of those who wait for lookups only slots of others
  leave. -/
  dropped : Closes buffer w (w.detach other)
  /-- Nor does anyone else leave whenever that goes on, which never has to do with the buffer. -/
  dropping : ∀ later, (∀ m ∈ later, m.IsFine) →
    ¬ (Job.caller w.nextCaller).Concerns buffer ((w.detach other).runMoves later) ∧
    Closes buffer ((w.detach other).runMoves later)
      (((w.detach other).runMoves later).perform (.caller w.nextCaller))
  /-- If what its groups are to look up is always answered alike, they commit what they commit
  without the other buffer being dropped. -/
  alike : w.IsSpared buffer → ∀ s, w.board.sheets.get? buffer = some s →
    ∀ replyTo later later', (∀ m ∈ later, m.IsFine) → (∀ m ∈ later', m.IsFine) →
    Alike (w.IsToLookUp buffer) replyTo (history ++ w.history later) →
    Alike (w.IsToLookUp buffer) replyTo (history ++ (w.detach other).history later') →
    ((w.runMoves later).board.sheets.get? buffer).map Board.Sheet.mark = some s.mark →
    (((w.detach other).runMoves later').board.sheets.get? buffer).map Board.Sheet.mark =
      some s.mark →
    ShowsAlike buffer (w.runMoves later) ((w.detach other).runMoves later')

theorem runMoves_isFine (hm : ∀ m ∈ moves, m.IsFine) (hl : ∀ m ∈ later, m.IsFine) :
    ∀ m ∈ moves ++ later, m.IsFine :=
  fun m hx => (List.mem_append.mp hx).elim (hm m) (hl m)

/-- In every run, buffers do not disturb each other. -/
theorem buffers_apart (p : Plan ℚ) (now : ℚ) (hm : ∀ m ∈ moves, m.IsFine) (ho : other ≠ buffer) :
    ((new p now).runMoves moves).KeepsApart ((new p now).history moves) other buffer := by
  have hregular {later : List Move} (hl : ∀ m ∈ later, m.IsFine) :
      ((new p now).runMoves (moves ++ later)).Regular :=
    regular_run p now (runMoves_isFine hm hl)
  have hnow := regular_run p now hm
  have hdetach (later : List Move) :
      (new p now).runMoves (moves ++ .event (.detach other) :: later) =
        (((new p now).runMoves moves).detach other).runMoves later := runMoves_append _ _ _
  have hfine {e : Event ℚ} (he : Event.IsFor other e) : (Move.event e).IsFine := by
    cases e <;> trivial
  have hcons {later : List Move} {e : Event ℚ} (he : Event.IsFor other e)
      (hl : ∀ m ∈ later, m.IsFine) : ∀ m ∈ .event e :: later, m.IsFine :=
    List.forall_mem_cons.mpr ⟨hfine he, hl⟩
  refine ⟨fun e he => ⟨aside_step hnow he ho, fun later hl ha => ?_⟩, closes_detach hnow ho,
    fun later hl => ?_, fun hspared s hs replyTo later later' hl hl' ha ha' hmark hmark' => ?_⟩
  · have hone : (new p now).runMoves (moves ++ [.event e]) =
        ((new p now).runMoves moves).step e := runMoves_append _ _ _
    have hsplit : (new p now).runMoves (moves ++ [.event e] ++ later) =
        (((new p now).runMoves moves).step e).runMoves later := by rw [runMoves_append, hone]
    have hrun : Untouched buffer ((new p now).runMoves (moves ++ [.event e]))
        ((new p now).runMoves (moves ++ [.event e] ++ later)) := untouched_run
      (runMoves_isFine (runMoves_isFine hm (hcons he (List.forall_mem_nil _))) hl) (hone ▸ ha)
    rw [hone, hsplit] at hrun
    exact (aside_step hnow he ho).toUntouched.trans hrun
  · have hbegan := (began_detach ((new p now).runMoves moves) other).run hl
    refine ⟨hbegan.not_concerns ho, closes_caller ?_ (hbegan.not_concerns ho)⟩
    have hl₂ : ∀ m ∈ .event (.detach other) :: later, m.IsFine := hcons rfl hl
    exact hdetach later ▸ hregular hl₂
  · have hl₂ : ∀ m ∈ .event (.detach other) :: later', m.IsFine := hcons rfl hl'
    have hhistory : (new p now).history (moves ++ .event (.detach other) :: later') =
        (new p now).history moves ++
          (((new p now).runMoves moves).detach other).history later' := history_append _ _ _
    rw [← history_append] at ha
    rw [← hhistory] at ha'
    rw [← runMoves_append] at hmark ⊢
    rw [← hdetach] at hmark' ⊢
    refine ⟨fun line hline hline' => ?_, fun hrest => lineState_ne_at_rest (runMoves_isFine hm hl)
      hrest buffer, fun hrest => lineState_ne_at_rest (runMoves_isFine hm hl₂) hrest buffer⟩
    rw [shows_foretold (runMoves_isFine hm hl) ha hspared hs hmark hline,
      shows_foretold (runMoves_isFine hm hl₂) ha' hspared hs hmark' hline']

/-- Two buffers wait for the same ticket. -/
def sharing : List Move :=
  [.event (.runPass ['a'] ['#', '1']), .event (.runPass ['b'] ['#', '1'])] ++
    List.replicate 4 (.event .work)

/-- The ticket is looked up, and what is then to be done is done. -/
def answering : List Move :=
  List.replicate 4 (.event .work) ++ .ring :: List.replicate 8 (.event .work)

/-- Every lookup that begins gets this reply. -/
def repliesWith (reply : Reply) (history : List (Happening Asker)) : Bool :=
  history.all fun
    | .begun _ given _ => given == reply
    | _ => true

theorem buffers_apart_sharing :
    (∀ m ∈ sharing, m.IsFine) ∧ ['a'] ≠ ['b'] ∧
      ((new slowPlan 0).runMoves sharing).desk.fetches.map (·.callers) =
        [[.slot 0 0, .slot 1 0]] ∧
      ShowsAlike ['b'] (((new slowPlan 0).runMoves sharing).runMoves answering)
        ((((new slowPlan 0).runMoves sharing).detach ['a']).runMoves answering) ∧
      ((((new slowPlan 0).runMoves sharing).detach ['a']).runMoves answering).board.annotations
        ['b'] ≠ [] := by
  have hm : ∀ m ∈ sharing, m.IsFine := by simp [sharing, Move.IsFine]
  have hl : ∀ m ∈ answering, m.IsFine := by simp [answering, Move.IsFine]
  have ho : ['a'] ≠ ['b'] := by decide
  have hreplies {history : List (Happening Asker)}
      (h : repliesWith (.page ⟨404, []⟩) history = true) :
      Alike (((new slowPlan 0).runMoves sharing).IsToLookUp ['b']) (fun _ => .page ⟨404, []⟩)
        history := by
    intro r reply time _ hmem
    simpa using List.all_eq_true.mp h _ hmem
  have hspared : ((new slowPlan 0).runMoves sharing).IsSpared ['b'] := by
    rintro g - - - - ⟨caller, plan, hget, -⟩
    have hnone : ((new slowPlan 0).runMoves sharing).callers = [] := by decide +kernel
    rw [hnone] at hget
    cases hget
  have hs : ((new slowPlan 0).runMoves sharing).board.sheets.get? ['b'] =
      some { serial := 1, generation := 1, pending := [(0, 1)] } := by decide +kernel
  refine ⟨hm, ho, by decide +kernel, ?_, by decide +kernel⟩
  exact (buffers_apart slowPlan 0 hm ho).alike hspared _ hs _ answering answering hl hl
    (hreplies (by decide +kernel)) (hreplies (by decide +kernel)) (by decide +kernel)
    (by decide +kernel)

end CommitMessage.Workspace
