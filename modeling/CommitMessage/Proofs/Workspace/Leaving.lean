import CommitMessage.Proofs.Workspace.Moves
import CommitMessage.Proofs.Workspace.Start

/-! Those who leave the desk before they have an outcome are called off: with their group, or with
their call. -/

namespace CommitMessage

/-! Groups that are called off -/

namespace Board

def HasCalledOff (b : Board) (id : Nat) : Prop := ∃ g ∈ b.groups, g.id = id ∧ g.calledOff = true

variable {b : Board} {g : Group} {id slot : Nat}

theorem slotTurn_signals (b : Board) (id slot : Nat) :
    (b.slotTurn id slot).2 = [] ∨ ∃ pass r, (b.slotTurn id slot).2 = [.ask id slot pass r] := by
  unfold slotTurn
  split
  · exact .inl rfl
  · split
    · exact .inr ⟨_, _, rfl⟩
    · exact .inl rfl

theorem HasCalledOff.setGroup (h : b.HasCalledOff id) (hg : g.calledOff = true) :
    (b.setGroup g).HasCalledOff id := by
  obtain ⟨h, hm, rfl, hc⟩ := h
  by_cases he : h.id = g.id
  · exact ⟨g, mem_setGroup.mpr (.inr ⟨rfl, h, hm, he⟩), he.symm, hg⟩
  · exact ⟨h, mem_setGroup.mpr (.inl ⟨hm, he⟩), rfl, hc⟩

theorem callOff_ids (b : Board) (g : Group) :
    (b.callOff g).1.groups.map (·.id) = b.groups.map (·.id) := by
  unfold callOff
  split
  · rfl
  · split <;> exact setGroup_ids

theorem HasCalledOff.callOff (h : b.HasCalledOff id) (g : Group) :
    (b.callOff g).1.HasCalledOff id := by
  unfold Board.callOff
  split
  · exact h
  · split <;> exact h.setGroup rfl

theorem hasCalledOff_of_withdraw (hg : g.id ∈ b.groups.map (·.id))
    (hx : .withdraw id slot ∈ (b.callOff g).2) : (b.callOff g).1.HasCalledOff id := by
  obtain ⟨h, hm, he⟩ := List.mem_map.mp hg
  unfold Board.callOff at hx ⊢
  cases hc : g.calledOff with
  | true => simp [hc] at hx
  | false =>
    cases hs : g.stage with
    | waiting =>
      simp only [hc, hs, Bool.false_eq_true, if_false, List.mem_append, List.mem_map,
        List.mem_singleton, reduceCtorEq, or_false] at hx
      obtain ⟨i, -, hx⟩ := hx
      cases hx
      exact ⟨{ g with calledOff := true, stage := .ready },
        mem_setGroup.mpr (.inr ⟨rfl, h, hm, he⟩), rfl, rfl⟩
    | fresh => simp [hc, hs] at hx
    | ready => simp [hc, hs] at hx

/-- Groups stay called off, and whoever is withdrawn belongs to one of them. -/
theorem withdraw_callOffSheet (b : Board) (sheet : Nat) :
    (∀ id, b.HasCalledOff id → (b.callOffSheet sheet).1.HasCalledOff id) ∧
      ∀ id slot, .withdraw id slot ∈ (b.callOffSheet sheet).2 →
        (b.callOffSheet sheet).1.HasCalledOff id := by
  have hfold (gs : List Group) (change : Board × List Signal)
      (hgs : ∀ g ∈ gs, g.id ∈ change.1.groups.map (·.id))
      (hx : ∀ id slot, .withdraw id slot ∈ change.2 → change.1.HasCalledOff id) :
      let after := gs.foldl (fun change g =>
        ((change.1.callOff g).1, change.2 ++ (change.1.callOff g).2)) change
      (∀ id, change.1.HasCalledOff id → after.1.HasCalledOff id) ∧
        ∀ id slot, .withdraw id slot ∈ after.2 → after.1.HasCalledOff id := by
    induction gs generalizing change with
    | nil => exact ⟨fun _ h => h, hx⟩
    | cons g gs ih =>
      have hrest := ih ((change.1.callOff g).1, change.2 ++ (change.1.callOff g).2)
        (fun h hh => by rw [callOff_ids]; exact hgs h (List.mem_cons_of_mem _ hh))
        (fun id slot hm => (List.mem_append.mp hm).elim
          (fun hm => (hx id slot hm).callOff g)
          (hasCalledOff_of_withdraw (hgs g List.mem_cons_self)))
      exact ⟨fun id h => hrest.1 id (h.callOff g), hrest.2⟩
  exact hfold (b.groupsOf sheet) (b, [])
    (fun g hg => List.mem_map_of_mem (List.mem_of_mem_filter hg)) (by simp)

end Board

namespace Workspace

open Desk.Traffic (Step Steps)

variable {w w' w'' : Workspace ℚ}

/-- One whose group or call is called off. -/
def IsCalledOff (w : Workspace ℚ) : Asker → Prop
  | .slot id _ => w.board.HasCalledOff id
  | .call id | .member id _ => ∃ c, w.calls.get? id = some c ∧ c.calledOff = true

/-- A phase that stops no fetch. -/
def Phase.IsPlain : Phase → Prop
  | .stopFetches _ => False
  | _ => True

def IsPlain (w : Workspace ℚ) : Prop :=
  ∀ entry ∈ w.callers, ∀ phase ∈ entry.2, phase.IsPlain

/-! Those who leave -/

/-- Nothing has happened at the desk, but some who are called off may have left. -/
structure Releases (w w' : Workspace ℚ) : Prop where
  now : w'.agenda.now = w.agenda.now
  steps : Steps w'.IsCalledOff w.traffic [] w'.traffic
  sane : w.desk.Sane → w'.desk.Sane
  plain : w.IsPlain → w'.IsPlain
  calledOff : ∀ a, w.IsCalledOff a → w'.IsCalledOff a

theorem Releases.refl (w : Workspace ℚ) : Releases w w := ⟨rfl, .refl _, id, id, fun _ => id⟩

theorem Releases.trans (h : Releases w w') (h' : Releases w' w'') : Releases w w'' :=
  ⟨h'.now.trans h.now, (h.steps.mono h'.calledOff).trans h'.steps, fun hd => h'.sane (h.sane hd),
    fun hp => h'.plain (h.plain hp), fun a ha => h'.calledOff a (h.calledOff a ha)⟩

theorem Quiet.releases (h : Quiet w w') (hg : ∀ g ∈ w.board.groups, g ∈ w'.board.groups)
    (hc : w'.calls = w.calls) : Releases w w' := by
  refine ⟨congrArg (·.now) h.traffic, h.traffic ▸ .refl _, fun hd => h.desk ▸ hd, fun hp => ?_,
    fun a ha => ?_⟩
  · unfold IsPlain
    rw [h.callers]
    exact hp
  · cases a with
    | slot id slot =>
      obtain ⟨g, hm, hid⟩ := ha
      exact ⟨g, hg g hm, hid⟩
    | call id =>
      obtain ⟨c, hg, hoff⟩ := ha
      exact ⟨c, hc ▸ hg, hoff⟩
    | member id place =>
      obtain ⟨c, hg, hoff⟩ := ha
      exact ⟨c, hc ▸ hg, hoff⟩

theorem releases_callers (w : Workspace ℚ) {callers : Register Nat (List Phase)}
    (hp : ∀ entry ∈ callers, entry ∈ w.callers ∨ ∀ phase ∈ entry.2, phase.IsPlain) :
    Releases w { w with callers } :=
  ⟨rfl, .refl _, id, fun h entry hm => (hp entry hm).elim (h entry) id, fun _ => id⟩

theorem sane_leave {d : Desk ℚ Asker} (h : d.Sane) (a : Asker) : (d.leave a).Sane := by
  have hall {P : Desk.Fetch Asker → Prop} (hP : ∀ f ∈ d.fetches, ∀ callers, P { f with callers }) :
      ∀ f ∈ (d.leave a).fetches, P f := by
    intro f hf
    obtain ⟨g, hg, rfl⟩ := List.mem_map.mp hf
    exact hP g hg _
  have hrefs : (d.leave a).fetches.map (·.reference) = d.fetches.map (·.reference) := by
    simp [Desk.leave]
  refine ⟨hrefs ▸ h.nodup, hall fun f hf _ => h.calledOff f hf, h.fair, fun c hc => ?_,
    fun f hf hb => ?_, h.sleeping, h.awake, h.called⟩
  · obtain ⟨f, hf, hr, hs⟩ := h.client c hc
    exact ⟨_, List.mem_map_of_mem hf, hr, hs⟩
  · obtain ⟨g, hg, rfl⟩ := List.mem_map.mp hf
    have ha := h.attended g hg hb
    exact ⟨ha.fresh, ha.inLine, ha.fetching, fun outcome ho => by simp [ha.finished outcome ho]⟩

theorem step_leave {gone : Asker → Prop} (w : Workspace ℚ) {a : Asker} (ha : gone a) :
    Step gone w.traffic [] { w with desk := w.desk.leave a }.traffic := by
  refine .leave (t := w.traffic) (fun c => decide (c ≠ a)) fun c hc => ?_
  obtain rfl : c = a := by simpa using hc
  exact ha

/-! The board calls off groups -/

theorem calls_handOver (w : Workspace ℚ) (pass : Option Text) (c : Board.Commit) :
    (w.handOver pass c).calls = w.calls := by
  unfold handOver
  split
  · rfl
  · dsimp only
    split <;> rfl

theorem calls_boardSignal (w : Workspace ℚ) (x : Board.Signal) :
    (w.boardSignal x).calls = w.calls := by
  cases x with
  | commit pass c => exact calls_handOver w pass c
  | _ => rfl

theorem calls_applyBoard (w : Workspace ℚ) (change : Board × List Board.Signal) :
    (w.applyBoard change).calls = w.calls :=
  List.foldlRecOn (motive := fun w' : Workspace ℚ => w'.calls = w.calls) change.2 boardSignal rfl
    fun w' h x _ => (calls_boardSignal w' x).trans h

/-- Signals of the board. Those leave who are withdrawn. -/
theorem releases_boardSignals (signals : List Board.Signal) (w : Workspace ℚ)
    (hw : ∀ id slot, .withdraw id slot ∈ signals → w.IsCalledOff (.slot id slot)) :
    Releases w (signals.foldl boardSignal w) := by
  induction signals generalizing w with
  | nil => exact .refl w
  | cons x signals ih =>
    have hone : Releases w (w.boardSignal x) := by
      by_cases hq : x.IsQuiet
      · have hb : (w.boardSignal x).board = w.board :=
          (adds_foldl_boardSignal [x] (by simpa using hq) w).board
        exact (quiet_boardSignal w hq).releases (fun g hg => hb ▸ hg) (calls_boardSignal w x)
      · cases x with
        | ask id slot pass r => exact .refl w
        | withdraw id slot =>
          have hgone := hw id slot List.mem_cons_self
          exact ⟨rfl, (step_leave w hgone).steps, fun hd => sane_leave hd _, fun h => h,
            fun _ h => h⟩
        | _ => exact absurd trivial hq
    exact hone.trans (ih _ fun id slot hm =>
      hone.calledOff _ (hw id slot (List.mem_cons_of_mem _ hm)))

theorem releases_callOffSheet (w : Workspace ℚ) (sheet : Nat) :
    Releases w (w.applyBoard (w.board.callOffSheet sheet)) := by
  obtain ⟨hkeep, hx⟩ := Board.withdraw_callOffSheet w.board sheet
  have hboard : Releases w { w with board := (w.board.callOffSheet sheet).1 } := by
    refine ⟨rfl, .refl _, id, id, fun a ha => ?_⟩
    cases a with
    | slot id slot => exact hkeep id ha
    | call id => exact ha
    | member id place => exact ha
  exact hboard.trans (releases_boardSignals _ _ hx)

/-! Plans -/

theorem releases_runPass (w : Workspace ℚ) (buffer text : Text) :
    Releases w (w.runPass buffer text).2 := by
  refine (quiet_runPass w buffer text).releases (fun g hg => ?_) ?_
  · rw [(adds_runPass w buffer text).board, Board.startPass_eq]
    exact List.mem_append_left _ hg
  · unfold runPass
    dsimp only
    split <;> exact calls_applyBoard _ _

theorem releases_withDebouncer (w : Workspace ℚ) (id : Nat)
    (change : Debouncer ℚ → Debouncer ℚ × List (Debouncer.Signal ℚ)) :
    Releases w (w.withDebouncer id change) := by
  have hone (buffer : Text) (w : Workspace ℚ) (s : Debouncer.Signal ℚ) :
      Releases w (debouncerSignal id buffer w s) := by
    cases s with
    | turn timer => exact (quiet_debouncerSignal id buffer w _).releases (fun _ h => h) rfl
    | sleep timer delay => exact (quiet_debouncerSignal id buffer w _).releases (fun _ h => h) rfl
    | ended timer => exact .refl w
    | run timer =>
      have hrun : Releases w (w.runLatest buffer) := by
        unfold runLatest
        split
        · exact releases_runPass w buffer _
        · exact .refl w
      refine hrun.trans ?_
      unfold debouncerSignal
      dsimp only
      split
      · exact Quiet.releases ⟨rfl, rfl, rfl⟩ (fun _ h => h) rfl
      · exact .refl _
  unfold withDebouncer
  split
  · rename_i buffer d hd
    have hset : Releases w { w with
        debouncers := w.debouncers.set id (buffer, (change d).1) } :=
      Quiet.releases ⟨rfl, rfl, rfl⟩ (fun _ h => h) rfl
    exact List.foldlRecOn (motive := Releases w) (change d).2 (debouncerSignal id buffer) hset
      fun w' h s _ => h.trans (hone buffer w' s)
  · exact .refl w

theorem releases_enter (w : Workspace ℚ) (caller : Nat) {phase : Phase} (hp : phase.IsPlain) :
    Releases w (w.enter caller phase).1 ∧ ∀ p ∈ (w.enter caller phase).2, p.IsPlain := by
  have hsame {w' : Workspace ℚ} (hq : Quiet w w') (hg : w'.board.groups = w.board.groups)
      (hc : w'.calls = w.calls) : Releases w w' := hq.releases (fun g hm => hg ▸ hm) hc
  cases phase with
  | callOffTimers debouncer =>
    exact ⟨releases_withDebouncer w debouncer Debouncer.callOffAll,
      by simp [enter, Phase.IsPlain]⟩
  | callOffSheet sheet => exact ⟨releases_callOffSheet w sheet, by simp [enter, Phase.IsPlain]⟩
  | stopFetches kind => exact hp.elim
  | forget buffer => exact ⟨hsame ⟨rfl, rfl, rfl⟩ rfl rfl, by simp [enter]⟩
  | forgetAll => exact ⟨hsame ⟨rfl, rfl, rfl⟩ rfl rfl, by simp [enter]⟩
  | dropAll =>
    refine ⟨hsame ⟨rfl, rfl, rfl⟩ rfl rfl, fun p hm => ?_⟩
    obtain ⟨entry, -, rfl⟩ := List.mem_map.mp hm
    trivial
  | drop buffer =>
    simp only [enter]
    split
    · exact ⟨hsame ⟨rfl, rfl, rfl⟩ rfl rfl, by simp [Phase.IsPlain]⟩
    · exact ⟨.refl w, by simp⟩
  | idle buffer =>
    simp only [enter]
    split
    · exact ⟨.refl w, by simp [Phase.IsPlain]⟩
    · exact ⟨.refl w, by simp⟩
  | present pass => exact ⟨hsame (quiet_note w rfl) rfl rfl, by simp [enter]⟩
  | _ => exact ⟨.refl w, by simp [enter]⟩

theorem releases_proceed (caller fuel : Nat) {plan : List Phase} (hp : ∀ p ∈ plan, p.IsPlain)
    (w : Workspace ℚ) : Releases w (proceed caller fuel plan w) := by
  refine proceed_rec (C := Releases w) caller (fun w' plan h hp => h.trans ?_)
    (fun w' h => h.trans ?_) (fun w' phase h hphase => ?_) fuel hp (.refl w)
  · refine releases_callers w' fun entry hm => ?_
    rcases Register.mem_set hm with rfl | hm
    · exact .inr hp
    · exact .inl hm
  · exact (releases_callers w' fun entry hm => .inl (List.mem_of_mem_filter hm)).trans
      ((quiet_note _ rfl).releases (fun _ => id) rfl)
  · obtain ⟨henter, hphases⟩ := releases_enter w' caller hphase
    exact ⟨h.trans henter, hphases⟩

theorem releases_start (w : Workspace ℚ) {plan : List Phase} (hp : ∀ p ∈ plan, p.IsPlain) :
    Releases w (w.start plan) := by
  have hnext : Releases w { w with nextCaller := w.nextCaller + 1 } :=
    Quiet.releases ⟨rfl, rfl, rfl⟩ (fun _ => id) rfl
  exact hnext.trans (releases_proceed _ _ hp _)

/-! Calls -/

theorem releases_soon (w : Workspace ℚ) {job : Job} (hj : job.IsAside) :
    Releases w (w.soon job) :=
  (quiet_soon w hj).releases (fun _ h => h) rfl

theorem releases_callCallers (w : Workspace ℚ) : Releases w w.callCallers :=
  callCallers_rec (C := Releases w) (.refl w) fun w' _ h => h.trans (releases_soon w' trivial)

theorem releases_notes (notices : List Notice) (w : Workspace ℚ) :
    Releases w (notices.foldl (fun w n => w.note (.noted ⟨none, n⟩)) w) :=
  List.foldlRecOn (motive := Releases w) notices _ (.refl w)
    fun w' h _ _ => h.trans ((quiet_note w' rfl).releases (fun _ h => h) rfl)

theorem releases_leave (askers : List Asker) (w : Workspace ℚ)
    (ha : ∀ a ∈ askers, w.IsCalledOff a) :
    Releases w { w with desk := askers.foldl Desk.leave w.desk } := by
  induction askers generalizing w with
  | nil => exact .refl w
  | cons a askers ih =>
    have hone : Releases w { w with desk := w.desk.leave a } :=
      ⟨rfl, (step_leave w (ha a List.mem_cons_self)).steps, fun hd => sane_leave hd a, fun h => h,
        fun _ h => h⟩
    exact hone.trans (ih _ fun a' hm => hone.calledOff a' (ha a' (List.mem_cons_of_mem _ hm)))

/-- Whoever waits for a call waits for nothing else. -/
theorem isCalledOff_askersOf {id : Nat} {wanted : Wanted} {c : Call}
    (hc : w.calls.get? id = some c) (ho : c.calledOff = true) :
    ∀ a ∈ askersOf id wanted, w.IsCalledOff a := by
  intro a ha
  cases wanted with
  | one r =>
    obtain rfl := List.mem_singleton.mp ha
    exact ⟨c, hc, ho⟩
  | profiles names =>
    obtain ⟨place, -, rfl⟩ := List.mem_map.mp ha
    exact ⟨c, hc, ho⟩

theorem releases_callOff (w : Workspace ℚ) (id : Nat) (c : Call) :
    Releases w (w.setCall id { c with calledOff := true }) := by
  refine ⟨rfl, .refl _, fun h => h, fun h => h, fun a ha => ?_⟩
  have hkeep {other : Nat} (h : ∃ c, w.calls.get? other = some c ∧ c.calledOff = true) :
      ∃ c', (w.calls.set id { c with calledOff := true }).get? other = some c' ∧
        c'.calledOff = true := by
    rw [Register.get?_set]
    split
    · exact ⟨_, rfl, rfl⟩
    · exact h
  cases a with
  | slot group slot => exact ha
  | call other => exact hkeep ha
  | member other place => exact hkeep ha

theorem releases_cancel (w : Workspace ℚ) (tag : Text) : Releases w (w.cancel tag).2 := by
  unfold cancel
  split
  · exact .refl w
  · rename_i id c hfind
    have hcall := releases_callOff w id c
    dsimp only
    split
    · exact .refl w
    · split
      · have hget : (w.setCall id { c with calledOff := true }).calls.get? id = _ :=
          (Register.get?_set _ _ _ _).trans (if_pos rfl)
        have hleave := hcall.trans (releases_leave (askersOf id c.wanted) _
          (isCalledOff_askersOf hget rfl))
        exact hleave.trans (releases_soon _ (show Job.IsAside (.call id) from trivial))
      · exact hcall

end Workspace

end CommitMessage
