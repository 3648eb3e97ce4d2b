import CommitMessage.Proofs.Workspace.Foretelling
import CommitMessage.Proofs.Workspace.Untouched

/-! Whatever has nothing to do with a buffer leaves it alone. So do all who wait for another buffer
to be dropped. -/

namespace CommitMessage.Workspace

variable {w w' : Workspace ℚ} {buffer other : Text} {key : Nat} {p : Plan ℚ} {now : ℚ}
  {moves later : List Move}

/-- What holds of a workspace in every run. -/
structure Regular (w : Workspace ℚ) : Prop where
  settled : ∀ buffer, w.Settled buffer
  own : ∀ buffer key, w.debouncerOf.get? buffer = some key →
    ∃ d, w.debouncers.get? key = some (buffer, d)
  lt : ∀ key entry, w.debouncers.get? key = some entry → key < w.nextDebouncer
  numbered : w.Numbered
  plain : w.IsPlain

theorem regular_run (p : Plan ℚ) (now : ℚ) (hm : ∀ m ∈ moves, m.IsFine) :
    ((new p now).runMoves moves).Regular := by
  obtain ⟨hheeded, -⟩ := (watched_run p now hm).1
  obtain ⟨hnumbered, htimed⟩ :=
    ((inOrder_new p now).run fun m hx => (hm m hx).isStep).toOnTime
  refine ⟨fun buffer => ⟨hheeded.ending.nodup, fun g hg hc x s hx hs => ?_, fun g hg =>
    hheeded.ending.id_lt g (List.mem_of_mem_filter hg)⟩, fun _ _ => htimed.own,
    fun _ _ => htimed.lt, hnumbered, (faithful_run p now hm).orderly.plain⟩
  obtain ⟨hm, hb⟩ := List.mem_filter.mp hg
  have hown := (hheeded.placed.own g (Board.mem_kept.mpr ⟨hm, hc⟩) x s hx hs).1
  exact hown.symm.trans (by simpa using hb)

theorem Regular.isOthersTimer (h : w.Regular) (ho : other ≠ buffer)
    (hof : w.debouncerOf.get? other = some key) : w.IsOthersTimer buffer key := by
  intro d hget
  obtain ⟨d', hget'⟩ := h.own other key hof
  rw [hget'] at hget
  exact ho (congrArg Prod.fst (Option.some.inj hget))

/-! What has to do with a buffer -/

def Job.Concerns (buffer : Text) (w : Workspace ℚ) : Job → Prop
  | .timer key _ => ¬ w.IsOthersTimer buffer key
  | .group id | .slot id _ | .answer (.slot id _) _ => ¬ w.board.IsOthers buffer id
  | .caller id => ∃ plan, w.callers.get? id = some plan ∧ ∃ p ∈ plan, p.Concerns buffer w
  | _ => False

def Alarm.Concerns (buffer : Text) (w : Workspace ℚ) : Alarm → Prop
  | .timer key _ => ¬ w.IsOthersTimer buffer key
  | _ => False

def Event.Concerns (buffer : Text) (w : Workspace ℚ) : Event ℚ → Prop
  | .runPass other _ | .attach other _ _ | .notify other _ | .flush other | .detach other =>
    other = buffer
  | .annotate other _ => other.getD w.freshBuffer = buffer
  | .work => ∃ job ∈ w.agenda.jobs.head?, job.Concerns buffer w
  | .shutdown | .dispose | .advance _ => True
  | _ => False

def Move.Concerns (buffer : Text) (w : Workspace ℚ) : Move → Prop
  | .event e => e.Concerns buffer w
  | .ring => ∃ alarm ∈ w.agenda.alarms.head?, alarm.2.Concerns buffer w
  | .wait _ => False

/-- In the course of these moves nothing has to do with a buffer. -/
def Avoids (buffer : Text) : List Move → Workspace ℚ → Prop
  | [], _ => True
  | m :: moves, w => ¬ m.Concerns buffer w ∧ Avoids buffer moves (w.move m)

/-! Jobs -/

theorem untouched_slotTurn {id : Nat} (h : w.board.IsOthers buffer id) (slot : Nat) :
    Untouched buffer w (w.slotTurn id slot) := by
  have hturn := Board.untouched_slotTurn h slot
  have hboard : Untouched buffer w { w with board := (w.board.slotTurn id slot).1 } :=
    ⟨hturn.sheet, hturn.groups, rfl, rfl, rfl, fun _ _ => Iff.rfl, fun _ _ _ => rfl, rfl⟩
  rcases Board.slotTurn_signals w.board id slot with he | ⟨pass, r, he⟩
  · simpa only [slotTurn, he] using hboard
  · let asking : Workspace ℚ := { w with board := (w.board.slotTurn id slot).1 }
    have hask := elsewhere_ask asking (.slot id slot) (some pass) r
    simp only [slotTurn, he]
    split
    · refine (hboard.trans (hask.untouched buffer)).trans
        (untouched_applyBoard (Board.untouched_answer ?_ slot _))
      rw [hask.board]
      exact hturn.isOthers h
    · exact hboard.trans (hask.untouched buffer)

/-- Those who wait for something else leave the buffer alone, and its lookups. -/
theorem closes_caller (h : w.Regular) {id : Nat} (hc : ¬ (Job.caller id).Concerns buffer w) :
    Closes buffer w (w.perform (.caller id)) := by
  unfold perform
  dsimp only
  split
  · next plan hget =>
    refine closes_proceed (h.settled buffer) id _ fun p hp => ⟨?_, fun hp' => ?_⟩
    · exact h.plain (id, plan) (Register.mem_of_get? hget) p hp
    · exact hc ⟨plan, hget, p, hp, hp'⟩
  · exact .refl buffer w

theorem untouched_perform (h : w.Regular) {job : Job} (hc : ¬ job.Concerns buffer w) :
    Untouched buffer w (w.perform job) := by
  cases job with
  | timer key timer =>
    exact (aside_withDebouncer (h.settled buffer).counted (not_not.mp hc) _).toUntouched
  | group id => exact untouched_applyBoard (Board.untouched_groupTurn (not_not.mp hc))
  | slot id slot => exact untouched_slotTurn (not_not.mp hc) slot
  | answer asker outcome =>
    cases asker with
    | slot id slot =>
      exact untouched_applyBoard (Board.untouched_answer (not_not.mp hc) slot outcome)
    | call id => exact (elsewhere_perform w rfl).untouched buffer
    | member id place => exact (elsewhere_perform w rfl).untouched buffer
  | caller id => exact (closes_caller h hc).toUntouched
  | _ => exact (elsewhere_perform w rfl).untouched buffer

/-! Events -/

theorem closes_start (h : w.Regular) {plan : List Phase}
    (hp : ∀ p ∈ plan, p.IsPlain ∧ ¬ p.Concerns buffer w) : Closes buffer w (w.start plan) := by
  have hnext : Closes buffer w { w with nextCaller := w.nextCaller + 1 } :=
    Untouched.closes ⟨rfl, rfl, rfl, rfl, rfl, fun _ _ => Iff.rfl, fun _ _ _ => rfl, rfl⟩
      (fewer_refl _) rfl rfl rfl rfl
  exact hnext.trans (closes_proceed (hnext.settled (h.settled buffer)) _ _ fun p hm =>
    ⟨(hp p hm).1, fun hc => (hp p hm).2 ((hnext.concerns p).mp hc)⟩)

theorem settlePlan_concerns (w w' : Workspace ℚ) (other : Text) :
    ∀ p ∈ w.settlePlan other, p.IsPlain ∧ ¬ p.Concerns buffer w' := by
  intro p hp
  rcases List.mem_append.mp hp with hp | hp
  · split at hp
    · cases List.mem_singleton.mp hp
      exact ⟨trivial, id⟩
    · cases hp
  · cases List.mem_singleton.mp hp
    exact ⟨trivial, id⟩

theorem closes_detach (h : w.Regular) (ho : other ≠ buffer) :
    Closes buffer w (w.detach other) := by
  let freed : Workspace ℚ := { w with debouncerOf := w.debouncerOf.erase other }
  have hfrees : Closes buffer w freed :=
    Untouched.closes ⟨rfl, rfl, rfl, rfl, (Register.get?_erase _ _ _).trans (if_neg ho.symm),
      fun _ _ => Iff.rfl, fun _ _ _ => rfl, rfl⟩ (fewer_refl _) rfl rfl rfl rfl
  have hfreed : freed.Regular := by
    refine ⟨fun x => (h.settled x).of_board rfl, fun x key hx => h.own x key ?_, h.lt, h.numbered,
      h.plain⟩
    rw [Register.get?_erase] at hx
    split at hx
    · cases hx
    · exact hx
  refine hfrees.trans (closes_start hfreed fun p hp => ?_)
  rcases List.mem_append.mp hp with hp | hp
  · split at hp
    · next key hof =>
      cases List.mem_singleton.mp hp
      exact ⟨trivial, fun ⟨d, hget⟩ => h.isOthersTimer ho hof d hget⟩
    · cases hp
  · simp only [List.mem_cons, List.not_mem_nil, or_false] at hp
    rcases hp with rfl | rfl <;> exact ⟨trivial, ho⟩

theorem aside_debouncerFor (h : w.Regular) (ho : other ≠ buffer) :
    Aside buffer w (w.debouncerFor other).2 ∧
      (w.debouncerFor other).2.IsOthersTimer buffer (w.debouncerFor other).1 := by
  unfold debouncerFor
  split
  · next key hof => exact ⟨.refl buffer w, h.isOthersTimer ho hof⟩
  · have hnew : w.IsOthersTimer buffer w.nextDebouncer :=
      fun d hget => (h.lt w.nextDebouncer _ hget).ne rfl
    have hset := aside_setDebouncer hnew ho { delay := w.pause }
    refine ⟨Untouched.aside ⟨rfl, rfl, rfl, rfl, (Register.get?_set _ _ _ _).trans (if_neg ho.symm),
      hset.debouncers, fun _ _ _ => rfl, rfl⟩ rfl rfl, fun d hget => ?_⟩
    exact hnew d ((hset.debouncers w.nextDebouncer d).mp hget)

theorem aside_notify (h : w.Regular) (ho : other ≠ buffer) (text : Text) :
    Aside buffer w (w.notify other text) := by
  have hnoted : Regular { w with texts := w.texts.set other text } :=
    ⟨fun x => (h.settled x).of_board rfl, h.own, h.lt, h.numbered, h.plain⟩
  obtain ⟨hfor, hothers⟩ := aside_debouncerFor hnoted ho
  have hready := (aside_setText w ho text).trans hfor
  exact hready.trans (aside_withDebouncer (hready.isCounted (h.settled buffer).counted) hothers
    Debouncer.trigger)

theorem aside_flush (h : w.Regular) (ho : other ≠ buffer) :
    Aside buffer w (w.flush other).2 := by
  have hcounted := (h.settled buffer).counted
  unfold flush
  split
  · next key hof =>
    split
    · have hoff := aside_withDebouncer hcounted (h.isOthersTimer ho hof) Debouncer.callOffCurrent
      exact hoff.trans (aside_runLatest (hoff.isCounted hcounted) ho)
    · exact .refl buffer w
  · exact .refl buffer w

theorem aside_attach (h : w.Regular) (ho : other ≠ buffer) (path text : Text) :
    Aside buffer w (w.attach other path text).2 := by
  unfold attach
  split
  · exact aside_runPass (h.settled buffer).counted ho text
  · exact aside_note w rfl

theorem aside_annotate (h : w.Regular) {name : Option Text} (text : Text)
    (hpass : (w.runPass (name.getD w.freshBuffer) text).2.Regular)
    (ho : name.getD w.freshBuffer ≠ buffer) : Aside buffer w (w.annotate name text) := by
  refine (aside_runPass (h.settled buffer).counted ho text).trans
    (closes_start hpass fun p hp => ?_).toAside
  rcases List.mem_append.mp hp with hp | hp
  · exact settlePlan_concerns _ _ _ p hp
  · rcases List.mem_cons.mp hp with rfl | hp
    · exact ⟨trivial, id⟩
    · split at hp
      · simp only [List.mem_cons, List.not_mem_nil, or_false] at hp
        rcases hp with rfl | rfl <;> exact ⟨trivial, ho⟩
      · cases hp

/-- What is asked for another buffer. -/
def Event.IsFor (buffer : Text) : Event ℚ → Prop
  | .runPass other _ | .attach other _ _ | .notify other _ | .flush other | .detach other =>
    other = buffer
  | _ => False

theorem aside_step (h : w.Regular) {e : Event ℚ} (he : e.IsFor other) (ho : other ≠ buffer) :
    Aside buffer w (w.step e) := by
  cases e with
  | runPass x text => exact aside_runPass (h.settled buffer).counted (he ▸ ho) text
  | attach x path text => exact aside_attach h (he ▸ ho) path text
  | notify x text => exact aside_notify h (he ▸ ho) text
  | flush x => exact aside_flush h (he ▸ ho)
  | detach x => exact (closes_detach h (he ▸ ho)).toAside
  | _ => exact he.elim

/-! Moves -/

theorem untouched_work (h : w.Regular) (hc : ¬ Event.Concerns buffer w .work) :
    Untouched buffer w w.work := by
  unfold work Agenda.nextJob?
  cases hj : w.agenda.jobs with
  | nil => exact .refl buffer w
  | cons job rest =>
    have hpop : Untouched buffer w (w.withJobs rest) :=
      ⟨rfl, rfl, rfl, rfl, rfl, fun _ _ => Iff.rfl, fun _ _ _ => rfl, rfl⟩
    have hregular : (w.withJobs rest).Regular :=
      ⟨fun x => (h.settled x).of_board rfl, h.own, h.lt, h.numbered, h.plain⟩
    have hjob : ¬ job.Concerns buffer (w.withJobs rest) := by
      intro hjob
      refine hc ⟨job, by simp [hj], ?_⟩
      cases job with
      | answer asker outcome => cases asker <;> exact hjob
      | caller id =>
        obtain ⟨plan, hget, p, hp, hconcerns⟩ := hjob
        refine ⟨plan, hget, p, hp, ?_⟩
        cases p <;> exact hconcerns
      | _ => exact hjob
    exact (hpop.trans (untouched_perform hregular hjob)).trans
      ((elsewhere_callCallers _).untouched buffer)

theorem untouched_ring (h : w.Regular) {time : ℚ} {alarm : Alarm} {alarms : List (ℚ × Alarm)}
    (ha : w.agenda.alarms = (time, alarm) :: alarms) (hc : ¬ alarm.Concerns buffer w) :
    Untouched buffer w ((w.withAlarms alarms).ring alarm) := by
  have hpop : Untouched buffer w (w.withAlarms alarms) := by
    refine ⟨rfl, rfl, rfl, rfl, rfl, fun _ _ => Iff.rfl, fun key d hget => ?_, rfl⟩
    rw [ha]
    refine (List.filter_cons_of_neg ?_).symm
    cases alarm with
    | timer key' timer =>
      simp only [Alarm.isFor, beq_iff_eq]
      rintro rfl
      exact hc fun hothers => hothers d hget
    | _ => simp [Alarm.isFor]
  cases alarm with
  | timer key timer =>
    have hothers : (w.withAlarms alarms).IsOthersTimer buffer key := not_not.mp hc
    have hcounted : (w.withAlarms alarms).IsCounted buffer := (h.settled buffer).counted
    exact hpop.trans (aside_withDebouncer hcounted hothers (·.wake timer)).toUntouched
  | limiter r => exact hpop.trans ((elsewhere_applyDesk _ _).untouched buffer)
  | reply r reply => exact hpop.trans ((elsewhere_soon _ _).untouched buffer)

/-- Whatever has nothing to do with a buffer leaves it alone. -/
theorem untouched_move (hm : ∀ m ∈ moves, m.IsFine) {m : Move} (hfine : m.IsFine)
    (hc : ¬ m.Concerns buffer ((new p now).runMoves moves)) :
    Untouched buffer ((new p now).runMoves moves) (((new p now).runMoves moves).move m) := by
  have h := regular_run p now hm
  have hpass (name text : Text) : (((new p now).runMoves moves).runPass name text).2.Regular := by
    have hrun : ((new p now).runMoves (moves ++ [.event (.runPass name text)])).Regular :=
      regular_run p now fun m' hx => (List.mem_append.mp hx).elim (hm m') fun hx =>
        List.mem_singleton.mp hx ▸ trivial
    rwa [runMoves_append] at hrun
  generalize (new p now).runMoves moves = w at *
  have helse {e : Event ℚ} (he : e.IsBeside) : Untouched buffer w (w.move (.event e)) :=
    (elsewhere_step w he).untouched buffer
  cases m with
  | event e =>
    cases e with
    | runPass other text => exact (aside_runPass (h.settled buffer).counted hc text).toUntouched
    | attach other path text => exact (aside_attach h hc path text).toUntouched
    | notify other text => exact (aside_notify h hc text).toUntouched
    | flush other => exact (aside_flush h hc).toUntouched
    | settle other => exact (closes_start h (settlePlan_concerns w w other)).toUntouched
    | detach other => exact (closes_detach h hc).toUntouched
    | shutdown => exact absurd trivial hc
    | dispose => exact hfine.elim
    | annotate name text => exact (aside_annotate h text (hpass _ text) hc).toUntouched
    | work => exact untouched_work h hc
    | advance dt => exact hfine.elim
    | _ => exact helse trivial
  | ring =>
    unfold move
    dsimp only
    split
    · exact .refl buffer w
    · next alarm alarms ha =>
      exact untouched_ring h ha fun hconcerns => hc ⟨alarm, by simp [ha], hconcerns⟩
  | wait time =>
    unfold move
    dsimp only
    split
    · exact ⟨rfl, rfl, rfl, rfl, rfl, fun _ _ => Iff.rfl, fun _ _ _ => rfl, rfl⟩
    · exact .refl buffer w

/-- A run in which nothing has to do with a buffer leaves it alone. -/
theorem untouched_run (hm : ∀ m ∈ moves ++ later, m.IsFine)
    (ha : Avoids buffer later ((new p now).runMoves moves)) :
    Untouched buffer ((new p now).runMoves moves) ((new p now).runMoves (moves ++ later)) := by
  induction later generalizing moves with
  | nil =>
    rw [List.append_nil]
    exact .refl buffer _
  | cons m later ih =>
    have hfine : ∀ m' ∈ moves, m'.IsFine := fun m' hx => hm m' (List.mem_append_left _ hx)
    have hfirst : m.IsFine := hm m (List.mem_append_right _ List.mem_cons_self)
    have hstep : (new p now).runMoves (moves ++ [m]) = ((new p now).runMoves moves).move m :=
      runMoves_append _ moves [m]
    rw [List.append_cons] at hm ⊢
    have hrest := ih hm (hstep ▸ ha.2)
    rw [hstep] at hrest
    exact (untouched_move hfine hfirst ha.1).trans hrest

end CommitMessage.Workspace
