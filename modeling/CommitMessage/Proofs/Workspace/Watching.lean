import CommitMessage.Proofs.Board.Foretold
import CommitMessage.Proofs.Workspace.Annotated
import CommitMessage.Proofs.Workspace.Heeding
import CommitMessage.Proofs.Workspace.Runs

/-! Runs in which nothing on the board is overlooked. If every reference is answered alike whenever
it is looked up, the answers of a slot are known before they come. -/

namespace CommitMessage

namespace Desk.Traffic

variable {κ : Type} {gone : κ → Prop} {t t' : Traffic κ} {hs : List (Happening κ)} {c : κ}
  {r : Reference} {how : Reception}

theorem Step.valid_asked (h : Step gone t hs t') (ht : t.Sound) (hm : .asked c r how ∈ hs)
    (hw : ∀ outcome, how ≠ .given outcome) : r.isValid = true := by
  cases h with
  | give h =>
    cases List.mem_singleton.mp hm
    exact absurd rfl (hw _)
  | join hf ho hc =>
    cases List.mem_singleton.mp hm
    exact ht.valid _ (mem_of_split hf)
  | make hv hr hc =>
    cases List.mem_singleton.mp hm
    exact hv
  | _ => simp at hm

/-- No one has to wait but for what can be looked up. -/
theorem Steps.valid_asked (h : Steps gone t hs t') (ht : t.Sound) (hm : .asked c r how ∈ hs)
    (hw : ∀ outcome, how ≠ .given outcome) : r.isValid = true := by
  induction h with
  | refl => cases hm
  | tail hsteps hstep ih =>
    rcases List.mem_append.mp hm with hm | hm
    · exact ih hm
    · exact hstep.valid_asked (hsteps.sound ht) hm hw

end Desk.Traffic

namespace Board

variable {b b' : Board} {id slot : Nat} {due : Wake → Prop} {fits : Reference → Outcome → Prop}
  {history more : List (Desk.Happening Workspace.Asker)}

/-- A slot that asks belongs to a group that goes on, and asks for what its mention says. -/
theorem exists_of_ask {pass : Text} {r : Reference}
    (h : (b.slotTurn id slot).2 = [.ask id slot pass r]) :
    ∃ g m, b.group? id = some g ∧ g.calledOff = false ∧ g.slots[slot]? = some (m, .fresh) ∧
      r = m.reference := by
  unfold slotTurn at h
  split at h
  · cases h
  · next g hg =>
    split at h
    · next m hc hs =>
      simp only [List.cons.injEq, Signal.ask.injEq, true_and, and_true] at h
      exact ⟨g, m, hg, hc, hs, h.2.symm⟩
    · cases h

/-- A slot that has asked has asked for what its mention says. -/
def Recalls (history : List (Desk.Happening Workspace.Asker)) (b : Board) : Prop :=
  ∀ id slot r how, .asked (.slot id slot) r how ∈ history → id < b.nextGroup ∧
    ∀ g ∈ b.groups, g.id = id → ∀ m state, g.slots[slot]? = some (m, state) → m.reference = r

theorem Group.Same.reference_eq {g g' : Group} (h : g.Same g') {m m' : Mention}
    {state state' : Slot} (hs : g.slots[slot]? = some (m, state))
    (hs' : g'.slots[slot]? = some (m', state')) : m' = m := by
  have hm := congrArg (·[slot]?) h.mentions
  simpa [hs, hs'] using hm

theorem Recalls.inherits (h : b.Recalls history) (hi : Inherits b b') : b'.Recalls history := by
  intro id slot r how hm
  obtain ⟨hlt, hmentions⟩ := h id slot r how hm
  refine ⟨hlt.trans_le hi.nextGroup_le, fun g' hg' hid m state hs => ?_⟩
  obtain ⟨g, hg, hsame⟩ := hi.old g' hg' (hid ▸ hlt)
  have hslot := congrArg (·[slot]?) hsame.mentions
  simp only [List.getElem?_map, hs, Option.map_some] at hslot
  obtain ⟨⟨m', state'⟩, hs', he⟩ := Option.map_eq_some_iff.mp hslot.symm
  obtain rfl : m' = m := he
  exact hmentions g hg (hsame.id ▸ hid) m' state' hs'

theorem Recalls.append (h : b.Recalls history) (h' : b.Recalls more) :
    b.Recalls (history ++ more) := fun id slot r how hm =>
  (List.mem_append.mp hm).elim (h id slot r how) (h' id slot r how)

/-- What the slot asks for is what it will be given. -/
theorem Heeded.mention_of_ask (h : b.Heeded due) {pass : Text} {r : Reference}
    (he : (b.slotTurn id slot).2 = [.ask id slot pass r]) (hi : Inherits b.kept b'.kept) :
    id < b'.nextGroup ∧ ∀ g ∈ b'.kept.groups, g.id = id →
      ∀ m state, g.slots[slot]? = some (m, state) → m.reference = r := by
  obtain ⟨g, m, hg, hc, hs, rfl⟩ := exists_of_ask he
  obtain ⟨hm, rfl⟩ := mem_of_group? hg
  have hlt := h.ending.id_lt g hm
  refine ⟨hlt.trans_le hi.nextGroup_le, fun g' hg' hid m' state hs' => ?_⟩
  obtain ⟨g₀, hg₀, hsame⟩ := hi.old g' hg' (hid ▸ hlt)
  obtain rfl := h.ending.eq_of_id (mem_kept.mp hg₀).1 hm (hsame.id.symm.trans hid)
  rw [hsame.reference_eq hs hs']

theorem Heeded.fits_of_ask (h : b.Heeded due) {pass : Text} {r : Reference} {outcome : Outcome}
    (he : (b.slotTurn id slot).2 = [.ask id slot pass r]) (hf : fits r outcome) :
    (b.slotTurn id slot).1.kept.Fits fits id slot outcome := by
  have hlasting : Lasting fits (Inherits b.kept) := lasting_inherits _
  have hi : Inherits b.kept (b.slotTurn id slot).1.kept :=
    h.slotTurn_lasting hlasting (.refl _) id slot
  intro g hg hid m state hs
  rwa [(h.mention_of_ask he hi).2 g hg hid m state hs]

end Board

namespace Workspace

open Desk (Happening)
open Board (Lasting)

variable {w w' : Workspace ℚ} {P : Board → Prop} {fits : Reference → Outcome → Prop}
  {history : List (Happening Asker)} {p : Plan ℚ}

/-! One move -/

/-- All groups that go on have something to come, and have the property. -/
def IsWatched (P : Board → Prop) (w : Workspace ℚ) : Prop :=
  w.Heeds (fun id slot => w.traffic.Hears (.slot id slot)) (Owing P w.Owes)

theorem Heeds.mono {answers answers' : Nat → Nat → Prop} (h : w.Heeds answers P)
    (ha : ∀ id slot, answers id slot → answers' id slot) : w.Heeds answers' P := by
  refine ⟨h.heeded.mono fun g _ e _ hd => ?_, h.lasting⟩
  cases e with
  | answer id slot => exact ha id slot hd
  | _ => exact hd

theorem isWatched_new (p : Plan ℚ) (now : ℚ) (hP : P {}) : (new p now).IsWatched P := by
  refine ⟨Board.heeded_empty, hP, ?_⟩
  rintro sheet ⟨caller, plan, hget, -⟩
  cases hget

theorem told_of_mem_doing {job : Job} {a : Asker} {outcome : Outcome}
    (h : .told a outcome ∈ w.doing job) : job = .answer a outcome := by
  have hrequesting (signals : List (Desk.Signal ℚ Asker)) :
      .told a outcome ∉ signals.flatMap w.requesting := by
    intro hm
    obtain ⟨s, -, hm⟩ := List.mem_flatMap.mp hm
    cases s with
    | request r url =>
      simp only [requesting] at hm
      split at hm <;> simp at hm
    | _ => cases hm
  cases job with
  | fetch r => exact absurd h (hrequesting _)
  | limiter r => exact absurd h (hrequesting _)
  | reply r reply => simp [doing] at h
  | answer a' outcome' =>
    cases List.mem_singleton.mp h
    rfl
  | _ =>
    simp only [doing] at h
    split at h <;> simp at h

theorem asked_of_mem_doing {job : Job} {id slot : Nat} {r : Reference} {how : Desk.Reception}
    (h : .asked (.slot id slot) r how ∈ w.doing job) :
    job = .slot id slot ∧ ∃ pass, (w.board.slotTurn id slot).2 = [.ask id slot pass r] ∧
      how = w.desk.reception w.agenda.now (.slot id slot) (some pass) r := by
  have hrequesting (signals : List (Desk.Signal ℚ Asker)) :
      .asked (.slot id slot) r how ∉ signals.flatMap w.requesting := by
    intro hm
    obtain ⟨s, -, hm⟩ := List.mem_flatMap.mp hm
    cases s with
    | request r url =>
      simp only [requesting] at hm
      split at hm <;> simp at hm
    | _ => cases hm
  cases job with
  | fetch r => exact absurd h (hrequesting _)
  | limiter r => exact absurd h (hrequesting _)
  | slot id' slot' =>
    rcases Board.slotTurn_signals w.board id' slot' with he | ⟨pass, r', he⟩
    · simp [doing, question?, he] at h
    · simp only [doing, question?, he, List.mem_singleton] at h
      cases h
      exact ⟨rfl, pass, he, rfl⟩
  | call id' =>
    simp only [doing, question?] at h
    split at h
    · next hq =>
      split at hq <;> cases hq
      cases List.mem_singleton.mp h
    · cases h
  | member id' place =>
    simp only [doing, question?] at h
    split at h
    · next hq =>
      split at hq
      · obtain ⟨entry, -, he⟩ := Option.map_eq_some_iff.mp hq
        cases he
        cases List.mem_singleton.mp h
      · cases hq
    · cases h
  | _ => simp [doing, question?] at h

/-- Slots that wait before a move, or begin to wait in it, and are not told their outcome. -/
def StillHears (w : Workspace ℚ) (hs : List (Happening Asker)) (id slot : Nat) : Prop :=
  (∀ outcome, .told (.slot id slot) outcome ∉ hs) ∧ (w.traffic.Hears (.slot id slot) ∨
    ∃ r how, (∀ outcome, how ≠ .given outcome) ∧ .asked (.slot id slot) r how ∈ hs)

theorem IsWatched.stillHears (h : w.IsWatched P) {hs : List (Happening Asker)}
    (hn : ∀ a outcome, .told a outcome ∉ hs) : w.Heeds (w.StillHears hs) (Owing P w.Owes) :=
  h.mono fun _ _ hd => ⟨hn _, .inl hd⟩

/-- Outcomes that are given at once, or are about to be told, fit. -/
structure Apt (fits : Reference → Outcome → Prop) (w : Workspace ℚ) : Prop where
  given : ∀ a pass r outcome, (w.desk.ask w.agenda.now a pass r).1 = some outcome →
    outcome ≠ .stopped ∧ fits r outcome
  told : ∀ id slot outcome, (.slot id slot, outcome) ∈ w.traffic.answers →
    outcome ≠ .stopped ∧ w.board.kept.Fits fits id slot outcome

theorem Apt.minds {job : Job} {rest : List Job} {due : Board.Wake → Prop} (ha : w.Apt fits)
    (hb : w.board.Heeded due) (hj : w.agenda.jobs = job :: rest) :
    (w.withJobs rest).Minds (w.StillHears (w.doing job)) fits job := by
  refine ⟨fun id slot pass r he hs hnone => ⟨fun outcome hm => ?_, .inr ?_⟩,
    fun id slot pass r outcome he hs hgiven => ?_, fun id slot outcome he => ?_⟩
  · rw [told_of_mem_doing hm] at he
    cases he
  · have hnone : (w.desk.ask w.agenda.now (.slot id slot) (some pass) r).1 = none := hnone
    have hs : (w.board.slotTurn id slot).2 = [.ask id slot pass r] := hs
    refine ⟨r, w.desk.reception w.agenda.now (.slot id slot) (some pass) r, ?_, ?_⟩
    · intro outcome
      simp only [Desk.reception, hnone]
      split <;> simp
    · simp [he, doing, question?, hs]
  · obtain ⟨ho, hf⟩ := ha.given _ _ _ _ hgiven
    exact ⟨ho, hb.fits_of_ask hs hf⟩
  · refine ha.told id slot outcome (List.mem_filterMap.mpr ⟨job, ?_, ?_⟩)
    · rw [hj]
      exact List.mem_cons_self
    · rw [he]
      rfl

theorem IsWatched.work (hP : Lasting fits P) (h : w.IsWatched P) (ha : w.Apt fits) :
    w.work.Heeds (w.StillHears (w.happenings (.event .work))) (Owing P w.work.Owes) := by
  unfold Workspace.work Agenda.nextJob? happenings
  cases hj : w.agenda.jobs with
  | nil => exact h.stillHears fun _ _ hm => nomatch hm
  | cons job rest =>
    have hb : (w.withJobs rest).board.Heeded fun e =>
        dueWith (w.StillHears (w.doing job)) rest e ∨ job.boardWake? = some e := by
      refine h.heeded.mono fun g _ e _ hd => ?_
      cases e with
      | group id =>
        rw [hj] at hd
        rcases List.mem_cons.mp hd with rfl | hd
        · exact .inr rfl
        · exact .inl hd
      | slot id slot =>
        rw [hj] at hd
        rcases List.mem_cons.mp hd with rfl | hd
        · exact .inr rfl
        · exact .inl hd
      | answer id slot =>
        by_cases htold : ∃ outcome, .told (.slot id slot) outcome ∈ w.doing job
        · obtain ⟨outcome, hm⟩ := htold
          exact .inr (told_of_mem_doing hm ▸ rfl)
        · exact .inl ⟨fun outcome hm => htold ⟨outcome, hm⟩, .inl hd⟩
    have hminds := ha.minds h.heeded hj
    have hperform : ((w.withJobs rest).perform job).Heeds (w.StillHears (w.doing job))
        (Owing P ((w.withJobs rest).perform job).Owes) := by
      by_cases hcaller : ∃ id, job = .caller id
      · obtain ⟨id, rfl⟩ := hcaller
        refine Heeds.callerJob hP ⟨hb.mono fun _ _ _ _ hd => hd.resolve_right nofun, ?_⟩ id
        exact h.lasting
      · have hne : ∀ id, job ≠ .caller id := fun id he => hcaller ⟨id, he⟩
        rw [owes_congr (perform_callers (w.withJobs rest) hne)]
        exact heeds_perform (lasting_owing hP _) hne hb h.lasting hminds
    have hcall := elsewhere_callCallers ((w.withJobs rest).perform job)
    have hafter := hperform.elsewhere hcall
    rw [← owes_congr hcall.callers] at hafter
    exact hafter

theorem IsWatched.heeds_move (hP : Lasting fits P) (h : w.IsWatched P) (ha : w.Apt fits)
    {m : Move} (hm : m.IsFine) :
    (w.move m).Heeds (w.StillHears (w.happenings m)) (Owing P (w.move m).Owes) := by
  cases m with
  | event e =>
    by_cases hwork : e = .work
    · subst hwork
      exact h.work hP ha
    · have hnone : ∀ a outcome, .told a outcome ∉ w.happenings (.event e) := by
        intro a outcome hm
        cases e with
        | work => exact hwork rfl
        | sweep => simp [happenings] at hm
        | clear => simp [happenings] at hm
        | _ => cases hm
      have hstep : Move.IsStep (.event e) := by
        cases e with
        | advance dt => exact hm
        | _ => trivial
      exact (h.stillHears hnone).event hP hstep hwork
  | ring =>
    have hsame : w.Heeds (w.StillHears (w.happenings .ring)) (Owing P w.Owes) :=
      h.stillHears fun _ _ hm => nomatch hm
    unfold Workspace.move
    dsimp only
    split
    · exact hsame
    · next alarm alarms _ =>
      have hrest : (w.withAlarms alarms).Heeds (w.StillHears (w.happenings .ring))
          (Owing P (w.withAlarms alarms).Owes) := hsame.aside rfl fun _ hj => hj
      exact hrest.ring hP alarm.2
  | wait time =>
    have hsame : w.Heeds (w.StillHears (w.happenings (.wait time))) (Owing P w.Owes) :=
      h.stillHears fun _ _ hm => nomatch hm
    unfold Workspace.move
    dsimp only
    split
    · exact hsame.aside rfl fun _ hj => hj
    · exact hsame

/-- Whoever waits goes on waiting until it is told, unless its group is called off. -/
theorem IsWatched.move (hP : Lasting fits P) (ho : w.Orderly) (h : w.IsWatched P)
    (ha : w.Apt fits) {m : Move} (hm : m.IsFine) : (w.move m).IsWatched P := by
  obtain ⟨hheeded, hlasting⟩ := h.heeds_move hP ha hm
  refine ⟨hheeded.mono fun g hg e he hd => ?_, hlasting⟩
  cases e with
  | answer id slot =>
    obtain rfl : id = g.id := he
    obtain ⟨hg, hkept⟩ := Board.mem_kept.mp hg
    rcases (steps_move ho hm).1.hears ho.sound hd.2 with ⟨g', hg', hid, hoff⟩ | hc | ⟨outcome, ht⟩
    · obtain rfl := hheeded.ending.eq_of_id hg' hg hid
      rw [hkept] at hoff
      cases hoff
    · exact hc
    · exact absurd ht (hd.1 outcome)
  | _ => exact hd

end Workspace

end CommitMessage
