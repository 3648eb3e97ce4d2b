import CommitMessage.Proofs.Workspace.Annotated
import CommitMessage.Proofs.Workspace.Runs
import CommitMessage.Proofs.Workspace.Solo

/-! Requests go out one at a time and never too soon, in the order in which they became necessary.
A single pass fetches what its text refers to, each page once, from the top to the bottom. -/

namespace CommitMessage.Workspace

open Desk (Happening)
open Desk.Traffic (madeIn begunIn)

variable {p : Plan ℚ} {w : Workspace ℚ} {history : List (Happening Asker)}
  {all past made : List Reference} {groups : List Board.Group} {turns : List Board.Turn}

/-- What a pass over a text fetches: each reference that can be there, in the order of the text. -/
def wantedIn (text : Text) : List Reference :=
  (((Occurrence.ofLines text.messageLines).map (·.reference)).filter (·.isValid)).eraseDups

/-! A single pass -/

/-- A pass, as a part of the whole run. -/
theorem faithful_pass (p : Plan ℚ) (now : ℚ) (moves more : List Move)
    (hm : ∀ m ∈ moves, m.IsFine) (buffer text : Text) (hw : ∀ m ∈ more, m.IsWaiting) :
    let first := (((new p now).runMoves moves).runPass buffer text).2
    Faithful p ((new p now).history moves ++ first.history more) (first.runMoves more) := by
  intro first
  have hall : ∀ m ∈ moves ++ .event (.runPass buffer text) :: more, m.IsFine := by
    intro m hx
    rcases List.mem_append.mp hx with hx | hx
    · exact hm m hx
    · rcases List.mem_cons.mp hx with rfl | hx
      · trivial
      · exact (hw m hx).isFine
  have hf := faithful_run p now hall
  rwa [runMoves_append, history_append] at hf

theorem solo_run (p : Plan ℚ) (now : ℚ) {moves more : List Move} (hm : ∀ m ∈ moves, m.IsFine)
    (hidle : ((new p now).runMoves moves).IsIdle)
    (hc : ((new p now).runMoves moves).desk.cache.entries = []) (buffer text : Text)
    (hw : ∀ m ∈ more, m.IsWaiting) :
    let first := (((new p now).runMoves moves).runPass buffer text).2
    ∃ past groups turns, Solo ((Occurrence.ofLines text.messageLines).map (·.reference)) past
      (madeIn (first.history more)) groups turns (first.runMoves more) := by
  intro first
  induction more using List.reverseRecOn with
  | nil => exact ⟨_, _, _, solo_runPass hidle hc buffer text⟩
  | append_singleton more m ih =>
    obtain ⟨past, groups, turns, hs⟩ := ih fun m' hm' => hw m' (List.mem_append_left _ hm')
    have hwaiting : m.IsWaiting := hw m (List.mem_append_right _ (List.mem_singleton_self m))
    have hfaithful := faithful_pass p now moves more hm buffer text
      fun m' hm' => hw m' (List.mem_append_left _ hm')
    have hnext := hs.move hfaithful.orderly (fun c o => hfaithful.not_stopped) hwaiting
    have hhistory : madeIn (first.history (more ++ [m])) =
        madeIn (first.history more) ++ madeIn ((first.runMoves more).happenings m) := by
      rw [history_append, madeIn, List.filterMap_append]
      simp [madeIn, Workspace.history]
    rw [hhistory, runMoves_append]
    exact hnext

theorem prefix_eraseDups {l l' : List Reference} (h : l <+: l') : l.eraseDups <+: l'.eraseDups := by
  obtain ⟨rest, rfl⟩ := h
  rw [List.eraseDups_append]
  exact List.prefix_append _ _

theorem Solo.prefix_wanted (h : Solo all past made groups turns w) :
    made <+: (all.filter (·.isValid)).eraseDups := by
  rw [h.made_eq]
  exact prefix_eraseDups (List.IsPrefix.filter _ (h.all_eq ▸ List.prefix_append _ _))

/-- Once the board has no groups, all slots have asked, and no fetch goes on. -/
theorem Solo.settled (h : Solo all past made groups turns w) (hg : w.board.groups = []) :
    made = (all.filter (·.isValid)).eraseDups ∧
      Desk.refsAt Desk.Stage.isAhead w.desk.fetches = [] := by
  have hgroups : groups = [] := List.eq_nil_iff_forall_not_mem.mpr fun g hm => by
    have hm' := (h.opening.closed g hm).1
    rw [hg] at hm'
    cases hm'
  have hturns : turns = [] := List.eq_nil_iff_forall_not_mem.mpr fun t hm => by
    obtain ⟨g, hm', -⟩ := h.opening.opened t hm
    rw [hg] at hm'
    cases hm'
  refine ⟨?_, List.eq_nil_iff_forall_not_mem.mpr fun r hr => ?_⟩
  · have hall := h.all_eq
    rw [hgroups, hturns, List.flatMap_nil, List.append_nil, List.map_nil, List.append_nil] at hall
    rw [h.made_eq, hall]
  · obtain ⟨f, hf, hs, -⟩ := Desk.mem_refsAt.mp hr
    have hover : ¬ f.IsOver := by
      rintro ⟨outcome, ho⟩
      rw [ho] at hs
      cases hs
    obtain ⟨c, hc⟩ := List.exists_mem_of_ne_nil _ (h.attended f hf hover)
    obtain ⟨id, slot, -, g, hm, -⟩ := h.asking c (Desk.Traffic.mem_askers (.inl ⟨f, hf, hc⟩))
    rw [hg] at hm
    cases hm

/-- What a single pass has fetched: a part of what is wanted, and all of it once the board has no
groups. -/
theorem fetched_pass (p : Plan ℚ) (now : ℚ) (moves more : List Move) (hm : ∀ m ∈ moves, m.IsFine)
    (hidle : ((new p now).runMoves moves).IsIdle)
    (hc : ((new p now).runMoves moves).desk.cache.entries = []) (buffer text : Text)
    (hw : ∀ m ∈ more, m.IsWaiting) :
    let w := (new p now).runMoves moves
    let w' := (w.runPass buffer text).2.runMoves more
    ∃ requests, w'.fetched = w.fetched ++ requests ∧
      requests.map (·.1) <+: (wantedIn text).map (·.url p.hosts) ∧
      (w'.board.groups = [] → requests.map (·.1) = (wantedIn text).map (·.url p.hosts)) := by
  intro w w'
  have hbefore : Faithful p _ w := faithful_run p now hm
  have hafter : Faithful p _ w' := faithful_pass p now moves more hm buffer text hw
  obtain ⟨past, groups, turns, hs⟩ := solo_run p now hm hidle hc buffer text hw
  let later := (w.runPass buffer text).2.history more
  have hnone : Desk.refsAt Desk.Stage.isAhead w.desk.fetches = [] := by
    rw [hidle.fetches]
    rfl
  -- all that was made before the pass has been begun, so both histories count from there
  have hmade : madeIn later =
      (begunIn later).map (·.1) ++ Desk.refsAt Desk.Stage.isAhead w'.desk.fetches := by
    have horder := hafter.order
    rw [madeIn, begunIn, List.filterMap_append, List.filterMap_append, List.map_append] at horder
    have hfirst := hbefore.order
    rw [hnone, List.append_nil] at hfirst
    rw [madeIn, begunIn] at hfirst
    rw [hfirst, List.append_assoc, List.append_cancel_left_eq] at horder
    exact horder
  have hprefix : (begunIn later).map (·.1) <+: wantedIn text :=
    (hmade ▸ List.prefix_append _ _ : (begunIn later).map (·.1) <+: madeIn later).trans
      hs.prefix_wanted
  refine ⟨(begunIn later).map fun e => (e.1.url p.hosts, e.2), ?_, ?_, fun hg => ?_⟩
  · rw [hafter.fetched, hbefore.fetched, begunIn, List.filterMap_append, List.map_append]
    rfl
  · have hurls := hprefix.map fun r : Reference => r.url p.hosts
    simpa [Function.comp_def] using hurls
  · obtain ⟨hall, hahead⟩ := hs.settled hg
    have hbegun : (begunIn later).map (·.1) = wantedIn text := by
      rw [hahead, List.append_nil] at hmade
      exact hmade.symm.trans hall
    rw [← hbegun]
    simp [Function.comp_def]

theorem Move.IsPassive.isWaiting {m : Move} (h : m.IsPassive) : m.IsWaiting := by
  cases m with
  | event e =>
    cases e with
    | work => trivial
    | _ => exact h.elim
  | ring => trivial
  | wait time => trivial

theorem isIdle_new (p : Plan ℚ) (now : ℚ) : (new p now).IsIdle :=
  ⟨rfl, rfl, rfl, rfl, nofun⟩

/-- A fresh workspace that runs a pass to its end. -/
theorem fetched_annotateNow (p : Plan ℚ) (now : ℚ) (buffer text : Text) :
    (annotateNow (new p now) buffer text).2.callers = [] ∧
      (annotateNow (new p now) buffer text).2.fetched.map (·.1) =
        (wantedIn text).map (·.url p.hosts) := by
  let first := ((new p now).runPass buffer text).2
  have hstart := going_start p now buffer text
  obtain ⟨-, hgroups, hcallers⟩ := hstart.1.settled hstart.2
  have horderly : (first.start (first.settlePlan buffer)).Orderly :=
    (faithful_pass p now [] [.event (.settle buffer)] nofun buffer text
      (by simp [Move.IsWaiting])).orderly
  obtain ⟨moves, hmoves, hsettle⟩ := passes_settle horderly
  have hwaiting : ∀ m ∈ Move.event (.settle buffer) :: moves, m.IsWaiting := by
    intro m hm
    rcases List.mem_cons.mp hm with rfl | hm
    · trivial
    · exact (hmoves m hm).isWaiting
  have hlast : (annotateNow (new p now) buffer text).2 =
      first.runMoves (.event (.settle buffer) :: moves) := by
    rw [annotateNow_snd, hsettle]
    rfl
  obtain ⟨requests, hfetched, -, hall⟩ := fetched_pass p now [] _ nofun
    (isIdle_new p now) rfl buffer text hwaiting
  have hnone : ((new p now).runMoves []).fetched = [] := rfl
  rw [hnone, List.nil_append] at hfetched
  refine ⟨annotateNow_snd (new p now) buffer text ▸ hcallers, ?_⟩
  have hempty : (first.runMoves (.event (.settle buffer) :: moves)).board.groups = [] := by
    rw [← hlast, annotateNow_snd]
    exact hgroups
  rw [hlast]
  exact (congrArg (List.map Prod.fst) hfetched).trans (hall hempty)

/-- What holds after all moves but those that stop fetches: requests are as far apart as they have
to be and go out in the order in which someone asked for what was not there; and a pass of an idle
workspace that knows nothing, with which nothing interferes, fetches nothing but what it wants, in
the order of the text, and all of that by the time it is over. -/
theorem polite_dispatch (p : Plan ℚ) (now : ℚ) {moves : List Move} (hm : ∀ m ∈ moves, m.IsFine) :
    let w := (new p now).runMoves moves
    let history := (new p now).history moves
    (w.fetched.map (·.2)).IsChain (fun a b => a + p.interval ≤ b) ∧
    (w.fetched = (begunIn history).map fun e => (e.1.url p.hosts, e.2)) ∧
    (begunIn history).map (·.1) <+: madeIn history ∧
    (w.IsIdle → w.desk.cache.entries = [] → ∀ buffer text more, (∀ m ∈ more, Move.IsWaiting m) →
      let w' := (w.runPass buffer text).2.runMoves more
      ∃ requests, w'.fetched = w.fetched ++ requests ∧
        requests.map (·.1) <+: (wantedIn text).map (·.url p.hosts) ∧
        (w'.board.groups = [] → requests.map (·.1) = (wantedIn text).map (·.url p.hosts))) ∧
    ∀ buffer text, (annotateNow (new p now) buffer text).2.callers = [] ∧
      (annotateNow (new p now) buffer text).2.fetched.map (·.1) =
        (wantedIn text).map (·.url p.hosts) := by
  intro w history
  have h : Faithful p history w := faithful_run p now hm
  refine ⟨?_, h.fetched, h.order ▸ List.prefix_append _ _, fun hidle hc buffer text more hw =>
    fetched_pass p now moves more hm hidle hc buffer text hw, fetched_annotateNow p now⟩
  have hspaced := h.spaced.apart
  rwa [show w.traffic.interval = p.interval from h.interval] at hspaced

/-- Two ask for one ticket each, and the second request has to wait. -/
def twoTickets : List Move :=
  [.event (.resolve ['a'] ⟨.ticket, ['1']⟩), .event (.resolve ['b'] ⟨.ticket, ['2']⟩),
    .event .work, .event .work, .event .work, .event .work, .wait 1, .ring, .event .work,
    .event .work, .event .work, .event .work, .event .work]

theorem polite_dispatch_twoTickets :
    let w := (new silentPlan 0).runMoves twoTickets
    let history := (new silentPlan 0).history twoTickets
    let url := fun ticket : Text => (Reference.mk .ticket ticket).url silentPlan.hosts
    let text := "fix #2, #1 and #2".toList
    (∀ m ∈ twoTickets, m.IsFine) ∧ w.fetched = [(url ['1'], 0), (url ['2'], 1)] ∧
      (w.fetched.map (·.2)).IsChain (fun a b => a + 1 ≤ b) ∧
      (begunIn history).map (·.1) <+: madeIn history ∧ w.IsIdle ∧ w.desk.cache.entries = [] ∧
      ∃ requests, ((w.runPass ['c'] text).2.runMoves [.event .work, .event .work]).fetched =
          w.fetched ++ requests ∧
        requests.map (·.1) <+: (wantedIn text).map (·.url silentPlan.hosts) := by
  intro w history url text
  have hm : ∀ m ∈ twoTickets, m.IsFine := by simp [twoTickets, Move.IsFine]
  obtain ⟨hchain, -, hprefix, hpass, -⟩ := polite_dispatch silentPlan 0 hm
  have htimers : w.debouncers = [] := List.isEmpty_iff.mp (by decide +kernel)
  have hidle : w.IsIdle :=
    ⟨by decide +kernel, by decide +kernel, by decide +kernel,
      List.isEmpty_iff.mp (by decide +kernel), htimers ▸ by simp⟩
  have hempty : w.desk.cache.entries = [] := List.isEmpty_iff.mp (by decide +kernel)
  obtain ⟨requests, he, hw, -⟩ := hpass hidle hempty ['c'] text [.event .work, .event .work]
    (by simp [Move.IsWaiting])
  exact ⟨hm, by decide +kernel, hchain, hprefix, hidle, hempty, requests, he, hw⟩

end CommitMessage.Workspace
