import CommitMessage.Proofs.Lookup.Waiting
import CommitMessage.Proofs.Workspace.Chores
import CommitMessage.Proofs.Workspace.SingleFlight
import CommitMessage.Proofs.Workspace.Start
import Mathlib

/-! A single pass of an idle workspace, while nothing else is asked of it. Its lookups are made in
the order of the text, before the first request goes out. -/

namespace CommitMessage.Workspace

open Desk (Happening)
open Desk.Traffic (Step Steps madeIn)

variable {w w' : Workspace ℚ}

/-! The pass -/

/-- Nothing is known, and all that has been made is still as it was made. -/
def IsUntouched (w : Workspace ℚ) (made : List Reference) : Prop :=
  w.traffic.cache.entries = [] ∧ (∀ f ∈ w.traffic.fetches, f.stage = .fresh) ∧
    w.traffic.fetches.map (·.reference) = made

/-- A pass over references `all`. So far the slots have asked for `past` and have made `made`;
next, these groups open their slots, and then these slots ask. -/
structure Solo (all past made : List Reference) (groups : List Board.Group)
    (turns : List Board.Turn) (w : Workspace ℚ) : Prop where
  steady : w.board.Steady
  patient : w.IsPatient
  still : ∀ entry ∈ w.debouncers, entry.2.2.timers = []
  attended : w.traffic.Attended
  distinct : w.traffic.askers.Nodup
  asking : ∀ a ∈ w.traffic.askers, ∃ id slot, a = .slot id slot ∧ w.board.IsAsking id slot
  opening : w.board.Opening groups turns
  queues : Queues groups turns w
  untouched : groups ≠ [] ∨ turns ≠ [] → w.IsUntouched made
  made_eq : made = (past.filter (·.isValid)).eraseDups
  all_eq : past ++ (turns ++ groups.flatMap Board.Group.turns).map (·.mention.reference) = all

variable {all past made : List Reference} {groups : List Board.Group} {turns : List Board.Turn}

theorem Solo.waitsOn (h : Solo all past made groups turns w) (hw : WaitsOn w w') :
    Solo all past made groups turns w' := by
  obtain ⟨ht, hb, hd, hc, hp⟩ := hw
  refine ⟨hb ▸ h.steady, hp h.patient, hd ▸ h.still, ht ▸ h.attended, ht ▸ h.distinct, ?_,
    hb ▸ h.opening, ?_, fun hne => ?_, h.made_eq, h.all_eq⟩
  · rw [ht, hb]
    exact h.asking
  · unfold Queues
    rw [hc]
    exact h.queues
  · unfold IsUntouched
    rw [ht]
    exact h.untouched hne

/-- Those who wait after some steps did so before, or have just asked. -/
theorem Solo.goes {all' past' made' : List Reference} {groups' : List Board.Group}
    {turns' : List Board.Turn} {hs : List (Happening Asker)}
    (h : Solo all past made groups turns w) (ho : w.Orderly) (hg : Goes w hs w')
    (hw : ∀ a ∈ hs.filterMap Happening.waits?, a ∉ w.traffic.askers ∧
      ∃ id slot, a = .slot id slot ∧ w'.board.IsAsking id slot)
    (hnd : (hs.filterMap Happening.waits?).Nodup)
    (ha : ∀ id slot, .slot id slot ∈ w'.traffic.askers → w.board.IsAsking id slot →
      w'.board.IsAsking id slot)
    (hst : w'.board.Steady) (hd : ∀ entry ∈ w'.debouncers, entry.2.2.timers = [])
    (hopen : w'.board.Opening groups' turns')
    (hq : Queues groups' turns' w')
    (hu : groups' ≠ [] ∨ turns' ≠ [] → w'.IsUntouched made')
    (hmade : made' = (past'.filter (·.isValid)).eraseDups)
    (hall : past' ++ (turns' ++ groups'.flatMap Board.Group.turns).map (·.mention.reference) =
      all') : Solo all' past' made' groups' turns' w' := by
  have hle : w'.traffic.askers ≤ w.traffic.askers + ↑(hs.filterMap Happening.waits?) := by
    rw [← hg.steps.askers ho.sound]
    exact Multiset.le_add_right _ _
  refine ⟨hst, ?_, hd, hg.steps.attended h.attended, Multiset.nodup_of_le hle ?_, fun a hm => ?_,
    hopen, hq, hu, hmade, hall⟩
  · unfold IsPatient
    rw [hg.callers]
    exact h.patient
  · refine Multiset.Nodup.add_iff h.distinct (Multiset.coe_nodup.mpr hnd) |>.mpr ?_
    exact Multiset.disjoint_left.mpr fun {a} hm hm' => (hw a (Multiset.mem_coe.mp hm')).1 hm
  · rcases Multiset.mem_add.mp (Multiset.mem_of_le hle hm) with hm' | hm'
    · obtain ⟨id, slot, rfl, hask⟩ := h.asking a hm'
      exact ⟨id, slot, rfl, ha id slot hm hask⟩
    · exact (hw a (Multiset.mem_coe.mp hm')).2

theorem Solo.openGroup {g : Board.Group} {rest : List Job}
    (h : Solo all past made (g :: groups) turns w) (ho : w.Orderly)
    (hj : w.agenda.jobs = .group g.id :: rest) :
    Solo all past made groups (turns ++ g.turns) (perform (w.withJobs rest) (.group g.id)) := by
  obtain ⟨hsignals, hopening⟩ := h.opening.groupTurn h.steady
  have hquiet : Quiet w (perform (w.withJobs rest) (.group g.id)) :=
    (quiet_withJobs hj trivial).trans (quiet_applyBoard _ (Board.isQuiet_groupTurn _ g.id))
  obtain ⟨hboard, hdebouncers, hchores⟩ := chores_applyBoard (w.withJobs rest)
    (Board.isQuiet_groupTurn w.board g.id)
  have hgoes := hquiet.goes ho.sane
  have hjobs : (g.turns.map fun t => Board.Signal.slotTurn t.group t.slot).filterMap boardJob? =
      g.turns.map turnOf := by
    rw [List.filterMap_map]
    exact congrFun (List.filterMap_eq_map (f := turnOf)) g.turns
  refine h.goes ho hgoes nofun List.nodup_nil (fun id slot _ hask => ?_) ?_ ?_ ?_ ?_ (fun _ => ?_)
    h.made_eq ?_
  · exact hboard ▸ (Board.moves_groupTurn h.steady g.id).isAsking hask False.elim
  · exact hboard ▸ h.steady.groupTurn g.id
  · exact hdebouncers ▸ h.still
  · exact hboard ▸ hopening
  · obtain ⟨late, hw, -, hlate⟩ := h.queues
    obtain rfl := hlate (List.cons_ne_nil _ _)
    rw [chores_eq hj rfl, List.map_cons, List.append_nil, List.cons_append, List.cons.injEq] at hw
    refine ⟨[], ?_, nofun, fun _ => rfl⟩
    change ((w.withJobs rest).applyBoard (w.board.groupTurn g.id)).chores = _
    rw [hchores, hw.2, hsignals, hjobs]
    simp
  · unfold IsUntouched
    rw [hquiet.traffic]
    exact h.untouched (.inl (List.cons_ne_nil _ _))
  · have hall := h.all_eq
    rw [List.flatMap_cons] at hall
    rw [List.append_assoc]
    exact hall

theorem eraseDups_concat (l : List Reference) (r : Reference) :
    (l ++ [r]).eraseDups = if r ∈ l then l.eraseDups else l.eraseDups ++ [r] := by
  rw [List.eraseDups_append]
  split <;> simp [List.removeAll, List.eraseDups_cons, *]

/-- One who asks of a desk where nothing is known is told at once that the reference cannot be
there, or waits; and only the first who asks for a reference makes a fetch. -/
theorem IsUntouched.ask (h : w.IsUntouched made) (ho : w.Orderly) (asker : Asker)
    (pass : Option Text) (r : Reference) :
    (r.isValid = false ∧ w.ask asker pass r = (some (.resolved (.missing r)), w) ∧
      w.desk.reception w.agenda.now asker pass r = .given (.resolved (.missing r))) ∨
    (r.isValid = true ∧ (w.ask asker pass r).1 = none ∧
      Trails w (w.ask asker pass r).2 ∧
      ((r ∈ made ∧ w.desk.reception w.agenda.now asker pass r = .joined ∧
        (w.ask asker pass r).2.IsUntouched made) ∨
      (r ∉ made ∧ w.desk.reception w.agenda.now asker pass r = .made ∧
        (w.ask asker pass r).2.IsUntouched (made ++ [r])))) := by
  obtain ⟨hempty, hfresh, rfl⟩ := h
  cases hv : r.isValid with
  | false =>
    have hask : w.desk.ask w.agenda.now asker pass r =
        (some (.resolved (.missing r)), w.desk, []) := by simp [Desk.ask, hv]
    exact .inl ⟨rfl, by simp only [Workspace.ask, hask]; rfl, by simp [Desk.reception, hask]⟩
  | true =>
    have hnone : w.desk.cache.get? w.agenda.now r = none := by
      have hentries : w.desk.cache.entries = [] := hempty
      simp [Cache.get?, hentries, Register.get?]
    have hwait (ha : (w.ask asker pass r).1 = none) : w.desk.reception w.agenda.now asker pass r =
        if (w.desk.fetch? r).isSome then .joined else .made := by
      have hask : (w.desk.ask w.agenda.now asker pass r).1 = none := ha
      rw [Desk.reception, hask]
    refine .inr ⟨rfl, ?_⟩
    cases ho.shares asker pass hv hnone with
    | finds hf hr hs ha =>
      have hstage := hfresh _ hf
      rw [hs] at hstage
      cases hstage
    | @joins older newer f hf hr hs ha =>
      have hm : f ∈ w.desk.fetches := Desk.Traffic.mem_of_split (t := w.traffic) hf
      have hfound := Desk.fetch?_of_mem ho.sane.nodup hm
      rw [hr] at hfound
      have hreception := hwait (by rw [ha])
      rw [hfound] at hreception
      rw [ha]
      refine ⟨rfl, ⟨rfl, rfl, [], by simp [chores], by simp⟩, .inl ⟨?_, hreception, hempty, ?_, ?_⟩⟩
      · exact hr ▸ List.mem_map_of_mem (f := Desk.Fetch.reference) hm
      · intro g hg
        rcases Desk.Traffic.mem_of_replace (t := w.traffic) hf hg with hg | rfl
        · exact hfresh g hg
        · exact hfresh f hm
      · have hrefs : w.traffic.fetches.map (·.reference) =
            (older ++ f :: newer).map (·.reference) := congrArg _ hf
        rw [hrefs]
        simp [traffic]
    | starts hs =>
      obtain ⟨hr, ha⟩ := hs
      have hfound : w.desk.fetch? r = none :=
        List.find?_eq_none.mpr fun f hf => by simpa using hr f hf
      have hreception := hwait (by rw [ha])
      rw [hfound] at hreception
      rw [ha]
      refine ⟨rfl, ?_, .inr ⟨fun hm => ?_, hreception, hempty, ?_, ?_⟩⟩
      · have hset : Trails w { w with desk.fetches := w.desk.fetches ++
            [{ reference := r, pass, callers := [asker] }] } :=
          ⟨rfl, rfl, [], by simp [chores], by simp⟩
        exact hset.trans (trails_soon _ trivial)
      · obtain ⟨f, hf, he⟩ := List.mem_map.mp hm
        exact hr f hf he
      · intro g hg
        rcases List.mem_append.mp hg with hg | hg
        · exact hfresh g hg
        · rw [List.mem_singleton.mp hg]
      · exact List.map_append

theorem slotTurn_asks {id slot : Nat} {pass : Text} {r : Reference}
    (hs : (w.board.slotTurn id slot).2 = [.ask id slot pass r])
    (hw : w' = { w with board := (w.board.slotTurn id slot).1 }) :
    let asked := w'.ask (.slot id slot) (some pass) r
    (∀ outcome, asked.1 = some outcome →
      w.slotTurn id slot = asked.2.applyBoard (asked.2.board.answer id slot outcome)) ∧
    (asked.1 = none → w.slotTurn id slot = asked.2) := by
  subst hw
  refine ⟨fun outcome he => ?_, fun he => ?_⟩ <;> simp only [slotTurn, hs, he]

/-- The turn of the next slot, before anyone receives what it asks. -/
theorem Solo.slotTurn {t : Board.Turn} {rest : List Job} (h : Solo all past made [] (t :: turns) w)
    (ho : w.Orderly) (hj : w.agenda.jobs = turnOf t :: rest)
    (hw : w' = { w.withJobs rest with board := (w.board.slotTurn t.group t.slot).1 }) :
    w'.Orderly ∧ w'.IsUntouched made ∧ .slot t.group t.slot ∉ w'.traffic.askers ∧
      w'.board.IsAsking t.group t.slot ∧
      Solo (past ++ turns.map (·.mention.reference)) past made [] turns w' := by
  obtain ⟨-, hnot, hask, hopening⟩ := h.opening.slotTurn h.steady
  have hquiet : Quiet w w' := (quiet_withJobs hj trivial).trans (hw ▸ ⟨rfl, rfl, rfl⟩)
  have huntouched : w'.IsUntouched made := by
    unfold IsUntouched
    rw [hquiet.traffic]
    exact h.untouched (.inr (List.cons_ne_nil _ _))
  have hboard : w'.board = (w.board.slotTurn t.group t.slot).1 := hw ▸ rfl
  refine ⟨hquiet.orderly ho, huntouched, fun hm => ?_, hboard ▸ hask,
    h.goes ho (hquiet.goes ho.sane) nofun List.nodup_nil (fun id slot _ ha => ?_) ?_ ?_ ?_ ?_
      (fun _ => huntouched) h.made_eq (by simp)⟩
  · rw [hquiet.traffic] at hm
    obtain ⟨id, slot, he, ha⟩ := h.asking _ hm
    cases he
    exact hnot ha
  · exact hboard ▸ (Board.moves_slotTurn h.steady t.group t.slot).isAsking ha False.elim
  · exact hboard ▸ h.steady.slotTurn t.group t.slot
  · exact hw ▸ h.still
  · exact hboard ▸ hopening
  · obtain ⟨late, hq, hlate, -⟩ := h.queues
    rw [chores_eq hj rfl, List.map_nil, List.nil_append, List.map_cons, List.cons_append,
      List.cons.injEq] at hq
    exact ⟨late, hw ▸ hq.2, hlate, fun hne => absurd rfl hne⟩

section

variable {id slot : Nat} {r : Reference}

theorem Solo.given (h : Solo (past ++ turns.map (·.mention.reference)) past made [] turns w)
    (ho : w.Orderly) (hu : w.IsUntouched made) (hn : .slot id slot ∉ w.traffic.askers)
    (hv : r.isValid = false) :
    Solo (past ++ r :: turns.map (·.mention.reference)) (past ++ [r]) made [] turns
      (w.applyBoard (w.board.answer id slot (.resolved (.missing r)))) := by
  have hno : Outcome.resolved (.missing r) ≠ .stopped := nofun
  have hq := Board.isQuiet_answer w.board id slot (.resolved (.missing r))
  have hquiet := quiet_applyBoard w hq
  obtain ⟨hboard, hsame, hmore⟩ := chores_applyBoard w hq
  refine h.goes ho (hquiet.goes ho.sane) nofun List.nodup_nil (fun id' slot' hm ha => ?_) ?_ ?_ ?_
    (h.queues.append hmore (isLate_answer h.steady id slot hno) fun hne => absurd rfl hne)
    (fun _ => ?_) ?_ (by simp)
  · rw [hboard]
    refine (Board.moves_answer h.steady id slot hno).isAsking ha ?_
    rintro ⟨rfl, rfl⟩
    exact hn (hquiet.traffic ▸ hm)
  · exact hboard ▸ h.steady.answer id slot hno
  · exact hsame ▸ h.still
  · exact hboard ▸ h.opening.answer h.steady id slot hno
  · unfold IsUntouched
    rw [hquiet.traffic]
    exact hu
  · rw [h.made_eq]
    simp [hv]

theorem Solo.waits (h : Solo (past ++ turns.map (·.mention.reference)) past made [] turns w)
    (ho : w.Orderly) (hu : w.IsUntouched made) (hn : .slot id slot ∉ w.traffic.askers)
    (ha : w.board.IsAsking id slot) (hv : r.isValid = true) (pass : Option Text) :
    Solo (past ++ r :: turns.map (·.mention.reference)) (past ++ [r])
      (made ++ madeIn [Happening.asked (Asker.slot id slot) r
        (w.desk.reception w.agenda.now (.slot id slot) pass r)]) [] turns
      (w.ask (.slot id slot) pass r).2 := by
  have hgoes := goes_ask ho.sane (.slot id slot) pass r
  rcases hu.ask ho (.slot id slot) pass r with ⟨hv', -⟩ | ⟨-, -, htrails, hmade⟩
  · rw [hv] at hv'
    cases hv'
  obtain ⟨hboard, hsame, more, hmore, hlate⟩ := htrails
  have hgo {made' : List Reference} {how : Desk.Reception}
      (hr : w.desk.reception w.agenda.now (.slot id slot) pass r = how)
      (hw : [Happening.asked (Asker.slot id slot) r how].filterMap Happening.waits? =
        [Asker.slot id slot])
      (hu' : (w.ask (.slot id slot) pass r).2.IsUntouched made')
      (hmade : made' = ((past ++ [r]).filter (·.isValid)).eraseDups) :
      Solo (past ++ r :: turns.map (·.mention.reference)) (past ++ [r]) made' [] turns
        (w.ask (.slot id slot) pass r).2 := by
    rw [hr] at hgoes
    refine h.goes ho hgoes (fun a hm => ?_) (hw ▸ List.nodup_singleton _) (fun _ _ _ ha => ?_) ?_ ?_
      ?_ (h.queues.append hmore hlate fun hne => absurd rfl hne) (fun _ => hu') hmade (by simp)
    · rw [hw] at hm
      obtain rfl := List.mem_singleton.mp hm
      exact ⟨hn, id, slot, rfl, hboard ▸ ha⟩
    · exact hboard ▸ ha
    · exact hboard ▸ h.steady
    · exact hsame ▸ h.still
    · exact hboard ▸ h.opening
  have hfilter : (past ++ [r]).filter (·.isValid) = past.filter (·.isValid) ++ [r] := by simp [hv]
  have hmem : r ∈ made ↔ r ∈ past.filter (·.isValid) := by rw [h.made_eq, List.mem_eraseDups]
  rcases hmade with ⟨hm, hr, hu'⟩ | ⟨hm, hr, hu'⟩
  · have hnone : made ++ madeIn [Happening.asked (Asker.slot id slot) r .joined] = made :=
      List.append_nil _
    rw [hr, hnone]
    refine hgo hr rfl hu' ?_
    rw [hfilter, eraseDups_concat, if_pos (hmem.mp hm)]
    exact h.made_eq
  · rw [hr]
    refine hgo hr rfl hu' ?_
    rw [hfilter, eraseDups_concat, if_neg fun hp => hm (hmem.mpr hp), ← h.made_eq]
    rfl

end

theorem Solo.ask {t : Board.Turn} {rest : List Job} (h : Solo all past made [] (t :: turns) w)
    (ho : w.Orderly) (hj : w.agenda.jobs = turnOf t :: rest) :
    Solo all (past ++ [t.mention.reference]) (made ++ madeIn (w.doing (turnOf t))) [] turns
      (perform (w.withJobs rest) (turnOf t)) := by
  obtain ⟨⟨pass, hsignals⟩, -⟩ := h.opening.slotTurn h.steady
  obtain ⟨w₁, hw₁⟩ : ∃ w₁, w₁ = { w.withJobs rest with
    board := (w.board.slotTurn t.group t.slot).1 } := ⟨_, rfl⟩
  obtain ⟨ho₁, hu, hn, ha, hs⟩ := h.slotTurn ho hj hw₁
  have hdoing : w.doing (turnOf t) = [.asked (.slot t.group t.slot) t.mention.reference
      (w₁.desk.reception w₁.agenda.now (.slot t.group t.slot) (some pass)
        t.mention.reference)] := by
    simp only [doing, turnOf, question?, hsignals, hw₁]
    rfl
  have hall : past ++ t.mention.reference :: turns.map (·.mention.reference) = all := by
    simpa using h.all_eq
  obtain ⟨hgiven, hwaits⟩ := slotTurn_asks (w := w.withJobs rest) hsignals hw₁
  have hperform : perform (w.withJobs rest) (turnOf t) =
      (w.withJobs rest).slotTurn t.group t.slot := rfl
  rw [hdoing, hperform, ← hall]
  rcases hu.ask ho₁ (.slot t.group t.slot) (some pass) t.mention.reference with
    ⟨hv, he, hr⟩ | ⟨hv, he, -⟩
  · have hnone : made ++ madeIn [Happening.asked (Asker.slot t.group t.slot) t.mention.reference
        (.given (.resolved (.missing t.mention.reference)))] = made := List.append_nil _
    rw [hr, hnone, hgiven _ (by rw [he]), he]
    exact hs.given ho₁ hu hn hv
  · rw [hwaits he]
    exact hs.waits ho₁ hu hn ha hv (some pass)

/-! All slots have asked -/

theorem filterMap_requesting (w : Workspace ℚ) (signals : List (Desk.Signal ℚ Asker)) :
    (signals.flatMap w.requesting).filterMap Happening.waits? = [] ∧
      madeIn (signals.flatMap w.requesting) = [] := by
  have hall : ∀ x ∈ signals.flatMap w.requesting, x.waits? = none ∧ x.made? = none := by
    intro x hx
    obtain ⟨s, -, hx⟩ := List.mem_flatMap.mp hx
    cases s with
    | request r url =>
      rcases List.mem_cons.mp hx with rfl | hx
      · exact ⟨rfl, rfl⟩
      · split at hx
        · rw [List.mem_singleton.mp hx]
          exact ⟨rfl, rfl⟩
        · cases hx
    | _ => cases hx
  exact ⟨List.filterMap_eq_nil_iff.mpr fun x hx => (hall x hx).1,
    List.filterMap_eq_nil_iff.mpr fun x hx => (hall x hx).2⟩

theorem Job.IsLate.doing {job : Job} (h : job.IsLate) (w : Workspace ℚ) :
    (w.doing job).filterMap Happening.waits? = [] ∧ madeIn (w.doing job) = [] := by
  cases job with
  | fetch r => exact filterMap_requesting w _
  | limiter r => exact filterMap_requesting w _
  | timer debouncer timer => exact h.elim
  | slot id slot => exact h.elim
  | call id => exact h.elim
  | member id place => exact h.elim
  | caller id => exact h.elim
  | _ => exact ⟨rfl, rfl⟩

theorem Solo.late {job : Job} {rest : List Job} (h : Solo all past made [] [] w) (ho : w.Orderly)
    (hans : ∀ c outcome, (c, outcome) ∈ w.traffic.answers → outcome ≠ .stopped)
    (hj : w.agenda.jobs = job :: rest) (hl : job.IsLate) :
    Solo all past made [] [] (perform (w.withJobs rest) job) := by
  have hgoes := goes_perform ho hj fun id he => by
    rw [he] at hl
    exact hl
  have hlate : ∀ job ∈ (w.withJobs rest).chores, job.IsLate := by
    have hq := queues_nil.mp h.queues
    rw [chores_eq hj hl.isCaller_eq] at hq
    exact fun job hm => hq job (List.mem_cons_of_mem _ hm)
  have hmore {w' : Workspace ℚ} {more : List Job}
      (hm : w'.chores = (w.withJobs rest).chores ++ more)
      (hl : ∀ job ∈ more, job.IsLate) : Queues [] [] w' :=
    (queues_nil.mpr hlate).append hm hl fun hne => absurd rfl hne
  have hnone := (hl.doing w).1
  have hgo {w' : Workspace ℚ} (hg : Goes w (w.doing job) w') (ha : ∀ id slot,
      .slot id slot ∈ w'.traffic.askers → w.board.IsAsking id slot → w'.board.IsAsking id slot)
      (hs : w'.board.Steady) (hd : w'.debouncers = w.debouncers)
      (hopen : w'.board.Opening [] []) (hq : Queues [] [] w') : Solo all past made [] [] w' := by
    refine h.goes ho hg ?_ ?_ ha hs (hd ▸ h.still) hopen hq (fun hne => by simp at hne) h.made_eq
      h.all_eq
    · rw [hnone]
      nofun
    · rw [hnone]
      exact List.nodup_nil
  have htrails (ht : Trails (w.withJobs rest) (perform (w.withJobs rest) job)) :
      Solo all past made [] [] (perform (w.withJobs rest) job) := by
    obtain ⟨hboard, hd, more, hm, hlm⟩ := ht
    refine hgo hgoes (fun id slot _ ha => ?_) ?_ hd ?_ (hmore hm hlm)
    · exact hboard ▸ ha
    · exact hboard ▸ h.steady
    · exact hboard ▸ h.opening
  cases job with
  | fetch r => exact htrails (trails_applyTurn _ _)
  | limiter r => exact htrails (trails_applyTurn _ _)
  | reply r reply => exact htrails (trails_applyDesk _ _)
  | forget r => exact htrails (trails_applyDesk _ _)
  | group id =>
    obtain ⟨hno, hopening⟩ := h.opening.groupTurn_open h.steady id
    obtain ⟨hboard, hd, hm⟩ := chores_applyBoard (w.withJobs rest)
      (Board.isQuiet_groupTurn w.board id)
    refine hgo hgoes (fun id' slot _ ha => ?_) ?_ hd ?_ (hmore hm (isLate_boardJobs hno))
    · exact hboard ▸ (Board.moves_groupTurn h.steady id).isAsking ha False.elim
    · exact hboard ▸ h.steady.groupTurn id
    · exact hboard ▸ hopening
  | answer asker outcome =>
    have hanswer : (asker, outcome) ∈ w.traffic.answers := by
      simp [traffic, hj, List.filterMap_cons, Job.answer?]
    have hstop := hans asker outcome hanswer
    obtain ⟨id, slot, rfl, -⟩ := h.asking asker (Desk.Traffic.mem_askers (.inr ⟨_, hanswer⟩))
    obtain ⟨hboard, hd, hm⟩ := chores_applyBoard (w.withJobs rest)
      (Board.isQuiet_answer w.board id slot outcome)
    refine hgo hgoes (fun id' slot' hm' ha => ?_) ?_ hd ?_
      (hmore hm (isLate_answer h.steady id slot hstop))
    · refine hboard ▸ (Board.moves_answer h.steady id slot hstop).isAsking ha ?_
      rintro ⟨rfl, rfl⟩
      -- the one who is told waits no more
      have haskers := hgoes.steps.askers ho.sound
      rw [hnone, Multiset.coe_nil, add_zero] at haskers
      have hnodup := h.distinct
      rw [← haskers] at hnodup
      have hdisjoint := Multiset.disjoint_of_nodup_add hnodup
      exact Multiset.disjoint_left.mp hdisjoint hm' (by simp [doing, Happening.told?])
    · exact hboard ▸ h.steady.answer id slot hstop
    · exact hboard ▸ h.opening.answer h.steady id slot hstop
  | _ => exact hl.elim

/-! Moves -/

/-- A move while nothing is asked of a workspace but to say when it is done. The network may change
its mind. -/
def Move.IsWaiting : Move → Prop
  | .event .work | .event (.settle _) | .event (.respond _ _) | .ring | .wait _ => True
  | _ => False

theorem Move.IsWaiting.isFine {m : Move} (h : m.IsWaiting) : m.IsFine := by
  cases m with
  | event e =>
    cases e with
    | dispose => exact h.elim
    | advance dt => exact h.elim
    | _ => trivial
  | _ => trivial

theorem Solo.work (h : Solo all past made groups turns w) (ho : w.Orderly)
    (hans : ∀ c outcome, (c, outcome) ∈ w.traffic.answers → outcome ≠ .stopped) :
    ∃ past' groups' turns', Solo all past' (made ++ madeIn (w.happenings (.event .work))) groups'
      turns' w.work := by
  unfold Workspace.work Agenda.nextJob? happenings
  cases hj : w.agenda.jobs with
  | nil => exact ⟨past, groups, turns, (List.append_nil made).symm ▸ h⟩
  | cons job rest =>
    suffices hp : ∃ past' groups' turns', Solo all past' (made ++ madeIn (w.doing job)) groups'
        turns' (perform (w.withJobs rest) job) by
      obtain ⟨past', groups', turns', hs⟩ := hp
      exact ⟨past', groups', turns', hs.waitsOn (waitsOn_callCallers _)⟩
    -- callers come between the other jobs at any time; those keep their order
    by_cases hc : job.isCaller = true
    · cases job with
      | caller id =>
        have hpop : WaitsOn w (w.withJobs rest) :=
          ⟨(quiet_withJobs hj trivial).traffic, rfl, rfl, by simp [chores, hj, withJobs,
            Job.isCaller], fun hp => hp⟩
        refine ⟨past, groups, turns, ?_⟩
        have hdoing : made ++ madeIn (w.doing (.caller id)) = made := List.append_nil _
        rw [hdoing]
        unfold perform
        dsimp only
        split
        · rename_i plan hplan
          refine h.waitsOn (hpop.trans (waitsOn_proceed _ _ (fun p hp => ?_) _))
          exact h.patient _ (Register.mem_of_get? hplan) p hp
        · exact h.waitsOn hpop
      | _ => cases hc
    · obtain ⟨late, hq, hlate, -⟩ := h.queues
      rw [chores_eq hj (by simpa using hc)] at hq
      cases groups with
      | cons g groups =>
        obtain rfl : job = .group g.id := (List.cons.inj hq).1
        have hdoing : made ++ madeIn (w.doing (.group g.id)) = made := List.append_nil _
        rw [hdoing]
        exact ⟨past, groups, turns ++ g.turns, h.openGroup ho hj⟩
      | nil =>
        cases turns with
        | cons t turns =>
          obtain rfl : job = turnOf t := (List.cons.inj hq).1
          exact ⟨_, [], turns, h.ask ho hj⟩
        | nil =>
          have hlater : job :: (w.withJobs rest).chores = late := hq
          have hl : job.IsLate := hlate job (hlater ▸ List.mem_cons_self)
          rw [(hl.doing w).2, List.append_nil]
          exact ⟨past, [], [], h.late ho hans hj hl⟩

/-- As long as nothing has been touched, no one is at the limiter and no reply is on its way. -/
theorem IsUntouched.quiet (h : w.IsUntouched made) (ho : w.Orderly) :
    (∀ r, w.desk.limiter.holder ≠ some (r, .sleeping)) ∧
      ∀ e ∈ w.agenda.alarms, e.2.reply? = none := by
  obtain ⟨-, hfresh, -⟩ := h
  refine ⟨fun r hr => ?_, fun e he => ?_⟩
  · obtain ⟨f, hf, -, hs⟩ := ho.sane.client r (by simp [Limiter.clients, hr])
    rw [hfresh f hf] at hs
    cases hs
  · cases hr : e.2.reply? with
    | none => rfl
    | some reply =>
      have hm : reply ∈ w.replies :=
        Multiset.mem_coe.mpr (List.mem_append_right _ (List.mem_filterMap.mpr ⟨e, he, hr⟩))
      have hfetching : reply.1 ∈ (↑(Desk.refsAt (· = .fetching) w.traffic.fetches) :
          Multiset Reference) := ho.sound.fetching ▸ Multiset.mem_map_of_mem (f := Prod.fst) hm
      obtain ⟨f, hf, hs, -⟩ := Desk.mem_refsAt.mp (Multiset.mem_coe.mp hfetching)
      rw [hfresh f hf] at hs
      cases hs

theorem Solo.ring {alarms : List (ℚ × Alarm)} {alarm : ℚ × Alarm}
    (h : Solo all past made groups turns w) (ho : w.Orderly)
    (ha : w.agenda.alarms = alarm :: alarms) :
    Solo all past made groups turns
      (Workspace.ring { w with agenda := { w.agenda with alarms } } alarm.2) := by
  have hgoes := goes_ring ho ha
  have hm : alarm ∈ w.agenda.alarms := ha ▸ List.mem_cons_self
  have hgo {w' : Workspace ℚ} (hg : Goes w [] w') (ht : Trails w w')
      (hu : groups ≠ [] ∨ turns ≠ [] → w'.chores = w.chores ∧ w'.IsUntouched made) :
      Solo all past made groups turns w' := by
    obtain ⟨hboard, hd, more, hmore, hl⟩ := ht
    refine h.goes ho hg nofun List.nodup_nil (fun id slot _ ha => ?_) ?_ ?_ ?_
      (h.queues.append hmore hl fun hne => ?_) (fun hne => (hu hne).2) h.made_eq h.all_eq
    · exact hboard ▸ ha
    · exact hboard ▸ h.steady
    · exact hd ▸ h.still
    · exact hboard ▸ h.opening
    · have hsame := (hu (.inl hne)).1
      rwa [hmore, List.append_right_eq_self] at hsame
  obtain ⟨time, alarm⟩ := alarm
  have hpop : Trails w { w with agenda := { w.agenda with alarms } } :=
    ⟨rfl, rfl, [], (List.append_nil _).symm, nofun⟩
  cases alarm with
  | reply r reply =>
    refine hgo hgoes (hpop.trans (trails_soon _ (show Job.IsLate (.reply r reply) from trivial)))
      fun hne => ?_
    have hno := ((h.untouched hne).quiet ho).2 _ hm
    cases hno
  | limiter r =>
    refine hgo hgoes (hpop.trans (trails_applyDesk _ _)) fun hne => ?_
    rcases Desk.limiterWake_cases w.desk r with ⟨hs, -⟩ | ⟨-, he⟩
    · exact absurd hs (((h.untouched hne).quiet ho).1 r)
    · have hsame : Workspace.ring { w with agenda := { w.agenda with alarms } } (.limiter r) =
          { w with agenda := { w.agenda with alarms } } := by
        simp only [Workspace.ring, he]
        rfl
      rw [hsame]
      exact ⟨rfl, h.untouched hne⟩
  | timer debouncer timer =>
    have hsame : ∃ debouncers, Workspace.ring { w with agenda := { w.agenda with alarms } }
        (.timer debouncer timer) = { w with agenda := { w.agenda with alarms }, debouncers } ∧
          ∀ entry ∈ debouncers, entry.2.2.timers = [] := by
      simp only [Workspace.ring, withDebouncer]
      split
      · rename_i buffer d hd
        have hstill : d.timers = [] := h.still _ (Register.mem_of_get? hd)
        have hwake : d.wake timer = (d, []) := by simp [Debouncer.wake, Debouncer.find?, hstill]
        refine ⟨_, by rw [hwake]; rfl, fun entry he => ?_⟩
        rcases Register.mem_set he with rfl | he
        · exact hstill
        · exact h.still entry he
      · exact ⟨w.debouncers, rfl, h.still⟩
    obtain ⟨debouncers, he, hstill⟩ := hsame
    rw [he] at hgoes ⊢
    exact h.goes ho hgoes nofun List.nodup_nil (fun _ _ _ ha => ha) h.steady hstill h.opening
      h.queues h.untouched h.made_eq h.all_eq

theorem Solo.move {m : Move} (h : Solo all past made groups turns w) (ho : w.Orderly)
    (hans : ∀ c outcome, (c, outcome) ∈ w.traffic.answers → outcome ≠ .stopped)
    (hm : m.IsWaiting) :
    ∃ past' groups' turns', Solo all past' (made ++ madeIn (w.happenings m)) groups' turns'
      (w.move m) := by
  have hquiet {w' : Workspace ℚ} (hs : Solo all past made groups turns w') :
      ∃ past' groups' turns', Solo all past' (made ++ madeIn ([] : List (Happening Asker))) groups'
        turns' w' :=
    ⟨past, groups, turns, (List.append_nil made).symm ▸ hs⟩
  cases m with
  | ring =>
    unfold Workspace.move
    dsimp only
    split
    · exact hquiet h
    · rename_i alarm alarms ha
      exact hquiet (h.ring ho ha)
  | wait time =>
    unfold Workspace.move
    dsimp only
    split
    · exact hquiet ⟨h.steady, h.patient, h.still, h.attended, h.distinct, h.asking, h.opening,
        h.queues, h.untouched, h.made_eq, h.all_eq⟩
    · exact hquiet h
  | event e =>
    cases e with
    | work => exact h.work ho hans
    | settle buffer => exact hquiet (h.waitsOn (waitsOn_start w (isWait_settlePlan w buffer)))
    | respond url delivery => exact hquiet (h.waitsOn ⟨rfl, rfl, rfl, rfl, fun hp => hp⟩)
    | _ => exact hm.elim

/-! The start -/

/-- Nothing goes on, and nothing is to come. -/
structure IsIdle (w : Workspace ℚ) : Prop where
  jobs : w.agenda.jobs = []
  callers : w.callers = []
  groups : w.board.groups = []
  fetches : w.desk.fetches = []
  timers : ∀ entry ∈ w.debouncers, entry.2.2.timers = []

theorem solo_runPass (h : w.IsIdle) (hc : w.desk.cache.entries = []) (buffer text : Text) :
    Solo ((Occurrence.ofLines text.messageLines).map (·.reference)) [] []
      (w.board.opened buffer (mentionsIn text)) [] (w.runPass buffer text).2 := by
  have ha := adds_runPass w buffer text
  have hquiet := quiet_runPass w buffer text
  have hsteady : w.board.Steady := by
    constructor <;> simp [h.groups]
  have hnone : w.traffic.askers = 0 := by
    simp [Desk.Traffic.askers, traffic, h.fetches, h.jobs]
  have hjobs : (w.board.startPass buffer (mentionsIn text)).2.2.filterMap boardJob? =
      (w.board.opened buffer (mentionsIn text)).map (Job.group ·.id) := by
    rw [Board.startPass_eq]
    simp [List.filterMap_append, List.filterMap_map, Function.comp_def, boardJob?]
  refine ⟨?_, ?_, ?_, ?_, ?_, ?_, ?_, ⟨[], ?_, by simp, fun _ => rfl⟩, fun _ => ?_, rfl, ?_⟩
  · exact ha.board ▸ hsteady.startPass buffer (mentionsIn text)
  · unfold IsPatient
    rw [ha.callers, h.callers]
    exact List.forall_mem_nil _
  · exact ha.debouncers ▸ h.timers
  · have hfetches : w.traffic.fetches = [] := h.fetches
    rw [hquiet.traffic]
    unfold Desk.Traffic.Attended
    rw [hfetches]
    exact List.forall_mem_nil _
  · rw [hquiet.traffic, hnone]
    exact Multiset.nodup_zero
  · rw [hquiet.traffic, hnone]
    intro a hm
    exact absurd hm (Multiset.notMem_zero a)
  · exact ha.board ▸ Board.opening_startPass h.groups buffer (mentionsIn text)
  · have hall : (w.runPass buffer text).2.agenda.jobs =
        (w.board.opened buffer (mentionsIn text)).map (Job.group ·.id) := by
      rw [ha.jobs, hjobs]
      simp [h.jobs]
    unfold Workspace.chores
    rw [hall, List.map_nil, List.append_nil, List.append_nil]
    refine List.filter_eq_self.mpr fun job hj => ?_
    obtain ⟨g, -, rfl⟩ := List.mem_map.mp hj
    rfl
  · unfold IsUntouched
    rw [hquiet.traffic]
    exact ⟨hc, by simp [traffic, h.fetches], by simp [traffic, h.fetches]⟩
  · have hmentions : ((w.board.opened buffer (mentionsIn text)).flatMap Board.Group.turns).map
        (·.mention) = mentionsIn text := by
      rw [List.map_flatMap, Board.turns_opened, Board.flatMap_byLine (mentions_inOrder text)]
    have hrefs := congrArg (List.map (·.reference)) hmentions
    simpa [mentionsIn, Function.comp_def, Occurrence.mention] using hrefs

end CommitMessage.Workspace
