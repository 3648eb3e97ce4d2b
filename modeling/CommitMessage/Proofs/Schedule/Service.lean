import CommitMessage.Proofs.Schedule.Passing

/-! First come, first served, on time. Whatever clients do, the slot goes to the one who has waited
longest, as soon as it has come and the interval after the grant before is over. -/

namespace CommitMessage.Limiter.Session

variable {ι : Type} [DecidableEq ι] {d : ℚ} {h : List (Happening ι)} {s : Session ℚ ι} {c : ι}

theorem comers_history (s : Session ℚ ι) (moves : List (Move ι)) :
    comers (s.history moves) = starters moves := by
  induction moves generalizing s with
  | nil => rfl
  | cons m moves ih =>
    rw [history, comers_append, comers_news, ih]
    cases hm : m.starter? <;> simp [starters, hm]

theorem cancel_of_quitters {moves : List (Move ι)} (hc : c ∈ quitters (s.history moves)) :
    .cancel c ∈ moves := by
  rw [mem_quitters] at hc
  induction moves generalizing s with
  | nil => cases hc
  | cons m moves ih =>
    rcases List.mem_append.mp hc with hc | hc
    · cases m with
      | start b => cases List.mem_singleton.mp hc
      | cancel b =>
        rw [news] at hc
        split at hc
        · cases List.mem_singleton.mp hc
          exact List.mem_cons_self
        · cases hc
      | tryNow =>
        rw [news] at hc
        split at hc
        · cases hc
        · cases List.mem_singleton.mp hc
      | work =>
        obtain ⟨e, -, he⟩ := List.mem_map.mp hc
        cases he
      | ring => cases hc
      | tick time => cases hc
    · exact List.mem_cons_of_mem _ (ih hc)

theorem kept_runMoves (hd : 0 ≤ d) (now : ℚ) {moves : List (Move ι)}
    (hn : (starters moves).Nodup) :
    Kept d ((Session.new d now : Session ℚ ι).history moves)
      ((Session.new d now : Session ℚ ι).runMoves moves) := by
  have hkept := (kept_new d now (ι := ι)).run hd moves hn
  rwa [List.nil_append] at hkept

/-- Who gives up before it is granted is not granted any more. -/
theorem not_served_of_cancel (hd : 0 ≤ d) (now : ℚ) {first rest : List (Move ι)}
    (hn : (starters (first ++ .cancel c :: rest)).Nodup) (hc : c ∈ starters first)
    (hs : c ∉ served ((Session.new d now : Session ℚ ι).history first)) :
    c ∉ served ((Session.new d now : Session ℚ ι).history (first ++ .cancel c :: rest)) ∧
      c ∉ waiting ((Session.new d now : Session ℚ ι).history (first ++ .cancel c :: rest)) := by
  have hfirst : (starters first).Nodup := by
    rw [starters, List.filterMap_append] at hn
    exact (List.nodup_append.mp hn).1
  have hkept := kept_runMoves hd now hfirst
  have hall := kept_runMoves hd now hn
  refine (hall.scheduled.quit ?_).2
  rw [history_append, history, quitters_append, quitters_append, List.mem_append, List.mem_append]
  rw [← comers_history (Session.new d now : Session ℚ ι)] at hc
  rcases comer_cases hc with hq | hq | hq
  · exact .inl hq
  · exact absurd hq hs
  · have hnews := hkept.isRunning_of_waiting hq
    rw [news, if_pos hnews]
    exact .inr (.inl (List.mem_singleton.mpr rfl))

theorem Kept.not_late (hs : Kept d h s) (hc : c ∈ waiting h) :
    ∃ a, .came c a ∈ h ∧ s.agenda.now ≤ slot d h a := by
  rw [← hs.queue] at hc
  rcases List.mem_append.mp hc with hc | hc
  · have hclient := (contenders_sublist _).subset hc
    obtain ⟨a, ha⟩ := mem_comers.mp (hs.known c (List.mem_append_left _ hclient)).1
    obtain ⟨last, hlast, hdue⟩ := hs.due (List.ne_nil_of_mem hclient)
    refine ⟨a, ha, ?_⟩
    simp only [slot, hlast]
    exact hdue.trans (le_max_right _ _)
  · refine ⟨s.agenda.now, hs.pending c (List.mem_filter.mp hc).1, ?_⟩
    unfold slot
    split
    · exact le_refl _
    · exact le_max_left _ _

/-! Sessions in coarser steps -/

theorem Kept.step (hd : 0 ≤ d) (hs : Kept d h s) (e : Event ℚ ι)
    (he : ∀ dt, e = .advance dt → 0 ≤ dt) :
    ∃ moves, starters moves = e.starter?.toList ∧ s.step e = s.runMoves moves := by
  cases e with
  | start c => exact ⟨[.start c], rfl, rfl⟩
  | cancel c => exact ⟨[.cancel c], rfl, rfl⟩
  | tryNow => exact ⟨[.tryNow], rfl, rfl⟩
  | work => exact ⟨[.work], rfl, rfl⟩
  | advance dt =>
    obtain ⟨g, ⟨moves, hpassive, hrun, -⟩, -⟩ := hs.advance hd (he dt rfl)
    exact ⟨moves, starters_passive hpassive, hrun.symm⟩

/-- What is known of all moves is known of all that a session is used for. -/
theorem exists_moves_of_run (hd : 0 ≤ d) (now : ℚ) {events : List (Event ℚ ι)}
    (ht : ∀ dt, .advance dt ∈ events → 0 ≤ dt) (hn : (events.filterMap Event.starter?).Nodup) :
    ∃ moves, starters moves = events.filterMap Event.starter? ∧
      (Session.new d now : Session ℚ ι).run events =
        (Session.new d now : Session ℚ ι).runMoves moves := by
  induction events using List.reverseRecOn with
  | nil => exact ⟨[], rfl, rfl⟩
  | append_singleton events e ih =>
    rw [List.filterMap_append] at hn
    obtain ⟨moves, hstart, hrun⟩ := ih (fun dt hm => ht dt (List.mem_append_left _ hm))
      (List.nodup_append.mp hn).1
    have hkept := kept_runMoves hd now (hstart ▸ (List.nodup_append.mp hn).1)
    obtain ⟨more, hmore, hstep⟩ := hkept.step hd e fun dt he =>
      ht dt (List.mem_append_right _ (List.mem_singleton.mpr he.symm))
    refine ⟨moves ++ more, ?_, ?_⟩
    · rw [starters, List.filterMap_append, ← starters, ← starters, hstart, hmore,
        List.filterMap_append]
      cases he : e.starter? <;> simp [he]
    · rw [runMoves_append, ← hstep, ← hrun]
      exact List.foldl_append

/-- For every run in which no client comes twice: each grant goes to the one who has waited longest
of those who have not given up, at the time at which it came or one interval after the grant before,
whichever is later. All are granted in the order in which they came, each once; who gives up while
it waits is not granted; and who does not give up is granted or waits still. Any two grants are an
interval apart. A try that is refused changes nothing. Nobody waits beyond its time, and left to
itself the limiter has granted all who wait after as many intervals. -/
theorem runMoves_on_schedule (hd : 0 ≤ d) (now : ℚ) (moves : List (Move ι))
    (hn : (starters moves).Nodup) :
    let s := (Session.new d now : Session ℚ ι).runMoves moves
    let h := (Session.new d now : Session ℚ ι).history moves
    (∀ before c t after, h = before ++ .granted c t :: after →
      (waiting before).head? = some c ∧ ∃ a, .came c a ∈ before ∧ t = slot d before a) ∧
    (served h ++ waiting h).Sublist (starters moves) ∧
    (∀ first c rest, moves = first ++ .cancel c :: rest → c ∈ starters first →
      c ∉ served ((Session.new d now : Session ℚ ι).history first) →
        c ∉ served h ∧ c ∉ waiting h) ∧
    (∀ c ∈ starters moves, .cancel c ∉ moves → c ∈ served h ∨ c ∈ waiting h) ∧
    (grantTimes h).Pairwise (fun t u => t + d ≤ u) ∧
    (0 < s.tryNow.1 → s.tryNow.2 = s) ∧
    (∀ c ∈ waiting h, ∃ a, .came c a ∈ h ∧ s.agenda.now ≤ slot d h a) ∧
    ∀ dt, (waiting h).length * d ≤ dt → ∃ more, (∀ m ∈ more, Move.IsPassive m) ∧
      s.advance dt = s.runMoves more ∧ waiting (h ++ s.history more) = [] := by
  intro s h
  have hkept : Kept d h s := kept_runMoves hd now hn
  have hcomers : comers h = starters moves := comers_history _ moves
  have horder := hkept.scheduled.in_order
  rw [hcomers] at horder
  refine ⟨fun before c t after he => ?_, horder, fun first c rest he hc hs => ?_,
    fun c hc hstays => ?_, hkept.scheduled.spaced hd, fun hwait => ?_,
    fun c hc => hkept.not_late hc, fun dt hdt => ?_⟩
  · have hs := hkept.scheduled
    rw [he] at hs
    exact hs.due
  · subst he
    exact not_served_of_cancel hd now hn hc hs
  · refine (comer_cases (hcomers ▸ hc)).resolve_left fun hq => hstays ?_
    exact cancel_of_quitters hq
  · rcases tryAcquire_cases s.limiter s.agenda.now with ⟨-, he⟩ | ⟨hgrant, -, -⟩
    · simp only [Session.tryNow, he]
    · simp only [Session.tryNow, hgrant, lt_irrefl] at hwait
  · obtain ⟨g, ⟨more, hpassive, hrun, rfl⟩, hw⟩ := hkept.advance_serves hd hdt
    exact ⟨more, hpassive, hrun.symm, hw⟩

/-- A client that comes last is granted after a try has overtaken it, as the one before it has given
up. -/
theorem runMoves_on_schedule_overtaken :
    let moves : List (Move Nat) := [.start 1, .work, .start 2, .work, .start 3, .work, .cancel 2,
      .work, .work, .tick 1, .tryNow, .ring, .work, .tick 2, .ring, .work]
    let before : List (Happening Nat) := [.came 1 0, .granted 1 0, .came 2 0, .came 3 0, .gaveUp 2,
      .taken 1]
    (Session.new 1 0).history moves = before ++ [.granted 3 2] ∧
      (waiting before).head? = some 3 ∧ ∃ a, .came 3 a ∈ before ∧ 2 = slot 1 before a := by
  intro moves before
  have hrun : (Session.new 1 0).history moves = before ++ [.granted 3 2] := by decide +kernel
  have hschedule := runMoves_on_schedule (d := 1) zero_le_one 0 moves (by decide)
  exact ⟨hrun, hschedule.1 before 3 2 [] hrun⟩

end CommitMessage.Limiter.Session
