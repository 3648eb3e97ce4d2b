import CommitMessage.Proofs.Workspace.Cached
import CommitMessage.Proofs.Workspace.Passages

/-! A call for several profiles. Each of its names is looked up once, and the profiles are given
when all are there; but the first name that cannot be looked up ends the call, while the lookups
of others go on. -/

namespace CommitMessage.Workspace

open Desk (Happening outcomesOf asksOf)

variable {w w' : Workspace ℚ} {p : Plan ℚ} {now : ℚ} {history : List (Happening Asker)}
  {id place : Nat} {c : Call} {moves more : List Move} {m : Move} {tag : Text}
  {names : List (Text × Option Resolution)}

/-! Runs -/

theorem outcomesOf_le_asksOf (p : Plan ℚ) (now : ℚ) (hm : ∀ m ∈ moves, m.IsFine) (a : Asker) :
    (outcomesOf a ((new p now).history moves)).length ≤ asksOf a ((new p now).history moves) := by
  have hsteps := (steps_run (orderly_new p now) hm).1
  have hle := hsteps.outcomes_le a
  have hnew : (new p now).traffic.askers.count a = 0 := rfl
  omega

theorem nodup_calls (p : Plan ℚ) (now : ℚ) (hm : ∀ m ∈ moves, m.IsFine) :
    ((new p now).runMoves moves).calls.keys.Nodup :=
  ((inOrder_new p now).run fun m hx => (hm m hx).isStep).tended.distinct

theorem passage_run (hl : Ledger ((new p now).history moves) ((new p now).runMoves moves))
    (hm : ∀ m' ∈ moves ++ [m], m'.IsFine) :
    Passage ((new p now).history moves) ((new p now).runMoves moves)
      (((new p now).runMoves moves).happenings m) (((new p now).runMoves moves).move m) := by
  have hbefore : ∀ m' ∈ moves, m'.IsFine := fun m' hx => hm m' (List.mem_append_left _ hx)
  have hlast : m.IsFine := hm m (List.mem_append_right _ (List.mem_singleton_self m))
  exact hl.passage_move (faithful_run p now hbefore) (nodup_calls p now hbefore)
    (outcomesOf_le_asksOf p now hbefore) hlast

theorem history_concat (w : Workspace ℚ) (moves : List Move) (m : Move) :
    w.history (moves ++ [m]) = w.history moves ++ (w.runMoves moves).happenings m := by
  rw [history_append, history, history, List.append_nil]

theorem runMoves_concat (w : Workspace ℚ) (moves : List Move) (m : Move) :
    w.runMoves (moves ++ [m]) = (w.runMoves moves).move m := runMoves_append w moves [m]

theorem ledger_new (p : Plan ℚ) (now : ℚ) : Ledger [] (new p now) :=
  ⟨⟨nofun, fun _ _ => ⟨rfl, fun _ => rfl⟩, nofun, fun _ _ => Nat.zero_le 1⟩, nofun⟩

theorem ledger_run (p : Plan ℚ) (now : ℚ) (hm : ∀ m ∈ moves, m.IsFine) :
    Ledger ((new p now).history moves) ((new p now).runMoves moves) := by
  induction moves using List.reverseRecOn with
  | nil => exact ledger_new p now
  | append_singleton moves m ih =>
    have hbefore := ih fun m' hx => hm m' (List.mem_append_left _ hx)
    rw [history_concat, runMoves_concat]
    exact (passage_run hbefore hm).ledger

/-! One call -/

/-- A call for these names, as long as it is not over. -/
def IsFor (id : Nat) (tag : Text) (names : List Text) (w : Workspace ℚ) : Prop :=
  id < w.nextCall ∧ ∀ c, w.calls.get? id = some c →
    c.tag = tag ∧ ∃ answers, c.wanted = .profiles answers ∧ answers.map Prod.fst = names

theorem Passage.isFor {hs : List (Happening Asker)} {names : List Text}
    (h : Passage history w hs w') (hf : w.IsFor id tag names) : w'.IsFor id tag names := by
  refine ⟨hf.1.trans_le h.nextCall, fun c' hget' => ?_⟩
  cases hget : w.calls.get? id with
  | none => exact absurd ((h.gone id hf.1 hget).symm.trans hget') nofun
  | some c =>
    obtain ⟨htag, answers, hw, hnames⟩ := hf.2 c hget
    cases h.becomes id c answers hget hw with
    | goesOn hget₁ htag₁ hw₁ hnames₁ =>
      obtain rfl := Option.some.inj (hget₁.symm.trans hget')
      exact ⟨htag₁.trans htag, _, hw₁, hnames₁.trans hnames⟩
    | ends result hgone => exact absurd (hgone.symm.trans hget') nofun

theorem isFor_run (p : Plan ℚ) (now : ℚ) {before : List Move} (tag : Text) (asked : List Text)
    (hm : ∀ m ∈ before ++ .event (.resolveProfiles tag asked) :: more, m.IsFine) :
    ((new p now).runMoves (before ++ .event (.resolveProfiles tag asked) :: more)).IsFor
      ((new p now).runMoves before).nextCall tag asked.eraseDups := by
  induction more using List.reverseRecOn with
  | nil =>
    rw [runMoves_concat]
    refine ⟨Nat.lt_succ_self _, fun c hget => ?_⟩
    have hset := (Register.get?_set ((new p now).runMoves before).calls _ _ _).symm.trans hget
    rw [if_pos rfl] at hset
    cases hset
    refine ⟨rfl, _, rfl, ?_⟩
    rw [distinctNames, List.map_map]
    exact List.map_id _
  | append_singleton more m ih =>
    rw [← List.cons_append, ← List.append_assoc] at hm ⊢
    have hbefore : ∀ m' ∈ before ++ .event (.resolveProfiles tag asked) :: more, m'.IsFine :=
      fun m' hx => hm m' (List.mem_append_left _ hx)
    rw [runMoves_concat]
    exact (passage_run (ledger_run p now hbefore) hm).isFor (ih hbefore)

/-- A call that is not over has a turn coming, or one of its names does or is to be told. -/
theorem InOrder.goesOn (h : w.InOrder) (hf : w.IsFor id tag (names.map Prod.fst))
    (hget : w.calls.get? id = some c) : .call id ∈ w.agenda.jobs ∨
      ∃ place, .member id place ∈ w.agenda.jobs ∨
        w.WillHear w.agenda.jobs (.member id place) := by
  have hattended := h.tended.calls id c hget
  by_cases hturn : c.calledOff = true ∨ c.stage ≠ .waiting
  · exact .inl (hattended.turn hturn)
  · obtain ⟨hoff, hs⟩ := not_or.mp hturn
    obtain ⟨-, answers, hw, -⟩ := hf.2 c hget
    obtain ⟨hopen, hplaces⟩ :=
      hattended.profiles (by simpa using hoff) (not_not.mp hs) answers hw
    obtain ⟨e, he, hnone⟩ := List.any_eq_true.mp hopen
    obtain ⟨place, hplace⟩ := List.mem_iff_getElem?.mp he
    exact .inr ⟨place, hplaces place e hplace (by simpa using hnone)⟩

/-! The end of a call -/

/-- With no answer missing, the answers are all there is. -/
theorem eq_map_of_closed (hopen : isOpen names = false) :
    names = (names.filterMap fun (name, answer) => answer.map ((name, ·))).map
      fun e => (e.1, some e.2) := by
  induction names with
  | nil => rfl
  | cons e names ih =>
    obtain ⟨name, answer⟩ := e
    rw [isOpen, List.any_cons, Bool.or_eq_false_iff] at hopen
    cases answer with
    | none => exact absurd hopen.1 (by simp)
    | some r => exact congrArg ((name, some r) :: ·) (ih hopen.2)

theorem Accounted.result (h : Accounted history id c.stage names) (hw : c.wanted = .profiles names)
    {result : CallResult} (he : c.EndsWith result) :
    (∃ answers, result = .profiles answers ∧ names = answers.map fun e => (e.1, some e.2)) ∨
      ∃ f, result = .failed f ∧ firstFailure id history = some f := by
  rcases he with ⟨outcome, hs, rfl⟩ | ⟨hnone, rfl⟩
  · rcases h.ready outcome hs with ⟨⟨r, rfl⟩, hopen⟩ | ⟨f, rfl, hf⟩
    · refine .inl ⟨_, ?_, eq_map_of_closed hopen⟩
      rw [Call.result, hw]
    · exact .inr ⟨f, rfl, hf⟩
  · obtain rfl := Wanted.profiles.inj (hw.symm.trans hnone)
    exact .inl ⟨[], rfl, rfl⟩

theorem exists_asked {a : Asker} (h : 0 < asksOf a history) :
    ∃ r how, .asked a r how ∈ history := by
  obtain ⟨x, hx, hasks⟩ := List.countP_pos_iff.mp h
  cases x with
  | asked a' r how =>
    obtain rfl : a' = a := of_decide_eq_true hasks
    exact ⟨r, how, hx⟩
  | _ => cases hasks

/-- With one question at most and no outcome without one, a name that has its answer has been asked
for once, and told once. -/
theorem Accounted.answered_once {hs : List (Happening Asker)} {stage : CallStage} {name : Text}
    {r : Resolution} (h : Accounted history id stage names)
    (hentry : names[place]? = some (name, some r))
    (hold : (outcomesOf (.member id place) history).length ≤ asksOf (.member id place) history)
    (hnew : (outcomesOf (.member id place) (history ++ hs)).length ≤
      asksOf (.member id place) (history ++ hs))
    (honce : asksOf (.member id place) (history ++ hs) ≤ 1) :
    (∃ how, .asked (.member id place) ⟨.profile, name⟩ how ∈ history ++ hs) ∧
      asksOf (.member id place) (history ++ hs) = 1 ∧
      outcomesOf (.member id place) (history ++ hs) = [.resolved r] := by
  have hm : .resolved r ∈ outcomesOf (.member id place) (history ++ hs) :=
    h.answered_grow place name r hentry
  have hpos : 0 < asksOf (.member id place) history :=
    (List.length_pos_of_mem (h.answered place name r hentry)).trans_le hold
  obtain ⟨r', how, hasked⟩ := exists_asked hpos
  obtain ⟨e, he, rfl⟩ := h.asked place r' how hasked
  obtain rfl := Option.some.inj (hentry.symm.trans he)
  have hone : (outcomesOf (.member id place) (history ++ hs)).length = 1 :=
    le_antisymm (hnew.trans honce) (List.length_pos_of_mem hm)
  obtain ⟨o, ho⟩ := List.length_eq_one_iff.mp hone
  rw [ho] at hm
  refine ⟨⟨how, List.mem_append_left _ hasked⟩, ?_, ?_⟩
  · exact le_antisymm honce (hone.symm.trans_le hnew)
  · rw [ho, List.mem_singleton.mp hm]

/-- What holds of a call for profiles, whatever else goes on, but that fetches are stopped. No name
is looked up twice or has two outcomes, and as long as the call is not over it has a turn coming,
or one of its names does or is to be told. If it ends without being called off, it gives each of
the names, in the order of first mention, what its one lookup has come to; or it gives the first
failure of a lookup, while others may still go on. -/
theorem profiles_together (p : Plan ℚ) (now : ℚ) {before more : List Move} {m : Move} (tag : Text)
    (asked : List Text)
    (hm : ∀ m' ∈ before ++ .event (.resolveProfiles tag asked) :: more ++ [m], m'.IsFine) :
    let id := ((new p now).runMoves before).nextCall
    let moves := before ++ .event (.resolveProfiles tag asked) :: more
    let w := (new p now).runMoves moves
    let history := (new p now).history (moves ++ [m])
    (∀ place, asksOf (.member id place) history ≤ 1 ∧
      (outcomesOf (.member id place) history).length ≤ asksOf (.member id place) history) ∧
    ∀ c, w.calls.get? id = some c →
      (.call id ∈ w.agenda.jobs ∨ ∃ place, .member id place ∈ w.agenda.jobs ∨
        w.WillHear w.agenda.jobs (.member id place)) ∧
      (c.calledOff = false → (w.move m).calls.get? id = none →
        ∃ result, (w.move m).record = .answered tag result :: w.record ∧
          ((∃ answers, result = .profiles answers ∧ answers.map Prod.fst = asked.eraseDups ∧
              ∀ place name r, answers[place]? = some (name, r) →
                (∃ how, .asked (.member id place) ⟨.profile, name⟩ how ∈ history) ∧
                asksOf (.member id place) history = 1 ∧
                outcomesOf (.member id place) history = [.resolved r]) ∨
            ∃ f, result = .failed f ∧ firstFailure id history = some f)) := by
  intro id moves w history
  have hmoves : ∀ m' ∈ moves, m'.IsFine := fun m' hx => hm m' (List.mem_append_left _ hx)
  have hledger : Ledger ((new p now).history moves) w := ledger_run p now hmoves
  have hfor : w.IsFor id tag asked.eraseDups := isFor_run p now tag asked hmoves
  have hpassage : Passage ((new p now).history moves) w (w.happenings m) (w.move m) :=
    passage_run hledger hm
  have hhistory : history = (new p now).history moves ++ w.happenings m := history_concat _ _ _
  have htold (a : Asker) : (outcomesOf a history).length ≤ asksOf a history :=
    outcomesOf_le_asksOf p now hm a
  have honce (place : Nat) : asksOf (.member id place) history ≤ 1 := by
    rw [hhistory]
    exact (Nat.le_add_right _ _).trans (hpassage.ledger.tally.once id place)
  refine ⟨fun place => ⟨honce place, htold _⟩, fun c hget => ?_⟩
  obtain ⟨htag, names, hw, hnames⟩ := hfor.2 c hget
  have hinOrder : w.InOrder := (inOrder_new p now).run fun m' hx => (hmoves m' hx).isStep
  refine ⟨hinOrder.goesOn (hnames ▸ hfor) hget, fun hoff hgone => ?_⟩
  cases hpassage.becomes id c names hget hw with
  | goesOn hget' => exact absurd (hgone.symm.trans hget') nofun
  | ends result _ hrecord hresult =>
    refine ⟨result, htag ▸ hrecord, ?_⟩
    have hknown := hledger.known id c names hget hw
    rcases hknown.result hw (hresult hoff) with ⟨answers, hanswers, hall⟩ | ⟨f, hfailed, hfirst⟩
    · refine .inl ⟨answers, hanswers, ?_, fun place name r hplace => ?_⟩
      · rw [← hnames, hall, List.map_map]
        rfl
      · have hentry : names[place]? = some (name, some r) := by
          rw [hall, List.getElem?_map, hplace, Option.map_some]
        rw [hhistory] at honce htold ⊢
        exact hknown.answered_once hentry (outcomesOf_le_asksOf p now hmoves _) (htold _)
          (honce place)
    · refine .inr ⟨f, hfailed, ?_⟩
      rw [hhistory, firstFailure_append, hfirst, Option.some_or]

/-- Three mentions of two names. -/
def twoNames (turns : Nat) : List Move :=
  .event (.resolveProfiles ['t'] [['a'], ['b'], ['a']]) :: List.replicate turns (.event .work)

theorem isFine_twoNames (turns : Nat) : ∀ m ∈ twoNames turns, m.IsFine := by
  intro m hm
  rcases List.mem_cons.mp hm with rfl | hm
  · trivial
  · rw [List.eq_of_mem_replicate hm]
    trivial

/-- Nothing is found, and nobody has to wait in line. -/
def hastyPlan : Plan ℚ := { emptyPlan with interval := 0 }

def Entry.answered? : Entry ℚ → Option (Text × CallResult)
  | .answered tag result => some (tag, result)
  | _ => none

theorem profiles_together_twoNames :
    let w := (new hastyPlan 0).runMoves (twoNames 9)
    let history := (new hastyPlan 0).history (twoNames 10)
    (∀ m ∈ twoNames 10, m.IsFine) ∧ w.work.calls.get? 0 = none ∧
    ∃ result, w.work.record = .answered ['t'] result :: w.record ∧
      ∃ answers, result = .profiles answers ∧ answers.map Prod.fst = [['a'], ['b']] ∧
        ∀ place name r, answers[place]? = some (name, r) →
          asksOf (.member 0 place) history = 1 ∧
            outcomesOf (.member 0 place) history = [.resolved r] := by
  intro w history
  obtain ⟨-, hcall⟩ := @profiles_together hastyPlan 0 [] (List.replicate 9 (.event .work))
    (.event .work) ['t'] [['a'], ['b'], ['a']] (isFine_twoNames 10)
  have hgone : w.work.calls.get? 0 = none := by decide +kernel
  have hcalls : (w.calls.get? 0).map (·.calledOff) = some false := by decide +kernel
  obtain ⟨c, hget, hoff⟩ := Option.map_eq_some_iff.mp hcalls
  have hnames : [['a'], ['b'], ['a']].eraseDups = [['a'], ['b']] := by decide
  have hnone : firstFailure 0 history = none := by decide +kernel
  obtain ⟨result, hrecord, ⟨answers, hresult, hfst, hall⟩ | ⟨f, -, hf⟩⟩ :=
    (hcall c hget).2 hoff hgone
  · exact ⟨isFine_twoNames 10, hgone, result, hrecord, answers, hresult, hfst.trans hnames,
      fun place name r hplace => (hall place name r hplace).2⟩
  · exact absurd (hnone.symm.trans hf) nofun

/-- Something goes wrong at the first page, and the others take a while. -/
def brokenPlan : Plan ℚ :=
  { emptyPlan with network := fun url =>
      if url = "/a/".toList then { reply := .crashed "boom".toList }
      else { reply := .page ⟨404, []⟩, delay := some 1 } }

/-- The call is over, and the one who asks for the second name still waits. -/
theorem exists_profiles_cut_short :
    let w := (new brokenPlan 0).runMoves (twoNames 8)
    w.calls.get? 0 = none ∧
      w.record.filterMap Entry.answered? = [(['t'], .failed (.plain "boom".toList))] ∧
      outcomesOf (.member 0 1) ((new brokenPlan 0).history (twoNames 8)) = [] ∧
      ∃ f ∈ w.desk.fetches, f.reference = ⟨.profile, ['b']⟩ ∧ f.callers = [.member 0 1] ∧
        ¬ f.IsOver := by
  intro w
  have hshown : w.desk.fetches.map (fun f => (f.reference, f.callers, f.stage)) =
      [(⟨.profile, ['b']⟩, [.member 0 1], .inLine)] := by decide +kernel
  have hgone : w.calls.get? 0 = none := by decide +kernel
  obtain ⟨f, hf, he⟩ := List.mem_map.mp (hshown ▸ List.mem_singleton_self _)
  obtain ⟨hr, hrest⟩ := Prod.ext_iff.mp he
  obtain ⟨hcallers, hs⟩ := Prod.ext_iff.mp hrest
  refine ⟨hgone, by decide +kernel, by decide +kernel, f, hf, hr, hcallers, ?_⟩
  rintro ⟨outcome, ho⟩
  exact absurd (hs.symm.trans ho) nofun

end CommitMessage.Workspace
