import CommitMessage.Board.Session
import CommitMessage.Proofs.Board.Tracks
import CommitMessage.Proofs.Board.Attended

/-! What is seen of a session from outside, in the order of time: passes that begin, lookups that
are settled, and lines that are committed. Beside its history a board settles a lookup once at most
and shows a line of a pass once at most, and what is still to come for its groups has not happened
yet. -/

namespace CommitMessage.Board

inductive Happening where
  | began (buffer : Text) (generation : Nat) (mentions : List Mention)
  | settled (q : Query) (outcome : Outcome)
  /-- A commit in the course of a generation of its buffer. -/
  | committed (generation : Nat) (c : Commit)
  deriving DecidableEq, Repr

namespace Session

/-- The commits among what a board asks for. -/
def commitsIn (generation : Nat) (signals : List Signal) : List Happening :=
  signals.filterMap fun
    | .commit _ c => some (.committed generation c)
    | _ => none

def query? (s : Session) (group slot : Nat) : Option Query :=
  (s.board.group? group).map (·.query slot)

/-- Settlements of lookups that wait. -/
def settlements (s : Session) (p : Nat × Nat × Reference → Bool) (outcome : Outcome) :
    List Happening :=
  (s.lookups.filter p).filterMap fun l => (s.query? l.1 l.2.1).map (Happening.settled · outcome)

/-- What happens when a job is done. A lookup with an answer at hand is settled as it is made. -/
def happeningsOf (s : Session) : Job → List Happening
  | .group id =>
    match s.board.group? id with
    | some g => commitsIn g.generation (s.board.groupTurn id).2
    | none => []
  | .slot group slot =>
    match (s.board.slotTurn group slot).2 with
    | [.ask _ _ _ r] =>
      match s.known r, s.query? group slot with
      | some outcome, some q => [.settled q outcome]
      | _, _ => []
    | _ => []
  | _ => []

def happenings (s : Session) : Event → List Happening
  | .startPass buffer mentions =>
    let (generation, _, signals) := s.board.startPass buffer mentions
    .began buffer generation mentions :: commitsIn generation signals
  | .settle r outcome => s.settlements (·.2.2 = r) outcome
  | .settleOne group slot outcome =>
    s.settlements (fun l => l.1 = group ∧ l.2.1 = slot) outcome
  | .work =>
    match s.jobs with
    | job :: _ => s.happeningsOf job
    | [] => []
  | _ => []

/-- All that happens in the course of a run. -/
def history (s : Session) : List Event → List Happening
  | [] => []
  | e :: rest => s.happenings e ++ (s.step e).history rest

theorem run_append (s : Session) (events more : List Event) :
    s.run (events ++ more) = (s.run events).run more := List.foldl_append

end Session

/-- Passes that begin, settlements other than a stop, a change of what is known or of who takes
the commits, and jobs: all that happens while no buffer is given up. -/
def Event.IsOrdinary : Event → Prop
  | .startPass .. | .handTo _ | .work => True
  | .settle _ outcome | .settleOne _ _ outcome => outcome ≠ .stopped
  | .know known => ∀ r, known r ≠ some .stopped
  | _ => False

/-! Reading a history -/

/-- The generation and the mentions of the last pass of a buffer. -/
def lastPass? (h : List Happening) (buffer : Text) : Option (Nat × List Mention) :=
  h.reverse.findSome? fun
    | .began buffer' generation mentions =>
      if buffer' = buffer then some (generation, mentions) else none
    | _ => none

/-- How a lookup was settled first. -/
def outcome? (h : List Happening) (q : Query) : Option Outcome :=
  h.findSome? fun
    | .settled q' outcome => if q' = q then some outcome else none
    | _ => none

/-- What a lookup was answered. -/
def Answered (h : List Happening) (q : Query) (answer : Option Resolution) : Prop :=
  ∃ outcome, .settled q outcome ∈ h ∧ outcome.resolution? = answer

def Happening.query? : Happening → Option Query
  | settled q _ => some q
  | _ => none

/-- The buffer, generation and line for which something is shown. -/
def Happening.shownFor? : Happening → Option (Text × Nat × Int)
  | committed generation c =>
    if c.annotations = [] then none else some (c.buffer, generation, c.line)
  | _ => none

/-! What was settled and shown -/

variable {b : Board} {g g' : Group} {h more : List Happening} {id slot : Nat} {buffer : Text}

def settledQueries (h : List Happening) : List Query := h.filterMap Happening.query?

def shownLinesOf (h : List Happening) : List (Text × Nat × Int) := h.filterMap Happening.shownFor?

theorem settledQueries_append (h more : List Happening) :
    settledQueries (h ++ more) = settledQueries h ++ settledQueries more := List.filterMap_append

theorem shownLinesOf_append (h more : List Happening) :
    shownLinesOf (h ++ more) = shownLinesOf h ++ shownLinesOf more := List.filterMap_append

theorem mem_settledQueries {q : Query} :
    q ∈ settledQueries h ↔ ∃ outcome, .settled q outcome ∈ h := by
  rw [settledQueries, List.mem_filterMap]
  constructor
  · rintro ⟨x, hx, hq⟩
    cases x with
    | settled q' outcome => exact ⟨outcome, by cases hq; exact hx⟩
    | began buffer generation mentions => cases hq
    | committed generation c => cases hq
  · rintro ⟨outcome, hx⟩
    exact ⟨_, hx, rfl⟩

/-! The last pass -/

/-- No pass begins. -/
def Passless (h : List Happening) : Prop :=
  ∀ buffer generation mentions, Happening.began buffer generation mentions ∉ h

theorem lastPass?_of_passless (hn : Passless more) : lastPass? more = fun _ => none := by
  funext buffer
  rw [lastPass?, List.findSome?_eq_none_iff]
  intro x hx
  cases x with
  | began buffer' generation mentions => exact (hn _ _ _ (List.mem_reverse.mp hx)).elim
  | settled q outcome => rfl
  | committed generation c => rfl

theorem lastPass?_append (h more : List Happening) (buffer : Text) :
    lastPass? (h ++ more) buffer = (lastPass? more buffer).or (lastPass? h buffer) := by
  rw [lastPass?, List.reverse_append, List.findSome?_append]
  rfl

theorem lastPass?_append_of_passless (h : List Happening) (hn : Passless more) :
    lastPass? (h ++ more) = lastPass? h := by
  funext buffer
  rw [lastPass?_append, lastPass?_of_passless hn]
  rfl

theorem lastPass?_append_began (h : List Happening) (hn : Passless more) (buffer : Text)
    (generation : Nat) (mentions : List Mention) :
    lastPass? (h ++ .began buffer generation mentions :: more) =
      fun x => if x = buffer then some (generation, mentions) else lastPass? h x := by
  funext x
  have hone : lastPass? [.began buffer generation mentions] x =
      if x = buffer then some (generation, mentions) else none := by
    by_cases hx : x = buffer
    · simp [lastPass?, hx]
    · simp [lastPass?, hx, Ne.symm hx]
  rw [List.append_cons, lastPass?_append, lastPass?_of_passless hn, lastPass?_append, hone]
  by_cases hx : x = buffer
  · simp [hx]
  · simp [hx]

theorem Answered.append {q : Query} {a : Option Resolution} (hq : Answered h q a)
    (more : List Happening) : Answered (h ++ more) q a := by
  obtain ⟨outcome, hx, he⟩ := hq
  exact ⟨outcome, List.mem_append_left _ hx, he⟩

theorem passless_commitsIn (generation : Nat) (signals : List Signal) :
    Passless (Session.commitsIn generation signals) := by
  intro buffer generation' mentions hx
  obtain ⟨x, -, he⟩ := List.mem_filterMap.mp hx
  split at he <;> cases he

theorem settledQueries_commitsIn (generation : Nat) (signals : List Signal) :
    settledQueries (Session.commitsIn generation signals) = [] := by
  refine List.filterMap_eq_nil_iff.mpr fun x hx => ?_
  obtain ⟨y, -, he⟩ := List.mem_filterMap.mp hx
  split at he
  · cases he
    rfl
  · cases he

/-! Generations -/

theorem generation_eq_sheetFor (b : Board) (buffer : Text) :
    b.generation buffer = (b.sheetFor buffer).2.generation := by
  unfold generation sheetFor
  cases b.sheets.get? buffer <;> rfl

theorem generation_startPass (b : Board) (buffer : Text) (mentions : List Mention) (x : Text) :
    (b.startPass buffer mentions).2.1.generation x =
      if x = buffer then b.generation buffer + 1 else b.generation x := by
  rw [startPass_eq, generation_eq_sheetFor b buffer]
  by_cases hx : x = buffer
  · simp [generation, hx, sheetAfter]
  · simp [generation, hx]

theorem generation_groupTurn (hb : b.Steady) (id : Nat) (x : Text) :
    (b.groupTurn id).1.generation x = b.generation x := by
  rcases groupTurn_cases hb id with ⟨he, -⟩ | ⟨g, -, -, he⟩ | ⟨g, -, -, he⟩
  · rw [he]
  · rw [he]
    rfl
  · rw [he]
    rcases commitGroup_cases b g with ⟨s, hs, -, hc⟩ | ⟨-, hc⟩
    · rw [hc]
      by_cases hx : x = g.buffer
      · simp [generation, hx, hs, Sheet.committing]
      · simp [generation, hx]
    · rw [hc]
      rfl

theorem query_inj {answered : Query → Option Resolution → Prop}
    {passOf : Text → Option (Nat × List Mention)} (hb : b.Tracks passOf answered)
    (hg : g ∈ b.groups) (hg' : g' ∈ b.groups) {i j : Nat} (he : g.query i = g'.query j) :
    g = g' ∧ i = j := by
  simp only [Group.query, Query.mk.injEq] at he
  obtain ⟨hbuf, hgen, hl, rfl⟩ := he
  refine ⟨List.inj_on_of_nodup_map hb.distinct hg hg' ?_, rfl⟩
  simp only [Group.query, hbuf, hgen, hl]

/-! The ledger -/

structure Ledger (b : Board) (h : List Happening) : Prop where
  tracks : b.Tracks (lastPass? h) (Answered h)
  once : (settledQueries h).Nodup
  seen : ∀ q ∈ settledQueries h, q.generation ≤ b.generation q.buffer
  fresh : ∀ g ∈ b.groups, ∀ i m, g.slots[i]? = some (m, .fresh) → g.query i ∉ settledQueries h
  shownOnce : (shownLinesOf h).Nodup
  shownSeen : ∀ k ∈ shownLinesOf h, k.2.1 ≤ b.generation k.1
  ahead : ∀ g ∈ b.groups, (g.buffer, g.generation, g.line) ∉ shownLinesOf h

theorem ledger_empty : Ledger {} [] := by
  have ht : Tracks (lastPass? []) (Answered []) {} := tracks_empty
  exact ⟨ht, List.nodup_nil, nofun, nofun, List.nodup_nil, nofun, nofun⟩

/-- The part of the history that a new pass makes shows nothing and settles nothing. -/
theorem began_startPass (b : Board) (buffer : Text) (mentions : List Mention) :
    let now := .began buffer (b.startPass buffer mentions).1 mentions ::
      Session.commitsIn (b.startPass buffer mentions).1 (b.startPass buffer mentions).2.2
    settledQueries now = [] ∧ shownLinesOf now = [] := by
  refine ⟨settledQueries_commitsIn _ _, List.filterMap_eq_nil_iff.mpr fun x hx => ?_⟩
  rcases List.mem_cons.mp hx with rfl | hx
  · rfl
  · obtain ⟨y, hy, he⟩ := List.mem_filterMap.mp hx
    rw [startPass_eq] at hy
    simp only [List.mem_append, List.mem_map, List.mem_singleton] at hy
    rcases hy with (⟨line, -, rfl⟩ | ⟨g, -, rfl⟩) | rfl
    · cases he
      rfl
    · cases he
    · cases he

theorem Ledger.startPass (hb : b.Ledger h) (buffer : Text) (mentions : List Mention) :
    (b.startPass buffer mentions).2.1.Ledger
      (h ++ .began buffer (b.startPass buffer mentions).1 mentions ::
        Session.commitsIn (b.startPass buffer mentions).1 (b.startPass buffer mentions).2.2) := by
  obtain ⟨hsettled, hshown⟩ := began_startPass b buffer mentions
  have hnew {g : Group} (hg : g ∈ b.opened buffer mentions) := isNew_of_mem hg
  have hgroups :
      (b.startPass buffer mentions).2.1.groups = b.groups ++ b.opened buffer mentions := by
    rw [startPass_eq]
  have hlater (x : Text) : b.generation x ≤ (b.startPass buffer mentions).2.1.generation x := by
    rw [generation_startPass]
    by_cases hx : x = buffer
    · rw [if_pos hx, hx]
      exact Nat.le_succ _
    · rw [if_neg hx]
  have hgen {g : Group} (hg : g ∈ b.opened buffer mentions) :
      g.generation = b.generation g.buffer + 1 := by
    rw [(hnew hg).generation, (hnew hg).buffer, generation_eq_sheetFor]
  refine ⟨?_, ?_, fun q hq => ?_, fun g hg i m hi hq => ?_, ?_, fun k hk => ?_, fun g hg hk => ?_⟩
  · rw [lastPass?_append_began h (passless_commitsIn _ _)]
    exact (hb.tracks.startPass buffer mentions).mono fun q a hq => hq.append _
  · rw [settledQueries_append, hsettled, List.append_nil]
    exact hb.once
  · rw [settledQueries_append, hsettled, List.append_nil] at hq
    exact (hb.seen q hq).trans (hlater q.buffer)
  · rw [settledQueries_append, hsettled, List.append_nil] at hq
    rw [hgroups] at hg
    rcases List.mem_append.mp hg with hg | hg
    · exact hb.fresh g hg i m hi hq
    · have hle : g.generation ≤ b.generation g.buffer := hb.seen _ hq
      rw [hgen hg] at hle
      omega
  · rw [shownLinesOf_append, hshown, List.append_nil]
    exact hb.shownOnce
  · rw [shownLinesOf_append, hshown, List.append_nil] at hk
    exact (hb.shownSeen k hk).trans (hlater k.1)
  · rw [shownLinesOf_append, hshown, List.append_nil] at hk
    rw [hgroups] at hg
    rcases List.mem_append.mp hg with hg | hg
    · exact hb.ahead g hg hk
    · have hle := hb.shownSeen _ hk
      simp only [hgen hg] at hle
      omega

theorem Ledger.setGroup (hb : b.Ledger h) (hg : g ∈ b.groups) (hs : g.Same g')
    (ht : (b.setGroup g').Tracks (lastPass? h) (Answered h))
    (hf : ∀ (i : Nat) (m : Mention), g'.slots[i]? = some (m, .fresh) →
      g.slots[i]? = some (m, .fresh)) :
    (b.setGroup g').Ledger h := by
  refine ⟨ht, hb.once, hb.seen, fun g₀ hg₀ i m hi => ?_, hb.shownOnce, hb.shownSeen,
    fun g₀ hg₀ => ?_⟩
  · rcases mem_setGroup.mp hg₀ with ⟨hg₀, -⟩ | ⟨rfl, -⟩
    · exact hb.fresh g₀ hg₀ i m hi
    · have hq : g₀.query i = g.query i := by
        rw [Group.query, hs.buffer_eq, hs.generation_eq, hs.line_eq, Group.query]
      rw [hq]
      exact hb.fresh g hg i m (hf i m hi)
  · rcases mem_setGroup.mp hg₀ with ⟨hg₀, -⟩ | ⟨rfl, -⟩
    · exact hb.ahead g₀ hg₀
    · rw [hs.buffer_eq, hs.generation_eq, hs.line_eq]
      exact hb.ahead g hg

theorem Ledger.slotTurn (hb : b.Ledger h) (id slot : Nat) : (b.slotTurn id slot).1.Ledger h := by
  have ht := hb.tracks.slotTurn id slot
  rcases slotTurn_cases hb.tracks.steady id slot with ⟨he, -⟩ | ⟨g, m, hg, hs, he⟩
  · rw [he]
    exact hb
  · rw [he] at ht ⊢
    refine hb.setGroup (mem_of_group? hg).1 (.setSlot g slot .asking) ht fun i m' hi => ?_
    rw [getElem?_setSlot] at hi
    by_cases hslot : i = slot
    · simp [hslot, hs] at hi
    · rwa [if_neg hslot] at hi

theorem Ledger.answer (hb : b.Ledger h) (id slot : Nat) {outcome : Outcome}
    (ho : outcome ≠ .stopped)
    (ha : ∀ g, b.group? id = some g → .settled (g.query slot) outcome ∈ h) :
    (b.answer id slot outcome).1.Ledger h := by
  have ht := hb.tracks.answer id slot ho fun g m hg _ => ⟨outcome, ha g hg, rfl⟩
  rcases answer_cases hb.tracks.steady id slot ho with ⟨he, -⟩ | ⟨g, m, notes, hg, hs, -, he⟩
  · rw [he]
    exact hb
  · rw [he] at ht ⊢
    refine hb.setGroup (mem_of_group? hg).1 (.filled g slot _) ht fun i m' hi => ?_
    rw [filled_slots, getElem?_setSlot] at hi
    by_cases hslot : i = slot
    · simp [hslot, hs] at hi
    · rwa [if_neg hslot] at hi

/-- What the turn of a group shows: its line, at most, and only in the course of its pass. -/
theorem shownLinesOf_groupTurn (hb : b.Steady) (hg : b.group? id = some g) :
    shownLinesOf (Session.commitsIn g.generation (b.groupTurn id).2) = [] ∨
      shownLinesOf (Session.commitsIn g.generation (b.groupTurn id).2) =
          [(g.buffer, g.generation, g.line)] ∧
        g.generation = b.generation g.buffer ∧ ∀ g' ∈ (b.groupTurn id).1.groups, g'.id ≠ id := by
  rcases groupTurn_cases hb id with ⟨he, -⟩ | ⟨g', hg', -, he⟩ | ⟨g', hg', -, he⟩
  · rw [he]
    exact .inl rfl
  · rw [he]
    refine .inl (List.filterMap_eq_nil_iff.mpr fun x hx => ?_)
    obtain ⟨y, hy, hc⟩ := List.mem_filterMap.mp hx
    obtain ⟨i, -, rfl⟩ := List.mem_map.mp hy
    cases hc
  · rw [hg] at hg'
    obtain rfl := Option.some.inj hg'
    rw [he]
    rcases commitGroup_cases b g with ⟨s, hs, hgen, hc⟩ | ⟨-, hc⟩
    · rw [hc]
      by_cases hempty : g.annotations = []
      · refine .inl ?_
        simp [shownLinesOf, Session.commitsIn, Happening.shownFor?, hempty]
      · refine .inr ⟨?_, ?_, fun g' hg' => (mem_dropGroup.mp hg').2⟩
        · simp [shownLinesOf, Session.commitsIn, Happening.shownFor?, hempty]
        · simp [generation, hs, hgen]
    · rw [hc]
      exact .inl rfl

theorem Ledger.groupTurn (hb : b.Ledger h) (hg : b.group? id = some g) :
    (b.groupTurn id).1.Ledger (h ++ Session.commitsIn g.generation (b.groupTurn id).2) := by
  have hst := hb.tracks.steady
  have hsame (g' : Group) (hg' : g' ∈ (b.groupTurn id).1.groups) :
      ∃ g₀ ∈ b.groups, g₀.Same g' ∧ g₀.slots = g'.slots := by
    rcases groupTurn_cases hst id with ⟨he, -⟩ | ⟨g₀, hg₀, -, he⟩ | ⟨g₀, -, -, he⟩
    · rw [he] at hg'
      exact ⟨g', hg', ⟨rfl, rfl, rfl, rfl⟩, rfl⟩
    · rw [he] at hg'
      rcases mem_setGroup.mp hg' with ⟨hg', -⟩ | ⟨rfl, -⟩
      · exact ⟨g', hg', ⟨rfl, rfl, rfl, rfl⟩, rfl⟩
      · exact ⟨g₀, (mem_of_group? hg₀).1, ⟨rfl, rfl, rfl, rfl⟩, rfl⟩
    · rw [he, mem_dropGroup, (commitGroup_groups b g₀).1] at hg'
      exact ⟨g', hg'.1, ⟨rfl, rfl, rfl, rfl⟩, rfl⟩
  have hgen := generation_groupTurn hst id
  have hsettled : settledQueries (h ++ Session.commitsIn g.generation (b.groupTurn id).2) =
      settledQueries h := by
    rw [settledQueries_append, settledQueries_commitsIn, List.append_nil]
  have ht := hb.tracks.groupTurn id
  refine ⟨?_, ?_, fun q hq => ?_, fun g' hg' i m hi => ?_, ?_, fun k hk => ?_, fun g' hg' hk => ?_⟩
  · rw [lastPass?_append_of_passless h (passless_commitsIn _ _)]
    exact ht.mono fun q a hq => hq.append _
  · rw [hsettled]
    exact hb.once
  · rw [hsettled] at hq
    rw [hgen]
    exact hb.seen q hq
  · rw [hsettled]
    obtain ⟨g₀, hg₀, hs, hslots⟩ := hsame g' hg'
    have hq : g'.query i = g₀.query i := by
      rw [Group.query, hs.buffer_eq, hs.generation_eq, hs.line_eq, Group.query]
    rw [hq]
    exact hb.fresh g₀ hg₀ i m (hslots ▸ hi)
  · rw [shownLinesOf_append]
    rcases shownLinesOf_groupTurn hst hg with he | ⟨he, -, -⟩
    · rw [he, List.append_nil]
      exact hb.shownOnce
    · rw [he]
      refine hb.shownOnce.append (List.nodup_singleton _) ?_
      rw [List.disjoint_singleton]
      exact hb.ahead g (mem_of_group? hg).1
  · rw [hgen]
    rw [shownLinesOf_append] at hk
    rcases List.mem_append.mp hk with hk | hk
    · exact hb.shownSeen k hk
    · rcases shownLinesOf_groupTurn hst hg with he | ⟨he, hcur, -⟩
      · rw [he] at hk
        cases hk
      · rw [he] at hk
        obtain rfl := List.mem_singleton.mp hk
        exact hcur.le
  · obtain ⟨g₀, hg₀, hs, -⟩ := hsame g' hg'
    rw [hs.buffer_eq, hs.generation_eq, hs.line_eq, shownLinesOf_append] at hk
    rcases List.mem_append.mp hk with hk | hk
    · exact hb.ahead g₀ hg₀ hk
    · rcases shownLinesOf_groupTurn hst hg with he | ⟨he, -, hgone⟩
      · rw [he] at hk
        cases hk
      · rw [he, List.mem_singleton, Prod.mk.injEq, Prod.mk.injEq] at hk
        obtain ⟨hm, hid⟩ := mem_of_group? hg
        have hsame : g₀ = g := (query_inj hb.tracks hg₀ hm (i := 0) (j := 0) (by
          simp [Group.query, hk])).1
        exact hgone g' hg' (hs.id.trans (hsame ▸ hid))

/-- Lookups that have not been settled are settled. -/
theorem Ledger.settle (hb : b.Ledger h) {qs : List Query} (hnd : qs.Nodup)
    (hn : ∀ q ∈ qs, q ∉ settledQueries h) (hseen : ∀ q ∈ qs, q.generation ≤ b.generation q.buffer)
    (hf : ∀ g ∈ b.groups, ∀ i m, g.slots[i]? = some (m, .fresh) → g.query i ∉ qs)
    (outcome : Outcome) : b.Ledger (h ++ qs.map (Happening.settled · outcome)) := by
  have hsettled : settledQueries (qs.map (Happening.settled · outcome)) = qs := by
    rw [settledQueries, List.filterMap_map]
    exact List.filterMap_some
  have hshown : shownLinesOf (qs.map (Happening.settled · outcome)) = [] := by
    rw [shownLinesOf, List.filterMap_map]
    exact List.filterMap_eq_nil_iff.mpr fun _ _ => rfl
  have hpass : Passless (qs.map (Happening.settled · outcome)) := by simp [Passless]
  refine ⟨?_, ?_, fun q hq => ?_, fun g hg i m hi hq => ?_, ?_, fun k hk => ?_, fun g hg => ?_⟩
  · rw [lastPass?_append_of_passless h hpass]
    exact hb.tracks.mono fun q a hq => hq.append _
  · rw [settledQueries_append, hsettled]
    exact hb.once.append hnd fun q hq hq' => hn q hq' hq
  · rw [settledQueries_append, hsettled] at hq
    exact (List.mem_append.mp hq).elim (hb.seen q) (hseen q)
  · rw [settledQueries_append, hsettled] at hq
    exact (List.mem_append.mp hq).elim (hb.fresh g hg i m hi) (hf g hg i m hi)
  · rw [shownLinesOf_append, hshown, List.append_nil]
    exact hb.shownOnce
  · rw [shownLinesOf_append, hshown, List.append_nil] at hk
    exact hb.shownSeen k hk
  · rw [shownLinesOf_append, hshown, List.append_nil]
    exact hb.ahead g hg

end CommitMessage.Board
