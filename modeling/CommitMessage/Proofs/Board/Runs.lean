import CommitMessage.Proofs.Board.Turns

/-! The invariant of a session in which no buffer is given up. A lookup that waits belongs to a
slot that asks; an answer on its way has been settled; everything else the board still needs is a
job. -/

namespace CommitMessage.Board.Session

variable {s s' : Session} {h more : List Happening}

structure Sound (s : Session) (h : List Happening) : Prop where
  ledger : s.board.Ledger h
  attended : s.board.Attended s.due
  known : ∀ r, s.known r ≠ some .stopped
  callers : s.callers = []
  lookup : ∀ l ∈ s.lookups, ∃ g m, s.board.group? l.1 = some g ∧
    g.slots[l.2.1]? = some (m, .asking) ∧ m.reference = l.2.2 ∧
    g.query l.2.1 ∉ settledQueries h
  lookupOnce : (s.lookups.map fun l => (l.1, l.2.1)).Nodup
  answer : ∀ id slot outcome, .answer id slot outcome ∈ s.jobs → outcome ≠ .stopped ∧
    id < s.board.nextGroup ∧
    ∀ g, s.board.group? id = some g → .settled (g.query slot) outcome ∈ h

theorem sound_start (sink : Sink) : Sound { sink } [] :=
  ⟨ledger_empty, nofun, nofun, rfl, nofun, List.nodup_nil, nofun⟩

theorem Sound.lookup_of_moves {gone : Nat → Nat → Prop} {b' : Board} (hs : s.Sound h)
    (more : List Happening) (hm : s.board.Moves gone b') (hst : b'.Steady)
    (hgone : ∀ l ∈ s.lookups, ¬ gone l.1 l.2.1)
    (hmore : ∀ l ∈ s.lookups, ∀ g, s.board.group? l.1 = some g →
      g.query l.2.1 ∉ settledQueries more) :
    ∀ l ∈ s.lookups, ∃ g m, b'.group? l.1 = some g ∧ g.slots[l.2.1]? = some (m, .asking) ∧
      m.reference = l.2.2 ∧ g.query l.2.1 ∉ settledQueries (h ++ more) := by
  intro l hl
  obtain ⟨g, m, hg, hi, hr, hq⟩ := hs.lookup l hl
  obtain ⟨hmem, hid⟩ := mem_of_group? hg
  rcases hm.asking g hmem _ m hi with hgo | ⟨g', hg', hsame, hi'⟩
  · exact absurd (hid ▸ hgo) (hgone l hl)
  · refine ⟨g', m, (hsame.id.trans hid) ▸ hst.group?_of_mem hg', hi', hr, ?_⟩
    rw [hsame.query_eq, settledQueries_append, List.mem_append, not_or]
    exact ⟨hq, hmore l hl g hg⟩

theorem Sound.answer_of_moves {gone : Nat → Nat → Prop} {b' : Board} (hs : s.Sound h)
    (hm : s.board.Moves gone b') (more : List Happening) :
    ∀ id slot o, .answer id slot o ∈ s.jobs → o ≠ .stopped ∧ id < b'.nextGroup ∧
      ∀ g, b'.group? id = some g → .settled (g.query slot) o ∈ h ++ more := by
  intro id slot o hj
  obtain ⟨ho, hlt, hg⟩ := hs.answer id slot o hj
  refine ⟨ho, hlt.trans_le hm.nextGroup_le, fun g' hg' => ?_⟩
  obtain ⟨hmem, hid⟩ := mem_of_group? hg'
  obtain ⟨g, hold, hsame⟩ := hm.old g' hmem (hid ▸ hlt)
  have hq := hg g ((hsame.id.symm.trans hid) ▸ hs.ledger.tracks.steady.group?_of_mem hold)
  rw [hsame.query_eq]
  exact List.mem_append_left _ hq

/-- A board that moves on while lookups wait, and no answer is added to the jobs. -/
theorem Sound.move (hs : s.Sound h) (gone : Nat → Nat → Prop) (hknown : s'.known = s.known)
    (hcallers : s'.callers = s.callers) (hlookups : s'.lookups = s.lookups)
    (hjobs : ∀ id slot o, .answer id slot o ∈ s'.jobs → .answer id slot o ∈ s.jobs)
    (hm : s.board.Moves gone s'.board) (hgone : ∀ l ∈ s.lookups, ¬ gone l.1 l.2.1)
    (hledger : s'.board.Ledger (h ++ more)) (hatt : s'.board.Attended s'.due)
    (hmore : ∀ l ∈ s.lookups, ∀ g, s.board.group? l.1 = some g →
      g.query l.2.1 ∉ settledQueries more) : s'.Sound (h ++ more) :=
  ⟨hledger, hatt, hknown ▸ hs.known, hcallers.trans hs.callers,
    hlookups ▸ hs.lookup_of_moves more hm hledger.tracks.steady hgone hmore,
    hlookups ▸ hs.lookupOnce,
    fun id slot o hj => hs.answer_of_moves hm more id slot o (hjobs id slot o hj)⟩

theorem mem_job_of_answer {signals : List Signal} {id slot : Nat} {o : Outcome} {jobs : List Job}
    (hj : .answer id slot o ∈ jobs ++ signals.filterMap Signal.job?) :
    .answer id slot o ∈ jobs := by
  refine (List.mem_append.mp hj).resolve_right fun hj => ?_
  obtain ⟨x, -, he⟩ := List.mem_filterMap.mp hj
  cases x <;> cases he

/-- A board that moves on by itself, with signals that neither ask nor withdraw. -/
theorem Sound.apply (hs : s.Sound h) (gone : Nat → Nat → Prop) (jobs : List Job)
    (record : List Entry) {change : Board × List Signal} (hquiet : ∀ x ∈ change.2, x.IsQuiet)
    (hsub : ∀ job ∈ jobs, job ∈ s.jobs) (hm : s.board.Moves gone change.1)
    (hgone : ∀ l ∈ s.lookups, ¬ gone l.1 l.2.1) (hledger : change.1.Ledger (h ++ more))
    (hatt : change.1.Attended fun w => due { s with jobs } w ∨ w ∈ wakes change.2)
    (hmore : ∀ l ∈ s.lookups, ∀ g, s.board.group? l.1 = some g →
      g.query l.2.1 ∉ settledQueries more) :
    (Session.apply { s with jobs, record } change).Sound (h ++ more) := by
  obtain ⟨record', he⟩ := apply_eq { s with jobs, record } change hquiet
  rw [he]
  refine hs.move gone rfl rfl rfl (fun id slot o hj => ?_) hm hgone hledger ?_ hmore
  · exact hsub _ (mem_job_of_answer hj)
  · refine hatt.mono fun w hw => hw.elim (fun hd => ?_) fun hw => ?_
    · cases w with
      | group id => exact List.mem_append_left _ hd
      | slot id slot => exact List.mem_append_left _ hd
      | answer id slot => exact hd.imp_right fun ⟨o, ho⟩ => ⟨o, List.mem_append_left _ ho⟩
    · exact due_of_wakes (s := { s with board := change.1, record := record' }) hquiet
        (fun job hj => List.mem_append_right _ hj) hw

theorem Sound.startPass (hs : s.Sound h) (buffer : Text) (mentions : List Mention) :
    (s.step (.startPass buffer mentions)).Sound
      (h ++ s.happenings (.startPass buffer mentions)) := by
  obtain ⟨hsettled, -⟩ := began_startPass s.board buffer mentions
  refine hs.apply _ s.jobs s.record (isQuiet_startPass s.board buffer mentions) (fun _ hj => hj)
    (moves_startPass s.board buffer mentions) (fun _ _ hn => hn)
    (hs.ledger.startPass buffer mentions) (hs.attended.startPass buffer mentions)
    fun l hl g hg => ?_
  have hempty : settledQueries (s.happenings (.startPass buffer mentions)) = [] := hsettled
  rw [hempty]
  exact List.not_mem_nil

/-! Lookups are settled -/

/-- The lookups that are settled together. -/
def chosen (s : Session) (p : Nat × Nat × Reference → Bool) : List Query :=
  (s.lookups.filter p).filterMap fun l => s.query? l.1 l.2.1

theorem settlements_eq (s : Session) (p : Nat × Nat × Reference → Bool) (o : Outcome) :
    s.settlements p o = (s.chosen p).map (Happening.settled · o) := by
  rw [settlements, chosen, List.map_filterMap]

theorem mem_chosen {p : Nat × Nat × Reference → Bool} {q : Query} :
    q ∈ s.chosen p ↔
      ∃ l ∈ s.lookups, p l = true ∧ ∃ g, s.board.group? l.1 = some g ∧ g.query l.2.1 = q := by
  simp only [chosen, List.mem_filterMap, List.mem_filter, query?, Option.map_eq_some_iff, and_assoc]

theorem eq_of_query?_eq (hs : s.Sound h) (l l' : Nat × Nat × Reference) {q : Query}
    (hq : s.query? l.1 l.2.1 = some q) (hq' : s.query? l'.1 l'.2.1 = some q) :
    (l.1, l.2.1) = (l'.1, l'.2.1) := by
  obtain ⟨g, hg, rfl⟩ := Option.map_eq_some_iff.mp hq
  obtain ⟨g', hg', he⟩ := Option.map_eq_some_iff.mp hq'
  obtain ⟨hm, hid⟩ := mem_of_group? hg
  obtain ⟨hm', hid'⟩ := mem_of_group? hg'
  obtain ⟨rfl, hplace⟩ := query_inj hs.ledger.tracks hm' hm he
  rw [Prod.mk.injEq]
  exact ⟨hid.symm.trans hid', hplace.symm⟩

theorem nodup_chosen (hs : s.Sound h) (p : Nat × Nat × Reference → Bool) :
    (s.chosen p).Nodup := by
  have hnd := (List.pairwise_map.mp hs.lookupOnce).filter p
  refine List.pairwise_filterMap.mpr (hnd.imp fun hne q hq q' hq' he => hne ?_)
  exact eq_of_query?_eq hs _ _ hq (he ▸ hq')

theorem Sound.settleWhere (hs : s.Sound h) (p : Nat × Nat × Reference → Bool) {o : Outcome}
    (ho : o ≠ .stopped) : (s.settleWhere p o).Sound (h ++ s.settlements p o) := by
  have hsettled (q : Query) : q ∈ settledQueries (h ++ s.settlements p o) →
      q ∈ settledQueries h ∨ q ∈ s.chosen p := by
    rw [settledQueries_append, List.mem_append]
    refine Or.imp_right fun hq => ?_
    obtain ⟨o', hq⟩ := mem_settledQueries.mp hq
    rw [settlements_eq] at hq
    obtain ⟨q', hq', he⟩ := List.mem_map.mp hq
    cases he
    exact hq'
  have hledger : s.board.Ledger (h ++ s.settlements p o) := by
    rw [settlements_eq]
    refine hs.ledger.settle (nodup_chosen hs p) (fun q hq => ?_) (fun q hq => ?_)
      (fun g hg i m hi hq => ?_) o
    · obtain ⟨l, hl, -, g, hg, rfl⟩ := mem_chosen.mp hq
      obtain ⟨g', m, hg', -, -, hn⟩ := hs.lookup l hl
      rw [hg] at hg'
      cases hg'
      exact hn
    · obtain ⟨l, hl, -, g, hg, rfl⟩ := mem_chosen.mp hq
      have hle := hs.ledger.tracks.generation_le (mem_of_group? hg).1
      rwa [← generation_eq_sheetFor] at hle
    · obtain ⟨l, hl, -, g', hg', he⟩ := mem_chosen.mp hq
      obtain ⟨rfl, hplace⟩ := query_inj hs.ledger.tracks (mem_of_group? hg').1 hg he
      obtain ⟨g'', m', hg'', hi', -⟩ := hs.lookup l hl
      rw [hg'] at hg''
      cases hg''
      rw [hplace, hi] at hi'
      cases hi'
  refine ⟨hledger, ?_, hs.known, hs.callers, fun l hl => ?_, ?_, fun id slot o' hj => ?_⟩
  · refine hs.attended.mono fun w hw => ?_
    cases w with
    | group id => exact List.mem_append_left _ hw
    | slot id slot => exact List.mem_append_left _ hw
    | answer id slot =>
      rcases hw with ⟨r, hl⟩ | ⟨o', hj⟩
      · by_cases hp : p (id, slot, r) = true
        · refine .inr ⟨o, List.mem_append_right _ (List.mem_map.mpr ⟨(id, slot, r), ?_, rfl⟩)⟩
          exact List.mem_filter.mpr ⟨hl, hp⟩
        · exact .inl ⟨r, List.mem_filter.mpr ⟨hl, by simpa using hp⟩⟩
      · exact .inr ⟨o', List.mem_append_left _ hj⟩
  · obtain ⟨hl, hp⟩ := List.mem_filter.mp hl
    obtain ⟨g, m, hg, hi, hr, hn⟩ := hs.lookup l hl
    refine ⟨g, m, hg, hi, hr, fun hq => (hsettled _ hq).elim hn fun hq => ?_⟩
    obtain ⟨l', hl', hp', hg'⟩ := mem_chosen.mp hq
    have hkey := eq_of_query?_eq hs l l' (q := g.query l.2.1)
      (Option.map_eq_some_iff.mpr ⟨g, hg, rfl⟩) (Option.map_eq_some_iff.mpr hg')
    rw [List.inj_on_of_nodup_map hs.lookupOnce hl hl' hkey, hp'] at hp
    cases hp
  · exact hs.lookupOnce.sublist (List.filter_sublist.map _)
  · rcases List.mem_append.mp hj with hj | hj
    · obtain ⟨ho', hlt, hg⟩ := hs.answer id slot o' hj
      exact ⟨ho', hlt, fun g hg' => List.mem_append_left _ (hg g hg')⟩
    · obtain ⟨l, hl, he⟩ := List.mem_map.mp hj
      cases he
      obtain ⟨hl, hp⟩ := List.mem_filter.mp hl
      obtain ⟨g, m, hg, -⟩ := hs.lookup l hl
      obtain ⟨hm, hid⟩ := mem_of_group? hg
      refine ⟨ho, hid ▸ hs.ledger.tracks.steady.id_lt g hm, fun g' hg' => ?_⟩
      rw [settlements_eq]
      refine List.mem_append_right _ (List.mem_map.mpr ⟨_, mem_chosen.mpr ⟨l, hl, hp, ?_⟩, rfl⟩)
      exact ⟨g', hg', rfl⟩

/-! Jobs -/

def wake? : Job → Option Wake
  | .group id => some (.group id)
  | .slot group slot => some (.slot group slot)
  | .answer group slot _ => some (.answer group slot)
  | .caller _ => none

variable {job : Job} {rest : List Job}

theorem due_of_cons (hj : s.jobs = job :: rest) {w : Wake} (hw : s.due w) :
    due { s with jobs := rest } w ∨ wake? job = some w := by
  cases w with
  | group id =>
    simp only [due, hj, List.mem_cons] at hw
    exact hw.symm.imp_right fun he => by rw [← he]; rfl
  | slot id slot =>
    simp only [due, hj, List.mem_cons] at hw
    exact hw.symm.imp_right fun he => by rw [← he]; rfl
  | answer id slot =>
    rcases hw with hl | ⟨o, ho⟩
    · exact .inl (.inl hl)
    · rw [hj] at ho
      rcases List.mem_cons.mp ho with rfl | ho
      · exact .inr rfl
      · exact .inl (.inr ⟨o, ho⟩)

theorem Sound.attended_cons (hs : s.Sound h) (hj : s.jobs = job :: rest) {w : Wake}
    (hw : wake? job = some w) :
    s.board.Attended fun w' => due { s with jobs := rest } w' ∨ w' = w := by
  refine hs.attended.mono fun w' hw' => (due_of_cons hj hw').imp_right fun he => ?_
  rw [hw] at he
  exact (Option.some.inj he).symm

theorem mem_jobs_of_rest (hj : s.jobs = job :: rest) : ∀ job' ∈ rest, job' ∈ s.jobs :=
  fun _ hm => hj ▸ List.mem_cons_of_mem _ hm

theorem Sound.groupJob (hs : s.Sound h) {id : Nat} (hj : s.jobs = .group id :: rest) :
    (perform { s with jobs := rest } (.group id)).Sound (h ++ s.happeningsOf (.group id)) := by
  have hst := hs.ledger.tracks.steady
  have hledger : (s.board.groupTurn id).1.Ledger (h ++ s.happeningsOf (.group id)) := by
    cases hg : s.board.group? id with
    | none =>
      have he : s.board.groupTurn id = (s.board, []) := by simp [groupTurn, hg]
      simp only [happeningsOf, hg, he, List.append_nil]
      exact hs.ledger
    | some g =>
      simp only [happeningsOf, hg]
      exact hs.ledger.groupTurn hg
  refine hs.apply _ rest s.record (isQuiet_groupTurn _ id) (mem_jobs_of_rest hj)
    (moves_groupTurn hst id) (fun _ _ hn => hn) hledger
    (.groupTurn hst (hs.attended_cons hj rfl)) fun l _ g _ hq => ?_
  have hempty : settledQueries (s.happeningsOf (.group id)) = [] := by
    cases hg : s.board.group? id with
    | none =>
      simp only [happeningsOf, hg]
      rfl
    | some g =>
      simp only [happeningsOf, hg]
      exact settledQueries_commitsIn _ _
  rw [hempty] at hq
  cases hq

theorem Sound.answerJob (hs : s.Sound h) {id slot : Nat} {o : Outcome}
    (hj : s.jobs = .answer id slot o :: rest) :
    (perform { s with jobs := rest } (.answer id slot o)).Sound h := by
  have hst := hs.ledger.tracks.steady
  obtain ⟨ho, hlt, hg⟩ := hs.answer id slot o (hj ▸ List.mem_cons_self)
  rw [← List.append_nil h]
  refine hs.apply _ rest s.record (isQuiet_answer _ id slot _) (mem_jobs_of_rest hj)
    (moves_answer hst id slot ho) (fun l hl hgone => ?_) ?_
    (.answer hst ho (hs.attended_cons hj rfl)) fun _ _ _ _ => List.not_mem_nil
  · obtain ⟨g, m, hg', -, -, hn⟩ := hs.lookup l hl
    rw [hgone.1] at hg'
    rw [hgone.2] at hn
    exact hn (mem_settledQueries.mpr ⟨o, hg g hg'⟩)
  · rw [List.append_nil]
    exact hs.ledger.answer id slot ho hg

theorem Sound.not_mem_lookups (hs : s.Sound h) {g : Group} {id slot : Nat} {m : Mention}
    (hg : s.board.group? id = some g) (hi : g.slots[slot]? = some (m, .fresh)) :
    (id, slot) ∉ s.lookups.map fun l => (l.1, l.2.1) := by
  intro hl
  obtain ⟨l, hl, he⟩ := List.mem_map.mp hl
  obtain ⟨g', m', hg', hi', -⟩ := hs.lookup l hl
  cases he
  rw [hg] at hg'
  cases hg'
  rw [hi] at hi'
  cases hi'

theorem Sound.ask (hs : s.Sound h) {g : Group} {id slot : Nat} {m : Mention} {b' : Board}
    {pass : Text} (hj : s.jobs = .slot id slot :: rest) (hg : s.board.group? id = some g)
    (hi : g.slots[slot]? = some (m, .fresh))
    (he : s.board.slotTurn id slot = (b', [.ask id slot pass m.reference]))
    (hg' : b'.group? id = some (g.setSlot slot .asking)) :
    (signal { s with board := b', jobs := rest } (.ask id slot pass m.reference)).Sound h := by
  have hst := hs.ledger.tracks.steady
  have hledger := hs.ledger.slotTurn id slot
  have hatt := Attended.slotTurn hst (hs.attended_cons hj rfl)
  have hm := moves_slotTurn hst id slot
  have hq := hs.ledger.fresh g (mem_of_group? hg).1 slot m hi
  rw [he] at hledger hatt hm
  have hlookup := hs.lookup_of_moves [] hm hledger.tracks.steady (fun _ _ hn => hn)
    fun _ _ _ _ => List.not_mem_nil
  rw [List.append_nil] at hlookup
  refine ⟨hledger, hatt.mono fun w hw => ?_, hs.known, hs.callers, fun l hl => ?_, ?_,
    fun id' slot' o ho => ?_⟩
  · rcases hw with hw | hw
    · cases w with
      | group id => exact hw
      | slot id slot => exact hw
      | answer id slot => exact hw.imp_left fun ⟨r, hr⟩ => ⟨r, List.mem_append_left _ hr⟩
    · obtain rfl := List.mem_singleton.mp hw
      exact .inl ⟨m.reference, List.mem_append_right _ List.mem_cons_self⟩
  · rcases List.mem_append.mp hl with hl | hl
    · exact hlookup l hl
    · obtain rfl := List.mem_singleton.mp hl
      refine ⟨_, m, hg', ?_, rfl, hq⟩
      simp [getElem?_setSlot, hi]
  · have hnew := hs.not_mem_lookups hg hi
    rw [signal, Session.note, List.map_append]
    exact hs.lookupOnce.append (List.nodup_singleton _) (List.disjoint_singleton.mpr hnew)
  · have ha := hs.answer_of_moves hm [] id' slot' o (mem_jobs_of_rest hj _ ho)
    rwa [List.append_nil] at ha

theorem Sound.askKnown (hs : s.Sound h) {g : Group} {id slot : Nat} {m : Mention} {b' : Board}
    {pass : Text} {o : Outcome} (hj : s.jobs = .slot id slot :: rest)
    (hg : s.board.group? id = some g) (hi : g.slots[slot]? = some (m, .fresh))
    (he : s.board.slotTurn id slot = (b', [.ask id slot pass m.reference]))
    (hg' : b'.group? id = some (g.setSlot slot .asking)) (ho : o ≠ .stopped)
    (record : List Entry) :
    (Session.apply { s with board := b', jobs := rest, record } (b'.answer id slot o)).Sound
      (h ++ [.settled (g.query slot) o]) := by
  have hst := hs.ledger.tracks.steady
  have hledger := hs.ledger.slotTurn id slot
  have hatt := Attended.slotTurn hst (hs.attended_cons hj rfl)
  have hm := moves_slotTurn hst id slot
  have hmem := (mem_of_group? hg).1
  have hmem' := (mem_of_group? hg').1
  have hq := hs.ledger.fresh g hmem slot m hi
  have hasking : (g.setSlot slot .asking).slots[slot]? = some (m, .asking) := by
    simp [getElem?_setSlot, hi]
  rw [he] at hledger hatt hm
  have hst' := hledger.tracks.steady
  have hnew := hs.not_mem_lookups hg hi
  have hkey {l : Nat × Nat × Reference} (hl : l ∈ s.lookups) : ¬ (l.1 = id ∧ l.2.1 = slot) :=
    fun hh => hnew (List.mem_map.mpr ⟨l, hl, Prod.ext hh.1 hh.2⟩)
  have hseen : g.generation ≤ b'.generation g.buffer := by
    rw [generation_eq_sheetFor]
    have hle := hledger.tracks.generation_le hmem'
    exact hle
  have hsettled : b'.Ledger (h ++ [.settled (g.query slot) o]) := by
    refine hledger.settle (List.nodup_singleton (g.query slot)) ?_ ?_
      (fun g' hm' i m' hi' hq' => ?_) o
    · simpa using hq
    · exact List.forall_mem_singleton.mpr hseen
    · obtain ⟨rfl, rfl⟩ := query_inj hledger.tracks hm' hmem' (List.mem_singleton.mp hq')
      rw [hasking] at hi'
      cases hi'
  have hatt' : b'.Attended fun w => due { s with jobs := rest } w ∨ w = .answer id slot :=
    hatt.mono fun w hw => hw.imp_right List.mem_singleton.mp
  refine hs.apply _ rest record (isQuiet_answer _ id slot _) (mem_jobs_of_rest hj)
    (hm.trans (moves_answer hst' id slot ho)) (fun l hl hgone => ?_)
    (hsettled.answer id slot ho fun g' hg'' => ?_) (.answer hst' ho hatt')
    fun l hl g' hg'' hq' => ?_
  · exact hkey hl (hgone.resolve_left fun hn => hn)
  · rw [hg'] at hg''
    cases hg''
    exact List.mem_append_right _ List.mem_cons_self
  · obtain ⟨hm', hid⟩ := mem_of_group? hg''
    obtain ⟨rfl, hplace⟩ := query_inj hs.ledger.tracks hm' hmem (List.mem_singleton.mp hq')
    exact hkey hl ⟨hid.symm.trans (mem_of_group? hg).2, hplace⟩

theorem Sound.slotJob (hs : s.Sound h) {id slot : Nat} (hj : s.jobs = .slot id slot :: rest) :
    (perform { s with jobs := rest } (.slot id slot)).Sound
      (h ++ s.happeningsOf (.slot id slot)) := by
  have hst := hs.ledger.tracks.steady
  rcases slotTurn_cases hst id slot with ⟨he, -⟩ | ⟨g, m, hg, hi, he⟩
  · have hp : perform { s with jobs := rest } (.slot id slot) = { s with jobs := rest } := by
      simp only [perform, slotTurn, he, List.foldl_nil]
    have hh : s.happeningsOf (.slot id slot) = [] := by simp only [happeningsOf, he]
    have hatt := Attended.slotTurn hst (hs.attended_cons hj rfl)
    rw [he] at hatt
    rw [hp, hh]
    refine hs.move _ rfl rfl rfl (fun _ _ _ => mem_jobs_of_rest hj _) (.refl (fun _ _ => False) _)
      (fun _ _ hn => hn) ?_ ?_ fun _ _ _ _ => List.not_mem_nil
    · rw [List.append_nil]
      exact hs.ledger
    · exact hatt.mono fun w hw => hw.resolve_right List.not_mem_nil
  · have hst' := hst.slotTurn id slot
    rw [he] at hst'
    obtain ⟨hm, rfl⟩ := mem_of_group? hg
    have hg' : (s.board.setGroup (g.setSlot slot .asking)).group? g.id =
        some (g.setSlot slot .asking) :=
      hst'.group?_of_mem (mem_setGroup.mpr (.inr ⟨rfl, g, hm, rfl⟩))
    cases hk : s.known m.reference with
    | none =>
      have hh : s.happeningsOf (.slot g.id slot) = [] := by simp only [happeningsOf, he, hk]
      rw [hh, List.append_nil]
      have hp : perform { s with jobs := rest } (.slot g.id slot) =
          signal { s with board := s.board.setGroup (g.setSlot slot .asking), jobs := rest }
            (.ask g.id slot g.pass m.reference) := by
        simp only [perform, slotTurn, he, hk]
      rw [hp]
      exact hs.ask hj hg hi he hg'
    | some o =>
      have hh : s.happeningsOf (.slot g.id slot) = [.settled (g.query slot) o] := by
        simp only [happeningsOf, he, hk, query?, hg, Option.map_some]
      have hp : perform { s with jobs := rest } (.slot g.id slot) =
          Session.apply { s with
            board := s.board.setGroup (g.setSlot slot .asking)
            jobs := rest
            record := .asked m.reference :: s.record }
            ((s.board.setGroup (g.setSlot slot .asking)).answer g.id slot o) := by
        simp only [perform, slotTurn, he, hk]
        rfl
      rw [hh, hp]
      exact hs.askKnown hj hg hi he hg' (fun hstop => hs.known _ (hstop ▸ hk)) _

/-! Runs -/

theorem Sound.perform (hs : s.Sound h) (hj : s.jobs = job :: rest) :
    (perform { s with jobs := rest } job).Sound (h ++ s.happeningsOf job) := by
  cases job with
  | group id => exact hs.groupJob hj
  | slot id slot => exact hs.slotJob hj
  | answer id slot o =>
    simp only [happeningsOf, List.append_nil]
    exact hs.answerJob hj
  | caller id =>
    have hp : Session.perform { s with jobs := rest } (.caller id) = { s with jobs := rest } := by
      simp [Session.perform, hs.callers]
    rw [hp]
    refine hs.move _ rfl rfl rfl (fun _ _ _ => mem_jobs_of_rest hj _)
      (.refl (fun _ _ => False) _) (fun _ _ hn => hn) ?_ ?_ fun _ _ _ _ => List.not_mem_nil
    · simp only [happeningsOf, List.append_nil]
      exact hs.ledger
    · exact hs.attended.mono fun w hw => (due_of_cons hj hw).resolve_right fun he => by cases he

theorem Sound.work_eq (hs : s.Sound h) (hj : s.jobs = job :: rest) :
    s.work = Session.perform { s with jobs := rest } job := by
  simp only [Session.work, hj]
  exact callCallers_of_nil (hs.perform hj).callers

theorem Sound.work (hs : s.Sound h) : s.work.Sound (h ++ s.happenings .work) := by
  cases hj : s.jobs with
  | nil => simpa [Session.work, happenings, hj] using hs
  | cons job rest =>
    rw [hs.work_eq hj]
    simpa only [happenings, hj] using hs.perform hj

theorem Sound.step (hs : s.Sound h) {e : Event} (he : e.IsOrdinary) :
    (s.step e).Sound (h ++ s.happenings e) := by
  cases e with
  | startPass buffer mentions => exact hs.startPass buffer mentions
  | settle r o => exact hs.settleWhere _ he
  | settleOne id slot o => exact hs.settleWhere _ he
  | know known =>
    simp only [happenings, List.append_nil]
    exact ⟨hs.ledger, hs.attended, he, hs.callers, hs.lookup, hs.lookupOnce, hs.answer⟩
  | handTo sink =>
    simp only [happenings, List.append_nil]
    exact ⟨hs.ledger, hs.attended, hs.known, hs.callers, hs.lookup, hs.lookupOnce, hs.answer⟩
  | work => exact hs.work
  | detach buffer => exact he.elim
  | shutdown => exact he.elim
  | wait buffer => exact he.elim

theorem Sound.run {events : List Event} (hs : s.Sound h) (he : ∀ e ∈ events, e.IsOrdinary) :
    (s.run events).Sound (h ++ s.history events) := by
  induction events generalizing s h with
  | nil => simpa [Session.run, history] using hs
  | cons e events ih =>
    have hstep := hs.step (he e List.mem_cons_self)
    have hrest := ih hstep fun e' he' => he e' (List.mem_cons_of_mem _ he')
    rwa [List.append_assoc] at hrest

end CommitMessage.Board.Session
